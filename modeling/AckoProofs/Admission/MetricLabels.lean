/-
The labels a cluster adds to its metrics. The webhook accepts bare keys and values without control
characters, the exporter sidecar gets them as the body of a TOML inline table, and every accepted map
reads back from that text.
-/
import AckoProofs.Admission.Validate
import AckoProofs.Lib.Toml
import AckoProofs.Pod.Container

namespace Acko

/-! ## The checks of the webhook -/

/-- `^[A-Za-z0-9_-]+$`. -/
def tomlBareKeyRe (key : String) : Bool :=
  key ≠ "" && key.toList.all fun c => c.isAlphanum || c = '_' || c = '-'

/-- Keys and values that a TOML table can hold. -/
def validateMetricLabels (labels : StringMap) : List String :=
  (sortedLabelKeys labels).flatMap fun key =>
    (if tomlBareKeyRe key then [] else
      ["monitoring.metricLabels key " ++ quoted key ++
        " must contain only ASCII letters, digits, dashes, and underscores"]) ++
    if ((labels.lookup key).getD "").toList.any (fun r => r.toNat < 0x20 || r.toNat = 0x7f) then
      ["monitoring.metricLabels[" ++ quoted key ++ "] value must not contain control characters"]
    else []

/-! ## The text of the sidecar -/

def readLabels (value : String) : Option StringMap := (Toml.inlineTable value.toList).map Labels.toMap

def sortedEntries (labels : StringMap) : Labels :=
  (sortedLabelKeys labels).map fun key => (key, (labels.lookup key).getD "")

variable {labels : StringMap}

theorem toMap_sortedEntries (labels : StringMap) : (sortedEntries labels).toMap = labels := by
  refine Finmap.ext_lookup fun key => ?_
  rw [lookup_toMap, sortedEntries, sortedLabelKeys]
  by_cases hmem : key ∈ labels
  · obtain ⟨value, hvalue⟩ := Option.isSome_iff_exists.1 (Finmap.lookup_isSome.2 hmem)
    rw [List.lookup_graph _ ((Finset.mem_sort _).2 (Finmap.mem_keys.2 hmem)), hvalue, Option.getD_some]
  · rw [Finmap.lookup_eq_none.2 hmem, List.lookup_eq_none_iff]
    intro kv hkv
    obtain ⟨key', hkey', rfl⟩ := List.mem_map.1 hkv
    have hne : key ≠ key' := by
      rintro rfl
      exact hmem (Finmap.mem_keys.1 ((Finset.mem_sort _).1 hkey'))
    simp [hne]

/-- The second replacement leaves the backslashes of the first one. -/
theorem toList_escapeTOML (s : String) : (escapeTOML s).toList = Toml.escaped s.toList := by
  simp only [escapeTOML, replaceChar, String.toList_ofList, Toml.escaped, List.flatMap_assoc]
  refine List.flatMap_congr fun c _ => ?_
  by_cases hslash : c = '\\'
  · subst hslash
    rfl
  by_cases hquote : c = '"'
  · subst hquote
    rfl
  simp [hslash, hquote]

theorem printable_of_accepted (h : validateMetricLabels labels = []) :
    ∀ kv ∈ sortedEntries labels, Toml.Printable kv := by
  intro kv hkv
  obtain ⟨key, hkey, rfl⟩ := List.mem_map.1 hkv
  obtain ⟨hbare, hplain⟩ := List.append_eq_nil_iff.1 (List.flatMap_eq_nil_iff.1 h key hkey)
  have hbare : tomlBareKeyRe key = true := by
    by_contra hbad
    rw [if_neg hbad] at hbare
    cases hbare
  simp only [tomlBareKeyRe, Bool.and_eq_true, decide_eq_true_eq, List.all_eq_true] at hbare
  refine ⟨fun hnil => hbare.1 (String.toList_eq_nil_iff.1 hnil), hbare.2, fun c hc => ?_⟩
  have hany : ¬ ((labels.lookup key).getD "").toList.any Toml.isControl = true := by
    intro hbad
    unfold Toml.isControl at hbad
    rw [if_pos hbad] at hplain
    cases hplain
  exact Bool.eq_false_iff.2 fun hcontrol => hany (List.any_eq_true.2 ⟨c, hc, hcontrol⟩)

theorem escapeTOML_bareKey {key : String} (h : ∀ c ∈ key.toList, Toml.isBareKeyChar c = true) :
    escapeTOML key = key := by
  rw [← String.toList_inj, toList_escapeTOML, Toml.escaped]
  conv_rhs => rw [← List.flatMap_singleton' key.toList]
  refine List.flatMap_congr fun c hc => if_neg ?_
  rintro (rfl | rfl) <;> exact absurd (h _ hc) (by decide)

theorem toList_metricLabels (h : ∀ kv ∈ sortedEntries labels, Toml.Printable kv) :
    (", ".intercalate ((sortedLabelKeys labels).map fun key =>
      escapeTOML key ++ "=\"" ++ escapeTOML ((labels.lookup key).getD "") ++ "\"")).toList =
      [',', ' '].intercalate ((sortedEntries labels).map Toml.printed) := by
  rw [String.toList_intercalate, sortedEntries, List.map_map, List.map_map]
  refine congrArg _ (List.map_congr_left fun key hkey => ?_)
  have hkv := h _ (List.mem_map_of_mem hkey)
  simp only [Function.comp_apply, Toml.printed, String.toList_append, toList_escapeTOML ((labels.lookup key).getD ""),
    escapeTOML_bareKey hkv.bare]
  rfl

/-- Every accepted map of labels is what the exporter reads from the variable. -/
theorem metric_labels_survive (monitoring : AerospikeMonitoringSpec) (acl : Option AerospikeAccessControlSpec)
    (h : validateMetricLabels monitoring.metricLabels = []) :
    ∃ before value, (∀ v ∈ before, v.name ≠ "METRIC_LABELS") ∧
      (buildExporterSidecar monitoring acl).env =
        before ++ (if monitoring.metricLabels = ∅ then [] else [.text "METRIC_LABELS" value]) ++ monitoring.env ∧
      readLabels value = some monitoring.metricLabels := by
  have hprintable := printable_of_accepted h
  have hnodup : ((sortedEntries monitoring.metricLabels).map Prod.fst).Nodup := by
    rw [sortedEntries, List.map_map]
    exact (List.map_id _).symm ▸ Finset.sort_nodup _ _
  refine ⟨[.text "AS_HOST" "127.0.0.1", .text "AS_PORT" (toString servicePort)] ++ adminEnv acl, _, ?_, rfl, ?_⟩
  · intro v hv
    unfold adminEnv at hv
    cases hadmin : findAdminUser acl <;> rw [hadmin] at hv
    · simp only [List.append_nil, List.mem_cons, List.not_mem_nil, or_false] at hv
      rcases hv with rfl | rfl <;> decide
    · simp only [List.cons_append, List.nil_append, List.mem_cons, List.not_mem_nil, or_false] at hv
      rcases hv with rfl | rfl | rfl | rfl | rfl <;> simp [EnvVar.text]
  · rw [readLabels, toList_metricLabels hprintable, Toml.inlineTable_printed hprintable hnodup, Option.map_some,
      toMap_sortedEntries]

/-- A value that tries to close its string and to add a pair. -/
theorem metric_labels_survive_quotes :
    ∃ monitoring : AerospikeMonitoringSpec,
      monitoring.metricLabels.lookup "env" = some "a\", b=\"\\" ∧
      ∃ before value, (∀ v ∈ before, v.name ≠ "METRIC_LABELS") ∧
        (buildExporterSidecar monitoring none).env =
          before ++ (if monitoring.metricLabels = ∅ then [] else [.text "METRIC_LABELS" value]) ++ monitoring.env ∧
        readLabels value = some monitoring.metricLabels := by
  refine ⟨⟨true, "exporter:1", 9145, none, [], Finmap.singleton "env" "a\", b=\"\\", none, none⟩, rfl,
    metric_labels_survive _ none ?_⟩
  rw [validateMetricLabels, sortedLabelKeys, Finmap.keys_singleton, Finset.sort_singleton]
  decide +kernel

end Acko
