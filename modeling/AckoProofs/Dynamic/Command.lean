/-
The set-config commands of a dynamic update: the check of their fields against the asinfo wire
format, the command of a change, and the command that takes it back.
-/
import AckoProofs.Config.Diff
import AckoProofs.Lib.Cut

namespace Acko

/-! ## Safe fields -/

/-- `tomlBareKeyRe`: letters, digits, underscores, dots and dashes, at least one. -/
def isBareKey (key : String) : Bool :=
  key ≠ "" && key.toList.all fun c => c.isAlphanum || c = '_' || c = '.' || c = '-'

def isControl (c : Char) : Bool := c.toNat < 0x20 || (0x7f ≤ c.toNat && c.toNat < 0xa0)

def isSpace (c : Char) : Bool :=
  (9 ≤ c.toNat && c.toNat ≤ 13) || c.toNat ∈ [0x20, 0x85, 0xa0, 0x1680, 0x2028, 0x2029, 0x202f, 0x205f, 0x3000] ||
    (0x2000 ≤ c.toNat && c.toNat ≤ 0x200a)

/-- Why a field would break the wire format, if it would. -/
def hasUnsafeValueChars (s : String) : Option String :=
  if s.toList.any (fun c => c = ';' || c = ':' || c = '=') then some "must not contain ';', ':' or '='"
  else if s.toList.any isControl then
    some "must not contain control characters (e.g. newline, carriage return, tab)"
  else if (s.toList.head?.any isSpace) || (s.toList.getLast?.any isSpace) then
    some "must not contain leading or trailing whitespace"
  else none

/-! ## Commands -/

/-- Where a parameter lives: a context, or a namespace by its id. -/
inductive SetTarget
  | context (name : String)
  | namespaceId (id : String)
  deriving DecidableEq, Repr

/-- A runtime parameter of a node. -/
structure Param where
  target : SetTarget
  key : String
  deriving DecidableEq, Repr

/-- A set-config command: the parameter it names and the text of its new value. -/
structure SetConfig where
  param : Param
  value : String
  deriving DecidableEq, Repr

def SetConfig.text (cmd : SetConfig) : String :=
  match cmd.param.target with
  | .context name => "set-config:context=" ++ name ++ ";" ++ cmd.param.key ++ "=" ++ cmd.value
  | .namespaceId id => "set-config:context=namespace;id=" ++ id ++ ";" ++ cmd.param.key ++ "=" ++ cmd.value

def Change.param (change : Change) : Param :=
  if change.namespace ≠ "" then ⟨.namespaceId change.namespace, change.key⟩ else ⟨.context change.context, change.key⟩

/-- The first of the context, namespace and value fields that is unsafe, with its reason. -/
def unsafeField (change : Change) : Option String :=
  [("context", change.context), ("namespace", change.namespace), ("value", change.newValue.fmtV)].findSome?
    fun (name, val) => (hasUnsafeValueChars val).map fun reason =>
      "invalid character in " ++ name ++ " " ++ val.quote ++ ": " ++ reason

/-- The info command that sets one parameter. -/
def buildSetConfigCommand (change : Change) : Except String SetConfig :=
  if !isBareKey change.key then
    .error ("invalid character in key " ++ change.key.quote ++ ": must match ^[A-Za-z0-9_.-]+$")
  else match unsafeField change with
    | some reason => .error reason
    | none => .ok ⟨change.param, change.newValue.fmtV⟩

/-- The command that sets a changed parameter back to its old value; `none` stands for the empty
text, where there is no old value or it makes no safe command. -/
def buildRollbackCommand (change : Change) : Option SetConfig :=
  if change.oldValue.isNil then none else
  match buildSetConfigCommand { change with oldValue := Value.nil, newValue := change.oldValue } with
  | .error _ => none
  | .ok cmd => some cmd

/-- The pre-flight check: every change makes a command. -/
def validateDynamicChanges (changes : List Change) : Bool :=
  changes.all fun change => (buildSetConfigCommand change).isOk

variable {change : Change} {cmd : SetConfig}

theorem buildSetConfigCommand_ok (h : buildSetConfigCommand change = .ok cmd) :
    cmd = ⟨change.param, change.newValue.fmtV⟩ := by
  unfold buildSetConfigCommand at h
  split at h
  · cases h
  · split at h
    · cases h
    · cases h; rfl

theorem buildRollbackCommand_some (h : buildRollbackCommand change = some cmd) :
    change.oldValue.isNil = false ∧ cmd = ⟨change.param, change.oldValue.fmtV⟩ := by
  unfold buildRollbackCommand at h
  split at h
  · cases h
  · rename_i hn
    split at h
    · cases h
    · rename_i c hc
      cases h
      exact ⟨by simpa using hn, buildSetConfigCommand_ok hc⟩

example : (buildSetConfigCommand ⟨["namespace", "default-ttl"], "namespace", "default-ttl", Value.nil,
    .leaf (.int 60), "test"⟩).toOption.map SetConfig.text =
      some "set-config:context=namespace;id=test;default-ttl=60" := by decide

/-! ## Reading a command back -/

/-- The fields of a command: what stands between the semicolons, cut at the first equals sign. -/
def readCommand (text : String) : Option (List (String × Option String)) :=
  if "set-config:".toList.isPrefixOf text.toList then
    some (((text.toList.drop "set-config:".length).splitOn ';').map fun field =>
      (String.ofList (Cut.cut '=' field).1, (Cut.cut '=' field).2.map String.ofList))
  else none

/-- The fields a change is to be sent with: its scope and the one parameter. -/
def Change.fields (change : Change) : List (String × String) :=
  (if change.namespace ≠ "" then [("context", "namespace"), ("id", change.namespace)]
    else [("context", change.context)]) ++ [(change.key, change.newValue.fmtV)]

/-- A text without the separators of the wire format. -/
def WireSafe (s : String) : Prop := ';' ∉ s.toList ∧ '=' ∉ s.toList

theorem wireSafe_of_hasUnsafeValueChars {s : String} (h : hasUnsafeValueChars s = none) : WireSafe s := by
  have hany : ¬ s.toList.any (fun c => c = ';' || c = ':' || c = '=') = true := by
    intro hbad
    rw [hasUnsafeValueChars, if_pos hbad] at h
    cases h
  constructor <;> exact fun hmem => hany (List.any_eq_true.2 ⟨_, hmem, by decide⟩)

theorem wireSafe_of_isBareKey {key : String} (h : isBareKey key = true) : WireSafe key := by
  simp only [isBareKey, Bool.and_eq_true, List.all_eq_true] at h
  constructor <;> exact fun hmem => absurd (h.2 _ hmem) (by decide)

theorem wireSafe_fields (h : buildSetConfigCommand change = .ok cmd) :
    ∀ field ∈ change.fields, WireSafe field.1 ∧ WireSafe field.2 := by
  have hkey : isBareKey change.key = true := by
    by_contra hbad
    rw [buildSetConfigCommand, if_pos (by simpa using hbad)] at h
    cases h
  have hfields : unsafeField change = none := by
    unfold buildSetConfigCommand at h
    rw [if_neg (by simp [hkey])] at h
    split at h
    case h_1 => cases h
    case h_2 hnone => exact hnone
  have hsafe : ∀ name val, (name, val) ∈ [("context", change.context), ("namespace", change.namespace),
      ("value", change.newValue.fmtV)] → WireSafe val := by
    intro name val hmem
    have hnone := List.findSome?_eq_none_iff.1 hfields _ hmem
    exact wireSafe_of_hasUnsafeValueChars (Option.map_eq_none_iff.1 hnone)
  have hvalue := hsafe "value" change.newValue.fmtV (by simp)
  have hcontext : WireSafe "context" ∧ WireSafe "namespace" ∧ WireSafe "id" := by
    unfold WireSafe
    decide
  intro field hfield
  rcases List.mem_append.1 hfield with hfield | hfield
  · split at hfield
    · simp only [List.mem_cons, List.not_mem_nil, or_false] at hfield
      rcases hfield with rfl | rfl
      · exact ⟨hcontext.1, hcontext.2.1⟩
      · exact ⟨hcontext.2.2, hsafe "namespace" _ (by simp)⟩
    · obtain rfl := List.mem_singleton.1 hfield
      exact ⟨hcontext.1, hsafe "context" _ (by simp)⟩
  · obtain rfl := List.mem_singleton.1 hfield
    exact ⟨wireSafe_of_isBareKey hkey, hvalue⟩

theorem toList_setConfigText (change : Change) :
    (SetConfig.text ⟨change.param, change.newValue.fmtV⟩).toList = "set-config:".toList ++
      [';'].intercalate (change.fields.map fun field => field.1.toList ++ '=' :: field.2.toList) := by
  unfold SetConfig.text Change.param Change.fields
  by_cases hns : change.namespace = "" <;> simp [hns, List.intercalate]

theorem readCommand_text (h : buildSetConfigCommand change = .ok cmd) :
    readCommand cmd.text = some (change.fields.map fun field => (field.1, some field.2)) := by
  have hsafe := wireSafe_fields h
  obtain rfl := buildSetConfigCommand_ok h
  have hparts : ∀ part ∈ change.fields.map (fun field => field.1.toList ++ '=' :: field.2.toList), ';' ∉ part := by
    intro part hpart hmem
    obtain ⟨field, hfield, rfl⟩ := List.mem_map.1 hpart
    rcases List.mem_append.1 hmem with hmem | hmem
    · exact (hsafe field hfield).1.1 hmem
    · rcases List.mem_cons.1 hmem with heq | hmem
      · exact absurd heq (by decide)
      · exact (hsafe field hfield).2.1 hmem
  have hne : change.fields.map (fun field => field.1.toList ++ '=' :: field.2.toList) ≠ [] := by
    simp [Change.fields]
  rw [readCommand, toList_setConfigText, if_pos (List.isPrefixOf_iff_prefix.2 (List.prefix_append _ _)), String.length,
    List.drop_left, List.splitOn_intercalate ';' hparts hne, List.map_map]
  refine congrArg some (List.map_congr_left fun field hfield => ?_)
  simp only [Function.comp_apply, Cut.cut_append (hsafe field hfield).1.2, Option.map_some, String.ofList_toList]

theorem eq_of_fields_eq {change' : Change} (h : change.fields = change'.fields) :
    change.param = change'.param ∧ change.newValue.fmtV = change'.newValue.fmtV := by
  unfold Change.fields at h
  unfold Change.param
  by_cases hns : change.namespace = "" <;> by_cases hns' : change'.namespace = "" <;> simp [hns, hns'] at h ⊢
  all_goals simp [h]

/-- Every accepted change is read back from its command field by field, so that a command tells the
scope, the key and the value. -/
theorem set_config_unambiguous :
    (∀ change cmd, buildSetConfigCommand change = .ok cmd →
      readCommand cmd.text = some (change.fields.map fun field => (field.1, some field.2))) ∧
    ∀ change change' cmd cmd', buildSetConfigCommand change = .ok cmd → buildSetConfigCommand change' = .ok cmd' →
      cmd.text = cmd'.text → change.param = change'.param ∧ change.newValue.fmtV = change'.newValue.fmtV := by
  refine ⟨fun change cmd h => readCommand_text h, ?_⟩
  intro change change' cmd cmd' h h' htext
  have hread := readCommand_text h
  rw [htext, readCommand_text h'] at hread
  have hinj : Function.Injective fun field : String × String => (field.1, some field.2) := by
    rintro ⟨a, b⟩ ⟨c, d⟩ heq
    simpa using heq
  exact eq_of_fields_eq (List.map_injective_iff.2 hinj (Option.some.inj hread)).symm

theorem set_config_unambiguous_ttl :
    readCommand "set-config:context=namespace;id=test;default-ttl=60" =
      some [("context", some "namespace"), ("id", some "test"), ("default-ttl", some "60")] :=
  set_config_unambiguous.1 ⟨["namespace", "default-ttl"], "namespace", "default-ttl", Value.nil, .leaf (.int 60),
    "test"⟩
    ⟨⟨.namespaceId "test", "default-ttl"⟩, "60"⟩ (by rfl)

end Acko
