/-
The order of scale-downs over whole runs. Between two lowerings there is a probe that says that
nothing migrates, except between drains of removed racks, which share the probe of their pass. The
probe does not wait for the pods of the earlier lowering to be gone, and an unset batch size takes
all pods at once.
-/
import AckoProofs.Scale.Handled

namespace Acko

/-! ## Guarded logs -/

/-- Every lowering has a probe without migrations before it, and what was lowered since that probe
are drains of other StatefulSets, for a drain. -/
def Guarded (log : List ScaleEvent) : Prop :=
  ∀ pre f post n old new, log = pre ++ f :: post → f.lowers = some (n, old, new) →
    ∃ before between, pre = before ++ .probe (.ok false) :: between ∧
      ∀ e ∈ between, ∀ m old' new', e.lowers = some (m, old', new') → e.isDrain = true ∧ f.isDrain = true ∧ m ≠ n

theorem guarded_of_none {log : List ScaleEvent} (h : ∀ e ∈ log, e.lowers = none) : Guarded log := by
  rintro pre f post n old new rfl hl
  rw [h f (by simp)] at hl
  cases hl

theorem Guarded.append {log more : List ScaleEvent} (h : Guarded log) (hmore : Guarded more) :
    Guarded (log ++ more) := by
  intro pre f post n old new heq hl
  -- where the lowering stands, in `more` or in `log`
  rcases List.append_eq_append_iff.1 heq with ⟨pre', rfl, hsplit⟩ | ⟨post', hsplit, hpost⟩
  · obtain ⟨before, between, rfl, hbetween⟩ := hmore pre' f post n old new hsplit hl
    exact ⟨log ++ before, between, by rw [List.append_assoc], hbetween⟩
  · cases post' with
    | nil =>
      rw [List.append_nil] at hsplit
      obtain ⟨before, between, hnil, _⟩ := hmore [] f post n old new hpost.symm hl
      exact absurd hnil (by simp)
    | cons g post' =>
      obtain ⟨rfl, rfl⟩ := List.cons.inj hpost
      exact h pre f post' n old new hsplit hl

theorem guarded_flatMap {α : Type} {g : α → List ScaleEvent} : ∀ {l : List α}, (∀ a ∈ l, Guarded (g a)) →
    Guarded (l.flatMap g)
  | [], _ => guarded_of_none (by simp)
  | a :: l, h => by
    rw [List.flatMap_cons]
    exact (h a (List.mem_cons_self ..)).append (guarded_flatMap fun b hb => h b (List.mem_cons_of_mem _ hb))

/-! ## Passes -/

section Pass

variable {env : ScaleEnv} {cluster : Cluster} {pods : Int → List Pod} {hashesOf : Cluster → Rack → Hashes}
  {objs : List StatefulSetObject} {racks : List Rack}

theorem reconcileRack_guarded (r : Rack × Nat) : Guarded (reconcileRack env cluster pods hashesOf objs racks r).2 := by
  intro pre f post n old new heq hl
  have hf : f ∈ (reconcileRack env cluster pods hashesOf objs racks r).2 := by
    rw [heq]
    simp
  -- the events are the probe and the lowering
  rw [(reconcileRack_lowers hf hl).1] at heq
  rcases pre with _ | ⟨e, _ | ⟨e', pre⟩⟩
  · cases heq
    cases hl
  · cases heq
    exact ⟨[], [], rfl, by simp⟩
  · have hlen := congrArg List.length heq
    simp at hlen

theorem Handled.length_le_one {target : Int} {n : String} {found : Option StatefulSet} {events : List ScaleEvent}
    (h : Handled cluster target n found events) : events.length ≤ 1 := by
  cases h <;> simp

theorem cleanupRemovedRacks_guarded {checks : MigrationChecks} (hnames : (objs.map (·.sts.name)).Nodup) :
    Guarded (cleanupRemovedRacks env cluster pods objs checks racks).2.2 := by
  intro pre f post n old new heq hl
  obtain ⟨probes, blocked, visited, hp, hev, hprobes, hgate⟩ :=
    cleanupRemovedRacks_events env cluster pods objs checks racks
  have hlowers : ∀ {e m old' new'}, e ∈ probes ++ visited.flatMap (teardownEvents env cluster pods blocked) →
      e.lowers = some (m, old', new') → e.isDrain = true ∧ ∃ r ∈ visited, m = r.1.sts.name ∧
        probes = [.probe (.ok false)] := by
    intro e m old' new' he hl
    rcases List.mem_append.1 he with he | he
    · obtain ⟨answer, rfl⟩ := hprobes e he
      cases hl
    · obtain ⟨r, hr, he⟩ := List.mem_flatMap.1 he
      obtain ⟨_, hdrain, hn, hb, rfl, _⟩ := teardownEvents_lowers he hl
      exact ⟨hdrain, r, hr, rfl, hgate r hr hn hb⟩
  have hmem : f ∈ probes ++ visited.flatMap (teardownEvents env cluster pods blocked) := by
    rw [← hev, heq]
    simp
  obtain ⟨hdrain, r, hr, rfl, hopen⟩ := hlowers hmem hl
  -- the first event is the probe, since it is not the lowering
  rw [hev, hopen] at heq
  cases pre with
  | nil =>
    cases heq
    cases hl
  | cons e pre =>
    obtain ⟨rfl, hrest⟩ := List.cons.inj heq
    refine ⟨[], pre, rfl, ?_⟩
    intro e he m old' new' hel
    have he' : e ∈ probes ++ visited.flatMap (teardownEvents env cluster pods blocked) := by
      refine List.mem_append_right _ ?_
      rw [show visited.flatMap (teardownEvents env cluster pods blocked) = pre ++ f :: post from hrest]
      exact List.mem_append_left _ he
    refine ⟨(hlowers he' hel).1, hdrain, ?_⟩
    rintro rfl
    -- a second event about the StatefulSet would be one too many
    have hone := (@cleanupRemovedRacks_handled env cluster pods objs racks checks hnames r (hp.subset hr)).length_le_one
    have habout : ∀ {g : ScaleEvent} {old new : Int}, g.lowers = some (r.1.sts.name, old, new) →
        g.about r.1.sts.name = true := by
      intro g old new hg
      exact lowersOf_about (by simp [ScaleEvent.lowersOf, hg])
    have htwo : 0 < (pre.filter (·.about r.1.sts.name)).length :=
      List.length_pos_of_mem (List.mem_filter.2 ⟨he, habout hel⟩)
    rw [hev, hopen, heq, List.cons_append, List.filter_cons_of_neg (by simp [ScaleEvent.about]), List.filter_append,
      List.filter_cons_of_pos (habout hl), List.length_append, List.length_cons] at hone
    omega

theorem pass_guarded {s : ScaleState} (hnames : (s.objs.map (·.sts.name)).Nodup) :
    Guarded (s.pass hashesOf env).2.2 := by
  unfold ScaleState.pass
  rcases reconcileScaling_events env s.cluster s.pods s.objs s.checks hashesOf with ⟨_, hnil⟩ | ⟨more, hev, hmore⟩
  · rw [hnil]
    exact guarded_of_none (by simp)
  · rw [hev]
    refine Guarded.append ?_ ?_
    · obtain ⟨visited, _, hracks, _⟩ :=
        reconcileRacks_events env s.cluster s.pods s.objs (getRacks s.cluster) hashesOf
      rw [hracks]
      exact guarded_flatMap fun r _ => reconcileRack_guarded r
    · rcases hmore with rfl | rfl
      · exact guarded_of_none (by simp)
      · exact cleanupRemovedRacks_guarded hnames

end Pass

/-! ## Runs -/

section Runs

variable {hashesOf : Cluster → Rack → Hashes}

/-- Distinct names and a guarded log. -/
structure SerialInv (s : ScaleState) : Prop where
  names : (s.objs.map (·.sts.name)).Nodup
  log : Guarded s.log

theorem step_serialInv {s t : ScaleState} {a : ScaleStep} (hs : SerialInv s) (h : s.step hashesOf a = some t) :
    SerialInv t := by
  refine ⟨step_names hs.names h, ?_⟩
  cases a with
  | pass env =>
    rw [(step_pass h).2.2]
    exact hs.log.append (pass_guarded hs.names)
  | edit cluster =>
    cases h
    exact hs.log
  | kube objs pods =>
    simp only [ScaleState.step] at h
    split at h
    · cases h
      exact hs.log
    · cases h

theorem Guarded.between {log pre mid post : List ScaleEvent} {e f : ScaleEvent} (h : Guarded log)
    (heq : log = pre ++ e :: (mid ++ f :: post)) {n m : String} {old new old' new' : Int}
    (he : e.lowers = some (n, old, new)) (hf : f.lowers = some (m, old', new')) :
    .probe (.ok false) ∈ mid ∨ (e.isDrain = true ∧ f.isDrain = true ∧ n ≠ m) := by
  obtain ⟨before, between, hpre, hbetween⟩ := h (pre ++ e :: mid) f post m old' new' (by rw [heq]; simp) hf
  -- the probe stands after the first lowering, or that one is among what was lowered since
  rcases List.append_eq_append_iff.1 hpre with ⟨as, _, hsplit⟩ | ⟨bs, _, hsplit⟩
  · cases as with
    | nil =>
      cases hsplit
      cases he
    | cons a as =>
      obtain ⟨rfl, hmid⟩ := List.cons.inj hsplit
      left
      rw [hmid]
      simp
  · cases bs with
    | nil =>
      cases hsplit
      cases he
    | cons b bs =>
      obtain ⟨rfl, hin⟩ := List.cons.inj hsplit
      right
      exact hbetween e (by rw [hin]; simp) n old new he

/-- A pass lowers a count by one event of its log, and by at most a batch. -/
def LowersByBatch (hashesOf : Cluster → Rack → Hashes) (s : ScaleState) (env : ScaleEnv) : Prop :=
  ∀ n sts sts', findStatefulSet s.objs n = some sts →
    findStatefulSet (objectsAfter s.objs (s.pass hashesOf env).2.2) n = some sts' →
    statefulSetReplicas sts' < statefulSetReplicas sts →
    (∃ e ∈ (s.pass hashesOf env).2.2, e.lowers = some (n, statefulSetReplicas sts, statefulSetReplicas sts')) ∧
    statefulSetReplicas sts - statefulSetReplicas sts' ≤
      getScaleDownBatchSize s.cluster (statefulSetReplicas sts - desiredReplicas s.cluster n)

theorem lowersByBatch {s : ScaleState} (hd : DistinctRacks s.cluster) (hnames : (s.objs.map (·.sts.name)).Nodup)
    (env : ScaleEnv) : LowersByBatch hashesOf s env := by
  intro n sts sts' hf hf' hlt
  obtain ⟨hevent, hbatch⟩ := pass_lowered hd hnames hf hf' hlt
  exact ⟨hevent, hbatch.size⟩

end Runs

/-- In every run there is a probe without migrations between two lowerings, unless they are drains
of two removed racks, and each takes at most the batch size of the spec from its StatefulSet. -/
theorem scale_down_serialised (hashesOf : Cluster → Rack → Hashes) {s t : ScaleState} {l : List ScaleStep}
    (hnames : (s.objs.map (·.sts.name)).Nodup) (hlog : s.log = [])
    (hracks : Lts.Along (ScaleState.step hashesOf) (fun s _ => DistinctRacks s.cluster) s l)
    (hrun : Lts.run (ScaleState.step hashesOf) s l = some t) :
    (∀ pre e mid f post n old new m old' new', t.log = pre ++ e :: (mid ++ f :: post) →
      e.lowers = some (n, old, new) → f.lowers = some (m, old', new') →
      .probe (.ok false) ∈ mid ∨ (e.isDrain = true ∧ f.isDrain = true ∧ n ≠ m)) ∧
    Lts.Along (ScaleState.step hashesOf) (fun s a => ∀ env, a = .pass env → LowersByBatch hashesOf s env) s l := by
  constructor
  · have hstart : SerialInv s := ⟨hnames, by rw [hlog]; exact guarded_of_none (by simp)⟩
    have hinv : SerialInv t := Lts.run_invariant' (fun _ _ _ hs h => step_serialInv hs h) hstart hrun
    intro pre e mid f post n old new m old' new' heq he hf
    exact hinv.log.between heq he hf
  · exact Lts.Along.of_invariant (fun _ _ _ hi _ h => step_names hi h) (fun _ _ hi hd env _ => lowersByBatch hd hi env)
      hnames hracks

/-! ## Two racks in one pass -/

def threePods (rackID : Int) : List Pod :=
  [Pod.serving (podName (statefulSetName "db" rackID) 0) "ce:8" "10.0.0.1" ⟨"c", "s", "v"⟩,
    Pod.serving (podName (statefulSetName "db" rackID) 1) "ce:8" "10.0.0.2" ⟨"c", "s", "v"⟩,
    Pod.serving (podName (statefulSetName "db" rackID) 2) "ce:8" "10.0.0.3" ⟨"c", "s", "v"⟩]

def threeReplicas (name : String) : StatefulSetObject := ⟨⟨name, some 3, ⟨"c", "s", "v"⟩, .parallel⟩, false⟩

def sameHashes (_ : Cluster) (_ : Rack) : Hashes := ⟨"c", "s", "v"⟩

def rackedCluster (size : Int) (racks : List Rack) : Cluster :=
  { Cluster.bare "db" "ce:8" with
    spec := { (Cluster.bare "db" "ce:8").spec with size := size, rackConfig := some ⟨racks, none, none, none⟩ } }

def bothTooLarge : ScaleState :=
  ⟨rackedCluster 2 [⟨1, none⟩, ⟨2, none⟩], [threeReplicas "db-1", threeReplicas "db-2"], threePods, [], []⟩

def bothRemoved : ScaleState :=
  ⟨rackedCluster 3 [⟨1, none⟩], [threeReplicas "db-1", threeReplicas "db-2", threeReplicas "db-3"], threePods, [], []⟩

/-- One pass lowers two racks of the spec by two pods each, although the pods of the first are
there when the probe for the second answers, and one pass drains two removed racks to zero after
one probe. -/
theorem one_pass_lowers_two :
    (∃ t, Lts.run (ScaleState.step sameHashes) bothTooLarge [.pass .calm] = some t ∧
      t.log = [.probe (.ok false), .patch "db-1" 3 1 ⟨"c", "s", "v"⟩,
        .probe (.ok false), .patch "db-2" 3 1 ⟨"c", "s", "v"⟩] ∧
      (t.pods 1).map (·.name) = ["db-1-0", "db-1-1", "db-1-2"]) ∧
    ∃ t, Lts.run (ScaleState.step sameHashes) bothRemoved [.pass .calm] = some t ∧
      t.log = [.probe (.ok false), .drain "db-2" 3 0, .drain "db-3" 3 0] :=
  ⟨⟨_, rfl, by decide, by decide⟩, _, rfl, by decide⟩

theorem scale_down_serialised_two : ∃ t, Lts.run (ScaleState.step sameHashes) bothTooLarge [.pass .calm] = some t ∧
    LowersByBatch sameHashes bothTooLarge .calm ∧ getScaleDownBatchSize bothTooLarge.cluster (3 - 1) = 2 ∧
    ∀ pre e mid f post, t.log = pre ++ e :: (mid ++ f :: post) → e.lowers = some ("db-1", 3, 1) →
      f.lowers = some ("db-2", 3, 1) →
      .probe (.ok false) ∈ mid ∨ (e.isDrain = true ∧ f.isDrain = true ∧ "db-1" ≠ "db-2") := by
  obtain ⟨t, ht⟩ : ∃ t, Lts.run (ScaleState.step sameHashes) bothTooLarge [.pass .calm] = some t := ⟨_, rfl⟩
  have hracks : Lts.Along (ScaleState.step sameHashes) (fun s _ => DistinctRacks s.cluster) bothTooLarge
      [.pass .calm] :=
    ⟨by decide, fun _ _ => trivial⟩
  obtain ⟨hserial, hbatch⟩ := scale_down_serialised sameHashes (by decide) rfl hracks ht
  refine ⟨t, ht, hbatch.1 _ rfl, by decide, ?_⟩
  intro pre e mid f post heq he hf
  exact hserial pre e mid f post _ _ _ _ _ _ heq he hf

end Acko
