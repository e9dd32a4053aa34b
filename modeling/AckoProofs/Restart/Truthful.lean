/-
What the config-hash annotation of a pod says about its server. The config file of a pod is copied
from the rack's ConfigMap once, when the pod is created; a warm restart makes the server read that
same file again and then stamps the pod with the template's hash. So the annotation is only kept
true by restarts that replace the pod.
-/
import AckoProofs.Restart.Rack

namespace Acko

/-! ## The system -/

/-- A rack with its files: the effective config its ConfigMap is rendered from, and the server of
each pod. `κ` is the type of effective configs; a config file stands for the config it was rendered
from. -/
structure LiveRack (κ : Type) where
  sts : StatefulSet
  configMap : κ
  pods : List Pod
  servers : Servers κ
  todo : List Effect

/-- The moves of a rack with its files. -/
inductive LiveStep (κ : Type)
  /-- A rolling-restart pass reads the pods and decides. -/
  | begin (env : RestartEnv) (checks : MigrationChecks) (cluster : Cluster)
  /-- The next call of the pass takes effect. -/
  | emit
  /-- `reconcileConfigMap` renders the effective config. -/
  | configMap (config : κ)
  /-- `reconcileStatefulSet` patches the pod template; pod metadata of the user may bring an
  annotation of the same key, which wins. -/
  | template (userHash : Option String) (podSpec storage : String)
  /-- The StatefulSet creates a pod; its init container copies the file and the server starts. -/
  | create (pod : Pod)
  | disappear (name : String)
  | report (name : String) (phase : PodPhase) (conditions : List PodCondition)
  /-- The container of a pod is restarted in place. -/
  | restartContainer (host : String)

section System

variable {κ : Type} (configHash : κ → String) (params : κ → Runtime) (rackID : Int)

/-- The server of a new pod: its file is the current ConfigMap's. -/
def LiveRack.newServer (s : LiveRack κ) : Server κ := ⟨s.configMap, s.configMap, params s.configMap⟩

/-- One move. The operator works on one thing at a time: it writes the ConfigMap and the template
between passes. -/
def LiveRack.step (s : LiveRack κ) : LiveStep κ → Option (LiveRack κ)
  | .begin env checks cluster =>
    if s.todo = [] then
      some { s with todo := (reconcileRollingRestart env checks cluster rackID (some s.sts) s.pods).effects }
    else none
  | .emit =>
    match s.todo with
    | [] => none
    | e :: l => some { s with
        pods := podsAfter s.pods [e]
        servers := e.onServers params s.servers
        todo := l }
  | .configMap config => if s.todo = [] then some { s with configMap := config } else none
  | .template userHash podSpec storage =>
    if s.todo = [] then
      some { s with sts := { s.sts with hashes := ⟨userHash.getD (configHash s.configMap), podSpec, storage⟩ } }
    else none
  | .create pod =>
    if pod.name ∉ s.pods.map (·.name) ∧ pod.podIP ∉ s.pods.map (·.podIP) ∧ pod.hashes = s.sts.hashes then
      some { s with
        pods := pod :: s.pods
        servers := Function.update s.servers pod.podIP (s.newServer params) }
    else none
  | .disappear name => some { s with pods := s.pods.filter (·.name ≠ name) }
  | .report name phase conditions => some { s with pods := s.pods.map (Pod.reporting name phase conditions) }
  | .restartContainer host => some { s with servers := (Effect.signal "" host).onServers params s.servers }

/-- Every pod's annotation is the hash of the config its server has loaded. -/
def LiveRack.Truthful (s : LiveRack κ) : Prop :=
  ∀ p ∈ s.pods, configHash (s.servers p.podIP).loaded = p.hashes.config

/-- What a run assumes: dynamic updates are off. -/
def LiveStep.withoutDynamic : LiveStep κ → Prop
  | .begin _ _ cluster => cluster.spec.enableDynamicConfigUpdate ≠ some true
  | _ => True

/-- Where the annotation is safe. A pass finds no pod with another config hash than the template's
that could be restarted warm. A pod is created from a template that is in step with the ConfigMap,
and not while the stamp of a pod of that name is under way. -/
def LiveStep.Safe (s : LiveRack κ) : LiveStep κ → Prop
  | .begin env _ cluster => ∀ p ∈ s.pods, p.hashes.config ≠ s.sts.hashes.config →
      shouldWarmRestart env cluster p s.sts = false
  | .create pod => s.sts.hashes.config = configHash s.configMap ∧ ∀ hash, .updatePodConfigHash pod.name hash ∉ s.todo
  | _ => True

/-- Where a run starts: pods told apart by name and IP, each with a server that loaded its file and
an annotation that is true of it, and no calls under way. -/
structure LiveRack.Start (s : LiveRack κ) : Prop where
  names : (s.pods.map (·.name)).Nodup
  ips : (s.pods.map (·.podIP)).Nodup
  loaded : ∀ p ∈ s.pods, (s.servers p.podIP).loaded = (s.servers p.podIP).conf
  truthful : s.Truthful configHash
  todo : s.todo = []

/-- The invariant: moreover, the stamps under way change nothing. -/
structure LiveRack.Inv (s : LiveRack κ) : Prop where
  names : (s.pods.map (·.name)).Nodup
  ips : (s.pods.map (·.podIP)).Nodup
  loaded : ∀ p ∈ s.pods, (s.servers p.podIP).loaded = (s.servers p.podIP).conf
  truthful : s.Truthful configHash
  stamps : ∀ p ∈ s.pods, ∀ hash, .updatePodConfigHash p.name hash ∈ s.todo → hash = p.hashes.config

variable {configHash params rackID} {s : LiveRack κ}

theorem LiveRack.Start.inv (h : s.Start configHash) : s.Inv configHash :=
  ⟨h.names, h.ips, h.loaded, h.truthful, fun p _ hash hm => by rw [h.todo] at hm; cases hm⟩

theorem LiveRack.Inv.eq_of_name (h : s.Inv configHash) {p q : Pod} (hp : p ∈ s.pods) (hq : q ∈ s.pods)
    (hn : p.name = q.name) : p = q :=
  List.inj_on_of_nodup_map h.names hp hq hn

theorem LiveRack.Inv.update {t : LiveRack κ} (h : s.Inv configHash) {f : Pod → Pod} (hpods : t.pods = s.pods.map f)
    (hname : ∀ p ∈ s.pods, (f p).name = p.name) (hip : ∀ p ∈ s.pods, (f p).podIP = p.podIP)
    (hhash : ∀ p ∈ s.pods, (f p).hashes.config = p.hashes.config)
    (hconf : ∀ p ∈ s.pods, (t.servers p.podIP).conf = (s.servers p.podIP).conf ∧
      (t.servers p.podIP).loaded = (s.servers p.podIP).loaded)
    (htodo : ∀ e ∈ t.todo, e ∈ s.todo) : t.Inv configHash := by
  have hnames : t.pods.map (·.name) = s.pods.map (·.name) := by
    rw [hpods, List.map_map]
    exact List.map_congr_left hname
  have hips : t.pods.map (·.podIP) = s.pods.map (·.podIP) := by
    rw [hpods, List.map_map]
    exact List.map_congr_left hip
  refine ⟨hnames ▸ h.names, hips ▸ h.ips, ?_, ?_, ?_⟩ <;> intro q hq <;> rw [hpods] at hq <;>
    obtain ⟨p, hp, rfl⟩ := List.mem_map.1 hq
  · rw [hip p hp, (hconf p hp).1, (hconf p hp).2]
    exact h.loaded p hp
  · rw [hip p hp, hhash p hp, (hconf p hp).2]
    exact h.truthful p hp
  · intro hash hm
    rw [hname p hp] at hm
    rw [hhash p hp]
    exact h.stamps p hp hash (htodo _ hm)

theorem begin_truthful (h : s.Inv configHash) {env : RestartEnv} {checks : MigrationChecks} {cluster : Cluster}
    (hdyn : cluster.spec.enableDynamicConfigUpdate ≠ some true)
    (hsafe : ∀ p ∈ s.pods, p.hashes.config ≠ s.sts.hashes.config → shouldWarmRestart env cluster p s.sts = false) :
    LiveRack.Inv configHash { s with
      todo := (reconcileRollingRestart env checks cluster rackID (some s.sts) s.pods).effects } := by
  refine ⟨h.names, h.ips, h.loaded, h.truthful, ?_⟩
  intro p hp hash hm
  obtain ⟨rfl, q, hq, hn, hw⟩ := reconcileRollingRestart_stamped env checks cluster rackID s.sts s.pods hdyn hm
  obtain rfl := h.eq_of_name hq hp hn
  by_contra hne
  rw [hsafe q hq (Ne.symm hne)] at hw
  cases hw

theorem emit_truthful (h : s.Inv configHash) {e : Effect} {l : List Effect} (htodo : s.todo = e :: l) :
    LiveRack.Inv configHash
      { s with pods := podsAfter s.pods [e], servers := e.onServers params s.servers, todo := l } := by
  refine h.update (f := e.onPod) rfl (fun p _ => onPod_name e p) (fun p _ => onPod_podIP e p) ?_ ?_ ?_
  · intro p hp
    refine onPod_config ?_
    rintro hash rfl
    exact h.stamps p hp hash (htodo ▸ List.mem_cons_self)
  · intro p hp
    exact onServers_loaded params s.servers e (h.loaded p hp)
  · intro f hf
    rw [htodo]
    exact List.mem_cons_of_mem _ hf

theorem create_truthful (h : s.Inv configHash) {pod : Pod} (hname : pod.name ∉ s.pods.map (·.name))
    (hip : pod.podIP ∉ s.pods.map (·.podIP)) (hhash : pod.hashes = s.sts.hashes)
    (hsync : s.sts.hashes.config = configHash s.configMap)
    (htodo : ∀ hash, .updatePodConfigHash pod.name hash ∉ s.todo) :
    LiveRack.Inv configHash { s with
      pods := pod :: s.pods
      servers := Function.update s.servers pod.podIP (s.newServer params) } := by
  -- the other pods have other servers
  have hother : ∀ p ∈ s.pods, Function.update s.servers pod.podIP (s.newServer params) p.podIP = s.servers p.podIP := by
    intro p hp
    refine Function.update_of_ne ?_ _ _
    intro heq
    exact hip (heq ▸ List.mem_map_of_mem hp)
  refine ⟨List.nodup_cons.2 ⟨hname, h.names⟩, List.nodup_cons.2 ⟨hip, h.ips⟩, ?_, ?_, ?_⟩ <;> intro p hp <;>
    rcases List.mem_cons.1 hp with rfl | hp
  · simp [LiveRack.newServer]
  · show (Function.update s.servers _ _ _).loaded = (Function.update s.servers _ _ _).conf
    rw [hother p hp]
    exact h.loaded p hp
  · simp [LiveRack.newServer, hhash, hsync]
  · show configHash (Function.update s.servers _ _ _).loaded = _
    rw [hother p hp]
    exact h.truthful p hp
  · intro hash hm
    exact absurd hm (htodo hash)
  · exact h.stamps p hp

theorem disappear_truthful (h : s.Inv configHash) (name : String) :
    LiveRack.Inv configHash { s with pods := s.pods.filter (·.name ≠ name) } := by
  have hsub : (s.pods.filter (·.name ≠ name)).Sublist s.pods := List.filter_sublist
  exact ⟨h.names.sublist (hsub.map _), h.ips.sublist (hsub.map _), fun p hp => h.loaded p (hsub.subset hp),
    fun p hp => h.truthful p (hsub.subset hp), fun p hp => h.stamps p (hsub.subset hp)⟩

theorem live_step_inv {t : LiveRack κ} {a : LiveStep κ} (h : s.Inv configHash) (hdyn : a.withoutDynamic)
    (hsafe : a.Safe configHash s) (hs : s.step configHash params rackID a = some t) : t.Inv configHash := by
  cases a with
  | begin env checks cluster =>
    simp only [LiveRack.step] at hs
    split at hs <;> cases hs
    exact begin_truthful h hdyn hsafe
  | emit =>
    simp only [LiveRack.step] at hs
    split at hs <;> cases hs
    rename_i e l htodo
    exact emit_truthful h htodo
  | configMap config =>
    simp only [LiveRack.step] at hs
    split at hs <;> cases hs
    exact ⟨h.names, h.ips, h.loaded, h.truthful, h.stamps⟩
  | template userHash podSpec storage =>
    simp only [LiveRack.step] at hs
    split at hs <;> cases hs
    exact ⟨h.names, h.ips, h.loaded, h.truthful, h.stamps⟩
  | create pod =>
    simp only [LiveRack.step] at hs
    split at hs <;> cases hs
    rename_i hc
    exact create_truthful h hc.1 hc.2.1 hc.2.2 hsafe.1 hsafe.2
  | disappear name =>
    cases hs
    exact disappear_truthful h name
  | report name phase conditions =>
    cases hs
    refine h.update (f := Pod.reporting name phase conditions) rfl ?_ ?_ ?_ (fun _ _ => ⟨rfl, rfl⟩) (fun _ he => he) <;>
      intro p _ <;> unfold Pod.reporting <;> split <;> rfl
  | restartContainer host =>
    cases hs
    refine h.update (f := id) (List.map_id _).symm ?_ ?_ ?_ ?_ (fun _ he => he)
    · intro p _; rfl
    · intro p _; rfl
    · intro p _; rfl
    · intro p hp
      exact onServers_loaded params s.servers _ (h.loaded p hp)

/-- In every run without dynamic updates all of whose moves are safe, the annotation of every pod is
the hash of the config its server has loaded. -/
theorem annotation_truthful {s t : LiveRack κ} {l : List (LiveStep κ)} (hstart : s.Start configHash)
    (hal : Lts.Along (LiveRack.step configHash params rackID) (fun s a => a.withoutDynamic ∧ a.Safe configHash s) s l)
    (hrun : Lts.run (LiveRack.step configHash params rackID) s l = some t) : t.Truthful configHash :=
  (Lts.run_invariant (I := LiveRack.Inv configHash) (fun _ _ _ hi hc hs => live_step_inv hi hc.1 hc.2 hs)
    hstart.inv hal hrun).truthful

end System

/-! ## A warm restart -/

/-- A rack of one pod on the config "c1"; a config stands for itself as its hash. -/
def oneLivePod : LiveRack String where
  sts := ⟨"db-0", some 1, ⟨"c1", "", ""⟩, .parallel⟩
  configMap := "c1"
  pods := [Pod.serving "db-0-0" "ce:8" "10.0.0.1" ⟨"c1", "", ""⟩]
  servers := fun _ => ⟨"c1", "c1", fun _ => none⟩
  todo := []

theorem oneLivePod_start : oneLivePod.Start id :=
  ⟨by decide, by decide, by decide, by unfold LiveRack.Truthful; decide, rfl⟩

/-- The config is edited, and the pod restarted with the exec API at hand. -/
def warmRun : List (LiveStep String) :=
  [.configMap "c2", .template none "" "", .begin (.calm true []) [] (Cluster.bare "db" "ce:8"), .emit, .emit]

/-- After a warm restart in which every call succeeds, the pod carries the new hash while its server
has loaded the old config. -/
theorem warm_restart_untruthful :
    oneLivePod.Start id ∧ (RestartEnv.calm true []).AllOk ∧ (∀ a ∈ warmRun, a.withoutDynamic) ∧
    ∃ t, Lts.run (LiveRack.step id (fun _ _ => none) 0) oneLivePod warmRun = some t ∧ t.todo = [] ∧
      ¬ t.Truthful id ∧ t.pods.map (fun p => (p.name, p.hashes.config, (t.servers p.podIP).loaded)) =
        [("db-0-0", "c2", "c1")] := by
  refine ⟨oneLivePod_start, RestartEnv.calm_allOk _ _, ?_, ?_⟩
  · intro a ha
    simp only [warmRun, List.mem_cons, List.not_mem_nil, or_false] at ha
    rcases ha with rfl | rfl | rfl | rfl | rfl <;> simp [LiveStep.withoutDynamic, Cluster.bare]
  · obtain ⟨t, ht, htodo, hpods, hloaded⟩ : ∃ t, Lts.run (LiveRack.step id (fun _ _ => none) 0) oneLivePod warmRun =
        some t ∧ t.todo = [] ∧ t.pods = [Pod.serving "db-0-0" "ce:8" "10.0.0.1" ⟨"c2", "", ""⟩] ∧
        (t.servers "10.0.0.1").loaded = "c1" := ⟨_, rfl, by decide, by decide, by decide⟩
    refine ⟨t, ht, htodo, ?_, ?_⟩
    · intro h
      have := h (Pod.serving "db-0-0" "ce:8" "10.0.0.1" ⟨"c2", "", ""⟩) (by rw [hpods]; exact List.mem_singleton.2 rfl)
      rw [show (Pod.serving "db-0-0" "ce:8" "10.0.0.1" ⟨"c2", "", ""⟩).podIP = "10.0.0.1" from rfl, hloaded] at this
      revert this
      decide
    · rw [hpods]
      show [("db-0-0", "c2", (t.servers "10.0.0.1").loaded)] = _
      rw [hloaded]

/-- The same edit without the exec API: the pod is deleted and created again. -/
def coldRun : List (LiveStep String) :=
  [.configMap "c2", .template none "" "", .begin (.calm false []) [] (Cluster.bare "db" "ce:8"), .emit,
    .disappear "db-0-0", .create (Pod.serving "db-0-0" "ce:8" "10.0.0.2" ⟨"c2", "", ""⟩)]

theorem annotation_truthful_cold :
    ∃ t, Lts.run (LiveRack.step id (fun _ _ => none) 0) oneLivePod coldRun = some t ∧ t.pods.length = 1 ∧
      t.Truthful id := by
  have hal : Lts.Along (LiveRack.step id (fun _ _ => none) 0) (fun s a => a.withoutDynamic ∧ a.Safe id s) oneLivePod
      coldRun := by
    refine .cons rfl ⟨trivial, trivial⟩ (.cons rfl ⟨trivial, trivial⟩
      (.cons rfl ⟨by simp [LiveStep.withoutDynamic, Cluster.bare], ?_⟩ (.cons rfl ⟨trivial, trivial⟩
        (.cons rfl ⟨trivial, trivial⟩ (.cons rfl ⟨trivial, rfl, ?_⟩ trivial)))))
    · intro p _ _
      rfl
    · intro hash h
      cases h
  obtain ⟨t, ht, hlen⟩ : ∃ t, Lts.run (LiveRack.step id (fun _ _ => none) 0) oneLivePod coldRun = some t ∧
      t.pods.length = 1 := ⟨_, rfl, by decide⟩
  exact ⟨t, ht, hlen, annotation_truthful oneLivePod_start hal ht⟩

end Acko
