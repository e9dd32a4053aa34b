/-
What the operator does to the outside while it restarts pods, as a list of effects in order, and
the world those effects act on: the pods in the API server, the server process of each pod, and
the per-pod status of the cluster object. A reconcile function returns the calls that took effect;
a call that failed, or a command a node did not acknowledge, leaves none.
-/
import AckoProofs.Dynamic.Command
import AckoProofs.Kube.Pod

namespace Acko

/-- One effective call. Pods are named; servers are reached at their host, the pod's IP. -/
inductive Effect
  /-- The storage-hash annotation patched onto a pod. -/
  | adoptStorageHash (pod hash : String)
  /-- The config-hash annotation patched onto a pod. -/
  | updatePodConfigHash (pod hash : String)
  /-- SIGUSR1 delivered to the server of a pod. -/
  | signal (pod host : String)
  /-- A pod deleted: it terminates from now on. -/
  | delete (pod : String) (now : Time)
  /-- A set-config command acknowledged with "ok". -/
  | setConfig (host : String) (cmd : SetConfig)
  /-- `status.pods[pod].dynamicConfigStatus` patched. -/
  | dynamicConfigStatus (pod status : String)
  /-- The ConfigDegraded phase requested for these pods. -/
  | setConfigDegraded (pods : List String)
  deriving DecidableEq

/-! ## Pods -/

def Effect.onPod (p : Pod) : Effect → Pod
  | .adoptStorageHash pod hash => if p.name = pod then { p with hashes := { p.hashes with storage := hash } } else p
  | .updatePodConfigHash pod hash => if p.name = pod then { p with hashes := { p.hashes with config := hash } } else p
  | .delete pod now => if p.name = pod then { p with deletionTimestamp := some now } else p
  | _ => p

def podAfter (p : Pod) (effects : List Effect) : Pod := effects.foldl Effect.onPod p

def podsAfter (pods : List Pod) (effects : List Effect) : List Pod := pods.map (podAfter · effects)

def deletedPods (effects : List Effect) : List String :=
  effects.filterMap fun
    | .delete pod _ => some pod
    | _ => none

/-! ## Servers -/

abbrev Runtime := Param → Option String

/-- The server of a pod: the `aerospike.conf` in the pod's config directory, the one its process
last loaded, and the parameters it runs with. `κ` is the type of config files. -/
structure Server (κ : Type) where
  conf : κ
  loaded : κ
  runtime : Runtime

abbrev Servers (κ : Type) := String → Server κ

abbrev Runtimes := String → Runtime

/-- The servers after an effect; `params` gives the parameters a config file sets. A signalled
server reads its own file again. -/
def Effect.onServers {κ : Type} (params : κ → Runtime) (servers : Servers κ) : Effect → Servers κ
  | .signal _ host => Function.update servers host
      { servers host with loaded := (servers host).conf, runtime := params (servers host).conf }
  | .setConfig host cmd => Function.update servers host
      { servers host with runtime := Function.update (servers host).runtime cmd.param (some cmd.value) }
  | _ => servers

def serversAfter {κ : Type} (params : κ → Runtime) (servers : Servers κ) (effects : List Effect) : Servers κ :=
  effects.foldl (Effect.onServers params) servers

/-- The parameters of the nodes after a list of effects, signals apart. -/
def Effect.onRuntimes (rt : Runtimes) : Effect → Runtimes
  | .setConfig host cmd => Function.update rt host (Function.update (rt host) cmd.param (some cmd.value))
  | _ => rt

def runtimesAfter (rt : Runtimes) (effects : List Effect) : Runtimes := effects.foldl Effect.onRuntimes rt

/-! ## Composition -/

@[simp] theorem podAfter_nil (p : Pod) : podAfter p [] = p := rfl

@[simp] theorem podAfter_cons (p : Pod) (e : Effect) (l : List Effect) :
    podAfter p (e :: l) = podAfter (e.onPod p) l := rfl

@[simp] theorem deletedPods_append (l m : List Effect) : deletedPods (l ++ m) = deletedPods l ++ deletedPods m :=
  List.filterMap_append

@[simp] theorem deletedPods_nil : deletedPods [] = [] := rfl

theorem mem_deletedPods {name : String} {l : List Effect} : name ∈ deletedPods l ↔ ∃ now, .delete name now ∈ l := by
  unfold deletedPods
  rw [List.mem_filterMap]
  constructor
  · rintro ⟨e, he, h⟩
    cases e with
    | delete pod now => cases h; exact ⟨now, he⟩
    | _ => cases h
  · rintro ⟨now, h⟩
    exact ⟨_, h, rfl⟩

theorem serversAfter_append {κ : Type} (params : κ → Runtime) (servers : Servers κ) (l m : List Effect) :
    serversAfter params servers (l ++ m) = serversAfter params (serversAfter params servers l) m := List.foldl_append

def Effect.server : Effect → Option String
  | .signal _ host => some host
  | .setConfig host _ => some host
  | _ => none

def Effect.about : Effect → Option String
  | .adoptStorageHash pod _ => some pod
  | .updatePodConfigHash pod _ => some pod
  | .signal pod _ => some pod
  | .delete pod _ => some pod
  | .dynamicConfigStatus pod _ => some pod
  | _ => none

variable {host : String}

theorem onServers_frame {κ : Type} (params : κ → Runtime) (servers : Servers κ) {e : Effect}
    (h : e.server ≠ some host) : e.onServers params servers host = servers host := by
  cases e with
  | signal pod other => exact Function.update_of_ne (fun hh => h (congrArg some hh.symm)) _ _
  | setConfig other cmd => exact Function.update_of_ne (fun hh => h (congrArg some hh.symm)) _ _
  | _ => rfl

theorem serversAfter_frame {κ : Type} (params : κ → Runtime) : ∀ (effects : List Effect)
    (servers : Servers κ), (∀ e ∈ effects, e.server ≠ some host) →
      serversAfter params servers effects host = servers host
  | [], _, _ => rfl
  | e :: l, servers, h => by
    show serversAfter params (e.onServers params servers) l host = _
    rw [serversAfter_frame params l _ fun f hf => h f (List.mem_cons_of_mem _ hf),
      onServers_frame params servers (h e List.mem_cons_self)]

theorem onServers_loaded {κ : Type} (params : κ → Runtime) (servers : Servers κ) (e : Effect)
    (h : (servers host).loaded = (servers host).conf) :
    (e.onServers params servers host).conf = (servers host).conf ∧
      (e.onServers params servers host).loaded = (servers host).loaded := by
  by_cases hs : e.server = some host
  · cases e with
    | signal pod other => cases hs; simp [Effect.onServers, h]
    | setConfig other cmd => cases hs; simp [Effect.onServers]
    | _ => cases hs
  · rw [onServers_frame params servers hs]
    exact ⟨rfl, rfl⟩

theorem serversAfter_conf {κ : Type} (params : κ → Runtime) (host : String) : ∀ (effects : List Effect)
    (servers : Servers κ), (serversAfter params servers effects host).conf = (servers host).conf
  | [], _ => rfl
  | e :: l, servers => by
    show (serversAfter params (e.onServers params servers) l host).conf = _
    rw [serversAfter_conf params host l]
    by_cases h : e.server = some host
    · cases e with
      | signal pod other => cases h; simp [Effect.onServers]
      | setConfig other cmd => cases h; simp [Effect.onServers]
      | _ => cases h
    · rw [onServers_frame params servers h]

/-- A server that was signalled, and got no command, runs with the parameters of its own file. -/
theorem serversAfter_signalled {κ : Type} (params : κ → Runtime) : ∀ (effects : List Effect)
    (servers : Servers κ), (∀ cmd, .setConfig host cmd ∉ effects) → (∃ pod, .signal pod host ∈ effects) →
      (serversAfter params servers effects host).runtime = params (servers host).conf
  | [], _, _, h => by obtain ⟨_, h⟩ := h; cases h
  | e :: l, servers, hcmd, hsig => by
    have hcmd' : ∀ cmd, .setConfig host cmd ∉ l := fun cmd h => hcmd cmd (List.mem_cons_of_mem _ h)
    show (serversAfter params (e.onServers params servers) l host).runtime = _
    by_cases hl : ∃ pod, .signal pod host ∈ l
    · rw [serversAfter_signalled params l _ hcmd' hl]
      exact congrArg params (serversAfter_conf params host [e] servers)
    · -- the signal is the first effect, and nothing after it concerns this server
      have hrest : ∀ f ∈ l, f.server ≠ some host := by
        intro f hf h
        cases f with
        | signal pod other => cases h; exact hl ⟨pod, hf⟩
        | setConfig other cmd => cases h; exact hcmd' cmd hf
        | _ => cases h
      rw [serversAfter_frame params l _ hrest]
      obtain ⟨pod, hsig⟩ := hsig
      rcases List.mem_cons.1 hsig with rfl | hsig
      · simp [Effect.onServers]
      · exact absurd ⟨pod, hsig⟩ hl

theorem serversAfter_runtime {κ : Type} (params : κ → Runtime) : ∀ (effects : List Effect) (servers : Servers κ),
    (∀ pod host, .signal pod host ∉ effects) → ∀ host,
      (serversAfter params servers effects host).runtime =
        runtimesAfter (fun h => (servers h).runtime) effects host
  | [], _, _, _ => rfl
  | e :: l, servers, hsig, host => by
    show (serversAfter params (e.onServers params servers) l host).runtime =
      runtimesAfter (e.onRuntimes _) l host
    rw [serversAfter_runtime params l _ fun pod h hl => hsig pod h (List.mem_cons_of_mem _ hl)]
    congr 1
    cases e with
    | signal pod h => exact absurd List.mem_cons_self (hsig pod h)
    | setConfig h cmd =>
      funext g
      by_cases hg : g = h
      · subst hg; simp [Effect.onServers, Effect.onRuntimes]
      · simp [Effect.onServers, Effect.onRuntimes, Function.update_of_ne hg]
    | _ => rfl

theorem podAfter_induct {P : Pod → Prop} : ∀ {effects : List Effect} {p : Pod}, P p →
    (∀ e ∈ effects, ∀ q, P q → P (e.onPod q)) → P (podAfter p effects)
  | [], _, hp, _ => hp
  | e :: l, p, hp, h => by
    rw [podAfter_cons]
    exact podAfter_induct (h e List.mem_cons_self p hp) fun f hf => h f (List.mem_cons_of_mem _ hf)

@[simp] theorem onPod_name (e : Effect) (p : Pod) : (e.onPod p).name = p.name := by
  cases e <;> simp only [Effect.onPod] <;> split <;> rfl

@[simp] theorem podAfter_name (p : Pod) (effects : List Effect) : (podAfter p effects).name = p.name :=
  podAfter_induct (P := fun q => q.name = p.name) rfl fun e _ q hq => by rw [onPod_name, hq]

theorem podAfter_config_eq {hash : String} : ∀ {effects : List Effect} {p : Pod},
    (∀ h, .updatePodConfigHash p.name h ∈ effects → h = hash) →
    ((podAfter p effects).hashes.config = hash ↔
      p.hashes.config = hash ∨ .updatePodConfigHash p.name hash ∈ effects)
  | [], p, _ => by simp
  | e :: l, p, h => by
    have hl : ∀ h, .updatePodConfigHash (e.onPod p).name h ∈ l → h = hash := by
      intro g hg
      rw [onPod_name] at hg
      exact h g (List.mem_cons_of_mem _ hg)
    rw [podAfter_cons, podAfter_config_eq hl, onPod_name, List.mem_cons]
    cases e with
    | updatePodConfigHash pod g =>
      by_cases hp : p.name = pod
      · subst hp
        obtain rfl := h g List.mem_cons_self
        simp [Effect.onPod]
      · simp [Effect.onPod, hp]
    | adoptStorageHash pod g => by_cases hp : p.name = pod <;> simp [Effect.onPod, hp]
    | delete pod now => by_cases hp : p.name = pod <;> simp [Effect.onPod, hp]
    | _ => simp [Effect.onPod]

@[simp] theorem onPod_podIP (e : Effect) (p : Pod) : (e.onPod p).podIP = p.podIP := by
  cases e <;> simp only [Effect.onPod] <;> split <;> rfl

/-- Only the stamp of another config hash changes the one a pod has. -/
theorem onPod_config {e : Effect} {p : Pod}
    (h : ∀ hash, e = .updatePodConfigHash p.name hash → hash = p.hashes.config) :
    (e.onPod p).hashes.config = p.hashes.config := by
  cases e with
  | updatePodConfigHash pod hash =>
    simp only [Effect.onPod]
    split
    · rename_i hp
      exact h hash (by rw [hp])
    · rfl
  | adoptStorageHash pod hash => simp only [Effect.onPod]; split <;> rfl
  | delete pod now => simp only [Effect.onPod]; split <;> rfl
  | _ => rfl

theorem podsAfter_names (pods : List Pod) (effects : List Effect) :
    (podsAfter pods effects).map (·.name) = pods.map (·.name) := by
  simp [podsAfter, Function.comp_def]

end Acko
