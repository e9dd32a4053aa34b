/-
Whether the network policies converge. A reconcile looks at the object of the kind that the spec asks for and at no
other; so the object of a kind that was asked for earlier stays where the type is changed, and a Get that fails
while the feature is switched off is taken for "nothing to delete".
-/
import AckoProofs.Objects.NetworkPolicy

namespace Acko

/-! ## Calls -/

/-- A reconcile of the network policy: the cluster as it is then, how its Get fails, if it does, and how its writes
are answered. -/
structure PolicyCall where
  cluster : DeclaredCluster
  get : Option GetError
  answer : Nat → Plan.Answer ApiError

def PolicyCall.run (call : PolicyCall) (policies : Policies) :
    Option ApiError × Plan.Session Policies PolicyRequest :=
  match reconcileNetworkPolicy call.cluster call.get policies with
  | .error e => (some e, ⟨policies, 0, []⟩)
  | .ok plan => Plan.exec Policies.apply call.answer plan ⟨policies, 0, []⟩

/-- The policies after a history of reconciles of a cluster that had none. -/
def afterPolicyCalls (history : List PolicyCall) : Policies :=
  history.foldl (fun policies call => (call.run policies).2.state) ⟨none, none⟩

/-! ## What is wanted -/

/-- The stored policy has the spec and labels that the cluster is to have. -/
structure IsDesiredK8s (cluster : DeclaredCluster) (stored : StoredNetworkPolicy) : Prop where
  podSelector : stored.policy.podSelector = (buildK8sNetworkPolicy cluster (networkPolicyName cluster.name)).podSelector
  policyTypes : stored.policy.policyTypes = (buildK8sNetworkPolicy cluster (networkPolicyName cluster.name)).policyTypes
  ingress : stored.policy.ingress = (buildK8sNetworkPolicy cluster (networkPolicyName cluster.name)).ingress
  labels : stored.policy.labels = (buildK8sNetworkPolicy cluster (networkPolicyName cluster.name)).labels

structure IsDesiredCilium (cluster : DeclaredCluster) (stored : StoredCiliumPolicy) : Prop where
  spec : stored.spec = some (buildCiliumNetworkPolicySpec cluster)
  labels : stored.labels = (labelsForCluster cluster.name).toMap

def DeclaredCluster.Asks (cluster : DeclaredCluster) (kind : NetworkPolicyType) : Prop :=
  cluster.networkPolicyEnabled = true ∧ cluster.networkPolicyType = kind

/-- Exactly the policy of the kind that is asked for is there, and as desired. -/
structure PolicyConverged (cluster : DeclaredCluster) (policies : Policies) : Prop where
  k8s : cluster.Asks .kubernetes → ∃ stored, policies.k8s = some stored ∧ IsDesiredK8s cluster stored
  noK8s : ¬ cluster.Asks .kubernetes → policies.k8s = none
  cilium : cluster.Asks .cilium → ∃ stored, policies.cilium = some stored ∧ IsDesiredCilium cluster stored
  noCilium : ¬ cluster.Asks .cilium → policies.cilium = none

variable {cluster : DeclaredCluster} {policies : Policies}

theorem k8sNetworkPolicyChanged_eq_false {stored : StoredNetworkPolicy} :
    k8sNetworkPolicyChanged stored.policy (buildK8sNetworkPolicy cluster (networkPolicyName cluster.name)) = false ↔
      IsDesiredK8s cluster stored := by
  unfold k8sNetworkPolicyChanged
  simp only [Bool.or_eq_false_iff, Bool.not_eq_false', decide_eq_true_eq, decide_eq_false_iff_not, not_not]
  constructor
  · rintro ⟨⟨hselector, htypes, hingress⟩, hlabels⟩
    exact ⟨hselector, htypes, hingress, hlabels⟩
  · intro h
    exact ⟨⟨h.podSelector, h.policyTypes, h.ingress⟩, h.labels⟩

theorem ciliumPolicyChanged_eq_false {stored : StoredCiliumPolicy} :
    ciliumPolicyChanged stored (buildCiliumNetworkPolicySpec cluster) (labelsForCluster cluster.name).toMap = false ↔
      IsDesiredCilium cluster stored := by
  unfold ciliumPolicyChanged
  simp only [Bool.or_eq_false_iff, decide_eq_false_iff_not, not_not]
  constructor
  · rintro ⟨hspec, hlabels⟩
    exact ⟨hspec, hlabels⟩
  · intro h
    exact ⟨h.spec, h.labels⟩

/-! ## One reconcile -/

def KindConverged (cluster : DeclaredCluster) (policies : Policies) : NetworkPolicyType → Prop
  | .kubernetes =>
    if cluster.networkPolicyEnabled then ∃ stored, policies.k8s = some stored ∧ IsDesiredK8s cluster stored
    else policies.k8s = none
  | .cilium =>
    if cluster.networkPolicyEnabled then ∃ stored, policies.cilium = some stored ∧ IsDesiredCilium cluster stored
    else policies.cilium = none

def Policies.Lacks (policies : Policies) : NetworkPolicyType → Prop
  | .kubernetes => policies.k8s = none
  | .cilium => policies.cilium = none

def PolicyRequest.isFor : NetworkPolicyType → PolicyRequest → Prop
  | .kubernetes, .k8s _ => True
  | .cilium, .cilium _ => True
  | _, _ => False

theorem synced_iff {α : Type} {Good : α → Prop} {enabled : Bool} {object : Option α} (desired : α) :
    Plan.Synced Good (if enabled then some desired else none) object ↔
      if enabled then ∃ e, object = some e ∧ Good e else object = none := by
  cases enabled <;> exact Iff.rfl

theorem wp_reconcileNetworkPolicy (cluster : DeclaredCluster) (policies : Policies) :
    ∃ plan, reconcileNetworkPolicy cluster none policies = .ok plan ∧
      Plan.wp Policies.apply (fun _ c => c.isFor cluster.networkPolicyType)
        (KindConverged cluster · cluster.networkPolicyType) plan policies := by
  unfold reconcileNetworkPolicy
  cases cluster.networkPolicyType with
  | kubernetes =>
    refine ⟨_, rfl, Plan.wp_mono (fun t ht => (synced_iff ⟨buildK8sNetworkPolicy cluster _, some cluster.uid⟩).1 ht)
      (Plan.wp_sync Policies.k8s (IsDesiredK8s cluster) (fun _ _ => trivial) (fun _ _ => rfl) ?_ ?_ ?_)⟩
    · intro desired hwanted
      split at hwanted
      · cases hwanted
        exact ⟨rfl, rfl, rfl, rfl⟩
      · cases hwanted
    · intro stored hsame
      exact k8sNetworkPolicyChanged_eq_false.1 hsame
    · intro stored
      exact ⟨rfl, rfl, rfl, rfl⟩
  | cilium =>
    refine ⟨_, rfl,
      Plan.wp_mono (fun t ht => (synced_iff ⟨_, some cluster.uid, some (buildCiliumNetworkPolicySpec cluster)⟩).1 ht)
      (Plan.wp_sync Policies.cilium (IsDesiredCilium cluster) (fun _ _ => trivial) (fun _ _ => rfl) ?_ ?_ ?_)⟩
    · intro desired hwanted
      split at hwanted
      · cases hwanted
        exact ⟨rfl, rfl⟩
      · cases hwanted
    · intro stored hsame
      exact ciliumPolicyChanged_eq_false.1 hsame
    · intro stored
      exact ⟨rfl, rfl⟩

theorem reconcileNetworkPolicy_of_converged (h : KindConverged cluster policies cluster.networkPolicyType) :
    reconcileNetworkPolicy cluster none policies = .ok .done := by
  unfold reconcileNetworkPolicy
  cases htype : cluster.networkPolicyType with
  | kubernetes =>
    rw [htype] at h
    exact congrArg Except.ok
      (Plan.sync_eq_done (fun _ hgood => k8sNetworkPolicyChanged_eq_false.2 hgood) ((synced_iff _).2 h))
  | cilium =>
    rw [htype] at h
    exact congrArg Except.ok
      (Plan.sync_eq_done (fun _ hgood => ciliumPolicyChanged_eq_false.2 hgood) ((synced_iff _).2 h))

theorem reconcileNetworkPolicy_of_failed (cluster : DeclaredCluster) (e : GetError) (policies : Policies) :
    reconcileNetworkPolicy cluster (some e) policies = .ok .done ∨
      ∃ err, reconcileNetworkPolicy cluster (some e) policies = .error err := by
  unfold reconcileNetworkPolicy
  cases cluster.networkPolicyType <;> cases cluster.networkPolicyEnabled
  · exact Or.inl rfl
  · exact Or.inr ⟨_, rfl⟩
  · exact Or.inl rfl
  · cases e with
    | noMatch text => exact Or.inl rfl
    | forbidden text => exact Or.inl rfl
    | other text => exact Or.inr ⟨_, rfl⟩

/-! ## What a call leaves -/

variable {call : PolicyCall}

theorem run_of_failed {e : GetError} (hget : call.get = some e) (policies : Policies) :
    (call.run policies).2 = ⟨policies, 0, []⟩ := by
  unfold PolicyCall.run
  rw [hget]
  rcases reconcileNetworkPolicy_of_failed call.cluster e policies with hplan | ⟨err, hplan⟩ <;> rw [hplan]
  rfl

/-- A call does not touch the policy of another kind than its cluster asks for. -/
theorem lacks_run_iff {kind : NetworkPolicyType} (hne : kind ≠ call.cluster.networkPolicyType) :
    (call.run policies).2.state.Lacks kind ↔ policies.Lacks kind := by
  cases hget : call.get with
  | some e => rw [run_of_failed hget]
  | none =>
    obtain ⟨plan, hplan, hwp⟩ := wp_reconcileNetworkPolicy call.cluster policies
    unfold PolicyCall.run
    rw [hget, hplan]
    refine Plan.exec_keeps (I := fun s : Policies => s.Lacks kind ↔ policies.Lacks kind) ?_ hwp Iff.rfl rfl
    intro s c hfor hkept
    cases hother : call.cluster.networkPolicyType <;> rw [hother] at hfor hne <;> cases c <;> cases kind
    all_goals first
      | exact hkept
      | exact hfor.elim
      | exact absurd rfl hne

variable {t : Plan.Session Policies PolicyRequest}

theorem kindConverged_of_run (hget : call.get = none) (h : call.run policies = (none, t)) :
    KindConverged call.cluster t.state call.cluster.networkPolicyType := by
  obtain ⟨plan, hplan, hwp⟩ := wp_reconcileNetworkPolicy call.cluster policies
  unfold PolicyCall.run at h
  rw [hget, hplan] at h
  exact (Plan.exec_sound hwp h).1 rfl

theorem get_of_run (hcrd : ∀ text, call.get ≠ some (.noMatch text) ∧ call.get ≠ some (.forbidden text))
    (hon : call.cluster.networkPolicyEnabled = true) (h : call.run policies = (none, t)) : call.get = none := by
  cases hget : call.get with
  | none => rfl
  | some e =>
    unfold PolicyCall.run reconcileNetworkPolicy at h
    rw [hget, hon] at h
    cases htype : call.cluster.networkPolicyType with
    | kubernetes =>
      rw [htype] at h
      cases h
    | cilium =>
      rw [htype] at h
      cases e with
      | noMatch text => exact absurd hget (hcrd text).1
      | forbidden text => exact absurd hget (hcrd text).2
      | other text => cases h

theorem kindConverged_off (hoff : cluster.networkPolicyEnabled = false) (kind : NetworkPolicyType) :
    KindConverged cluster policies kind ↔ policies.Lacks kind := by
  cases kind <;> rw [KindConverged, hoff] <;> exact Iff.rfl

theorem policyConverged_iff : PolicyConverged cluster policies ↔
    KindConverged cluster policies cluster.networkPolicyType ∧
      ∀ kind, kind ≠ cluster.networkPolicyType → policies.Lacks kind := by
  constructor
  · intro h
    have hlacks : ∀ kind, ¬ cluster.Asks kind → policies.Lacks kind
      | .kubernetes, hasks => h.noK8s hasks
      | .cilium, hasks => h.noCilium hasks
    refine ⟨?_, fun kind hne => hlacks kind fun hasks => hne hasks.2.symm⟩
    cases hon : cluster.networkPolicyEnabled with
    | false =>
      refine (kindConverged_off hon _).2 (hlacks _ fun hasks => ?_)
      rw [hasks.1] at hon
      cases hon
    | true =>
      cases htype : cluster.networkPolicyType <;> rw [KindConverged, hon]
      · exact h.k8s ⟨hon, htype⟩
      · exact h.cilium ⟨hon, htype⟩
  · rintro ⟨hkind, hother⟩
    have hwanted : ∀ kind, cluster.Asks kind → KindConverged cluster policies kind := by
      rintro kind ⟨-, rfl⟩
      exact hkind
    have hunwanted : ∀ kind, ¬ cluster.Asks kind → policies.Lacks kind := by
      intro kind hasks
      by_cases htype : kind = cluster.networkPolicyType
      · have hoff : cluster.networkPolicyEnabled = false := by
          rw [← Bool.not_eq_true]
          exact fun hon => hasks ⟨hon, htype.symm⟩
        rw [htype]
        exact (kindConverged_off hoff _).1 hkind
      · exact hother kind htype
    refine ⟨fun hasks => ?_, hunwanted .kubernetes, fun hasks => ?_, hunwanted .cilium⟩
    · have h := hwanted _ hasks
      rw [KindConverged, hasks.1] at h
      exact h
    · have h := hwanted _ hasks
      rw [KindConverged, hasks.1] at h
      exact h

theorem run_of_converged (h : PolicyConverged cluster policies) {again : PolicyCall}
    (hcluster : again.cluster = cluster) :
    (again.run policies).2 = ⟨policies, 0, []⟩ := by
  subst hcluster
  cases hget : again.get with
  | some e => exact run_of_failed hget policies
  | none =>
    unfold PolicyCall.run
    rw [hget, reconcileNetworkPolicy_of_converged (policyConverged_iff.1 h).1]
    rfl

/-- Nothing is there that the call leaves: no policy of another kind than its cluster asks for, and where the feature
is off and the Get fails none of the kind that is asked for. -/
def PolicyCall.LeavesNone (call : PolicyCall) (policies : Policies) : Prop :=
  (∀ kind, kind ≠ call.cluster.networkPolicyType → policies.Lacks kind) ∧
  (call.cluster.networkPolicyEnabled = false → call.get = none ∨ policies.Lacks call.cluster.networkPolicyType)

theorem kindConverged_run_iff (hcrd : ∀ text, call.get ≠ some (.noMatch text) ∧ call.get ≠ some (.forbidden text))
    (hrun : call.run policies = (none, t)) :
    KindConverged call.cluster t.state call.cluster.networkPolicyType ↔
      (call.cluster.networkPolicyEnabled = false → call.get = none ∨
        policies.Lacks call.cluster.networkPolicyType) := by
  cases hget : call.get with
  | none => exact iff_of_true (kindConverged_of_run hget hrun) fun _ => Or.inl rfl
  | some e =>
    have hoff : call.cluster.networkPolicyEnabled = false := by
      rw [← Bool.not_eq_true]
      intro hon
      rw [get_of_run hcrd hon hrun] at hget
      cases hget
    have ht := run_of_failed hget policies
    rw [hrun] at ht
    rw [kindConverged_off hoff, show t.state = policies from congrArg Plan.Session.state ht]
    simp only [hoff, reduceCtorEq, false_or, true_implies]

/-- A reconcile without an error, from any policies that are there before it, leaves exactly the policy that is asked
for, as desired, and a second one writes nothing, if and only if nothing was there that it leaves. -/
theorem network_policy_converges (policies : Policies) (call : PolicyCall)
    (hcrd : ∀ text, call.get ≠ some (.noMatch text) ∧ call.get ≠ some (.forbidden text))
    {t : Plan.Session Policies PolicyRequest} (hrun : call.run policies = (none, t)) :
    (PolicyConverged call.cluster t.state ∧
      ∀ again : PolicyCall, again.cluster = call.cluster → (again.run t.state).2 = ⟨t.state, 0, []⟩) ↔
      call.LeavesNone policies := by
  have hother : (∀ kind, kind ≠ call.cluster.networkPolicyType → t.state.Lacks kind) ↔
      ∀ kind, kind ≠ call.cluster.networkPolicyType → policies.Lacks kind := by
    refine forall₂_congr fun kind hne => ?_
    have hkept : (call.run policies).2.state.Lacks kind ↔ policies.Lacks kind := lacks_run_iff hne
    rw [hrun] at hkept
    exact hkept
  rw [and_iff_left_of_imp fun h again => run_of_converged h, policyConverged_iff, kindConverged_run_iff hcrd hrun,
    hother,
    and_comm]
  exact Iff.rfl

def withPolicy (enabled : Bool) (type : NetworkPolicyType) : DeclaredCluster :=
  { DeclaredCluster.plain "demo" "aerospike:ce-8.1.1.1" 1 [.plain 1 one_lt_idBound none] with
    spec := { (DeclaredCluster.plain "demo" "aerospike:ce-8.1.1.1" 1 [.plain 1 one_lt_idBound none]).spec with
      networkPolicyConfig := some ⟨enabled, some type⟩ } }

def answeredCall (enabled : Bool) (type : NetworkPolicyType) : PolicyCall :=
  ⟨withPolicy enabled type, none, fun _ => .done⟩

/-- Switched off after a reconcile of the other kind had been undone. -/
theorem network_policy_converges_off :
    ∃ t, (answeredCall false .cilium).run (afterPolicyCalls
        [answeredCall true .kubernetes, answeredCall false .kubernetes, answeredCall true .cilium]) = (none, t) ∧
      PolicyConverged (withPolicy false .cilium) t.state ∧ t.sent.length = 1 := by
  refine ⟨_, rfl, ?_, rfl⟩
  refine ((network_policy_converges (afterPolicyCalls [answeredCall true .kubernetes, answeredCall false .kubernetes,
    answeredCall true .cilium]) (answeredCall false .cilium) ?_ rfl).2 ⟨?_, fun _ => Or.inl rfl⟩).1
  · intro text
    constructor <;> rintro ⟨⟩
  · intro kind hne
    cases kind with
    | kubernetes => rfl
    | cilium => exact absurd rfl hne

/-- The policy of Kubernetes stays where the type becomes `cilium`, and where the feature is switched off and the Get
does not get through. -/
theorem network_policy_left :
    (∃ t, (answeredCall true .cilium).run (afterPolicyCalls [answeredCall true .kubernetes]) = (none, t) ∧
      ∃ stored, t.state.k8s = some stored ∧ IsDesiredK8s (withPolicy true .kubernetes) stored) ∧
    ∃ t, PolicyCall.run ⟨withPolicy false .kubernetes, some (.other "timeout"), fun _ => .done⟩
        (afterPolicyCalls [answeredCall true .kubernetes]) = (none, t) ∧
      ∃ stored, t.state.k8s = some stored ∧ IsDesiredK8s (withPolicy true .kubernetes) stored :=
  ⟨⟨_, rfl, _, rfl, rfl, rfl, rfl, rfl⟩, _, rfl, _, rfl, rfl, rfl, rfl, rfl⟩

end Acko
