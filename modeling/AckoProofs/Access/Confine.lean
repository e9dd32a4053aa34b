/-
What a role grants after a synchronisation that reports success. Privileges that share a key with others
survive, and the whitelist of a role never reaches the server: a new role is created without one, and that
of an existing role is left as it is.
-/
import AckoProofs.Access.Converge
import AckoProofs.Access.Lockout

namespace Acko

/-! ## Confinement -/

section Confinement

/- `covers` says which addresses are in a range of a whitelist. -/
variable {α : Type} (covers : String → α → Prop)

/-- The addresses that a whitelist of the server admits: all of them where it is empty. -/
def admits (whitelist : List String) (addr : α) : Prop := whitelist = [] ∨ ∃ range ∈ whitelist, covers range addr

/-- Addresses admitted by the server's whitelist are in that of the spec, where the spec gives one. -/
def WhitelistWithin (role : AerospikeRoleSpec) (whitelist : List String) : Prop :=
  role.whitelist ≠ [] → ∀ addr, admits covers whitelist addr → ∃ range ∈ role.whitelist, covers range addr

/-- No role of the spec holds a privilege that the spec does not list, or admits an address outside its
whitelist. -/
def Confined (acl : AccessControl) (s : AclServer) : Prop :=
  ∀ role ∈ acl.roles, ∀ r, s.roles.lookup role.name = some r →
    (∀ p ∈ r.privileges, p ∈ role.listed) ∧ WhitelistWithin covers role r.whitelist

def AclServer.whitelist (s : AclServer) (name : String) : List String :=
  match s.roles.lookup name with
  | some r => r.whitelist
  | none => []

/-- The server's whitelist for each role is within the spec's already, and the key tells apart the
privileges that have to go. -/
def Confinable (acl : AccessControl) (s : AclServer) : Prop :=
  ∀ role ∈ acl.roles, WhitelistWithin covers role (s.whitelist role.name) ∧
    ∀ r, s.roles.lookup role.name = some r → Keyed.Separates privilegeKey r.privileges role.listed

variable {covers} {acl : AccessControl} {s : AclServer} {role : AerospikeRoleSpec}

variable {t : AclServer} {name : String}

theorem whitelist_congr (h : t.roles.lookup name = s.roles.lookup name) :
    t.whitelist name = s.whitelist name := by
  unfold AclServer.whitelist
  rw [h]

theorem whitelist_of_lookup {r : ServerRole} (h : s.roles.lookup name = some r) :
    s.whitelist name = r.whitelist := by
  unfold AclServer.whitelist
  rw [h]

theorem whitelist_of_none (h : s.roles.lookup name = none) : s.whitelist name = [] := by
  unfold AclServer.whitelist
  rw [h]

theorem confinable_alter {f : ServerRole → ServerRole}
    (ht : t.roles.lookup role.name = (s.roles.lookup role.name).map f)
    (hwhitelist : ∀ r, (f r).whitelist = r.whitelist)
    (hf : ∀ r, ∀ p ∈ (f r).privileges, p ∈ r.privileges ∨ p ∈ role.listed)
    (h : WhitelistWithin covers role (s.whitelist role.name) ∧ ∀ r, s.roles.lookup role.name = some r →
      Keyed.Separates privilegeKey r.privileges role.listed) :
    WhitelistWithin covers role (t.whitelist role.name) ∧
      ∀ r, t.roles.lookup role.name = some r → Keyed.Separates privilegeKey r.privileges role.listed := by
  cases hs : s.roles.lookup role.name with
  | none =>
    rw [hs] at ht
    rw [whitelist_congr (ht.trans hs.symm)]
    refine ⟨h.1, fun r hr => ?_⟩
    rw [ht] at hr
    cases hr
  | some r =>
    rw [hs] at ht
    constructor
    · rw [whitelist_of_lookup ht, hwhitelist, ← whitelist_of_lookup hs]
      exact h.1
    · intro r' hr'
      rw [ht] at hr'
      cases hr'
      exact (h.2 r hs).of_subset (hf r)

theorem confinable_apply (hnodup : (acl.roles.map (·.name)).Nodup) (hs : Confinable covers acl s) {c : Command}
    (hc : c ∈ Script.commands (roleScript acl s.roles)) {st : AclServer} (hst : Confinable covers acl st) :
    Confinable covers acl (st.apply c) := by
  intro role hrole
  by_cases hname : c.role = some role.name
  · rw [commands_roleScript] at hc
    rcases List.mem_append.1 hc with hc | hc
    · obtain ⟨other, hother, hc⟩ := List.mem_flatMap.1 hc
      have hsame : other.name = role.name := Option.some.inj ((role_of_mem_roleSteps hc).1.symm.trans hname)
      obtain rfl := List.inj_on_of_nodup_map hnodup hother hrole hsame
      obtain ⟨privileges, hparsed, ⟨hnone, rfl⟩ | ⟨current, _, ⟨rfl, _⟩ | ⟨rfl, _⟩⟩⟩ := mem_roleSteps hc
      · -- the role did not exist: the empty whitelist admits what it admitted before
        have hlookup : (st.apply (.createRole other.name privileges [])).roles.lookup other.name =
            some ⟨privileges, []⟩ := AList.lookup_insert _
        constructor
        · rw [whitelist_of_lookup hlookup]
          have hbefore := (hs other hrole).1
          rw [whitelist_of_none hnone] at hbefore
          exact hbefore
        · intro r hr p hp hno
          rw [hlookup] at hr
          cases hr
          rw [listed_eq hparsed] at hno
          exact absurd hp hno
      · -- a grant brings in listed privileges
        refine confinable_alter (Keyed.lookup_alter_self ..) (fun _ => rfl) ?_ (hst other hrole)
        intro r p hp
        rcases List.mem_append.1 hp with hp | hp
        · exact Or.inl hp
        · rw [listed_eq hparsed]
          exact Or.inr (Keyed.mem_of_mem_missing (List.mem_filter.1 hp).1)
      · refine confinable_alter (Keyed.lookup_alter_self ..) (fun _ => rfl) ?_ (hst other hrole)
        intro r p hp
        exact Or.inl (List.mem_filter.1 hp).1
    · -- a role of the spec is not dropped
      obtain ⟨name, horphan, rfl⟩ := List.mem_map.1 hc
      have hsame : name = role.name := Option.some.inj hname
      exact absurd (hsame ▸ List.mem_map_of_mem hrole) (mem_orphanedRoles.1 horphan).2.1
  · have hlookup := lookup_role_apply (s := st) hname
    rw [whitelist_congr hlookup, hlookup]
    exact hst role hrole

theorem lookup_of_reconcileRoles {answer : AclAnswer} {s t : AclSession} (hnodup : (acl.roles.map (·.name)).Nodup)
    (h : reconcileRoles answer acl s = (none, t)) (hrole : role ∈ acl.roles) :
    t.state.roles.lookup role.name = some (syncedRole role.listed (s.state.roles.lookup role.name)) := by
  obtain ⟨hstate, hparsed⟩ := reconcileRoles_done h
  obtain ⟨privileges, hp⟩ := hparsed role hrole
  rw [hstate, listed_eq hp]
  exact (get_roleScript hnodup s.state).1 role hrole privileges hp

theorem whitelist_syncedRole (s : AclServer) (name : String) (privileges : List Privilege) :
    (syncedRole privileges (s.roles.lookup name)).whitelist = s.whitelist name := by
  cases h : s.roles.lookup name with
  | none => exact (whitelist_of_none h).symm
  | some r => exact (whitelist_of_lookup h).symm

theorem confined_iff_of_reconcileRoles {answer : AclAnswer} {s t : AclSession} (hnodup : (acl.roles.map (·.name)).Nodup)
    (h : reconcileRoles answer acl s = (none, t)) : Confined covers acl t.state ↔ Confinable covers acl s.state := by
  constructor
  · intro hconfined role hrole
    obtain ⟨hprivileges, hwhitelist⟩ := hconfined role hrole _ (lookup_of_reconcileRoles hnodup h hrole)
    rw [whitelist_syncedRole] at hwhitelist
    refine ⟨hwhitelist, fun r hr => Keyed.synced_subset_iff.1 ?_⟩
    rw [hr] at hprivileges
    exact hprivileges
  · intro hconfinable role hrole r hr
    rw [lookup_of_reconcileRoles hnodup h hrole] at hr
    cases hr
    obtain ⟨hwhitelist, hseparates⟩ := hconfinable role hrole
    refine ⟨?_, by rw [whitelist_syncedRole]; exact hwhitelist⟩
    cases hlookup : s.state.roles.lookup role.name with
    | none => exact fun p hp => hp
    | some current => exact Keyed.synced_subset_iff.2 (hseparates current hlookup)

theorem confined_congr (h : t.roles = s.roles) : Confined covers acl t ↔ Confined covers acl s := by
  unfold Confined
  rw [h]

variable {appliedSpec : Option (Option AccessControl)}

theorem confined_of_synced (hnodup : (acl.roles.map (·.name)).Nodup) {env : AclEnv} {s u : AclSession}
    (hs : Confinable covers acl s.state) (h : reconcileACL env (some acl) appliedSpec s = (⟨true, none⟩, u)) :
    Confined covers acl u.state := by
  have hkeep : ∀ s : AclSession, Confinable covers acl s.state →
      Confinable covers acl (reconcileRoles env.answer acl s).2.state := fun s hs =>
    reconcileRoles_invariant (fun c hc st hst => confinable_apply hnodup hs hc hst) hs
  obtain ⟨s', t, t', hs', ht, hroles, hu⟩ := reconcileACL_synced hkeep hs h
  have husers := roles_reconcileUsers env.answer env.secrets acl appliedSpec t'
  rw [hu] at husers
  rw [confined_congr (husers.trans hroles)]
  exact (confined_iff_of_reconcileRoles hnodup ht).2 hs'

/-! ## A healthy pass -/

theorem mapM_ok {β γ ε : Type} {f : β → Except ε γ} : ∀ {l : List β}, (∀ x ∈ l, ∃ y, f x = .ok y) →
    ∃ ys, l.mapM f = .ok ys
  | [], _ => ⟨[], rfl⟩
  | x :: l, h => by
    obtain ⟨y, hy⟩ := h x List.mem_cons_self
    obtain ⟨ys, hys⟩ := mapM_ok fun x hx => h x (List.mem_cons_of_mem _ hx)
    refine ⟨y :: ys, ?_⟩
    rw [List.mapM_cons, hy, hys]
    rfl

theorem roleParsedPrivileges_ok (h : acl.Accepted) (hrole : role ∈ acl.roles) :
    ∃ privileges, roleParsedPrivileges role = .ok privileges := by
  obtain ⟨privileges, hp⟩ := mapM_ok (h.parses role hrole)
  refine ⟨privileges, ?_⟩
  unfold roleParsedPrivileges
  rw [hp]

def healthyAclEnv : AclEnv :=
  ⟨.ok [Pod.serving "db-0-0" "ce:8" "" ⟨"", "", ""⟩], secretsWith "pw", healthyAnswer, fun _ => none⟩

theorem exists_client (acl : AccessControl) (s : AclSession) :
    ∃ t, getAerospikeClientWithRetry healthyAclEnv acl s = (none, t) ∧ t.state = s.state := by
  obtain ⟨credential, hcredential⟩ : ∃ credential, clientCredential (secretsWith "pw") acl = .ok credential := by
    unfold clientCredential
    cases acl.adminUser with
    | none => exact ⟨none, rfl⟩
    | some admin => exact ⟨some (admin.name, "pw"), rfl⟩
  have hclient : getAerospikeClient healthyAclEnv acl s = (none, ⟨s.state, s.sent ++ [.connect credential]⟩) := by
    unfold getAerospikeClient
    rw [show clientCredential healthyAclEnv.secrets acl = .ok credential from hcredential]
    rfl
  refine ⟨⟨s.state, s.sent ++ [.connect credential]⟩, ?_, rfl⟩
  unfold getAerospikeClientWithRetry clientAttempts
  rw [hclient]

theorem reconcileRoles_healthy (h : acl.Accepted) (s : AclSession) :
    ∃ t, reconcileRoles healthyAnswer acl s = (none, t) :=
  ⟨_, Script.exec_of_done (fun _ _ => rfl) (stop_not_mem_roleScript fun _ hrole => roleParsedPrivileges_ok h hrole)⟩

theorem stop_not_mem_userScript {existing : AList fun _ : String => ServerUser} (err : AclError) :
    .stop err ∉ userScript (secretsWith "pw") acl appliedSpec existing := by
  intro h
  rcases List.mem_append.1 h with h | h
  · obtain ⟨user, _, h⟩ := List.mem_flatMap.1 h
    have hread : getPasswordFromSecret (secretsWith "pw") user.secretName = .ok "pw" := rfl
    rw [userSteps, hread] at h
    cases hlookup : existing.lookup user.name with
    | none =>
      rw [hlookup] at h
      cases List.mem_singleton.1 h
    | some current =>
      simp only [hlookup] at h
      rcases List.mem_append.1 h with h | h
      · exact stop_not_mem_grantRevoke h
      · cases List.mem_singleton.1 h
  · obtain ⟨name, _, h⟩ := List.mem_map.1 h
    cases h

theorem reconcileUsers_healthy (acl : AccessControl) (appliedSpec : Option (Option AccessControl)) (s : AclSession) :
    ∃ t, reconcileUsers healthyAnswer (secretsWith "pw") acl appliedSpec s = (none, t) :=
  ⟨_, Script.exec_of_done (fun _ _ => rfl) stop_not_mem_userScript⟩

theorem reconcileACL_healthy (h : acl.Accepted) (appliedSpec : Option (Option AccessControl)) (s : AclSession) :
    ∃ s' t u, s'.state = s.state ∧ reconcileRoles healthyAnswer acl s' = (none, t) ∧ u.state.roles = t.state.roles ∧
      reconcileACL healthyAclEnv (some acl) appliedSpec s = (⟨true, none⟩, u) := by
  obtain ⟨s', hs', hstate⟩ := exists_client acl s
  obtain ⟨t, ht⟩ := reconcileRoles_healthy h s'
  obtain ⟨t', ht', hroles⟩ := exists_client acl t
  obtain ⟨u, hu⟩ := reconcileUsers_healthy acl appliedSpec t'
  have husers := roles_reconcileUsers healthyAnswer (secretsWith "pw") acl appliedSpec t'
  rw [hu, hroles] at husers
  refine ⟨s', t, u, hstate, ht, husers, ?_⟩
  have hfirst : retryOnTransientWithReconnect (getAerospikeClientWithRetry healthyAclEnv acl)
      (reconcileRoles healthyAnswer acl) s = (none, t) := by
    unfold retryOnTransientWithReconnect
    rw [hs']
    simp only [ht]
  have hsecond : retryOnTransientWithReconnect (getAerospikeClientWithRetry healthyAclEnv acl)
      (reconcileUsers healthyAnswer (secretsWith "pw") acl appliedSpec) t = (none, u) := by
    unfold retryOnTransientWithReconnect
    rw [ht']
    simp only [hu]
  have hready : [Pod.serving "db-0-0" "ce:8" "" ⟨"", "", ""⟩].any isPodReady = true := by decide
  unfold reconcileACL
  simp only [healthyAclEnv, hready, if_true] at hfirst hsecond ⊢
  simp only [hfirst, hsecond]

/-- Every pass that reports success confines the roles of the spec, exactly where the server's whitelists
are within the spec's before it and the key tells apart the privileges that have to go. -/
theorem roles_confined_iff (haccepted : validateAccessControl acl = []) (appliedSpec : Option (Option AccessControl))
    (s : AclSession) :
    (∀ env u, reconcileACL env (some acl) appliedSpec s = (⟨true, none⟩, u) → Confined covers acl u.state) ↔
      Confinable covers acl s.state := by
  have hspec := accepted_of_validate haccepted
  constructor
  · intro h
    obtain ⟨s', t, u, hstate, ht, hroles, hrun⟩ := reconcileACL_healthy hspec appliedSpec s
    have hconfined := h healthyAclEnv u hrun
    rw [confined_congr hroles, confined_iff_of_reconcileRoles hspec.roles ht, hstate] at hconfined
    exact hconfined
  · intro hs env u hrun
    exact confined_of_synced hspec.roles hs hrun

end Confinement

/-! ## A whitelist and a key -/

def sameAddress (range addr : String) : Prop := range = addr

def roleAccess (privilege : String) (whitelist : List String) : AccessControl where
  users := [⟨"admin", "admin-secret", ["sys-admin", "user-admin"]⟩]
  roles := [⟨"app", [privilege], whitelist⟩]

def securedEnv : AclEnv := (securedAttempt (secretsWith "pw")).env

theorem roles_confined_app :
    validateAccessControl (roleAccess "read.orders" ["10.0.0.1"]) = [] ∧
    ∃ u, reconcileACL securedEnv (some (roleAccess "read.orders" ["10.0.0.1"])) none
        ⟨appServer [⟨.write, "orders", ""⟩] ["10.0.0.1"], []⟩ = (⟨true, none⟩, u) ∧
      Confined sameAddress (roleAccess "read.orders" ["10.0.0.1"]) u.state := by
  have haccepted : validateAccessControl (roleAccess "read.orders" ["10.0.0.1"]) = [] := by decide +kernel
  obtain ⟨u, hu⟩ : ∃ u, reconcileACL securedEnv (some (roleAccess "read.orders" ["10.0.0.1"])) none
      ⟨appServer [⟨.write, "orders", ""⟩] ["10.0.0.1"], []⟩ = (⟨true, none⟩, u) :=
    ⟨_, Prod.ext (by decide +kernel) rfl⟩
  refine ⟨haccepted, u, hu, (roles_confined_iff haccepted none _).2 ?_ securedEnv u hu⟩
  intro role hrole
  obtain rfl := List.mem_singleton.1 hrole
  constructor
  · rintro _ addr (hempty | hrange)
    · cases hempty
    · exact hrange
  · intro r hr p hp _
    cases hr
    rw [List.mem_singleton.1 hp]
    refine ⟨by decide +kernel, fun q hq _ => List.mem_singleton.1 hq⟩

/-- A role that is created admits an address outside its whitelist; a role that was there keeps a privilege
whose key is that of a listed one. -/
theorem roles_not_confined :
    (validateAccessControl (roleAccess "read.orders" ["10.0.0.1"]) = [] ∧
      ∃ u r, reconcileACL securedEnv (some (roleAccess "read.orders" ["10.0.0.1"])) none
          ⟨adminServer "admin" "pw", []⟩ = (⟨true, none⟩, u) ∧
        u.state.roles.lookup "app" = some r ∧ admits sameAddress r.whitelist "203.0.113.9" ∧
        ¬ Confined sameAddress (roleAccess "read.orders" ["10.0.0.1"]) u.state) ∧
    validateAccessControl (roleAccess "read.a:b.c" []) = [] ∧
      ∃ u r, reconcileACL securedEnv (some (roleAccess "read.a:b.c" [])) none
          ⟨appServer [⟨.read, "a", "b:c"⟩] [], []⟩ = (⟨true, none⟩, u) ∧
        u.state.roles.lookup "app" = some r ∧ r.privileges = [⟨.read, "a", "b:c"⟩] ∧
        ¬ Confined sameAddress (roleAccess "read.a:b.c" []) u.state := by
  refine ⟨⟨by decide +kernel, ?_⟩, by decide +kernel, ?_⟩
  · obtain ⟨u, r, hrun, hr, hwhitelist⟩ : ∃ u r, reconcileACL securedEnv
        (some (roleAccess "read.orders" ["10.0.0.1"])) none ⟨adminServer "admin" "pw", []⟩ = (⟨true, none⟩, u) ∧
        u.state.roles.lookup "app" = some r ∧ r.whitelist = [] :=
      ⟨_, _, Prod.ext (by decide +kernel) rfl, rfl, by decide +kernel⟩
    refine ⟨u, r, hrun, hr, Or.inl hwhitelist, fun h => ?_⟩
    obtain ⟨_, hwithin⟩ := h _ List.mem_cons_self r hr
    obtain ⟨range, hrange, haddr⟩ := hwithin (List.cons_ne_nil _ _) "203.0.113.9" (Or.inl hwhitelist)
    rw [List.mem_singleton.1 hrange] at haddr
    exact absurd (show "10.0.0.1" = "203.0.113.9" from haddr) (by decide)
  · obtain ⟨u, r, hrun, hr, hprivileges⟩ : ∃ u r, reconcileACL securedEnv (some (roleAccess "read.a:b.c" [])) none
        ⟨appServer [⟨.read, "a", "b:c"⟩] [], []⟩ = (⟨true, none⟩, u) ∧
        u.state.roles.lookup "app" = some r ∧ r.privileges = [⟨.read, "a", "b:c"⟩] :=
      ⟨_, _, Prod.ext (by decide +kernel) rfl, rfl, by decide +kernel⟩
    refine ⟨u, r, hrun, hr, hprivileges, fun h => ?_⟩
    have hlisted := (h _ List.mem_cons_self r hr).1 ⟨.read, "a", "b:c"⟩ (hprivileges ▸ List.mem_cons_self)
    exact absurd hlisted (by decide +kernel)

end Acko
