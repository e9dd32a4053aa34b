/-
Convergence of the synchronisation: what the server holds after both phases, and that a second run finds
nothing to do. A role keeps a privilege nobody desires exactly where the key confuses it with another one
the role holds.
-/
import AckoProofs.Access.Sync

namespace Acko

/-! ## Tables -/

/-- One of the tables of the server, with the entry that a command changes in it. -/
structure SecurityTable (β : Type) where
  entries : AclServer → AList fun _ : String => β
  target : Command → Option String
  frame : ∀ {s : AclServer} {c : Command} {name : String}, target c ≠ some name →
    (entries (s.apply c)).lookup name = (entries s).lookup name

def roleTable : SecurityTable ServerRole := ⟨AclServer.roles, Command.role, lookup_role_apply⟩

def userTable : SecurityTable ServerUser := ⟨AclServer.users, Command.user, lookup_user_apply⟩

namespace SecurityTable

variable {β : Type} (T : SecurityTable β)

def get (s : AclServer) (name : String) : Option β := (T.entries s).lookup name

variable {T}

variable {name : String}

/-- Commands that change the entry of a name, sent unless there is nothing to change in it. -/
theorem get_unless {α : Type} [DecidableEq α] {c : List α → Command} {f : List α → β → β} {items : List α}
    {s : AclServer} (happly : T.entries (s.apply (c items)) = Keyed.alter name (f items) (T.entries s))
    (hnil : ∀ b, f [] b = b) :
    T.get ((if items = [] then [] else [c items]).foldl AclServer.apply s) name = (T.get s name).map (f items) := by
  split
  · rename_i h
    rw [h, show f [] = id from funext hnil, Option.map_id]
    rfl
  · show (T.entries (s.apply (c items))).lookup name = _
    rw [happly]
    exact Keyed.lookup_alter_self ..

theorem get_drops {d : String → Command} (hdrop : ∀ (s : AclServer) name, T.get (s.apply (d name)) name = none)
    (htarget : ∀ name, T.target (d name) = some name) : ∀ (names : List String) (s : AclServer),
    T.get ((names.map d).foldl AclServer.apply s) name = if name ∈ names then none else T.get s name
  | [], s => by simp
  | first :: rest, s => by
    rw [List.map_cons, List.foldl_cons, get_drops hdrop htarget rest]
    by_cases hfirst : name = first
    · subst hfirst
      simp [hdrop]
    · have hframe : T.get (s.apply (d first)) name = T.get s name :=
        T.frame fun h => hfirst (Option.some.inj ((htarget first).symm.trans h)).symm
      simp [hframe, hfirst]

section Phase

variable {ι : Type} {n : ι → String} {f : ι → List Command} {d : String → Command} {items : List ι}
  {orphans : List String} {s : AclServer} {kept : String → Prop}
  (hitems : ∀ i ∈ items, ∀ c ∈ f i, T.target c = some (n i))
  (hdrop : ∀ (s : AclServer) name, T.get (s.apply (d name)) name = none)
  (htarget : ∀ name, T.target (d name) = some name)
  (horphans : ∀ {name}, name ∈ orphans ↔ name ∈ T.entries s ∧ name ∉ items.map n ∧ ¬ kept name)

include hitems hdrop htarget horphans

/-- A phase treats the items one by one, each its own entry, and then drops the orphans: the entry of an
item is what its own commands make of it. -/
theorem get_phase_of_mem {i : ι} (hi : i ∈ items) (hnodup : (items.map n).Nodup) :
    ∃ t, T.get t (n i) = T.get s (n i) ∧
      T.get ((items.flatMap f ++ orphans.map d).foldl AclServer.apply s) (n i) =
        T.get ((f i).foldl AclServer.apply t) (n i) := by
  rw [List.foldl_append, get_drops hdrop htarget, if_neg fun h => (horphans.1 h).2.1 (List.mem_map_of_mem hi)]
  refine Script.foldl_flatMap_view (v := fun s => T.get s (n i)) hi hnodup ?_
  intro j hj hne c hc st
  refine T.frame ?_
  rw [hitems j hj c hc]
  exact fun h => hne (Option.some.inj h)

theorem get_phase_of_not_mem [DecidablePred kept] (hname : name ∉ items.map n) :
    T.get ((items.flatMap f ++ orphans.map d).foldl AclServer.apply s) name =
      if kept name then T.get s name else none := by
  have hframe : T.get ((items.flatMap f).foldl AclServer.apply s) name = T.get s name := by
    refine Script.foldl_frame (v := fun s => T.get s name) fun c hc st => T.frame ?_
    obtain ⟨i, hi, hc⟩ := List.mem_flatMap.1 hc
    rw [hitems i hi c hc]
    exact fun h => hname (Option.some.inj h ▸ List.mem_map_of_mem hi)
  rw [List.foldl_append, get_drops hdrop htarget, hframe]
  -- what the server had and no item names is dropped, but for what is kept
  by_cases hkept : kept name
  · rw [if_pos hkept, if_neg fun h => (horphans.1 h).2.2 hkept]
  · rw [if_neg hkept]
    split
    · rfl
    · rename_i hno
      exact AList.lookup_eq_none.2 fun hin => hno (horphans.2 ⟨hin, hname, hkept⟩)

end Phase

end SecurityTable

/-! ## The tables after a phase -/

def AerospikeRoleSpec.listed (role : AerospikeRoleSpec) : List Privilege :=
  match roleParsedPrivileges role with
  | .ok privileges => privileges
  | .error _ => []

variable (privileges : List Privilege)

def syncedRole : Option ServerRole → ServerRole
  | none => ⟨privileges, []⟩
  | some role => { role with privileges := Keyed.synced privilegeKey role.privileges privileges }

def syncedUser (user : AerospikeUserSpec) (password : String) : Option ServerUser → ServerUser
  | none => ⟨password, user.roles⟩
  | some current => ⟨password, Keyed.synced id current.roles user.roles⟩

theorem get_grantPrivileges (s : AclServer) (name : String) (privileges : List Privilege) :
    roleTable.get ((if privileges = [] then [] else [.grantPrivileges name privileges]).foldl AclServer.apply s) name =
      (roleTable.get s name).map fun r =>
        { r with privileges := r.privileges ++ privileges.filter (· ∉ r.privileges) } := by
  apply SecurityTable.get_unless (T := roleTable) (c := .grantPrivileges name)
  · rfl
  · simp

theorem get_revokePrivileges (s : AclServer) (name : String) (privileges : List Privilege) :
    roleTable.get ((if privileges = [] then [] else [.revokePrivileges name privileges]).foldl AclServer.apply s) name =
      (roleTable.get s name).map fun r => { r with privileges := r.privileges.filter (· ∉ privileges) } := by
  apply SecurityTable.get_unless (T := roleTable) (c := .revokePrivileges name)
  · rfl
  · simp

theorem get_grantRoles (s : AclServer) (name : String) (roles : List String) :
    userTable.get ((if roles = [] then [] else [.grantRoles name roles]).foldl AclServer.apply s) name =
      (userTable.get s name).map fun u => { u with roles := u.roles ++ roles.filter (· ∉ u.roles) } := by
  apply SecurityTable.get_unless (T := userTable) (c := .grantRoles name)
  · rfl
  · simp

theorem get_revokeRoles (s : AclServer) (name : String) (roles : List String) :
    userTable.get ((if roles = [] then [] else [.revokeRoles name roles]).foldl AclServer.apply s) name =
      (userTable.get s name).map fun u => { u with roles := u.roles.filter (· ∉ roles) } := by
  apply SecurityTable.get_unless (T := userTable) (c := .revokeRoles name)
  · rfl
  · simp

theorem get_changePassword (s : AclServer) (name password : String) :
    userTable.get (s.apply (.changePassword name password)) name =
      (userTable.get s name).map fun u => { u with password := password } :=
  Keyed.lookup_alter_self ..

variable {role : AerospikeRoleSpec}

theorem get_roleSteps {s : AclServer} {existing : AList fun _ : String => ServerRole}
    (h : roleTable.get s role.name = existing.lookup role.name) {privileges : List Privilege}
    (hparsed : roleParsedPrivileges role = .ok privileges) :
    roleTable.get ((Script.commands (roleSteps existing role)).foldl AclServer.apply s) role.name =
      some (syncedRole privileges (existing.lookup role.name)) := by
  unfold roleSteps
  rw [hparsed]
  cases hlookup : existing.lookup role.name with
  | none => exact AList.lookup_insert _
  | some current =>
    simp only [commands_within, syncRolePrivileges, Script.commands_append, commands_sendUnlessEmpty, List.foldl_append]
    rw [get_revokePrivileges, get_grantPrivileges, h, hlookup]
    rfl

theorem get_userSteps {s : AclServer} {secrets : String → SecretReply} {existing : AList fun _ : String => ServerUser}
    {user : AerospikeUserSpec} (h : userTable.get s user.name = existing.lookup user.name) {password : String}
    (hsecret : getPasswordFromSecret secrets user.secretName = .ok password) :
    userTable.get ((Script.commands (userSteps secrets existing user)).foldl AclServer.apply s) user.name =
      some (syncedUser user password (existing.lookup user.name)) := by
  unfold userSteps
  rw [hsecret]
  cases hlookup : existing.lookup user.name with
  | none => exact AList.lookup_insert _
  | some current =>
    simp only [Script.commands_append, commands_within, syncUserRoles, commands_sendUnlessEmpty, List.foldl_append]
    refine (get_changePassword ..).trans ?_
    rw [get_revokeRoles, get_grantRoles, h, hlookup]
    rfl

theorem get_roleScript {acl : AccessControl} (hroles : (acl.roles.map (·.name)).Nodup) (s : AclServer) :
    (∀ role ∈ acl.roles, ∀ privileges, roleParsedPrivileges role = .ok privileges →
      roleTable.get ((Script.commands (roleScript acl s.roles)).foldl AclServer.apply s) role.name =
        some (syncedRole privileges (roleTable.get s role.name))) ∧
    ∀ name ∉ acl.roles.map (·.name),
      roleTable.get ((Script.commands (roleScript acl s.roles)).foldl AclServer.apply s) name =
        if name ∈ builtinRoles then roleTable.get s name else none := by
  have hitems : ∀ role ∈ acl.roles, ∀ c ∈ Script.commands (roleSteps s.roles role),
      roleTable.target c = some role.name := fun role _ c hc => (role_of_mem_roleSteps hc).1
  have hdrop : ∀ s name, roleTable.get (AclServer.apply s (.dropRole name)) name = none := fun s name =>
    AList.lookup_erase name s.roles
  rw [commands_roleScript]
  constructor
  · intro role hrole privileges hparsed
    obtain ⟨t, ht, hget⟩ :=
      SecurityTable.get_phase_of_mem (s := s) hitems hdrop (fun _ => rfl) mem_orphanedRoles hrole hroles
    exact hget.trans (get_roleSteps ht hparsed)
  · intro name hname
    exact SecurityTable.get_phase_of_not_mem hitems hdrop (fun _ => rfl) mem_orphanedRoles hname

theorem get_userScript {acl : AccessControl} (husers : (acl.users.map (·.name)).Nodup)
    (secrets : String → SecretReply) (appliedSpec : Option (Option AccessControl)) (s : AclServer) :
    (∀ user ∈ acl.users, ∀ password, getPasswordFromSecret secrets user.secretName = .ok password →
      userTable.get ((Script.commands (userScript secrets acl appliedSpec s.users)).foldl AclServer.apply s) user.name =
        some (syncedUser user password (userTable.get s user.name))) ∧
    ∀ name ∉ acl.users.map (·.name),
      userTable.get ((Script.commands (userScript secrets acl appliedSpec s.users)).foldl AclServer.apply s) name =
        if isProtectedUser acl.adminUser (prevAdminUser appliedSpec) name then userTable.get s name else none := by
  have hitems : ∀ user ∈ acl.users, ∀ c ∈ Script.commands (userSteps secrets s.users user),
      userTable.target c = some user.name := fun user _ c hc => (user_of_mem_userSteps hc).1
  have hdrop : ∀ s name, userTable.get (AclServer.apply s (.dropUser name)) name = none := fun s name =>
    AList.lookup_erase name s.users
  rw [commands_userScript]
  constructor
  · intro user huser password hsecret
    obtain ⟨t, ht, hget⟩ :=
      SecurityTable.get_phase_of_mem (s := s) hitems hdrop (fun _ => rfl) mem_orphanedUsers huser husers
    exact hget.trans (get_userSteps ht hsecret)
  · intro name hname
    exact SecurityTable.get_phase_of_not_mem hitems hdrop (fun _ => rfl) mem_orphanedUsers hname

theorem listed_eq {privileges : List Privilege} (h : roleParsedPrivileges role = .ok privileges) :
    role.listed = privileges := by
  rw [AerospikeRoleSpec.listed, h]

/-- The tables after both phases, entry by entry. -/
structure SyncedFrom (secrets : String → SecretReply) (acl : AccessControl)
    (appliedSpec : Option (Option AccessControl)) (s u : AclServer) : Prop where
  role : ∀ role ∈ acl.roles, u.roles.lookup role.name = some (syncedRole role.listed (s.roles.lookup role.name))
  otherRole : ∀ name ∉ acl.roles.map (·.name),
    u.roles.lookup name = if name ∈ builtinRoles then s.roles.lookup name else none
  user : ∀ user ∈ acl.users, ∃ password,
    u.users.lookup user.name = some (syncedUser user password (s.users.lookup user.name))
  otherUser : ∀ name ∉ acl.users.map (·.name),
    u.users.lookup name =
      if isProtectedUser acl.adminUser (prevAdminUser appliedSpec) name then s.users.lookup name else none

theorem syncedFrom_of_done {answer : AclAnswer} {secrets : String → SecretReply} {acl : AccessControl}
    {appliedSpec : Option (Option AccessControl)} {s t u : AclSession} (haccepted : acl.Accepted)
    (hroles : reconcileRoles answer acl s = (none, t))
    (husers : reconcileUsers answer secrets acl appliedSpec t = (none, u)) :
    SyncedFrom secrets acl appliedSpec s.state u.state := by
  obtain ⟨hstate, hparsed⟩ := reconcileRoles_done hroles
  obtain ⟨hstate', hpassword⟩ := reconcileUsers_done husers
  -- each phase changes its own table, so the tables are looked at apart
  have hkeepRoles : u.state.roles = t.state.roles := by
    have := roles_reconcileUsers answer secrets acl appliedSpec t
    rwa [husers] at this
  have hkeepUsers : t.state.users = s.state.users := by
    have := users_reconcileRoles answer acl s
    rwa [hroles] at this
  obtain ⟨hrole, hotherRole⟩ := get_roleScript haccepted.roles s.state
  obtain ⟨huser, hotherUser⟩ := get_userScript haccepted.users secrets appliedSpec t.state
  rw [← hstate] at hrole hotherRole
  rw [← hstate'] at huser hotherUser
  refine ⟨?_, ?_, ?_, ?_⟩
  · intro role hmem
    obtain ⟨privileges, hp⟩ := hparsed role hmem
    rw [hkeepRoles, listed_eq hp]
    exact hrole role hmem privileges hp
  · intro name hname
    rw [hkeepRoles]
    exact hotherRole name hname
  · intro user hmem
    obtain ⟨password, hp⟩ := hpassword user hmem
    refine ⟨password, ?_⟩
    rw [← hkeepUsers]
    exact huser user hmem password hp
  · intro name hname
    rw [← hkeepUsers]
    exact hotherUser name hname

/-! ## Convergence -/

/-- The non-builtin roles of the server are those of the spec, with the privileges of the spec; the users
of the spec have its roles; and no other user is left but the admin, or the previous one during a rename. -/
structure Converged (acl : AccessControl) (appliedSpec : Option (Option AccessControl)) (s : AclServer) : Prop where
  roles : ∀ name ∉ builtinRoles, name ∈ s.roles ↔ name ∈ acl.roles.map (·.name)
  privileges : ∀ role ∈ acl.roles, role.name ∉ builtinRoles → ∀ r, s.roles.lookup role.name = some r →
    ∀ p, p ∈ r.privileges ↔ p ∈ role.listed
  users : ∀ user ∈ acl.users, ∃ u, s.users.lookup user.name = some u ∧ ∀ r, r ∈ u.roles ↔ r ∈ user.roles
  others : ∀ name ∈ s.users, name ∉ acl.users.map (·.name) → ∃ admin, acl.adminUser = some admin ∧
    (name = admin.name ∨ ∃ prev, prevAdminUser appliedSpec = some prev ∧ name = prev.name ∧ prev.name ≠ admin.name)

/-- The command creates, grants, revokes or drops. -/
def Command.isChange : Command → Bool
  | .connect _ => false
  | .queryRoles => false
  | .queryUsers => false
  | .changePassword _ _ => false
  | _ => true

/-- However the calls are answered, running both phases again changes nothing but passwords. -/
def AclSettled (secrets : String → SecretReply) (acl : AccessControl) (appliedSpec : Option (Option AccessControl))
    (s : AclServer) : Prop :=
  ∀ answer, (∀ c ∈ (reconcileRoles answer acl ⟨s, []⟩).2.sent, c.isChange = false) ∧
    ∀ c ∈ (reconcileUsers answer secrets acl appliedSpec (reconcileRoles answer acl ⟨s, []⟩).2).2.sent,
      c.isChange = false

theorem mem_synced_id {current desired : List String} {r : String} :
    r ∈ Keyed.synced id current desired ↔ r ∈ desired := by
  refine ⟨fun h => ?_, fun h => ?_⟩
  · exact Keyed.synced_subset_iff.2 (fun a _ hno => ⟨fun b hb he => hno (he ▸ hb), fun _ _ he => he⟩) r h
  · exact Keyed.subset_synced (fun _ _ _ _ he => he) (fun _ _ _ _ he => he) r h

theorem isProtectedUser_iff {admin prev : Option AerospikeUserSpec} {name : String} :
    isProtectedUser admin prev name = true ↔ ∃ a, admin = some a ∧
      (name = a.name ∨ ∃ p, prev = some p ∧ name = p.name ∧ p.name ≠ a.name) := by
  cases admin <;> cases prev <;> simp [isProtectedUser]

section Exact

variable {secrets : String → SecretReply} {acl : AccessControl} {appliedSpec : Option (Option AccessControl)}
  {s u : AclServer}

def ExactPrivileges (acl : AccessControl) (s : AclServer) : Prop :=
  ∀ role ∈ acl.roles, ∀ r, s.roles.lookup role.name = some r → ∀ p, p ∈ r.privileges ↔ p ∈ role.listed

section Synced

variable (h : SyncedFrom secrets acl appliedSpec s u)

include h

theorem SyncedFrom.roles_iff {name : String}
    (hname : name ∉ builtinRoles) : name ∈ u.roles ↔ name ∈ acl.roles.map (·.name) := by
  constructor
  · intro hin
    by_contra hno
    have hnone := h.otherRole name hno
    rw [if_neg hname] at hnone
    exact AList.lookup_eq_none.1 hnone hin
  · intro hmem
    obtain ⟨role, hrole, rfl⟩ := List.mem_map.1 hmem
    rw [← AList.lookup_isSome, h.role role hrole]
    rfl

theorem SyncedFrom.users_exact {user : AerospikeUserSpec}
    (huser : user ∈ acl.users) : ∃ current, u.users.lookup user.name = some current ∧
      ∀ r, r ∈ current.roles ↔ r ∈ user.roles := by
  obtain ⟨password, hlookup⟩ := h.user user huser
  refine ⟨_, hlookup, fun r => ?_⟩
  cases s.users.lookup user.name with
  | none => exact Iff.rfl
  | some current => exact mem_synced_id

theorem SyncedFrom.others {name : String} (hin : name ∈ u.users)
    (hname : name ∉ acl.users.map (·.name)) :
    isProtectedUser acl.adminUser (prevAdminUser appliedSpec) name = true := by
  by_contra hno
  have hnone := h.otherUser name hname
  rw [if_neg hno] at hnone
  exact AList.lookup_eq_none.1 hnone hin

theorem SyncedFrom.converged (hexact : ExactPrivileges acl u) :
    Converged acl appliedSpec u :=
  ⟨fun _ hname => h.roles_iff hname, fun role hrole _ => hexact role hrole, fun _ huser => h.users_exact huser,
    fun _ hin hname => isProtectedUser_iff.1 (h.others hin hname)⟩

theorem SyncedFrom.roleScript_quiet (hexact : ExactPrivileges acl u)
    {c : Command} (hc : c ∈ Script.commands (roleScript acl u.roles)) : False := by
  rw [commands_roleScript] at hc
  rcases List.mem_append.1 hc with hc | hc
  · obtain ⟨role, hrole, hc⟩ := List.mem_flatMap.1 hc
    obtain ⟨privileges, hparsed, ⟨hnone, _⟩ | ⟨current, hsome, hdiff⟩⟩ := mem_roleSteps hc
    · rw [h.role role hrole] at hnone
      cases hnone
    · have hsame := hexact role hrole current hsome
      rw [listed_eq hparsed] at hsame
      rcases hdiff with ⟨_, hne⟩ | ⟨_, hne⟩
      · exact hne (Keyed.missing_eq_nil.2 fun p hp => ⟨p, (hsame p).2 hp, rfl⟩)
      · exact hne (Keyed.missing_eq_nil.2 fun p hp => ⟨p, (hsame p).1 hp, rfl⟩)
  · obtain ⟨name, hname, _⟩ := List.mem_map.1 hc
    obtain ⟨hin, hno, hbuiltin⟩ := mem_orphanedRoles.1 hname
    exact hno ((h.roles_iff hbuiltin).1 hin)

theorem SyncedFrom.userScript_quiet {c : Command}
    (hc : c ∈ Script.commands (userScript secrets acl appliedSpec u.users)) : c.isChange = false := by
  rw [commands_userScript] at hc
  rcases List.mem_append.1 hc with hc | hc
  · obtain ⟨user, huser, hc⟩ := List.mem_flatMap.1 hc
    obtain ⟨current', hlookup, hsame⟩ := h.users_exact huser
    obtain ⟨password, _, ⟨hnone, _⟩ | ⟨current, hsome, hdiff⟩⟩ := mem_userSteps hc
    · rw [hlookup] at hnone
      cases hnone
    · rw [hlookup] at hsome
      cases hsome
      rcases hdiff with ⟨_, hne⟩ | ⟨_, hne⟩ | rfl
      · exact absurd (Keyed.missing_eq_nil.2 fun r hr => ⟨r, (hsame r).2 hr, rfl⟩) hne
      · exact absurd (Keyed.missing_eq_nil.2 fun r hr => ⟨r, (hsame r).1 hr, rfl⟩) hne
      · rfl
  · obtain ⟨name, hname, _⟩ := List.mem_map.1 hc
    obtain ⟨hin, hno, hkept⟩ := mem_orphanedUsers.1 hname
    exact absurd (h.others hin hno) hkept

theorem SyncedFrom.settled (hexact : ExactPrivileges acl u) :
    AclSettled secrets acl appliedSpec u := by
  intro answer
  have hfirst : ∀ c ∈ (reconcileRoles answer acl ⟨u, []⟩).2.sent, c.isChange = false := by
    intro c hc
    rcases mem_sent_reconcileRoles hc with (hc | rfl) | hc
    · cases hc
    · rfl
    · exact (h.roleScript_quiet hexact hc).elim
  refine ⟨hfirst, fun c hc => ?_⟩
  rcases mem_sent_reconcileUsers hc with (hc | rfl) | hc
  · exact hfirst c hc
  · rfl
  · rw [users_reconcileRoles] at hc
    exact h.userScript_quiet hc

end Synced

variable {existing : AList fun _ : String => ServerRole}

theorem stop_not_mem_roleScript
    (hparsed : ∀ role ∈ acl.roles, ∃ privileges, roleParsedPrivileges role = .ok privileges) (err : AclError) :
    .stop err ∉ roleScript acl existing := by
  intro h
  rcases List.mem_append.1 h with h | h
  · obtain ⟨role, hrole, h⟩ := List.mem_flatMap.1 h
    obtain ⟨privileges, hp⟩ := hparsed role hrole
    rw [roleSteps, hp] at h
    cases hlookup : existing.lookup role.name with
    | none =>
      rw [hlookup] at h
      cases List.mem_singleton.1 h
    | some current =>
      simp only [hlookup] at h
      exact stop_not_mem_grantRevoke h
  · obtain ⟨name, _, h⟩ := List.mem_map.1 h
    cases h

theorem AclSettled.keys_listed (h : AclSettled secrets acl appliedSpec u)
    (hparsed : ∀ role ∈ acl.roles, ∃ privileges, roleParsedPrivileges role = .ok privileges)
    (hrole : role ∈ acl.roles) {r : ServerRole} (hr : u.roles.lookup role.name = some r) :
    ∀ p ∈ r.privileges, ∃ q ∈ role.listed, privilegeKey q = privilegeKey p := by
  obtain ⟨privileges, hp⟩ := hparsed role hrole
  rw [listed_eq hp, ← Keyed.missing_eq_nil]
  by_contra hne
  -- a server that answers every call would be sent a revocation
  have hrun : reconcileRoles (fun _ _ => .done) acl ⟨u, []⟩ =
      Script.exec AclServer.apply (fun _ _ => .done) ⟨u, [] ++ [.queryRoles]⟩ (roleScript acl u.roles) := rfl
  have hmem : Command.revokePrivileges role.name (Keyed.missing privilegeKey r.privileges privileges) ∈
      Script.commands (roleScript acl u.roles) := by
    rw [commands_roleScript]
    refine List.mem_append_left _ (List.mem_flatMap.2 ⟨role, hrole, ?_⟩)
    rw [roleSteps, hp, hr]
    simp only [commands_within, syncRolePrivileges, Script.commands_append, commands_sendUnlessEmpty, hne, if_false]
    exact List.mem_append_right _ List.mem_cons_self
  have hsent := (h fun _ _ => .done).1
    (.revokePrivileges role.name (Keyed.missing privilegeKey r.privileges privileges))
  rw [hrun, Script.exec_of_done (fun _ _ => rfl) (stop_not_mem_roleScript hparsed)] at hsent
  cases hsent (List.mem_append_right _ hmem)

end Exact

/-- The key tells the privileges of the role apart. -/
def ServerRole.Distinct (r : ServerRole) : Prop :=
  ∀ p ∈ r.privileges, ∀ q ∈ r.privileges, privilegeKey q = privilegeKey p → q = p

theorem separates_iff_distinct {r : ServerRole} {desired : List Privilege} (hplain : ∀ p ∈ desired, p.Plain) :
    Keyed.Separates privilegeKey r.privileges desired ↔ r.Distinct := by
  constructor
  · intro h p hp q hq hkey
    by_cases hdes : p ∈ desired
    · exact eq_of_privilegeKey_eq (hplain p hdes) hkey
    · exact (h p hp hdes).2 q hq hkey
  · intro h p hp hno
    refine ⟨fun q hq hkey => ?_, fun q hq hkey => h p hp q hq hkey⟩
    rw [eq_of_privilegeKey_eq (hplain q hq) hkey.symm] at hno
    exact hno hq

/-- Both phases converge, and a second run is quiet, exactly where the key tells apart the privileges that
each role of the spec has on the server. -/
theorem acl_converges_iff {acl : AccessControl} (haccepted : validateAccessControl acl = [])
    (hplain : ∀ role ∈ acl.roles, ∀ p ∈ role.listed, p.Plain) {answer : AclAnswer} {secrets : String → SecretReply}
    {appliedSpec : Option (Option AccessControl)} {s t u : AclSession}
    (hroles : reconcileRoles answer acl s = (none, t))
    (husers : reconcileUsers answer secrets acl appliedSpec t = (none, u)) :
    (Converged acl appliedSpec u.state ∧ AclSettled secrets acl appliedSpec u.state) ↔
      ∀ role ∈ acl.roles, ∀ r, s.state.roles.lookup role.name = some r → r.Distinct := by
  have hsynced := syncedFrom_of_done (accepted_of_validate haccepted) hroles husers
  have hparsed := (reconcileRoles_done hroles).2
  constructor
  · rintro ⟨_, hsettled⟩ role hrole r hr
    rw [← separates_iff_distinct (hplain role hrole), ← Keyed.synced_subset_iff]
    intro p hp
    have hlookup := hsynced.role role hrole
    rw [hr] at hlookup
    -- a quiet second run leaves only keys that are listed, and a listed privilege is told by its key
    obtain ⟨q, hq, hkey⟩ := hsettled.keys_listed hparsed hrole hlookup p hp
    rw [eq_of_privilegeKey_eq (hplain role hrole q hq) hkey.symm]
    exact hq
  · intro hdistinct
    have hexact : ExactPrivileges acl u.state := by
      intro role hrole r hr p
      rw [hsynced.role role hrole] at hr
      cases hr
      cases hlookup : s.state.roles.lookup role.name with
      | none => exact Iff.rfl
      | some current =>
        have hsep := (separates_iff_distinct (hplain role hrole)).2 (hdistinct role hrole current hlookup)
        refine ⟨Keyed.synced_subset_iff.2 hsep p, ?_⟩
        have htold : ∀ p ∈ role.listed, ∀ q, privilegeKey q = privilegeKey p → q = p := fun p hp q hkey =>
          eq_of_privilegeKey_eq (hplain role hrole p hp) hkey
        exact Keyed.subset_synced (fun p hp q _ => htold p hp q) (fun p hp q _ => htold p hp q) p
    exact ⟨hsynced.converged hexact, hsynced.settled hexact⟩

def appAccess : AccessControl where
  users := [⟨"admin", "admin-secret", ["sys-admin", "user-admin"]⟩]
  roles := [⟨"app", ["read.orders"], []⟩]

def appServer (whitelist : List String) : AclServer where
  roles := (∅ : AList fun _ : String => ServerRole).insert "app" ⟨privileges, whitelist⟩
  users := (∅ : AList fun _ : String => ServerUser).insert "admin" ⟨"pw", ["sys-admin", "user-admin"]⟩

def healthyAnswer : AclAnswer := fun _ _ => .done

def appSession : AclSession := ⟨appServer privileges [], []⟩

theorem acl_converges_app : validateAccessControl appAccess = [] ∧
    ∃ t u, reconcileRoles healthyAnswer appAccess (appSession [⟨.write, "orders", ""⟩]) = (none, t) ∧
      reconcileUsers healthyAnswer (secretsWith "pw") appAccess none t = (none, u) ∧
      Converged appAccess none u.state ∧ AclSettled (secretsWith "pw") appAccess none u.state := by
  have haccepted : validateAccessControl appAccess = [] := by decide +kernel
  have hplain : ∀ role ∈ appAccess.roles, ∀ p ∈ role.listed, p.Plain := by decide +kernel
  obtain ⟨t, ht⟩ : ∃ t, reconcileRoles healthyAnswer appAccess (appSession [⟨.write, "orders", ""⟩]) = (none, t) :=
    ⟨_, Prod.ext (by decide +kernel) rfl⟩
  obtain ⟨u, hu⟩ : ∃ u, reconcileUsers healthyAnswer (secretsWith "pw") appAccess none
      (reconcileRoles healthyAnswer appAccess (appSession [⟨.write, "orders", ""⟩])).2 = (none, u) :=
    ⟨_, Prod.ext (by decide +kernel) rfl⟩
  rw [ht] at hu
  have hboth := (acl_converges_iff haccepted hplain ht hu).2 ?_
  · exact ⟨haccepted, t, u, ht, hu, hboth⟩
  · intro role hrole r hr p hp q hq _
    obtain rfl := List.mem_singleton.1 hrole
    cases hr
    rw [List.mem_singleton.1 hp, List.mem_singleton.1 hq]

/-- Two privileges of the role that the key takes for one. -/
def confusedPrivileges : List Privilege := [⟨.read, "a:b", "c"⟩, ⟨.read, "a", "b:c"⟩]

/-- A run without an error leaves the first of them, which the spec does not list; the next run revokes it. -/
theorem confused_privilege_survives : validateAccessControl appAccess = [] ∧
    (∀ role ∈ appAccess.roles, ∀ p ∈ role.listed, p.Plain) ∧
    ∃ t u, reconcileRoles healthyAnswer appAccess (appSession confusedPrivileges) = (none, t) ∧
      reconcileUsers healthyAnswer (secretsWith "pw") appAccess none t = (none, u) ∧
      (u.state.roles.lookup "app").map (·.privileges) = some [⟨.read, "a:b", "c"⟩, ⟨.read, "orders", ""⟩] ∧
      ¬ Converged appAccess none u.state ∧ ¬ AclSettled (secretsWith "pw") appAccess none u.state := by
  refine ⟨by decide +kernel, by decide +kernel,
    (reconcileRoles healthyAnswer appAccess (appSession confusedPrivileges)).2,
    (reconcileUsers healthyAnswer (secretsWith "pw") appAccess none
      (reconcileRoles healthyAnswer appAccess (appSession confusedPrivileges)).2).2,
    Prod.ext (by decide +kernel) rfl, Prod.ext (by decide +kernel) rfl, by decide +kernel, ?_, ?_⟩
  · intro h
    obtain ⟨r, hr, hmem⟩ : ∃ r, (reconcileUsers healthyAnswer (secretsWith "pw") appAccess none
        (reconcileRoles healthyAnswer appAccess (appSession confusedPrivileges)).2).2.state.roles.lookup "app" =
          some r ∧ (⟨.read, "a:b", "c"⟩ : Privilege) ∈ r.privileges := ⟨_, rfl, by decide +kernel⟩
    have hlisted := (h.privileges ⟨"app", ["read.orders"], []⟩ List.mem_cons_self (by decide) r hr _).1 hmem
    exact absurd hlisted (by decide +kernel)
  · intro h
    have hrevoked := (h healthyAnswer).1 (.revokePrivileges "app" [⟨.read, "a:b", "c"⟩]) (by decide +kernel)
    cases hrevoked

end Acko
