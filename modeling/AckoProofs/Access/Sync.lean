/-
The synchronisation of roles and users with the server (`reconcileRoles`, `reconcileUsers`). Each asks the
server for what it has, and then sends the commands that the difference to the spec calls for; the first
error ends it.
-/
import AckoProofs.Access.Spec
import AckoProofs.Lib.Keyed
import AckoProofs.Lib.Script

namespace Acko

open Keyed (alter missing lookup_alter_of_ne)

/-! ## The server -/

/-- A role; an empty whitelist admits every address. -/
structure ServerRole where
  privileges : List Privilege
  whitelist : List String
  deriving DecidableEq

structure ServerUser where
  password : String
  roles : List String
  deriving DecidableEq

/-- The security tables. -/
structure AclServer where
  roles : AList fun _ : String => ServerRole
  users : AList fun _ : String => ServerUser
  deriving DecidableEq

/-- The calls that the client makes. -/
inductive Command
  | connect (credential : Option (String × String))
  | queryRoles
  | queryUsers
  | createRole (name : String) (privileges : List Privilege) (whitelist : List String)
  | dropRole (name : String)
  | grantPrivileges (name : String) (privileges : List Privilege)
  | revokePrivileges (name : String) (privileges : List Privilege)
  | createUser (name password : String) (roles : List String)
  | dropUser (name : String)
  | grantRoles (name : String) (roles : List String)
  | revokeRoles (name : String) (roles : List String)
  | changePassword (name password : String)
  deriving DecidableEq

def AclServer.apply (s : AclServer) : Command → AclServer
  | .connect _ => s
  | .queryRoles => s
  | .queryUsers => s
  | .createRole name privileges whitelist => { s with roles := s.roles.insert name ⟨privileges, whitelist⟩ }
  | .dropRole name => { s with roles := s.roles.erase name }
  | .grantPrivileges name privileges => { s with
      roles := alter name
        (fun r => { r with privileges := r.privileges ++ privileges.filter (· ∉ r.privileges) }) s.roles }
  | .revokePrivileges name privileges => { s with
      roles := alter name (fun r => { r with privileges := r.privileges.filter (· ∉ privileges) }) s.roles }
  | .createUser name password roles => { s with users := s.users.insert name ⟨password, roles⟩ }
  | .dropUser name => { s with users := s.users.erase name }
  | .grantRoles name roles => { s with
      users := alter name (fun u => { u with roles := u.roles ++ roles.filter (· ∉ u.roles) }) s.users }
  | .revokeRoles name roles => { s with
      users := alter name (fun u => { u with roles := u.roles.filter (· ∉ roles) }) s.users }
  | .changePassword name password => { s with
      users := alter name (fun u => { u with password := password }) s.users }

structure AclError where
  text : String
  validation : Bool
  deriving DecidableEq

def AclError.wrap (context : String) (err : AclError) : AclError := { err with text := context ++ ": " ++ err.text }

abbrev AclStep : Type := Script.Step Command AclError
abbrev AclSession : Type := Script.Session AclServer Command
abbrev AclAnswer : Type := AclSession → Command → Plan.Answer AclError

/-! ## Roles -/

def builtinRoles : List String :=
  ["user-admin", "sys-admin", "data-admin", "read", "write", "read-write", "read-write-udf", "truncate"]

def sendUnlessEmpty {α : Type} (items : List α) (c : Command) (context : String) : List AclStep :=
  if items.isEmpty then [] else [.send c (AclError.wrap context)]

/-- The steps of a callee, whose errors get the context of the caller. -/
def within (context : String) (steps : List AclStep) : List AclStep :=
  steps.map fun
    | .send c wrap => .send c (AclError.wrap context ∘ wrap)
    | .stop err => .stop (err.wrap context)

/-- `syncRolePrivileges`: grants what is missing by its key, then revokes what is left over by its key. -/
def syncRolePrivileges (roleName : String) (current desired : List Privilege) : List AclStep :=
  let toGrant := missing privilegeKey desired current
  let toRevoke := missing privilegeKey current desired
  sendUnlessEmpty toGrant (.grantPrivileges roleName toGrant) ("granting privileges to role " ++ roleName) ++
    sendUnlessEmpty toRevoke (.revokePrivileges roleName toRevoke) ("revoking privileges from role " ++ roleName)

/-- The steps for a role of the spec: it is created without a whitelist, or its privileges are synchronised. -/
def roleSteps (existing : AList fun _ : String => ServerRole) (roleSpec : AerospikeRoleSpec) : List AclStep :=
  match roleParsedPrivileges roleSpec with
  | .error err => [.stop ⟨"parsing privileges for role " ++ roleSpec.name ++ ": " ++ err, true⟩]
  | .ok privileges => match existing.lookup roleSpec.name with
    | none => [.send (.createRole roleSpec.name privileges []) (AclError.wrap ("creating role " ++ roleSpec.name))]
    | some role =>
      within ("syncing privileges for role " ++ roleSpec.name)
        (syncRolePrivileges roleSpec.name role.privileges privileges)

variable (acl : AccessControl)

/-- The roles that the server has and that are neither in the spec nor built in. -/
def orphanedRoles (existing : AList fun _ : String => ServerRole) : List String :=
  existing.keys.filter fun name => name ∉ acl.roles.map (·.name) ∧ name ∉ builtinRoles

def roleScript (existing : AList fun _ : String => ServerRole) : List AclStep :=
  acl.roles.flatMap (roleSteps existing) ++
    (orphanedRoles acl existing).map fun name => .send (.dropRole name) (AclError.wrap ("dropping role " ++ name))

/-- Brings the server's roles to the spec. -/
def reconcileRoles (answer : AclAnswer) (acl : AccessControl) (s : AclSession) : Option AclError × AclSession :=
  match Script.send AclServer.apply answer s .queryRoles with
  | (some err, t) => (some (err.wrap "querying roles"), t)
  | (none, t) => Script.exec AclServer.apply answer t (roleScript acl t.state.roles)

/-! ## Users -/

/-- What reading a Secret gives. -/
inductive SecretReply
  | found (data : List (String × String))
  | notFound
  | failed (err : String)

variable (secrets : String → SecretReply)

/-- A missing Secret or key is permanent. -/
def getPasswordFromSecret (secretName : String) : Except AclError String :=
  match secrets secretName with
  | .notFound => .error ⟨"secret " ++ secretName ++ " not found", true⟩
  | .failed err => .error ⟨"getting secret " ++ secretName ++ ": " ++ err, false⟩
  | .found data => match data.lookup "password" with
    | some password => .ok password
    | none => .error ⟨"secret " ++ secretName ++ " does not have 'password' key", true⟩

/-- Every Secret holds the password. -/
def secretsWith (password : String) : String → SecretReply := fun _ => .found [("password", password)]

/-- Grants before it revokes. -/
def syncUserRoles (userName : String) (currentRoles desiredRoles : List String) : List AclStep :=
  let toGrant := missing id desiredRoles currentRoles
  let toRevoke := missing id currentRoles desiredRoles
  sendUnlessEmpty toGrant (.grantRoles userName toGrant) ("granting roles to user " ++ userName) ++
    sendUnlessEmpty toRevoke (.revokeRoles userName toRevoke) ("revoking roles from user " ++ userName)

/-- The steps for a user of the spec. The password is changed even if it is the one the server has. -/
def userSteps (existing : AList fun _ : String => ServerUser) (userSpec : AerospikeUserSpec) : List AclStep :=
  match getPasswordFromSecret secrets userSpec.secretName with
  | .error err => [.stop (err.wrap ("getting password for user " ++ userSpec.name))]
  | .ok password => match existing.lookup userSpec.name with
    | none => [.send (.createUser userSpec.name password userSpec.roles)
        (AclError.wrap ("creating user " ++ userSpec.name))]
    | some user =>
      within ("syncing roles for user " ++ userSpec.name) (syncUserRoles userSpec.name user.roles userSpec.roles) ++
        [.send (.changePassword userSpec.name password)
          (AclError.wrap ("changing password for user " ++ userSpec.name))]

def prevAdminUser (appliedSpec : Option (Option AccessControl)) : Option AerospikeUserSpec :=
  appliedSpec.bind fun spec => spec.bind AccessControl.adminUser

/-- Users that are not dropped: the admin user, and the previous one while its name is being changed. -/
def isProtectedUser (adminUser prevAdminUser : Option AerospikeUserSpec) (name : String) : Bool :=
  match adminUser with
  | none => false
  | some admin => name = admin.name || match prevAdminUser with
    | none => false
    | some prev => name = prev.name && prev.name ≠ admin.name

def orphanedUsers (appliedSpec : Option (Option AccessControl)) (existing : AList fun _ : String => ServerUser) :
    List String :=
  existing.keys.filter fun name =>
    name ∉ acl.users.map (·.name) ∧ isProtectedUser acl.adminUser (prevAdminUser appliedSpec) name = false

def userScript (acl : AccessControl) (appliedSpec : Option (Option AccessControl))
    (existing : AList fun _ : String => ServerUser) : List AclStep :=
  acl.users.flatMap (userSteps secrets existing) ++
    (orphanedUsers acl appliedSpec existing).map fun name =>
      .send (.dropUser name) (AclError.wrap ("dropping user " ++ name))

/-- Brings the server's users to the spec. -/
def reconcileUsers (answer : AclAnswer) (secrets : String → SecretReply) (acl : AccessControl)
    (appliedSpec : Option (Option AccessControl)) (s : AclSession) : Option AclError × AclSession :=
  match Script.send AclServer.apply answer s .queryUsers with
  | (some err, t) => (some (err.wrap "querying users"), t)
  | (none, t) => Script.exec AclServer.apply answer t (userScript secrets acl appliedSpec t.state.users)

/-! ## What a command touches -/

def Command.role : Command → Option String
  | .createRole name _ _ => some name
  | .dropRole name => some name
  | .grantPrivileges name _ => some name
  | .revokePrivileges name _ => some name
  | _ => none

def Command.user : Command → Option String
  | .createUser name _ _ => some name
  | .dropUser name => some name
  | .grantRoles name _ => some name
  | .revokeRoles name _ => some name
  | .changePassword name _ => some name
  | _ => none

variable {s : AclSession} {answer : AclAnswer} {c : Command} {name : String}
  {existing : AList fun _ : String => ServerRole} {secrets : String → SecretReply} {acl : AccessControl}
  {appliedSpec : Option (Option AccessControl)}

theorem roles_apply_of_none {s : AclServer} (h : c.role = none) : (s.apply c).roles = s.roles := by
  cases c <;> first | rfl | cases h

theorem users_apply_of_none {s : AclServer} (h : c.user = none) : (s.apply c).users = s.users := by
  cases c <;> first | rfl | cases h

theorem lookup_role_apply {s : AclServer} (h : c.role ≠ some name) :
    (s.apply c).roles.lookup name = s.roles.lookup name := by
  have hne : ∀ other, c.role = some other → name ≠ other := fun other hc he => h (he ▸ hc)
  cases c with
  | createRole other privileges whitelist => exact AList.lookup_insert_ne (hne other rfl)
  | dropRole other => exact AList.lookup_erase_ne (hne other rfl)
  | grantPrivileges other privileges => exact lookup_alter_of_ne (hne other rfl) ..
  | revokePrivileges other privileges => exact lookup_alter_of_ne (hne other rfl) ..
  | _ => rfl

theorem lookup_user_apply {s : AclServer} (h : c.user ≠ some name) :
    (s.apply c).users.lookup name = s.users.lookup name := by
  have hne : ∀ other, c.user = some other → name ≠ other := fun other hc he => h (he ▸ hc)
  cases c with
  | createUser other password roles => exact AList.lookup_insert_ne (hne other rfl)
  | dropUser other => exact AList.lookup_erase_ne (hne other rfl)
  | grantRoles other roles => exact lookup_alter_of_ne (hne other rfl) ..
  | revokeRoles other roles => exact lookup_alter_of_ne (hne other rfl) ..
  | changePassword other password => exact lookup_alter_of_ne (hne other rfl) ..
  | _ => rfl

/-! ## The commands of the scripts -/

theorem commands_within (context : String) (steps : List AclStep) :
    Script.commands (within context steps) = Script.commands steps := by
  induction steps with
  | nil => rfl
  | cons step rest ih =>
    cases step with
    | send c wrap => exact congrArg (c :: ·) ih
    | stop err => exact ih

theorem commands_sendUnlessEmpty {α : Type} (items : List α) (c : Command) (context : String) :
    Script.commands (sendUnlessEmpty items c context) = if items = [] then [] else [c] := by
  cases items <;> rfl

theorem mem_commands_grantRevoke {α : Type} {toGrant toRevoke : List α} {grant revoke : Command}
    {context granting revoking : String} (h : c ∈ Script.commands (within context
      (sendUnlessEmpty toGrant grant granting ++ sendUnlessEmpty toRevoke revoke revoking))) :
    (c = grant ∧ toGrant ≠ []) ∨ (c = revoke ∧ toRevoke ≠ []) := by
  rw [commands_within, Script.commands_append, commands_sendUnlessEmpty, commands_sendUnlessEmpty] at h
  by_cases hgrant : toGrant = [] <;> by_cases hrevoke : toRevoke = [] <;>
    simp [hgrant, hrevoke] at h ⊢ <;> exact h

theorem stop_not_mem_grantRevoke {α : Type} {toGrant toRevoke : List α} {grant revoke : Command}
    {context granting revoking : String} {err : AclError} : .stop err ∉ within context
      (sendUnlessEmpty toGrant grant granting ++ sendUnlessEmpty toRevoke revoke revoking) := by
  cases toGrant <;> cases toRevoke <;> simp [within, sendUnlessEmpty]

theorem commands_drops (names : List String) (c : String → Command) (context : String → AclError → AclError) :
    Script.commands (names.map fun name => (.send (c name) (context name) : AclStep)) = names.map c := by
  induction names with
  | nil => rfl
  | cons name rest ih => exact congrArg (c name :: ·) ih

theorem mem_roleSteps {role : AerospikeRoleSpec} (h : c ∈ Script.commands (roleSteps existing role)) :
    ∃ privileges, roleParsedPrivileges role = .ok privileges ∧
      ((existing.lookup role.name = none ∧ c = .createRole role.name privileges []) ∨
        ∃ current, existing.lookup role.name = some current ∧
          ((c = .grantPrivileges role.name (missing privilegeKey privileges current.privileges) ∧
              missing privilegeKey privileges current.privileges ≠ []) ∨
            (c = .revokePrivileges role.name (missing privilegeKey current.privileges privileges) ∧
              missing privilegeKey current.privileges privileges ≠ []))) := by
  unfold roleSteps at h
  split at h
  · cases h
  · rename_i privileges hparsed
    refine ⟨privileges, hparsed, ?_⟩
    split at h
    · rename_i hnone
      exact Or.inl ⟨hnone, List.mem_singleton.1 h⟩
    · rename_i current hsome
      exact Or.inr ⟨current, hsome, mem_commands_grantRevoke h⟩

theorem mem_userSteps {existing : AList fun _ : String => ServerUser} {user : AerospikeUserSpec}
    (h : c ∈ Script.commands (userSteps secrets existing user)) :
    ∃ password, getPasswordFromSecret secrets user.secretName = .ok password ∧
      ((existing.lookup user.name = none ∧ c = .createUser user.name password user.roles) ∨
        ∃ current, existing.lookup user.name = some current ∧
          ((c = .grantRoles user.name (missing id user.roles current.roles) ∧
              missing id user.roles current.roles ≠ []) ∨
            (c = .revokeRoles user.name (missing id current.roles user.roles) ∧
              missing id current.roles user.roles ≠ []) ∨
            c = .changePassword user.name password)) := by
  unfold userSteps at h
  split at h
  · cases h
  · rename_i password hsecret
    refine ⟨password, hsecret, ?_⟩
    split at h
    · rename_i hnone
      exact Or.inl ⟨hnone, List.mem_singleton.1 h⟩
    · rename_i current hsome
      rw [Script.commands_append] at h
      refine Or.inr ⟨current, hsome, ?_⟩
      rcases List.mem_append.1 h with h | h
      · exact or_assoc.1 (Or.inl (mem_commands_grantRevoke h))
      · exact Or.inr (Or.inr (List.mem_singleton.1 h))

theorem role_of_mem_roleSteps {role : AerospikeRoleSpec} (h : c ∈ Script.commands (roleSteps existing role)) :
    c.role = some role.name ∧ c.user = none := by
  obtain ⟨_, _, ⟨_, rfl⟩ | ⟨_, _, ⟨rfl, _⟩ | ⟨rfl, _⟩⟩⟩ := mem_roleSteps h <;> exact ⟨rfl, rfl⟩

theorem user_of_mem_userSteps {existing : AList fun _ : String => ServerUser} {user : AerospikeUserSpec}
    (h : c ∈ Script.commands (userSteps secrets existing user)) : c.user = some user.name ∧ c.role = none := by
  obtain ⟨_, _, ⟨_, rfl⟩ | ⟨_, _, ⟨rfl, _⟩ | ⟨rfl, _⟩ | rfl⟩⟩ := mem_userSteps h <;> exact ⟨rfl, rfl⟩

theorem commands_roleScript (existing : AList fun _ : String => ServerRole) :
    Script.commands (roleScript acl existing) =
      (acl.roles.flatMap fun role => Script.commands (roleSteps existing role)) ++
        (orphanedRoles acl existing).map .dropRole := by
  rw [roleScript, Script.commands_append, Script.commands_flatMap, commands_drops]

theorem commands_userScript (acl : AccessControl) (appliedSpec : Option (Option AccessControl))
    (existing : AList fun _ : String => ServerUser) :
    Script.commands (userScript secrets acl appliedSpec existing) =
      (acl.users.flatMap fun user => Script.commands (userSteps secrets existing user)) ++
        (orphanedUsers acl appliedSpec existing).map .dropUser := by
  rw [userScript, Script.commands_append, Script.commands_flatMap, commands_drops]

theorem mem_orphanedRoles :
    name ∈ orphanedRoles acl existing ↔
      name ∈ existing ∧ name ∉ acl.roles.map (·.name) ∧ name ∉ builtinRoles := by
  simp [orphanedRoles, AList.mem_keys]

theorem mem_orphanedUsers {existing : AList fun _ : String => ServerUser} :
    name ∈ orphanedUsers acl appliedSpec existing ↔ name ∈ existing ∧ name ∉ acl.users.map (·.name) ∧
      ¬ isProtectedUser acl.adminUser (prevAdminUser appliedSpec) name := by
  simp [orphanedUsers, AList.mem_keys]

/-! ## What a phase does -/

theorem reconcileRoles_eq : reconcileRoles answer acl s =
    Script.asked AclServer.apply answer s .queryRoles (·.wrap "querying roles") (roleScript acl ·.roles) := by
  unfold reconcileRoles Script.asked
  rcases Script.send AclServer.apply answer s .queryRoles with ⟨_ | err, t⟩ <;> rfl

theorem reconcileUsers_eq : reconcileUsers answer secrets acl appliedSpec s =
    Script.asked AclServer.apply answer s .queryUsers (·.wrap "querying users")
      (userScript secrets acl appliedSpec ·.users) := by
  unfold reconcileUsers Script.asked
  rcases Script.send AclServer.apply answer s .queryUsers with ⟨_ | err, t⟩ <;> rfl

theorem reconcileRoles_done {t : AclSession} (h : reconcileRoles answer acl s = (none, t)) :
    t.state = (Script.commands (roleScript acl s.state.roles)).foldl AclServer.apply s.state ∧
      ∀ role ∈ acl.roles, ∃ privileges, roleParsedPrivileges role = .ok privileges := by
  rw [reconcileRoles_eq] at h
  obtain ⟨hstate, hstop⟩ := Script.asked_done (fun _ => rfl) h
  refine ⟨hstate, fun role hrole => ?_⟩
  cases hparsed : roleParsedPrivileges role with
  | ok privileges => exact ⟨privileges, rfl⟩
  | error err =>
    have hstopped : .stop ⟨"parsing privileges for role " ++ role.name ++ ": " ++ err, true⟩ ∈
        roleSteps s.state.roles role := by
      rw [roleSteps, hparsed]
      exact List.mem_cons_self
    exact absurd (List.mem_append_left _ (List.mem_flatMap.2 ⟨role, hrole, hstopped⟩)) (hstop _)

theorem reconcileUsers_done {t : AclSession} (h : reconcileUsers answer secrets acl appliedSpec s = (none, t)) :
    t.state = (Script.commands (userScript secrets acl appliedSpec s.state.users)).foldl AclServer.apply s.state ∧
      ∀ user ∈ acl.users, ∃ password, getPasswordFromSecret secrets user.secretName = .ok password := by
  rw [reconcileUsers_eq] at h
  obtain ⟨hstate, hstop⟩ := Script.asked_done (fun _ => rfl) h
  refine ⟨hstate, fun user huser => ?_⟩
  cases hsecret : getPasswordFromSecret secrets user.secretName with
  | ok password => exact ⟨password, rfl⟩
  | error err =>
    have hstopped : .stop (err.wrap ("getting password for user " ++ user.name)) ∈
        userSteps secrets s.state.users user := by
      rw [userSteps, hsecret]
      exact List.mem_cons_self
    exact absurd (List.mem_append_left _ (List.mem_flatMap.2 ⟨user, huser, hstopped⟩)) (hstop _)

theorem reconcileRoles_invariant {I : AclServer → Prop}
    (keep : ∀ c ∈ Script.commands (roleScript acl s.state.roles), ∀ st, I st → I (st.apply c)) (hi : I s.state) :
    I (reconcileRoles answer acl s).2.state := by
  rw [reconcileRoles_eq]
  exact Script.asked_invariant (fun _ => rfl) keep hi

theorem reconcileUsers_invariant {I : AclServer → Prop}
    (keep : ∀ c ∈ Script.commands (userScript secrets acl appliedSpec s.state.users), ∀ st, I st → I (st.apply c))
    (hi : I s.state) : I (reconcileUsers answer secrets acl appliedSpec s).2.state := by
  rw [reconcileUsers_eq]
  exact Script.asked_invariant (fun _ => rfl) keep hi

theorem mem_sent_reconcileRoles (h : c ∈ (reconcileRoles answer acl s).2.sent) :
    (c ∈ s.sent ∨ c = .queryRoles) ∨ c ∈ Script.commands (roleScript acl s.state.roles) := by
  rw [reconcileRoles_eq] at h
  exact Script.mem_sent_asked (fun _ => rfl) h

theorem mem_sent_reconcileUsers (h : c ∈ (reconcileUsers answer secrets acl appliedSpec s).2.sent) :
    (c ∈ s.sent ∨ c = .queryUsers) ∨ c ∈ Script.commands (userScript secrets acl appliedSpec s.state.users) := by
  rw [reconcileUsers_eq] at h
  exact Script.mem_sent_asked (fun _ => rfl) h

theorem user_of_mem_roleScript (h : c ∈ Script.commands (roleScript acl existing)) : c.user = none := by
  rw [commands_roleScript] at h
  rcases List.mem_append.1 h with h | h
  · obtain ⟨role, _, h⟩ := List.mem_flatMap.1 h
    exact (role_of_mem_roleSteps h).2
  · obtain ⟨name, _, rfl⟩ := List.mem_map.1 h
    rfl

theorem role_of_mem_userScript {existing : AList fun _ : String => ServerUser}
    (h : c ∈ Script.commands (userScript secrets acl appliedSpec existing)) : c.role = none := by
  rw [commands_userScript] at h
  rcases List.mem_append.1 h with h | h
  · obtain ⟨user, _, h⟩ := List.mem_flatMap.1 h
    exact (user_of_mem_userSteps h).2
  · obtain ⟨name, _, rfl⟩ := List.mem_map.1 h
    rfl

theorem users_reconcileRoles (answer : AclAnswer) (acl : AccessControl) (s : AclSession) :
    (reconcileRoles answer acl s).2.state.users = s.state.users :=
  reconcileRoles_invariant (I := fun st => st.users = s.state.users)
    (fun _ hc _ hst => (users_apply_of_none (user_of_mem_roleScript hc)).trans hst) rfl

theorem roles_reconcileUsers (answer : AclAnswer) (secrets : String → SecretReply) (acl : AccessControl)
    (appliedSpec : Option (Option AccessControl)) (s : AclSession) :
    (reconcileUsers answer secrets acl appliedSpec s).2.state.roles = s.state.roles :=
  reconcileUsers_invariant (I := fun st => st.roles = s.state.roles)
    (fun _ hc _ hst => (roles_apply_of_none (role_of_mem_userScript hc)).trans hst) rfl

end Acko
