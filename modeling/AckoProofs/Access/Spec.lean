/-
The access-control section of the spec: its roles and users, the privileges that the texts of a role
stand for, and what the webhook accepts. Privileges are compared by a key, the fields with a colon between
them.
-/
import AckoProofs.Pod.Container
import AckoProofs.Status.Migration

namespace Acko

/-! ## Privileges -/

@[ext]
structure PrivilegeCode where
  text : String
  plain : ':' ∉ text.toList
  deriving DecidableEq

namespace PrivilegeCode

def read : PrivilegeCode := ⟨"read", by decide⟩
def write : PrivilegeCode := ⟨"write", by decide⟩
def readWrite : PrivilegeCode := ⟨"read-write", by decide⟩
def readWriteUDF : PrivilegeCode := ⟨"read-write-udf", by decide⟩
def sysAdmin : PrivilegeCode := ⟨"sys-admin", by decide⟩
def userAdmin : PrivilegeCode := ⟨"user-admin", by decide⟩
def dataAdmin : PrivilegeCode := ⟨"data-admin", by decide⟩
def truncate : PrivilegeCode := ⟨"truncate", by decide⟩

end PrivilegeCode

/-- `aero.Privilege`: a privilege is global where it names no namespace. -/
@[ext]
structure Privilege where
  code : PrivilegeCode
  ns : String
  setName : String
  deriving DecidableEq

def privilegeCodes : List (String × PrivilegeCode) :=
  [("read", .read), ("write", .write), ("read-write", .readWrite), ("read-write-udf", .readWriteUDF),
    ("sys-admin", .sysAdmin), ("user-admin", .userAdmin), ("data-admin", .dataAdmin), ("truncate", .truncate)]

def privilegeFromCodeString (s : String) : Except String Privilege :=
  match privilegeCodes.lookup s with
  | some code => .ok ⟨code, "", ""⟩
  | none => .error ("unknown privilege code " ++ s.quote ++
      "; valid codes: read, write, read-write, read-write-udf, sys-admin, user-admin, data-admin, truncate")

/-- A code, then a namespace and a set where the text goes on. -/
def parsePrivilege (s : String) : Except String Privilege :=
  let parts := Cut.splitN '.' 3 s.toList
  match privilegeFromCodeString (String.ofList (parts.headD [])) with
  | .error err => .error err
  | .ok priv => .ok { priv with
      ns := match parts[1]? with
        | some part => String.ofList part
        | none => priv.ns
      setName := match parts[2]? with
        | some part => String.ofList part
        | none => priv.setName }

example : parsePrivilege "read-write.orders.items" = .ok ⟨.readWrite, "orders", "items"⟩ := by decide +kernel

/-- Not injective: the parts may hold colons. -/
def privilegeKey (p : Privilege) : String := p.code.text ++ ":" ++ p.ns ++ ":" ++ p.setName

/-- Neither name of the privilege has a colon. -/
def Privilege.Plain (p : Privilege) : Prop := ':' ∉ p.ns.toList ∧ ':' ∉ p.setName.toList

instance (p : Privilege) : Decidable p.Plain := inferInstanceAs (Decidable (_ ∧ _))

theorem toList_privilegeKey (p : Privilege) :
    (privilegeKey p).toList = p.code.text.toList ++ ':' :: (p.ns.toList ++ ':' :: p.setName.toList) := by
  have hcolon : ":".toList = [':'] := by decide
  simp [privilegeKey, hcolon]

theorem eq_of_privilegeKey_eq {p q : Privilege} (hp : p.Plain) (h : privilegeKey q = privilegeKey p) : q = p := by
  have hchars := congrArg String.toList h
  rw [toList_privilegeKey, toList_privilegeKey] at hchars
  obtain ⟨hcode, hscope⟩ := Cut.append_cons_inj q.code.plain p.code.plain hchars
  obtain ⟨hns, _, hset⟩ := (List.append_cons_inj_of_notMem hp.1 hp.2).1 hscope.symm
  refine Privilege.ext (PrivilegeCode.ext ?_) ?_ ?_
  · exact String.toList_inj.1 hcode
  · exact (String.toList_inj.1 hns).symm
  · exact (String.toList_inj.1 hset).symm

/-- A colon in a name is read as the one after it. -/
example : privilegeKey ⟨.read, "a:b", "c"⟩ = privilegeKey ⟨.read, "a", "b:c"⟩ := by decide +kernel

/-! ## Roles and users -/

structure AerospikeRoleSpec where
  name : String
  privileges : List String
  whitelist : List String
  deriving DecidableEq

/-- `AerospikeAccessControlSpec`, with the roles. -/
structure AccessControl extends AerospikeAccessControlSpec where
  roles : List AerospikeRoleSpec
  deriving DecidableEq

def AccessControl.adminUser (acl : AccessControl) : Option AerospikeUserSpec :=
  findAdminUser (some acl.toAerospikeAccessControlSpec)

/-- `roleParsedPrivileges`: the first text that is no privilege is an error. -/
def roleParsedPrivileges (roleSpec : AerospikeRoleSpec) : Except String (List Privilege) :=
  match roleSpec.privileges.mapM parsePrivilege with
  | .ok privileges => .ok privileges
  | .error err => .error ("role " ++ roleSpec.name.quote ++ ": " ++ err)

/-! ## Admission -/

/-- `aerospikeCEBuiltinRoles`: the names of the built-in roles are the privilege codes. -/
def aerospikeCEBuiltinRoles : List String :=
  ["user-admin", "sys-admin", "data-admin", "read", "write", "read-write", "read-write-udf", "truncate"]

def aerospikeGlobalOnlyPrivileges : List String := ["sys-admin", "user-admin", "data-admin"]

def duplicateUserErrors : List String → List AerospikeUserSpec → List String
  | _, [] => []
  | seenUsers, user :: rest =>
    (if user.name ∈ seenUsers then ["accessControl.users: duplicate user name " ++ user.name.quote] else []) ++
      duplicateUserErrors (user.name :: seenUsers) rest

def secretNameErrors (users : List AerospikeUserSpec) : List String :=
  (users.filter (·.secretName = "")).map fun user =>
    "user " ++ user.name.quote ++ " must have a secretName for password"

def isAdmin (user : AerospikeUserSpec) : Bool := "sys-admin" ∈ user.roles ∧ "user-admin" ∈ user.roles

def adminErrors (users : List AerospikeUserSpec) : List String :=
  if users.any isAdmin then [] else
    ["aerospikeAccessControl must have at least one user with both 'sys-admin' and 'user-admin' roles " ++
      "(required for operator-managed cluster administration)"]

def roleNameErrors : Nat → List String → List AerospikeRoleSpec → List String
  | _, _, [] => []
  | i, seenRoles, role :: rest =>
    if role.name = "" then
      ("accessControl.roles[" ++ toString i ++ "]: role name must not be empty") ::
        roleNameErrors (i + 1) seenRoles rest
    else
      (if role.name ∈ seenRoles then ["accessControl.roles: duplicate role name " ++ role.name.quote] else []) ++
        roleNameErrors (i + 1) (role.name :: seenRoles) rest

/-- A user may have the built-in roles and those of the spec. -/
def roleReferenceErrors (acl : AccessControl) (user : AerospikeUserSpec) : List String :=
  user.roles.zipIdx.flatMap fun (roleName, i) =>
    if roleName = "" then ["user " ++ user.name.quote ++ " roles[" ++ toString i ++ "]: role name must not be empty"]
    else if roleName ∉ aerospikeCEBuiltinRoles ∧ roleName ∉ acl.roles.map (·.name) then
      ["user " ++ user.name.quote ++ " references undefined role " ++ roleName.quote]
    else []

/-- The scope: a namespace, or also a set. -/
def validatePrivilegeScope (roleName privStr : String) (scope : List Char) : List String :=
  let parts := scope.splitOn '.'
  let field := "role " ++ roleName.quote ++ " privilege " ++ privStr.quote ++ ": "
  if parts.length > 2 then
    [field ++ "scope must be \"<namespace>\" or \"<namespace>.<set>\", got " ++ toString parts.length ++ " components"]
  else if parts[0]? = some [] then [field ++ "namespace scope must not be empty"]
  else if parts[1]? = some [] then [field ++ "set scope must not be empty"]
  else []

def privilegeErrors (role : AerospikeRoleSpec) (privStr : String) (i : Nat) : List String :=
  let trimmed := trimSpace privStr.toList
  let field := "role " ++ role.name.quote ++ " privileges[" ++ toString i ++ "]: "
  if trimmed = [] then [field ++ "privilege string must not be empty or whitespace-only"]
  else if privStr.toList ≠ trimmed then
    [field ++ "privilege string " ++ privStr.quote ++ " must not have leading or trailing whitespace"]
  else
    let code := String.ofList (Cut.cut '.' privStr.toList).1
    if code ∉ aerospikeCEBuiltinRoles then
      ["role " ++ role.name.quote ++ " has invalid privilege code " ++ code.quote ++
        "; valid codes: read, write, read-write, read-write-udf, sys-admin, user-admin, data-admin, truncate"]
    else match (Cut.cut '.' privStr.toList).2 with
      | none => []
      | some scope =>
        if code ∈ aerospikeGlobalOnlyPrivileges then
          ["role " ++ role.name.quote ++ " privilege " ++ privStr.quote ++ ": " ++ code.quote ++
            " is a global-only privilege and cannot be scoped to a namespace or set (" ++
            (String.ofList scope).quote ++ ")"]
        else validatePrivilegeScope role.name privStr scope

def roleErrors (role : AerospikeRoleSpec) : List String :=
  role.privileges.zipIdx.flatMap fun e => privilegeErrors role e.1 e.2

/-- What the webhook asks of roles and users. -/
def validateAccessControl (acl : AccessControl) : List String :=
  duplicateUserErrors [] acl.users ++ secretNameErrors acl.users ++ adminErrors acl.users ++
    roleNameErrors 0 [] acl.roles ++ acl.users.flatMap (roleReferenceErrors acl) ++
    acl.roles.flatMap roleErrors

/-! ## What is accepted -/

theorem nodup_of_scan {α : Type} {name : α → String} {first : α} {rest : List α} {seen : List String}
    (hfirst : name first ∉ seen) (hnodup : (rest.map name).Nodup) (hseen : ∀ a ∈ rest, name a ∉ name first :: seen) :
    ((first :: rest).map name).Nodup ∧ ∀ a ∈ first :: rest, name a ∉ seen := by
  refine ⟨List.nodup_cons.2 ⟨?_, hnodup⟩, ?_⟩
  · intro hmem
    obtain ⟨other, hother, hname⟩ := List.mem_map.1 hmem
    exact hseen other hother (hname ▸ List.mem_cons_self)
  · intro other hother
    rcases List.mem_cons.1 hother with rfl | hother
    · exact hfirst
    · exact fun hmem => hseen other hother (List.mem_cons_of_mem _ hmem)

theorem not_mem_of_unless {name : String} {seen : List String} {err : String}
    (h : (if name ∈ seen then [err] else []) = []) : name ∉ seen := by
  intro hmem
  rw [if_pos hmem] at h
  cases h

theorem nodup_of_duplicateUserErrors : ∀ {users : List AerospikeUserSpec} {seen : List String},
    duplicateUserErrors seen users = [] → (users.map (·.name)).Nodup ∧ ∀ user ∈ users, user.name ∉ seen
  | [], _, _ => ⟨List.nodup_nil, fun _ h => absurd h List.not_mem_nil⟩
  | user :: rest, seen, h => by
    obtain ⟨hfirst, hrest⟩ := List.append_eq_nil_iff.1 h
    obtain ⟨hnodup, hseen⟩ := nodup_of_duplicateUserErrors hrest
    exact nodup_of_scan (not_mem_of_unless hfirst) hnodup hseen

theorem nodup_of_roleNameErrors : ∀ {roles : List AerospikeRoleSpec} {i : Nat} {seen : List String},
    roleNameErrors i seen roles = [] → (roles.map (·.name)).Nodup ∧ ∀ role ∈ roles, role.name ∉ seen
  | [], _, _, _ => ⟨List.nodup_nil, fun _ h => absurd h List.not_mem_nil⟩
  | role :: rest, i, seen, h => by
    unfold roleNameErrors at h
    split at h
    · cases h
    · obtain ⟨hfirst, hrest⟩ := List.append_eq_nil_iff.1 h
      obtain ⟨hnodup, hseen⟩ := nodup_of_roleNameErrors hrest
      exact nodup_of_scan (not_mem_of_unless hfirst) hnodup hseen

theorem adminUser_of_adminErrors {acl : AccessControl} (h : adminErrors acl.users = []) :
    ∃ admin, acl.adminUser = some admin := by
  unfold adminErrors at h
  split at h
  · rename_i hany
    obtain ⟨user, hmem, hadmin⟩ := List.any_eq_true.1 hany
    refine Option.isSome_iff_exists.1 ?_
    unfold AccessControl.adminUser findAdminUser
    simp only [Option.bind_some, List.find?_isSome]
    exact ⟨user, hmem, hadmin⟩
  · cases h

theorem parsePrivilege_of_accepted {role : AerospikeRoleSpec} {privStr : String} {i : Nat}
    (h : privilegeErrors role privStr i = []) : ∃ priv, parsePrivilege privStr = .ok priv := by
  have hcode : String.ofList (Cut.cut '.' privStr.toList).1 ∈ aerospikeCEBuiltinRoles := by
    by_contra hno
    unfold privilegeErrors at h
    simp only [hno, not_false_eq_true, if_true] at h
    split at h
    · cases h
    · split at h <;> cases h
  have hlookup : ∀ code ∈ aerospikeCEBuiltinRoles, (privilegeCodes.lookup code).isSome = true := by decide +kernel
  obtain ⟨code, hcode⟩ := Option.isSome_iff_exists.1 (hlookup _ hcode)
  have hhead : (Cut.splitN '.' 3 privStr.toList).headD [] = (Cut.cut '.' privStr.toList).1 := by
    rw [List.headD_eq_head?_getD, Cut.head?_splitN]
    rfl
  unfold parsePrivilege privilegeFromCodeString
  simp only [hhead, hcode]
  exact ⟨_, rfl⟩

/-- What acceptance says about a spec. -/
structure AccessControl.Accepted (acl : AccessControl) : Prop where
  users : (acl.users.map (·.name)).Nodup
  roles : (acl.roles.map (·.name)).Nodup
  admin : ∃ admin, acl.adminUser = some admin
  parses : ∀ role ∈ acl.roles, ∀ privStr ∈ role.privileges, ∃ priv, parsePrivilege privStr = .ok priv

theorem accepted_of_validate {acl : AccessControl} (h : validateAccessControl acl = []) : acl.Accepted := by
  obtain ⟨h, hprivileges⟩ := List.append_eq_nil_iff.1 h
  obtain ⟨h, _⟩ := List.append_eq_nil_iff.1 h
  obtain ⟨h, hroles⟩ := List.append_eq_nil_iff.1 h
  obtain ⟨h, hadmin⟩ := List.append_eq_nil_iff.1 h
  obtain ⟨husers, _⟩ := List.append_eq_nil_iff.1 h
  refine ⟨(nodup_of_duplicateUserErrors husers).1, (nodup_of_roleNameErrors hroles).1,
    adminUser_of_adminErrors hadmin, ?_⟩
  intro role hrole privStr hpriv
  obtain ⟨i, hi, rfl⟩ := List.getElem_of_mem hpriv
  have hpair : (role.privileges[i], i) ∈ role.privileges.zipIdx := List.mk_mem_zipIdx_iff_getElem?.2 (by simp [hi])
  have hrole : roleErrors role = [] := List.flatMap_eq_nil_iff.1 hprivileges role hrole
  rw [roleErrors, List.flatMap_eq_nil_iff] at hrole
  exact parsePrivilege_of_accepted (hrole (role.privileges[i], i) hpair)

end Acko
