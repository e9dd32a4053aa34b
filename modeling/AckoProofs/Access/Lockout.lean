/-
The operator's own access. The credential that a pass connects with is read from the spec and the Secret
that the pass is to apply, so a pass that changes the admin's name or password has to sign in with what it
is there to establish.
-/
import AckoProofs.Access.Client

namespace Acko

/-! ## Credentials -/

def AclServer.accepts (s : AclServer) (user password : String) : Bool :=
  (s.users.lookup user).any fun u => u.password = password

def OperatorAccepted (secrets : String → SecretReply) (acl : AccessControl) (s : AclServer) : Prop :=
  ∃ user password, clientCredential secrets acl = .ok (some (user, password)) ∧ s.accepts user password = true

/-- No connection is made with a credential that the server does not accept. -/
def Authenticates (answer : AclAnswer) : Prop :=
  ∀ s user password, answer s (.connect (some (user, password))) = .done → s.state.accepts user password = true

structure AclAttempt where
  env : AclEnv
  appliedSpec : Option (Option AccessControl)

/-- The attempt reads these Secrets, from a server that checks credentials. -/
structure AclAttempt.Regular (secrets : String → SecretReply) (a : AclAttempt) : Prop where
  secrets : a.env.secrets = secrets
  authenticates : Authenticates a.env.answer

def AclAttempt.run (acl : AccessControl) (a : AclAttempt) (s : AclServer) : AclServer :=
  (reconcileACL a.env (some acl) a.appliedSpec ⟨s, []⟩).2.state

def afterAttempts (acl : AccessControl) (attempts : Nat → AclAttempt) (s : AclServer) : Nat → AclServer
  | 0 => s
  | n + 1 => (attempts n).run acl (afterAttempts acl attempts s n)

/-! ## Locked out -/

section Attempts

variable {secrets : String → SecretReply} {acl : AccessControl} {a : AclAttempt}

section Regular

variable (ha : a.Regular secrets) (hadmin : ∃ admin, acl.adminUser = some admin)

include ha hadmin

theorem accepted_of_client {s t : AclSession} (h : getAerospikeClient a.env acl s = (none, t)) :
    OperatorAccepted secrets acl s.state := by
  obtain ⟨admin, hadmin⟩ := hadmin
  unfold getAerospikeClient at h
  rw [ha.secrets] at h
  cases hcredential : clientCredential secrets acl with
  | error err =>
    rw [hcredential] at h
    cases h
  | ok credential =>
    rw [hcredential] at h
    simp only [Script.send] at h
    cases credential with
    | none =>
      -- only a spec without an admin connects anonymously
      unfold clientCredential at hcredential
      rw [hadmin] at hcredential
      cases hpassword : getPasswordFromSecret secrets admin.secretName with
      | ok password => simp [hpassword] at hcredential
      | error err => simp [hpassword] at hcredential
    | some pair =>
      obtain ⟨user, password⟩ := pair
      refine ⟨user, password, hcredential, ha.authenticates s user password ?_⟩
      cases hanswer : a.env.answer s (.connect (some (user, password))) with
      | done => rfl
      | failed err applied =>
        rw [hanswer] at h
        cases h

theorem accepted_of_clientAttempts (retries : Nat) (s : AclSession) :
    ∀ t, clientAttempts a.env acl retries s = (none, t) → OperatorAccepted secrets acl s.state := by
  fun_induction clientAttempts a.env acl retries s with
  | case1 retries s t h => exact fun _ _ => accepted_of_client ha hadmin h
  | case2 retries s err t h hvalidation => exact fun _ hu => by cases hu
  | case3 s err t h hvalidation => exact fun _ hu => by cases hu
  | case4 s err t h hvalidation retries reason hdone => exact fun _ hu => by cases hu
  | case5 s err t h hvalidation retries hdone ih =>
    intro u hu
    have hstate := getAerospikeClient_state a.env acl s
    rw [h] at hstate
    rw [← show t.state = s.state from hstate]
    exact ih u hu

theorem run_of_not_accepted {s : AclServer} (h : ¬ OperatorAccepted secrets acl s) : a.run acl s = s := by
  have hstate := getAerospikeClientWithRetry_state a.env acl ⟨s, []⟩
  obtain ⟨err, t, hclient⟩ : ∃ err t, getAerospikeClientWithRetry a.env acl ⟨s, []⟩ = (some err, t) := by
    cases hclient : getAerospikeClientWithRetry a.env acl ⟨s, []⟩ with
    | mk result t =>
      cases result with
      | some err => exact ⟨err, t, rfl⟩
      | none => exact absurd (accepted_of_clientAttempts ha hadmin maxRetries ⟨s, []⟩ t hclient) h
  have hphase : ∀ fn, retryOnTransientWithReconnect (getAerospikeClientWithRetry a.env acl) fn ⟨s, []⟩ =
      (some err, t) := by
    intro fn
    unfold retryOnTransientWithReconnect
    rw [hclient]
  rw [hclient] at hstate
  unfold AclAttempt.run reconcileACL
  simp only
  split
  · rfl
  · split
    · rw [hphase]
      exact hstate
    · rfl

end Regular

variable {s : AclServer} {password : String}

theorem afterAttempts_of_not_accepted {attempts : Nat → AclAttempt} (hattempts : ∀ i, (attempts i).Regular secrets)
    (hadmin : ∃ admin, acl.adminUser = some admin) (h : ¬ OperatorAccepted secrets acl s) :
    ∀ n, afterAttempts acl attempts s n = s
  | 0 => rfl
  | n + 1 => by
    rw [afterAttempts, afterAttempts_of_not_accepted hattempts hadmin h n]
    exact run_of_not_accepted (hattempts n) hadmin h

/-! ## Access is kept -/

theorem accepts_iff {user : String} :
    s.accepts user password = true ↔ ∃ u, s.users.lookup user = some u ∧ u.password = password := by
  unfold AclServer.accepts
  cases s.users.lookup user <;> simp

theorem accepts_congr {t : AclServer} {user : String} (h : t.users.lookup user = s.users.lookup user)
    (password : String) : t.accepts user password = s.accepts user password := by
  unfold AclServer.accepts
  rw [h]

theorem adminUser_mem {admin : AerospikeUserSpec} (h : acl.adminUser = some admin) : admin ∈ acl.users := by
  unfold AccessControl.adminUser findAdminUser at h
  exact List.mem_of_find?_eq_some h

theorem credential_admin {user : String} (h : clientCredential secrets acl = .ok (some (user, password))) :
    ∃ admin, acl.adminUser = some admin ∧ admin.name = user ∧
      getPasswordFromSecret secrets admin.secretName = .ok password := by
  unfold clientCredential at h
  split at h
  · cases h
  · rename_i admin hadmin
    split at h
    · rename_i password' hpassword
      cases h
      exact ⟨admin, hadmin, rfl, hpassword⟩
    · cases h

/-- No command of the user phase takes the admin's access away: the password it sets is the one of the
Secret. -/
theorem accepts_of_mem_userScript {appliedSpec : Option (Option AccessControl)}
    {existing : AList fun _ : String => ServerUser} (hnodup : (acl.users.map (·.name)).Nodup)
    {admin : AerospikeUserSpec} (hadmin : admin ∈ acl.users)
    (hpassword : getPasswordFromSecret secrets admin.secretName = .ok password) {c : Command}
    (hc : c ∈ Script.commands (userScript secrets acl appliedSpec existing)) {st : AclServer}
    (hst : st.accepts admin.name password = true) : (st.apply c).accepts admin.name password = true := by
  rw [commands_userScript] at hc
  rcases List.mem_append.1 hc with hc | hc
  · obtain ⟨user, huser, hc⟩ := List.mem_flatMap.1 hc
    by_cases hname : user.name = admin.name
    · obtain rfl := List.inj_on_of_nodup_map hnodup huser hadmin hname
      obtain ⟨u, hu, hsame⟩ := accepts_iff.1 hst
      obtain ⟨password', hread, hcases⟩ := mem_userSteps hc
      rw [hpassword] at hread
      cases hread
      have halter : ∀ f : ServerUser → ServerUser, (f u).password = password →
          ∃ v, (Keyed.alter user.name f st.users).lookup user.name = some v ∧ v.password = password := by
        intro f hf
        refine ⟨f u, ?_, hf⟩
        rw [Keyed.lookup_alter_self, hu]
        rfl
      -- of the four commands for a user only a creation and a password change set a password
      refine accepts_iff.2 ?_
      rcases hcases with ⟨_, rfl⟩ | ⟨_, _, ⟨rfl, _⟩ | ⟨rfl, _⟩ | rfl⟩
      · exact ⟨_, AList.lookup_insert _, rfl⟩
      · exact halter _ hsame
      · exact halter _ hsame
      · exact halter _ rfl
    · rw [accepts_congr (lookup_user_apply ?_)]
      · exact hst
      · rw [(user_of_mem_userSteps hc).1]
        exact fun h => hname (Option.some.inj h)
  · -- a user that is dropped is none of the spec
    obtain ⟨name, hname, rfl⟩ := List.mem_map.1 hc
    rw [accepts_congr (lookup_user_apply ?_)]
    · exact hst
    · intro h
      refine (mem_orphanedUsers.1 hname).2.1 ?_
      rw [Option.some.inj (show some name = some admin.name from h)]
      exact List.mem_map_of_mem hadmin

theorem run_accepted (ha : a.Regular secrets) (hnodup : (acl.users.map (·.name)).Nodup)
    (h : OperatorAccepted secrets acl s) : OperatorAccepted secrets acl (a.run acl s) := by
  obtain ⟨user, password, hcredential, haccepts⟩ := h
  obtain ⟨admin, hadmin, rfl, hpassword⟩ := credential_admin hcredential
  refine ⟨admin.name, password, hcredential, ?_⟩
  refine reconcileACL_invariant (I := fun st => st.accepts admin.name password = true) ?_ ?_ haccepts
  · intro v hv
    have hkeep := users_reconcileRoles a.env.answer acl v
    have hlookup := congrArg (AList.lookup admin.name) hkeep
    exact (accepts_congr hlookup password).trans hv
  · intro v hv
    refine reconcileUsers_invariant (I := fun st => st.accepts admin.name password = true) ?_ hv
    intro c hc st hst
    rw [ha.secrets] at hc
    exact accepts_of_mem_userScript hnodup (adminUser_mem hadmin) hpassword hc hst

/-- Some number of attempts leads to a server that accepts the operator's credential exactly where the
server accepts it from the start; and then it is accepted after any number of attempts. -/
theorem operator_access_iff (haccepted : validateAccessControl acl = []) {attempts : Nat → AclAttempt}
    (hattempts : ∀ i, (attempts i).Regular secrets) (s : AclServer) :
    ((∃ n, OperatorAccepted secrets acl (afterAttempts acl attempts s n)) ↔ OperatorAccepted secrets acl s) ∧
      (OperatorAccepted secrets acl s → ∀ n, OperatorAccepted secrets acl (afterAttempts acl attempts s n)) := by
  have hspec := accepted_of_validate haccepted
  refine ⟨⟨?_, fun h => ⟨0, h⟩⟩, ?_⟩
  · rintro ⟨n, hn⟩
    by_contra hno
    rw [afterAttempts_of_not_accepted hattempts hspec.admin hno] at hn
    exact hno hn
  · intro h n
    induction n with
    | zero => exact h
    | succ n ih => exact run_accepted (hattempts n) hspec.users ih

end Attempts

/-! ## A password change and a rename -/

def connectedUser (sent : List Command) : Option String :=
  sent.reverse.findSome? fun
    | .connect credential => credential.map Prod.fst
    | _ => none

def securityAnswer : AclAnswer
  | s, .connect (some (user, password)) =>
    if s.state.accepts user password then .done else .failed ⟨"invalid user or password", false⟩ false
  | _, .connect none => .failed ⟨"not authenticated", false⟩ false
  | s, _ =>
    if (connectedUser s.sent).any fun user => (s.state.users.lookup user).any fun u => "user-admin" ∈ u.roles then .done
    else .failed ⟨"role violation", false⟩ false

theorem securityAnswer_authenticates : Authenticates securityAnswer := by
  intro s user password h
  simp only [securityAnswer] at h
  split at h
  · assumption
  · cases h

def securedAttempt (secrets : String → SecretReply) : AclAttempt where
  env := ⟨.ok [Pod.serving "db-0-0" "ce:8" "" ⟨"", "", ""⟩], secrets, securityAnswer, fun _ => none⟩
  appliedSpec := none

theorem securedAttempt_regular (secrets : String → SecretReply) : (securedAttempt secrets).Regular secrets :=
  ⟨rfl, securityAnswer_authenticates⟩

def adminAccess (name : String) : AccessControl where
  users := [⟨name, "admin-secret", ["sys-admin", "user-admin"]⟩]
  roles := []

def adminServer (name password : String) : AclServer where
  roles := ∅
  users := (∅ : AList fun _ : String => ServerUser).insert name ⟨password, ["sys-admin", "user-admin"]⟩

theorem operatorAccepted_iff (name password : String) (s : AclServer) :
    OperatorAccepted (secretsWith password) (adminAccess name) s ↔ s.accepts name password = true := by
  have hcredential : clientCredential (secretsWith password) (adminAccess name) = .ok (some (name, password)) := by
    simp [clientCredential, AccessControl.adminUser, findAdminUser, adminAccess, secretsWith, getPasswordFromSecret]
  constructor
  · rintro ⟨user, password', h, haccepts⟩
    rw [hcredential] at h
    cases h
    exact haccepts
  · exact fun h => ⟨name, password, hcredential, h⟩

theorem operator_access_unchanged : validateAccessControl (adminAccess "admin") = [] ∧
    OperatorAccepted (secretsWith "pw") (adminAccess "admin") (afterAttempts (adminAccess "admin")
      (fun _ => securedAttempt (secretsWith "pw")) (adminServer "admin" "pw") 2) := by
  have haccepted : validateAccessControl (adminAccess "admin") = [] := by decide +kernel
  have hstart : OperatorAccepted (secretsWith "pw") (adminAccess "admin") (adminServer "admin" "pw") :=
    (operatorAccepted_iff ..).2 (by decide +kernel)
  exact ⟨haccepted, (operator_access_iff haccepted (fun _ => securedAttempt_regular _) _).2 hstart 2⟩

/-- After a new password in the admin's Secret, and after a new name for the admin, no number of attempts
leads back in. -/
theorem operator_locked_out :
    OperatorAccepted (secretsWith "pw") (adminAccess "admin") (adminServer "admin" "pw") ∧
    (∀ n, ¬ OperatorAccepted (secretsWith "new") (adminAccess "admin") (afterAttempts (adminAccess "admin")
      (fun _ => securedAttempt (secretsWith "new")) (adminServer "admin" "pw") n)) ∧
    validateAccessControl (adminAccess "ops") = [] ∧
    ∀ n, ¬ OperatorAccepted (secretsWith "pw") (adminAccess "ops") (afterAttempts (adminAccess "ops")
      (fun _ => securedAttempt (secretsWith "pw")) (adminServer "admin" "pw") n) := by
  have hadmin : ∀ name, ∃ admin, (adminAccess name).adminUser = some admin := fun name => ⟨_, rfl⟩
  have hpassword : ¬ OperatorAccepted (secretsWith "new") (adminAccess "admin") (adminServer "admin" "pw") := by
    rw [operatorAccepted_iff]
    decide +kernel
  have hname : ¬ OperatorAccepted (secretsWith "pw") (adminAccess "ops") (adminServer "admin" "pw") := by
    rw [operatorAccepted_iff]
    decide +kernel
  refine ⟨(operatorAccepted_iff ..).2 (by decide +kernel), fun n => ?_, by decide +kernel, fun n => ?_⟩
  · rw [afterAttempts_of_not_accepted (fun _ => securedAttempt_regular _) (hadmin _) hpassword]
    exact hpassword
  · rw [afterAttempts_of_not_accepted (fun _ => securedAttempt_regular _) (hadmin _) hname]
    exact hname

end Acko
