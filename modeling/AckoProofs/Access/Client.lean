/-
`reconcileACL`: the operator connects as the admin user of the spec, with the password of the admin's
Secret, and synchronises first the roles and then the users. Each phase is tried once more, over a new
connection, if it fails with an error that looks transient.
-/
import AckoProofs.Access.Sync

namespace Acko

/-! ## Connections -/

/-- What a pass finds: the pods of the cluster, the Secrets, the answers of the server, and whether the
context is done when a backoff ends. -/
structure AclEnv where
  pods : Except String (List Pod)
  secrets : String → SecretReply
  answer : AclAnswer
  cancelled : AclSession → Option String

/-- The user and the password of the client policy; a spec without an admin user leaves both unset. -/
def clientCredential (secrets : String → SecretReply) (acl : AccessControl) :
    Except AclError (Option (String × String)) :=
  match acl.adminUser with
  | none => .ok none
  | some admin => match getPasswordFromSecret secrets admin.secretName with
    | .ok password => .ok (some (admin.name, password))
    | .error err => .error (err.wrap "getting admin password")

/-- As the admin, where the spec has one. -/
def getAerospikeClient (env : AclEnv) (acl : AccessControl) (s : AclSession) : Option AclError × AclSession :=
  match clientCredential env.secrets acl with
  | .error err => (some err, s)
  | .ok credential => match Script.send AclServer.apply env.answer s (.connect credential) with
    | (none, t) => (none, t)
    | (some err, t) => (some (err.wrap "connecting to Aerospike"), t)

def maxRetries : Nat := 3

/-- The attempts that are left: a validation error ends them, and so does a context that is done. -/
def clientAttempts (env : AclEnv) (acl : AccessControl) : Nat → AclSession → Option AclError × AclSession
  | retries, s => match getAerospikeClient env acl s with
    | (none, t) => (none, t)
    | (some err, t) =>
      if err.validation then (some err, t) else match retries with
        | 0 => (some (err.wrap ("failed after " ++ toString (maxRetries + 1) ++ " attempts")), t)
        | retries + 1 => match env.cancelled t with
          | some reason => (some ⟨"context cancelled while retrying Aerospike connection: " ++ reason, false⟩, t)
          | none => clientAttempts env acl retries t

/-- Connects in up to `maxRetries` attempts. -/
def getAerospikeClientWithRetry (env : AclEnv) (acl : AccessControl) (s : AclSession) : Option AclError × AclSession :=
  clientAttempts env acl maxRetries s

/-! ## Retries -/

/-- `unicode.ToLower`, as far as it can give an ASCII letter. -/
def toLowerRune (c : Char) : Char :=
  if c = Char.ofNat 0x130 then 'i' else if c = Char.ofNat 0x212a then 'k' else c.toLower

def transientAeroErrorSubstrings : List String :=
  ["connection reset", "connection refused", "timeout", "i/o timeout", "broken pipe", "eof", "network is unreachable",
    "no available connections", "not connected"]

/-- By the text of the error. -/
def isTransientAeroError (err : AclError) : Bool :=
  transientAeroErrorSubstrings.any fun sub => sub.toList <:+: err.text.toList.map toLowerRune

example : isTransientAeroError ⟨"querying roles: EOF", false⟩ = true := by decide +kernel

/-- A transient error gets one more attempt, with a new client. -/
def retryOnTransientWithReconnect (getClient fn : AclSession → Option AclError × AclSession) (s : AclSession) :
    Option AclError × AclSession :=
  match getClient s with
  | (some err, t) => (some err, t)
  | (none, t) => match fn t with
    | (none, u) => (none, u)
    | (some err, u) =>
      if isTransientAeroError err then match getClient u with
        -- without a second client it is the error of the first attempt that is returned
        | (some _, v) => (some err, v)
        | (none, v) => fn v
      else (some err, u)

/-! ## The pass -/

/-- Whether the roles and users were synchronised, and the error. -/
structure AclResult where
  synced : Bool
  error : Option AclError
  deriving DecidableEq

/-- Roles, then users, once a pod is Ready. -/
def reconcileACL (env : AclEnv) (acl : Option AccessControl) (appliedSpec : Option (Option AccessControl))
    (s : AclSession) : AclResult × AclSession :=
  match acl with
  | none => (⟨false, none⟩, s)
  | some acl => match env.pods with
    | .error err => (⟨false, some ⟨"listing pods for ACL sync: " ++ err, false⟩⟩, s)
    | .ok pods =>
      if pods.any isPodReady then
        match retryOnTransientWithReconnect (getAerospikeClientWithRetry env acl) (reconcileRoles env.answer acl) s with
        | (some err, t) => (⟨false, some (err.wrap "ACL sync roles")⟩, t)
        | (none, t) =>
          match retryOnTransientWithReconnect (getAerospikeClientWithRetry env acl)
              (reconcileUsers env.answer env.secrets acl appliedSpec) t with
          | (some err, u) => (⟨false, some (err.wrap "ACL sync users")⟩, u)
          | (none, u) => (⟨true, none⟩, u)
      else (⟨false, none⟩, s)

/-! ## What a pass does -/

theorem getAerospikeClient_state (env : AclEnv) (acl : AccessControl) (s : AclSession) :
    (getAerospikeClient env acl s).2.state = s.state := by
  unfold getAerospikeClient
  cases clientCredential env.secrets acl with
  | error err => rfl
  | ok credential =>
    rcases Script.send_cases AclServer.apply env.answer s (.connect credential) with h | ⟨err, t, h, -, hstate⟩
    · simp only [h]
      rfl
    · simp only [h]
      exact hstate.elim id id

theorem clientAttempts_state (env : AclEnv) (acl : AccessControl) (retries : Nat) (s : AclSession) :
    (clientAttempts env acl retries s).2.state = s.state := by
  have hclient := fun s => getAerospikeClient_state env acl s
  fun_induction clientAttempts env acl retries s with
  | case1 retries s t h => exact congrArg (·.2.state) h ▸ hclient s
  | case2 retries s err t h hvalidation => exact congrArg (·.2.state) h ▸ hclient s
  | case3 s err t h hvalidation => exact congrArg (·.2.state) h ▸ hclient s
  | case4 s err t h hvalidation retries reason hdone => exact congrArg (·.2.state) h ▸ hclient s
  | case5 s err t h hvalidation retries hdone ih => exact ih.trans (congrArg (·.2.state) h ▸ hclient s)

theorem getAerospikeClientWithRetry_state (env : AclEnv) (acl : AccessControl) (s : AclSession) :
    (getAerospikeClientWithRetry env acl s).2.state = s.state :=
  clientAttempts_state env acl maxRetries s

section Retry

variable {getClient fn : AclSession → Option AclError × AclSession} {I : AclServer → Prop}
  (hclient : ∀ s, (getClient s).2.state = s.state) (keep : ∀ s, I s.state → I (fn s).2.state)

include hclient keep

/-- What the phase keeps is kept by a phase that may be tried twice, and holds where the attempt starts that
succeeds. -/
theorem retry_cases {s : AclSession} (hi : I s.state) :
    I (retryOnTransientWithReconnect getClient fn s).2.state ∧
      ∀ u, retryOnTransientWithReconnect getClient fn s = (none, u) → ∃ v, I v.state ∧ fn v = (none, u) := by
  have hconnect : ∀ {s result t}, getClient s = (result, t) → I s.state → I t.state := by
    intro s result t h hi
    have hstate := hclient s
    rw [h] at hstate
    rw [show t.state = s.state from hstate]
    exact hi
  unfold retryOnTransientWithReconnect
  split
  · rename_i err t h
    exact ⟨hconnect h hi, fun u hu => by cases hu⟩
  · rename_i t h
    have ht := hconnect h hi
    have hfn := keep t ht
    split
    · rename_i u hu
      rw [hu] at hfn
      refine ⟨hfn, fun w hw => ⟨t, ht, ?_⟩⟩
      cases hw
      exact hu
    · rename_i err u hu
      rw [hu] at hfn
      split
      · -- the second attempt starts from what the first has left, not from where the first started
        split
        · rename_i err' v hv
          exact ⟨hconnect hv hfn, fun w hw => by cases hw⟩
        · rename_i v hv
          have hiv := hconnect hv hfn
          exact ⟨keep v hiv, fun w hw => ⟨v, hiv, hw⟩⟩
      · exact ⟨hfn, fun w hw => by cases hw⟩

end Retry

section Pass

variable {env : AclEnv} {acl : AccessControl} {appliedSpec : Option (Option AccessControl)} {I : AclServer → Prop}
  (hroles : ∀ s : AclSession, I s.state → I (reconcileRoles env.answer acl s).2.state)

include hroles

theorem reconcileACL_invariant
    (husers : ∀ s : AclSession, I s.state → I (reconcileUsers env.answer env.secrets acl appliedSpec s).2.state)
    {s : AclSession} (hi : I s.state) :
    I (reconcileACL env (some acl) appliedSpec s).2.state := by
  have hclient := getAerospikeClientWithRetry_state env acl
  have hfirst := (retry_cases hclient hroles hi).1
  unfold reconcileACL
  simp only
  split
  · exact hi
  · split
    · split
      · rename_i err t h
        rw [h] at hfirst
        exact hfirst
      · rename_i t h
        rw [h] at hfirst
        have hsecond := (retry_cases hclient husers hfirst).1
        split
        · rename_i err u h
          rw [h] at hsecond
          exact hsecond
        · rename_i u h
          rw [h] at hsecond
          exact hsecond
    · exact hi

/-- A pass that reports the synchronisation has run a role phase without an error, and a user phase after
it. -/
theorem reconcileACL_synced {s u : AclSession} (hi : I s.state)
    (h : reconcileACL env (some acl) appliedSpec s = (⟨true, none⟩, u)) :
    ∃ s' t t', I s'.state ∧ reconcileRoles env.answer acl s' = (none, t) ∧ t'.state.roles = t.state.roles ∧
      reconcileUsers env.answer env.secrets acl appliedSpec t' = (none, u) := by
  have hclient := getAerospikeClientWithRetry_state env acl
  unfold reconcileACL at h
  simp only at h
  split at h
  · cases h
  · split at h
    · split at h
      · cases h
      · rename_i t ht
        obtain ⟨s', hi', hs'⟩ := (retry_cases hclient hroles hi).2 t ht
        split at h
        · cases h
        · rename_i u' hu
          cases h
          -- the user phase leaves the roles alone, also when its first attempt fails
          obtain ⟨t', ht', hu⟩ := (retry_cases (I := fun st => st.roles = t.state.roles) hclient
            (fun v hv => (roles_reconcileUsers env.answer env.secrets acl appliedSpec v).trans hv) rfl).2 _ hu
          exact ⟨s', t, t', hi', hs', ht', hu⟩
    · cases h

end Pass

end Acko
