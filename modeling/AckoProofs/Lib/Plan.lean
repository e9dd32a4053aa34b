/-
Plans: calls to a server that holds a state, where what is sent next depends on what was read. A read
sees the state of the moment or fails; a write is carried out, or fails, and one that is answered with an
error may have been carried out all the same. An error that the plan passes over says that there was nothing
left to do, so the state is then as after the write. `wp` is the condition on the state before a plan under
which every write is made in a state that allows it and every normal end meets a postcondition.
-/
import Mathlib.Data.List.Basic

/-- A plan over states `σ`, writes `κ` and errors `ε`. `handle` turns the error of a call into the one that
ends the plan; where it gives none the plan goes on. -/
inductive Plan (σ κ ε : Type) : Type
  | done
  | read (handle : ε → ε) (next : σ → Plan σ κ ε)
  | write (c : κ) (handle : ε → Option ε) (next : Plan σ κ ε)

namespace Plan

variable {σ κ ε : Type}

/-! ## Running -/

/-- The answer to a call: carried out, or an error, of a write that may have been carried out. -/
inductive Answer (ε : Type)
  | done
  | failed (e : ε) (applied : Bool)

/-- The state of the server, the number of calls made so far, and the writes that were sent, each with the
state it met. -/
structure Session (σ κ : Type) where
  state : σ
  calls : Nat
  sent : List (σ × κ)

section Run

variable (apply : σ → κ → σ) (answer : Nat → Answer ε)

/-- The error that ends the plan, if one does, and the session after it. -/
def exec : Plan σ κ ε → Session σ κ → Option ε × Session σ κ
  | .done, s => (none, s)
  | .read handle next, s =>
    match answer s.calls with
    | .done => exec (next s.state) { s with calls := s.calls + 1 }
    | .failed e _ => (some (handle e), { s with calls := s.calls + 1 })
  | .write c handle next, s =>
    let sent := s.sent ++ [(s.state, c)]
    match answer s.calls with
    | .done => exec next ⟨apply s.state c, s.calls + 1, sent⟩
    | .failed e applied =>
      match handle e with
      | some e => (some e, ⟨if applied then apply s.state c else s.state, s.calls + 1, sent⟩)
      | none => exec next ⟨apply s.state c, s.calls + 1, sent⟩

end Run

/-! ## Plans from plans -/

def andThen : Plan σ κ ε → Plan σ κ ε → Plan σ κ ε
  | .done, q => q
  | .read handle next, q => .read handle fun s => (next s).andThen q
  | .write c handle next, q => .write c handle (next.andThen q)

def forEach {α : Type} (body : α → Plan σ κ ε) : List α → Plan σ κ ε
  | [] => .done
  | a :: l => (body a).andThen (forEach body l)

/-! ## Preconditions -/

/-- Every write is allowed by `ok` in the state it meets, and every normal end meets `Q`. -/
def wp (apply : σ → κ → σ) (ok : σ → κ → Prop) (Q : σ → Prop) : Plan σ κ ε → σ → Prop
  | .done, s => Q s
  | .read _ next, s => wp apply ok Q (next s) s
  | .write c _ next, s => ok s c ∧ wp apply ok Q next (apply s c)

variable {apply : σ → κ → σ} {ok : σ → κ → Prop} {Q : σ → Prop} {answer : Nat → Answer ε}

theorem wp_andThen {q : Plan σ κ ε} : ∀ {p : Plan σ κ ε} {s : σ},
    wp apply ok Q (p.andThen q) s ↔ wp apply ok (fun t => wp apply ok Q q t) p s
  | .done, _ => Iff.rfl
  | .read _ next, s => wp_andThen (p := next s)
  | .write .., _ => and_congr_right fun _ => wp_andThen

theorem wp_mono {Q' : σ → Prop} (h : ∀ s, Q s → Q' s) :
    ∀ {p : Plan σ κ ε} {s : σ}, wp apply ok Q p s → wp apply ok Q' p s
  | .done, s, hp => h s hp
  | .read _ next, s, hp => wp_mono h (p := next s) hp
  | .write .., _, ⟨hok, hp⟩ => ⟨hok, wp_mono h hp⟩

theorem wp_permit {ok' : σ → κ → Prop} (h : ∀ s c, ok s c → ok' s c) : ∀ {p : Plan σ κ ε} {s : σ},
    wp apply ok Q p s → wp apply ok' Q p s
  | .done, _, hp => hp
  | .read _ next, s, hp => wp_permit h (p := next s) hp
  | .write .., s, ⟨hok, hp⟩ => ⟨h s _ hok, wp_permit h hp⟩

/-- What every allowed write keeps holds in every state that a write meets. -/
theorem wp_invariant {I : σ → Prop} (keep : ∀ s c, ok s c → I s → I (apply s c)) : ∀ {p : Plan σ κ ε} {s : σ},
    I s → wp apply ok Q p s → wp apply (fun s c => ok s c ∧ I s) Q p s
  | .done, _, _, hp => hp
  | .read _ next, s, hi, hp => wp_invariant keep (p := next s) hi hp
  | .write .., s, hi, ⟨hok, hp⟩ => ⟨⟨hok, hi⟩, wp_invariant keep (keep s _ hok hi) hp⟩

/-- A loop: the body takes what holds after the items before it to what holds with its own item done. -/
theorem wp_forEach_from {α : Type} {body : α → Plan σ κ ε} {R : List α → σ → Prop} {l : List α}
    (step : ∀ before a rest s, l = before ++ a :: rest → R before s → wp apply ok (R (before ++ [a])) (body a) s) :
    ∀ {rest before : List α} {s : σ}, l = before ++ rest → R before s → wp apply ok (R l) (forEach body rest) s
  | [], before, s, hl, h => by
    rw [hl, List.append_nil]
    exact h
  | a :: rest, before, s, hl, h => by
    show wp apply ok (R l) ((body a).andThen (forEach body rest)) s
    rw [wp_andThen]
    refine wp_mono (fun t ht => ?_) (step before a rest s hl h)
    exact wp_forEach_from step (by rw [hl, List.append_assoc, List.singleton_append]) ht

theorem wp_forEach {α : Type} {body : α → Plan σ κ ε} {R : List α → σ → Prop} {l : List α} {s : σ}
    (start : R [] s)
    (step : ∀ before a rest s, l = before ++ a :: rest → R before s → wp apply ok (R (before ++ [a])) (body a) s) :
    wp apply ok (R l) (forEach body l) s :=
  wp_forEach_from step (List.nil_append l).symm start

/-- A plan whose precondition holds sends allowed writes only, and ends normally in its postcondition. -/
theorem exec_sound : ∀ {p : Plan σ κ ε} {s t : Session σ κ} {r : Option ε}, wp apply ok Q p s.state →
    exec apply answer p s = (r, t) → (r = none → Q t.state) ∧ ∀ x ∈ t.sent, x ∈ s.sent ∨ ok x.1 x.2
  | .done, s, t, r, hp, h => by
    cases h
    exact ⟨fun _ => hp, fun x hx => Or.inl hx⟩
  | .read handle next, s, t, r, hp, h => by
    unfold exec at h
    split at h
    · exact exec_sound (p := next s.state) (s := { s with calls := s.calls + 1 }) hp h
    · cases h
      exact ⟨(fun h => by cases h), fun x hx => Or.inl hx⟩
  | .write c handle next, s, t, r, ⟨hok, hp⟩, h => by
    have hsent : ∀ {x}, x ∈ s.sent ++ [(s.state, c)] → x ∈ s.sent ∨ ok x.1 x.2 := by
      intro x hx
      rcases List.mem_append.1 hx with hx | hx
      · exact Or.inl hx
      · rw [List.mem_singleton.1 hx]
        exact Or.inr hok
    have hrest : exec apply answer next ⟨apply s.state c, s.calls + 1, s.sent ++ [(s.state, c)]⟩ = (r, t) →
        (r = none → Q t.state) ∧ ∀ x ∈ t.sent, x ∈ s.sent ∨ ok x.1 x.2 := by
      intro hexec
      obtain ⟨hend, hnew⟩ := exec_sound hp hexec
      refine ⟨hend, fun x hx => ?_⟩
      rcases hnew x hx with hx | hx
      · exact hsent hx
      · exact Or.inr hx
    unfold exec at h
    dsimp only at h
    split at h
    · exact hrest h
    · split at h
      · cases h
        exact ⟨(fun h => by cases h), fun x hx => hsent hx⟩
      · exact hrest h

/-- What every allowed write keeps holds after the plan, however it ends. -/
theorem exec_keeps {I : σ → Prop} (keep : ∀ s c, ok s c → I s → I (apply s c)) :
    ∀ {p : Plan σ κ ε} {s t : Session σ κ} {r : Option ε}, wp apply ok Q p s.state → I s.state →
      exec apply answer p s = (r, t) → I t.state
  | .done, s, t, r, _, hi, h => by
    cases h
    exact hi
  | .read handle next, s, t, r, hp, hi, h => by
    unfold exec at h
    split at h
    · exact exec_keeps keep (p := next s.state) (s := { s with calls := s.calls + 1 }) hp hi h
    · cases h
      exact hi
  | .write c handle next, s, t, r, ⟨hok, hp⟩, hi, h => by
    have hkept : I (apply s.state c) := keep _ _ hok hi
    unfold exec at h
    dsimp only at h
    split at h
    · exact exec_keeps keep hp hkept h
    · rename_i e applied _
      split at h
      · cases h
        cases applied with
        | true => exact hkept
        | false => exact hi
      · exact exec_keeps keep hp hkept h

end Plan
