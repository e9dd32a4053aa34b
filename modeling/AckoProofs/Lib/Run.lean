/-
Runs of a partial step function: a system is a state type, a type of labels (one for every move
of the program or of its environment, with everything the move reads from outside) and a step
function that is undefined where the move is not possible. A run is a list of labels; an invariant
is proven once for a step and then holds after every run.
-/
import Mathlib.Data.Option.Basic

namespace Lts

variable {σ α : Type}

/-! ## Runs -/

/-- The state after the moves of a list, one after the other; undefined as soon as one is not
possible. -/
def run (step : σ → α → Option σ) : σ → List α → Option σ
  | s, [] => some s
  | s, a :: l => (step s a).bind fun t => run step t l

variable {step : σ → α → Option σ} {C : σ → α → Prop}

theorem run_cons {s u : σ} {a : α} {l : List α} :
    run step s (a :: l) = some u ↔ ∃ t, step s a = some t ∧ run step t l = some u := by
  simp only [run, Option.bind_eq_some_iff]

/-- Every move of a run is made in a state that meets `C`. -/
def Along (step : σ → α → Option σ) (C : σ → α → Prop) : σ → List α → Prop
  | _, [] => True
  | s, a :: l => C s a ∧ ∀ t, step s a = some t → Along step C t l

theorem Along.cons {s t : σ} {a : α} {l : List α} (hs : step s a = some t) (hc : C s a) (hl : Along step C t l) :
    Along step C s (a :: l) := by
  refine ⟨hc, ?_⟩
  intro u hu
  rw [hs] at hu
  cases hu
  exact hl

theorem Along.and {D : σ → α → Prop} : ∀ {l : List α} {s : σ},
    Along step C s l → Along step D s l → Along step (fun s a => C s a ∧ D s a) s l
  | [], _, _, _ => trivial
  | _ :: _, _, ⟨hc, hcl⟩, ⟨hd, hdl⟩ => ⟨⟨hc, hd⟩, fun t ht => Along.and (hcl t ht) (hdl t ht)⟩

theorem Along.of_forall : ∀ {l : List α} {s : σ},
    (∀ a ∈ l, ∀ s, C s a) → Along step C s l
  | [], _, _ => trivial
  | a :: _, s, h => ⟨h a List.mem_cons_self s, fun _ _ => Along.of_forall fun b hb => h b (List.mem_cons_of_mem _ hb)⟩

/-! ## Invariants -/

/-- What holds at the start and is kept by every move made where `C` holds, holds after every run
along `C`. -/
theorem run_invariant {I : σ → Prop} (keep : ∀ s a t, I s → C s a → step s a = some t → I t) :
    ∀ {l : List α} {s t : σ}, I s → Along step C s l → run step s l = some t → I t
  | [], s, t, hi, _, h => by cases h; exact hi
  | a :: l, s, t, hi, ⟨hc, hl⟩, h => by
    obtain ⟨u, hu, h⟩ := run_cons.1 h
    exact run_invariant keep (keep s a u hi hc hu) (hl u hu) h

theorem run_invariant' {I : σ → Prop} (keep : ∀ s a t, I s → step s a = some t → I t) :
    ∀ {l : List α} {s t : σ}, I s → run step s l = some t → I t
  | [], s, t, hi, h => by cases h; exact hi
  | a :: l, s, t, hi, h => by
    obtain ⟨u, hu, h⟩ := run_cons.1 h
    exact run_invariant' keep (keep s a u hi hu) h

/-- In a run along `C`, what follows from the invariant and `C` holds at every move. -/
theorem Along.of_invariant {D : σ → α → Prop} {I : σ → Prop} (keep : ∀ s a t, I s → C s a → step s a = some t → I t)
    (hold : ∀ s a, I s → C s a → D s a) : ∀ {l : List α} {s : σ}, I s → Along step C s l → Along step D s l
  | [], _, _, _ => trivial
  | a :: _, s, hi, ⟨hc, hl⟩ =>
    ⟨hold s a hi hc, fun t ht => Along.of_invariant keep hold (keep s a t hi hc ht) (hl t ht)⟩

/-! ## Measures -/

/-- A measure that no move raises and every counted one lowers until it is zero is zero after as
many counted moves. -/
theorem run_measure {m : σ → Nat} {p : α → Bool}
    (drop : ∀ s a t, C s a → step s a = some t → m t ≤ m s - (if p a then 1 else 0)) :
    ∀ {l : List α} {s t : σ}, Along step C s l → run step s l = some t → m t ≤ m s - l.countP p
  | [], s, t, _, h => by cases h; exact Nat.le_refl _
  | a :: l, s, t, ⟨hc, hl⟩, h => by
    obtain ⟨u, hu, h⟩ := run_cons.1 h
    have h1 := drop s a u hc hu
    have h2 := run_measure drop (hl u hu) h
    rw [List.countP_cons]
    omega

theorem run_replicate {s : σ} {a : α} (h : step s a = some s) : ∀ k, run step s (List.replicate k a) = some s
  | 0 => rfl
  | k + 1 => by rw [List.replicate_succ, run_cons]; exact ⟨s, h, run_replicate h k⟩

end Lts
