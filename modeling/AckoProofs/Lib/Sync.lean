/-
Plans that bring one object of a server to what is wanted: it is created where it is missing, updated where it
differs, and deleted where none is wanted. `read` is where the object stands in the state of the server.
-/
import AckoProofs.Lib.Keyed
import AckoProofs.Lib.Plan

namespace Plan

variable {σ κ ε α : Type}

/-- The plan, given the object as it was read. Errors of a deletion go through `gone`. -/
def sync (request : Keyed.Change α → κ) (gone : ε → Option ε) (changed : α → Bool) (update : α → α) :
    Option α → Option α → Plan σ κ ε
  | none, none => .done
  | none, some _ => .write (request .delete) gone .done
  | some a, none => .write (request (.create a)) some .done
  | some _, some e => if changed e then .write (request (.update (update e))) some .done else .done

/-- The object is there as it should be, or is not where none is wanted. -/
def Synced (Good : α → Prop) (wanted object : Option α) : Prop :=
  match wanted with
  | none => object = none
  | some _ => ∃ e, object = some e ∧ Good e

section Wp

variable {apply : σ → κ → σ} {ok : σ → κ → Prop} {request : Keyed.Change α → κ} {gone : ε → Option ε}
  {changed : α → Bool} {update : α → α} {wanted : Option α}

theorem wp_sync (read : σ → Option α) (Good : α → Prop) {s : σ} (hok : ∀ s change, ok s (request change))
    (hread : ∀ s change, read (apply s (request change)) = change.on (read s))
    (hcreated : ∀ a, wanted = some a → Good a) (hkept : ∀ e, changed e = false → Good e)
    (hupdated : ∀ e, Good (update e)) :
    wp apply ok (fun t => Synced Good wanted (read t)) (sync request gone changed update wanted (read s)) s := by
  cases hwanted : wanted with
  | none =>
    cases hs : read s with
    | none => exact hs
    | some e =>
      refine ⟨hok s _, ?_⟩
      show read (apply s (request .delete)) = none
      rw [hread]
      rfl
  | some a =>
    cases hs : read s with
    | none =>
      refine ⟨hok s _, a, ?_, hcreated a hwanted⟩
      rw [hread, hs]
      rfl
    | some e =>
      show wp apply ok _ (if changed e then _ else _) s
      split
      · refine ⟨hok s _, update e, ?_, hupdated e⟩
        rw [hread, hs]
        rfl
      · rename_i hsame
        exact ⟨e, hs, hkept e (Bool.eq_false_iff.2 hsame)⟩

theorem sync_eq_done {Good : α → Prop} {existing : Option α} (hsame : ∀ e, Good e → changed e = false)
    (h : Synced Good wanted existing) : sync request gone changed update wanted existing = (.done : Plan σ κ ε) := by
  cases wanted with
  | none =>
    cases h
    rfl
  | some a =>
    obtain ⟨e, rfl, hgood⟩ := h
    rw [sync, hsame e hgood]
    rfl

end Wp

end Plan
