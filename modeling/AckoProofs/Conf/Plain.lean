/-
Texts that cannot be taken for the structure of aerospike.conf: no newline and no brace. The numbers that the
generator prints are such texts, and so are the names of pods and services.
-/
import AckoProofs.Conf.Tree
import AckoProofs.Kube.Names

namespace Acko

/-! ## Plain texts -/

/-- Neither a newline nor a brace. -/
def plainChar (c : Char) : Bool := c ≠ '\n' && c ≠ '\x7b' && c ≠ '\x7d'

def plainText (s : String) : Bool := s.toList.all plainChar

theorem plainText_append {s t : String} : plainText (s ++ t) = true ↔ plainText s = true ∧ plainText t = true := by
  rw [plainText, String.toList_append, List.all_append, Bool.and_eq_true]
  rfl

theorem plainText_ofList {l : List Char} : plainText (String.ofList l) = l.all plainChar := by
  rw [plainText, String.toList_ofList]

theorem plainChar_of_isDigit {c : Char} (h : c.isDigit = true) : plainChar c = true := by
  have hne : ∀ d : Char, d.isDigit = false → c ≠ d := by
    rintro d hd rfl
    rw [h] at hd
    cases hd
  simp only [plainChar, Bool.and_eq_true, decide_eq_true_eq]
  exact ⟨⟨hne '\n' rfl, hne '\x7b' rfl⟩, hne '\x7d' rfl⟩

theorem plainText_nat (n : Nat) : plainText (toString n) = true := by
  refine List.all_eq_true.2 fun c hc => plainChar_of_isDigit ?_
  have hdigits : (toString n).toList = Nat.toDigits 10 n := Nat.toList_repr
  rw [hdigits] at hc
  exact Nat.isDigit_of_mem_toDigits (by omega) (le_refl _) hc

theorem plainText_int (i : Int) : plainText (toString i) = true := by
  cases i with
  | ofNat n => exact plainText_nat n
  | negSucc n => exact plainText_append.2 ⟨by decide, plainText_nat (n + 1)⟩

/-! ## Numbers -/

theorem plainText_zeros (n : Nat) : plainText (String.ofList (List.replicate n '0')) = true := by
  rw [plainText_ofList, List.all_eq_true]
  intro c hc
  rw [List.eq_of_mem_replicate hc]
  decide

theorem plainText_take {s : String} (h : plainText s = true) (n : Nat) :
    plainText (String.ofList (s.toList.take n)) = true := by
  rw [plainText_ofList, List.all_eq_true]
  exact fun c hc => List.all_eq_true.1 h c (List.mem_of_mem_take hc)

theorem plainText_drop {s : String} (h : plainText s = true) (n : Nat) :
    plainText (String.ofList (s.toList.drop n)) = true := by
  rw [plainText_ofList, List.all_eq_true]
  exact fun c hc => List.all_eq_true.1 h c (List.mem_of_mem_drop hc)

theorem plainText_fmtF {digits : String} (h : plainText digits = true) (dp : Int) :
    plainText (fmtF digits dp) = true := by
  unfold fmtF
  dsimp only
  split
  · exact plainText_append.2 ⟨plainText_append.2 ⟨by decide, plainText_zeros _⟩, h⟩
  · split
    · exact plainText_append.2 ⟨plainText_append.2 ⟨plainText_take h _, by decide⟩, plainText_drop h _⟩
    · exact plainText_append.2 ⟨h, plainText_zeros _⟩

theorem plainText_fmtE {digits : String} (h : plainText digits = true) (exp : Int) :
    plainText (fmtE digits exp) = true := by
  have hexp := plainText_nat exp.natAbs
  unfold fmtE
  dsimp only
  simp only [plainText_append]
  refine ⟨⟨⟨⟨plainText_take h 1, ?_⟩, by decide⟩, ?_⟩, ?_⟩
  · split
    · decide
    · exact plainText_append.2 ⟨by decide, plainText_drop h 1⟩
  · split <;> decide
  · split
    · exact plainText_append.2 ⟨by decide, hexp⟩
    · exact hexp

theorem plainText_fmtFloat (m e : Int) : plainText (fmtFloat m e) = true := by
  have hdigits := plainText_nat m.natAbs
  unfold fmtFloat
  dsimp only
  split
  · decide
  · refine plainText_append.2 ⟨?_, ?_⟩
    · split <;> decide
    · split
      · exact plainText_fmtE hdigits _
      · exact plainText_fmtF hdigits _

/-- What is printed of anything but a text, a list or a map is plain. -/
theorem plainText_formatValue {s : Scalar} (h : ∀ t, s ≠ .str t) : plainText (formatValue (.leaf s)) = true := by
  cases s with
  | nil => decide
  | bool b => cases b <;> decide
  | int i => exact plainText_int i
  | float m e =>
    show plainText (formatFloat m e) = true
    unfold formatFloat
    dsimp only
    split
    · exact plainText_int _
    · exact plainText_fmtFloat m e
  | str t => exact absurd rfl (h t)

/-! ## Names -/

theorem plainText_dnsLabel {s : String} (h : isDNSLabel s = true) : plainText s = true := by
  simp only [isDNSLabel, Bool.and_eq_true, List.all_eq_true] at h
  refine List.all_eq_true.2 fun c hc => ?_
  have hchar := h.1.1.1 c hc
  have hne : ∀ d : Char, (isLowerAlnum d || d = '-') = false → c ≠ d := by
    rintro d hd rfl
    rw [hchar] at hd
    cases hd
  simp only [plainChar, Bool.and_eq_true, decide_eq_true_eq]
  exact ⟨⟨hne '\n' (by decide), hne '\x7b' (by decide)⟩, hne '\x7d' (by decide)⟩

theorem plainText_meshSeed {serviceName namespace_ pName : String} (hservice : isDNSLabel serviceName = true)
    (hns : isDNSLabel namespace_ = true) (hpod : isDNSLabel pName = true) (port : Int) :
    plainText (meshSeed serviceName namespace_ port pName) = true := by
  unfold meshSeed
  simp only [plainText_append]
  exact ⟨⟨⟨plainText_dnsLabel hpod, ⟨⟨⟨by decide, plainText_dnsLabel hservice⟩, by decide⟩, plainText_dnsLabel hns⟩,
    by decide⟩, by decide⟩, plainText_int port⟩

end Acko
