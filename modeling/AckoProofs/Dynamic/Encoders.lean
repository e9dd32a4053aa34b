/-
A value reaches a node in two ways: as the text of a set-config command, and as the text written into
aerospike.conf for the next start. The command prints a number with `%v`, the file prints a whole one in
digits only; for a `float64`, which is what JSON decoding yields, `%v` turns to the exponent form at a million.
-/
import AckoProofs.Conf.Generate
import AckoProofs.Dynamic.Command
import AckoProofs.Kube.Names

namespace Acko

/-! ## Values -/

/-- A bool, a string or a whole number, of any Go type, whose absolute value is below 2^53. -/
def PlainSetting : Value → Prop
  | .leaf (.bool _) => True
  | .leaf (.str _) => True
  | .leaf (.int i) => i.natAbs < 2 ^ 53
  | .leaf (.float m e) => ShortestForm m e ∧ floatWhole m e = true ∧ (floatTrunc m e).natAbs < 2 ^ 53
  | _ => False

/-- The value is a `float64` of a million or more. -/
def LargeFloat : Value → Prop
  | .leaf (.float m e) => 10 ^ 6 ≤ (floatTrunc m e).natAbs
  | _ => False

/-! ## Digits -/

theorem toDigits_mul_pow {n : Nat} (hn : 0 < n) (e : Nat) :
    Nat.toDigits 10 (n * 10 ^ e) = Nat.toDigits 10 n ++ List.replicate e '0' := by
  induction e with
  | zero => simp
  | succ e ih =>
    have hpos : 0 < n * 10 ^ e := Nat.mul_pos hn (Nat.pow_pos (by omega))
    have hstep : n * 10 ^ (e + 1) = 10 * (n * 10 ^ e) + 0 := by
      rw [Nat.pow_succ, ← Nat.mul_assoc, Nat.mul_comm, Nat.add_zero]
    rw [hstep, ← Nat.toDigits_append_toDigits (by omega) hpos (by omega), ih, List.replicate_succ', List.append_assoc]
    rfl

theorem exponent_nonneg {m e : Int} (h : ShortestForm m e) (hwhole : floatWhole m e = true) : 0 ≤ e := by
  rcases h with ⟨-, rfl⟩ | hmod
  · exact le_refl 0
  by_contra hneg
  rw [floatWhole, Bool.or_eq_true, decide_eq_true_eq, decide_eq_true_eq] at hwhole
  rcases hwhole with hpos | hdvd
  · exact hneg hpos
  -- a power of ten that divides the mantissa would leave a trailing zero
  obtain ⟨k, hk⟩ : ∃ k, (-e).toNat = k + 1 := ⟨(-e).toNat - 1, by omega⟩
  have hpow : ((10 ^ (k + 1) : Nat) : Int) ∣ m := Int.dvd_of_tmod_eq_zero (hk ▸ hdvd)
  have hstep : ((10 ^ (k + 1) : Nat) : Int) = 10 * ((10 ^ k : Nat) : Int) := by
    rw [Nat.pow_succ, Nat.mul_comm, Int.natCast_mul]
    rfl
  have hten : (10 : Int) ∣ m := Int.dvd_trans ⟨_, hstep⟩ hpow
  exact hmod (Int.emod_eq_zero_of_dvd hten)

theorem float64OfInt_of_small {n : Int} (h : n.natAbs < 2 ^ 53) : float64OfInt n = n := by
  have hlog : n.natAbs.log2 - 52 = 0 := by
    by_cases hzero : n.natAbs = 0
    · rw [hzero]
      decide
    · have hlt := (Nat.log2_lt hzero).2 h
      omega
  have hexact : ∀ q : Nat, (if 1 < 2 * 0 ∨ 2 * 0 = 1 ∧ q % 2 = 1 then q + 1 else q) = q := fun q => if_neg (by omega)
  unfold float64OfInt
  rw [hlog]
  simp only [Nat.pow_zero, Nat.div_one, Nat.mod_one, Nat.mul_one, hexact]
  split <;> omega

/-- The digits of a whole `float64`, and on which side of a million it lies. -/
theorem digits_of_shortest {m e : Int} (hm : m ≠ 0) (he : 0 ≤ e) :
    Nat.toDigits 10 (floatTrunc m e).natAbs = Nat.toDigits 10 m.natAbs ++ List.replicate e.toNat '0' ∧
      (((toString m.natAbs).length : Int) + e - 1 < 6 ↔ (floatTrunc m e).natAbs < 10 ^ 6) := by
  have htrunc : (floatTrunc m e).natAbs = m.natAbs * 10 ^ e.toNat := by
    rw [floatTrunc, if_pos he, Int.natAbs_mul, Int.natAbs_natCast]
  have hdigits : Nat.toDigits 10 (floatTrunc m e).natAbs = Nat.toDigits 10 m.natAbs ++ List.replicate e.toNat '0' := by
    rw [htrunc, toDigits_mul_pow (Int.natAbs_pos.2 hm)]
  refine ⟨hdigits, ?_⟩
  have hlength : (toString m.natAbs).length = (Nat.toDigits 10 m.natAbs).length := by
    rw [← String.length_toList]
    exact congrArg List.length Nat.toList_repr
  rw [← Nat.length_toDigits_le_iff (by omega) (by omega : 0 < 6), hdigits, List.length_append, List.length_replicate,
    hlength]
  omega

theorem toList_fmtF {m e : Int} (he : 0 ≤ e) :
    (fmtF (toString m.natAbs) ((toString m.natAbs).length + e)).toList =
      Nat.toDigits 10 m.natAbs ++ List.replicate e.toNat '0' := by
  have hprint : (toString m.natAbs).toList = Nat.toDigits 10 m.natAbs := Nat.toList_repr
  have hlength : 0 < (toString m.natAbs).length := by
    rw [← String.length_toList, hprint]
    exact List.length_pos_iff.2 Nat.toDigits_ne_nil
  unfold fmtF
  dsimp only
  rw [if_neg (by omega), if_neg (by omega), String.toList_append, String.toList_ofList, hprint]
  congr 2
  omega

theorem exponent_mark_mem_fmtE (digits : String) (exp : Int) : 'e' ∈ (fmtE digits exp).toList := by
  unfold fmtE
  simp

/-! ## The two encoders -/

theorem formatFloat_of_whole {m e : Int} (hwhole : floatWhole m e = true) (hsmall : (floatTrunc m e).natAbs < 2 ^ 53) :
    formatFloat m e = toString (floatTrunc m e) := by
  unfold formatFloat
  dsimp only
  rw [float64OfInt_of_small hsmall, if_pos ⟨hwhole, by omega, by omega⟩]

theorem fmtFloat_eq_iff {m e : Int} (hshort : ShortestForm m e) (he : 0 ≤ e) :
    fmtFloat m e = toString (floatTrunc m e) ↔ (floatTrunc m e).natAbs < 10 ^ 6 := by
  rcases hshort with ⟨rfl, rfl⟩ | hmod
  · decide
  have hm : m ≠ 0 := by
    rintro rfl
    exact hmod rfl
  obtain ⟨hdigits, hmillion⟩ := digits_of_shortest hm he
  have hsign : floatTrunc m e < 0 ↔ m < 0 := by
    have hpow : (0 : Int) < ((10 ^ e.toNat : Nat) : Int) := Int.natCast_pos.2 (Nat.pow_pos (by omega))
    rw [floatTrunc, if_pos he]
    constructor
    · intro hneg
      by_contra hpos
      exact absurd (Int.mul_nonneg (Int.not_lt.1 hpos) (Int.le_of_lt hpow)) (Int.not_le.2 hneg)
    · intro hneg
      exact Int.mul_neg_of_neg_of_pos hneg hpow
  rw [← String.toList_inj, toList_toString_int, hdigits]
  unfold fmtFloat
  rw [if_neg hm]
  dsimp only
  constructor
  · intro htext
    by_contra hlarge
    rw [← hmillion] at hlarge
    rw [if_pos (Or.inr (Int.not_lt.1 hlarge)), String.toList_append] at htext
    -- the exponent mark is no digit
    have hmark := List.mem_append_right (if m < 0 then "-" else "").toList
      (exponent_mark_mem_fmtE (toString m.natAbs) ((toString m.natAbs).length + e - 1))
    rw [htext, ← hdigits, ← toList_toString_int] at hmark
    rcases isDigit_of_mem_toString_int hmark with hc | hc
    · cases hc
    · exact absurd hc (by decide)
  · intro hsmall
    have hlength : ((toString m.natAbs).length : Int) + e - 1 < 6 := hmillion.2 hsmall
    have hplain :
        ¬ (((toString m.natAbs).length : Int) + e - 1 < -4 ∨ 6 ≤ ((toString m.natAbs).length : Int) + e - 1) := by
      omega
    rw [if_neg hplain, String.toList_append, toList_fmtF he]
    by_cases hneg : m < 0
    · rw [if_pos hneg, if_pos (hsign.2 hneg)]
      rfl
    · rw [if_neg hneg, if_neg (mt hsign.1 hneg)]
      rfl

/-- For a bool, a string or a whole number below 2^53, the value that a set-config command carries and the one
written into aerospike.conf are the same text exactly if it is no `float64` of a million or more. -/
theorem encoders_agree_iff {change : Change} {cmd : SetConfig} (hcmd : buildSetConfigCommand change = .ok cmd)
    (hvalue : PlainSetting change.newValue) :
    cmd.value = formatValue change.newValue ↔ ¬ LargeFloat change.newValue := by
  rw [buildSetConfigCommand_ok hcmd]
  generalize change.newValue = v at hvalue ⊢
  unfold PlainSetting at hvalue
  split at hvalue
  · exact ⟨fun _ h => h, fun _ => rfl⟩
  · exact ⟨fun _ h => h, fun _ => rfl⟩
  · exact ⟨fun _ h => h, fun _ => rfl⟩
  · rename_i m e
    obtain ⟨hshort, hwhole, hsmall⟩ := hvalue
    show fmtFloat m e = formatFloat m e ↔ ¬ 10 ^ 6 ≤ (floatTrunc m e).natAbs
    rw [formatFloat_of_whole hwhole hsmall, fmtFloat_eq_iff hshort (exponent_nonneg hshort hwhole), Nat.not_le]
  · exact hvalue.elim

def decodedTTL (mantissa exponent : Int) : Change :=
  ⟨["namespaces", "test", "default-ttl"], "namespace", "default-ttl", Value.nil, .leaf (.float mantissa exponent),
    "test"⟩

theorem encoders_agree_iff_day : ∃ cmd, buildSetConfigCommand (decodedTTL 864 2) = .ok cmd ∧
    cmd.value = formatValue (decodedTTL 864 2).newValue ∧ cmd.value = "86400" := by
  refine ⟨_, rfl, ?_, by decide⟩
  refine (@encoders_agree_iff (decodedTTL 864 2) _ rfl ⟨Or.inr (by decide), by decide, by decide⟩).2 ?_
  show ¬ 10 ^ 6 ≤ (floatTrunc 864 2).natAbs
  decide

/-- A million, decoded from JSON, is sent as `1e+06` and written as `1000000`. -/
theorem encoders_differ :
    ∃ cmd, buildSetConfigCommand (decodedTTL 1 6) = .ok cmd ∧ PlainSetting (decodedTTL 1 6).newValue ∧
    cmd.value = "1e+06" ∧ formatValue (decodedTTL 1 6).newValue = "1000000" := by
  refine ⟨_, rfl, ⟨Or.inr (by decide), by decide, by decide⟩, by decide, by decide⟩

end Acko
