/-
The body of a TOML inline table of strings: `key = "value"` pairs between commas, with bare keys and
basic strings. A table printed with quotes and backslashes escaped reads back as its pairs, whatever
else the values hold but control characters.
-/
import Mathlib.Data.List.Basic

namespace Toml

/-! ## The reader -/

def isBareKeyChar (c : Char) : Bool := c.isAlphanum || c = '_' || c = '-'

def isBlank (c : Char) : Bool := c = ' ' || c = '\t'

def isControl (c : Char) : Bool := c.toNat < 0x20 || c.toNat = 0x7f

/-- What the character after a backslash stands for. -/
def escapes : List (Char × Char) :=
  [('b', '\x08'), ('t', '\t'), ('n', '\n'), ('f', '\x0c'), ('r', '\r'), ('"', '"'), ('\\', '\\')]

def hexDigit (c : Char) : Option Nat :=
  if c.isDigit then some (c.toNat - '0'.toNat)
  else if 'a' ≤ c ∧ c ≤ 'f' then some (c.toNat - 'a'.toNat + 10)
  else if 'A' ≤ c ∧ c ≤ 'F' then some (c.toNat - 'A'.toNat + 10)
  else none

/-- The character with a code point in hexadecimal digits. -/
def codePoint (digits : List Char) : Option Char :=
  ((digits.mapM hexDigit).map (·.foldl (fun n d => 16 * n + d) 0)).bind fun n =>
    if n.isValidChar then some (Char.ofNat n) else none

def consChar (c : Char) (read : List Char × List Char) : List Char × List Char := (c :: read.1, read.2)

/-- A basic string behind its opening quote, and what follows it. -/
def basicString : List Char → Option (List Char × List Char)
  | [] => none
  | '"' :: rest => some ([], rest)
  | '\\' :: 'u' :: a :: b :: c :: d :: rest =>
    (codePoint [a, b, c, d]).bind fun x => (basicString rest).map (consChar x)
  | '\\' :: 'U' :: a :: b :: c :: d :: e :: f :: g :: h :: rest =>
    (codePoint [a, b, c, d, e, f, g, h]).bind fun x => (basicString rest).map (consChar x)
  | '\\' :: c :: rest => (escapes.lookup c).bind fun x => (basicString rest).map (consChar x)
  | c :: rest => if isControl c ∧ c ≠ '\t' then none else (basicString rest).map (consChar c)

/-- A pair with the blanks around it, and what follows it. -/
def pair (l : List Char) : Option ((String × String) × List Char) :=
  let l := l.dropWhile isBlank
  let key := l.takeWhile isBareKeyChar
  if key = [] then none
  else match (l.dropWhile isBareKeyChar).dropWhile isBlank with
    | '=' :: rest => match rest.dropWhile isBlank with
      | '"' :: rest => (basicString rest).map fun read =>
          ((String.ofList key, String.ofList read.1), read.2.dropWhile isBlank)
      | _ => none
    | _ => none

def pairs : Nat → List Char → Option (List (String × String))
  | 0, _ => none
  | fuel + 1, l => match pair l with
    | some (kv, []) => some [kv]
    | some (kv, ',' :: rest) => (pairs fuel rest).map (kv :: ·)
    | _ => none

/-- The pairs of a table; a table has no key twice. Every pair takes at least one character. -/
def inlineTable (l : List Char) : Option (List (String × String)) :=
  if l.all isBlank then some [] else (pairs l.length l).filter fun kvs => (kvs.map Prod.fst).Nodup

/-! ## The printer -/

def escaped (value : List Char) : List Char :=
  value.flatMap fun c => if c = '\\' ∨ c = '"' then ['\\', c] else [c]

def printed (kv : String × String) : List Char := kv.1.toList ++ ['=', '"'] ++ escaped kv.2.toList ++ ['"']

/-- A key and a value that can be printed. -/
structure Printable (kv : String × String) : Prop where
  ne_nil : kv.1.toList ≠ []
  bare : ∀ c ∈ kv.1.toList, isBareKeyChar c = true
  plain : ∀ c ∈ kv.2.toList, isControl c = false

theorem basicString_cons {c : Char} {rest : List Char} (hquote : c ≠ '"') (hslash : c ≠ '\\')
    (hplain : isControl c = false) : basicString (c :: rest) = (basicString rest).map (consChar c) := by
  rw [basicString]
  · rw [if_neg (by simp [hplain])]
  all_goals simp_all

/-- The escaped value is read to its end and no further. -/
theorem basicString_escaped {value rest : List Char} (hplain : ∀ c ∈ value, isControl c = false) :
    basicString (escaped value ++ '"' :: rest) = some (value, rest) := by
  induction value with
  | nil => rfl
  | cons c value ih =>
    have ih := ih fun x hx => hplain x (List.mem_cons_of_mem _ hx)
    simp only [escaped, List.flatMap_cons, List.append_assoc] at ih ⊢
    by_cases hslash : c = '\\'
    · subst hslash
      rw [if_pos (Or.inl rfl), List.cons_append, List.singleton_append]
      show (escapes.lookup '\\').bind _ = _
      rw [ih]
      rfl
    by_cases hquote : c = '"'
    · subst hquote
      rw [if_pos (Or.inr rfl), List.cons_append, List.singleton_append]
      show (escapes.lookup '"').bind _ = _
      rw [ih]
      rfl
    rw [if_neg (by simp [hslash, hquote]), List.singleton_append,
      basicString_cons hquote hslash (hplain c List.mem_cons_self), ih]
    rfl

theorem not_blank_of_bareKeyChar {c : Char} (h : isBareKeyChar c = true) : isBlank c = false := by
  by_contra hblank
  simp only [isBlank, Bool.not_eq_false, Bool.or_eq_true, decide_eq_true_eq] at hblank
  rcases hblank with rfl | rfl <;> exact absurd h (by decide)

theorem dropWhile_blank_key {key rest : List Char} (hne : key ≠ []) (hbare : ∀ c ∈ key, isBareKeyChar c = true) :
    (key ++ rest).dropWhile isBlank = key ++ rest := by
  cases key with
  | nil => exact absurd rfl hne
  | cons c key =>
    rw [List.cons_append, List.dropWhile_cons_of_neg]
    simp [not_blank_of_bareKeyChar (hbare c List.mem_cons_self)]

theorem pair_printed {kv : String × String} (h : Printable kv) (blanks rest : List Char)
    (hblanks : ∀ c ∈ blanks, isBlank c = true) :
    pair (blanks ++ printed kv ++ rest) = some (kv, rest.dropWhile isBlank) := by
  have htext : printed kv ++ rest = kv.1.toList ++ '=' :: '"' :: (escaped kv.2.toList ++ '"' :: rest) := by
    simp [printed]
  have hkey : ('=' :: '"' :: (escaped kv.2.toList ++ '"' :: rest)).takeWhile isBareKeyChar = [] := rfl
  have hrest : ('=' :: '"' :: (escaped kv.2.toList ++ '"' :: rest)).dropWhile isBareKeyChar =
      '=' :: '"' :: (escaped kv.2.toList ++ '"' :: rest) := rfl
  unfold pair
  rw [List.append_assoc, List.dropWhile_append_of_pos hblanks, htext, dropWhile_blank_key h.ne_nil h.bare]
  simp only
  rw [List.takeWhile_append_of_pos h.bare, List.dropWhile_append_of_pos h.bare, hkey, hrest, List.append_nil,
    if_neg h.ne_nil]
  show (basicString (escaped kv.2.toList ++ '"' :: rest)).map _ = _
  rw [basicString_escaped h.plain, Option.map_some, String.ofList_toList, String.ofList_toList]

theorem pairs_printed {kvs : List (String × String)} (h : ∀ kv ∈ kvs, Printable kv) (hne : kvs ≠ []) :
    ∀ {fuel : Nat} {blanks : List Char}, (∀ c ∈ blanks, isBlank c = true) → kvs.length ≤ fuel →
      pairs fuel (blanks ++ [',', ' '].intercalate (kvs.map printed)) = some kvs := by
  induction kvs with
  | nil => exact absurd rfl hne
  | cons kv kvs ih =>
    intro fuel blanks hblanks hfuel
    obtain ⟨fuel, rfl⟩ : ∃ n, fuel = n + 1 := ⟨fuel - 1, by simp at hfuel; omega⟩
    have hkv := h kv List.mem_cons_self
    cases kvs with
    | nil =>
      have hpair := pair_printed hkv blanks [] hblanks
      rw [List.append_nil] at hpair
      simp only [List.map_cons, List.map_nil, List.intercalate_singleton]
      rw [pairs, hpair]
      rfl
    | cons kv' kvs =>
      have htail := @ih (fun x hx => h x (List.mem_cons_of_mem _ hx)) (by simp) fuel [' ']
        (fun c hc => by rw [List.mem_singleton.1 hc]; rfl) (by simpa using hfuel)
      have hpair := pair_printed hkv blanks (',' :: ' ' :: [',', ' '].intercalate ((kv' :: kvs).map printed)) hblanks
      rw [List.append_assoc] at hpair
      rw [List.map_cons, List.map_cons, List.intercalate_cons_cons, ← List.map_cons, List.append_assoc,
        List.cons_append, List.singleton_append, pairs, hpair]
      generalize [',', ' '].intercalate ((kv' :: kvs).map printed) = rest at htail ⊢
      show (pairs fuel ([' '] ++ rest)).map _ = _
      rw [htail]
      rfl

theorem length_le_printed : ∀ kvs : List (String × String),
    kvs.length ≤ ([',', ' '].intercalate (kvs.map printed)).length
  | [] => Nat.zero_le _
  | [kv] => by
    simp only [printed, List.map_cons, List.map_nil, List.intercalate_singleton, List.length_append,
      List.length_cons, List.length_nil]
    omega
  | kv :: kv' :: kvs => by
    have ih := length_le_printed (kv' :: kvs)
    rw [List.map_cons, List.map_cons, List.intercalate_cons_cons, ← List.map_cons]
    simp only [List.length_append, List.length_cons] at ih ⊢
    omega

theorem inlineTable_printed {kvs : List (String × String)} (h : ∀ kv ∈ kvs, Printable kv)
    (hnodup : (kvs.map Prod.fst).Nodup) : inlineTable ([',', ' '].intercalate (kvs.map printed)) = some kvs := by
  cases kvs with
  | nil => rfl
  | cons kv kvs =>
    have hread := @pairs_printed _ h (by simp) _ [] (by simp) (length_le_printed (kv :: kvs))
    have hkv := h kv List.mem_cons_self
    have hblank : ¬ ([',', ' '].intercalate ((kv :: kvs).map printed)).all isBlank = true := by
      intro hall
      obtain ⟨c, key, hkey⟩ := List.exists_cons_of_ne_nil hkv.ne_nil
      have hmem : c ∈ [',', ' '].intercalate ((kv :: kvs).map printed) := by
        cases kvs <;> simp [printed, hkey, List.intercalate_cons_cons]
      have hbare := not_blank_of_bareKeyChar (hkv.bare c (by simp [hkey]))
      rw [List.all_eq_true.1 hall c hmem] at hbare
      cases hbare
    rw [List.nil_append] at hread
    rw [inlineTable, if_neg hblank, hread, Option.filter_some, if_pos (by simpa using hnodup)]

end Toml
