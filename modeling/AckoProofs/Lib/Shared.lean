/-
Programs that work on one object of a server which others write as well. Before each call of a
program the others may have edited the object, and the call itself may fail. A read gives a copy of
the object with its version, and the write of a copy is refused where the version has moved on, so
that a read, a computation and a write change the object as it stands or not at all. What holds of
the object through a program is shown by triples.
-/
import Mathlib.Data.List.Basic

namespace Shared

/-! ## The server -/

/-- What happens before a call: the edits of others, and the error the call comes back with. -/
structure Turn (δ : Type) where
  edits : List δ
  fault : Option String

/-- An entry of the history: an edit of others, or an event of the program. -/
inductive Entry (δ κ : Type)
  | edit (d : δ)
  | event (e : κ)
  deriving DecidableEq

/-- The object, its version, the turns still to come, and the history. A call without a turn left
has no edit before it and does not fail. -/
structure World (σ δ κ : Type) where
  obj : σ
  version : Nat
  turns : List (Turn δ)
  history : List (Entry δ κ)

inductive CallError
  | conflict
  | failed (reason : String)
  deriving DecidableEq

/-- The object as it was read, with its version. -/
structure Copy (σ : Type) where
  val : σ
  version : Nat

abbrev Prog (σ δ κ α : Type) := StateM (World σ δ κ) α

variable {σ δ κ α β : Type}

def World.editAll (edit : σ → δ → σ) (w : World σ δ κ) (edits : List δ) : World σ δ κ :=
  { w with
    obj := edits.foldl edit w.obj
    version := w.version + edits.length
    history := w.history ++ edits.map .edit }

def World.turn (edit : σ → δ → σ) (w : World σ δ κ) : Option String × World σ δ κ :=
  match w.turns with
  | [] => (none, w)
  | t :: rest => (t.fault, { w with turns := rest }.editAll edit t.edits)

def World.write (w : World σ δ κ) (new : σ) (events : List κ) : World σ δ κ :=
  { w with obj := new, version := w.version + 1, history := w.history ++ events.map .event }

theorem snoc_split {l before after : List α} {x y : α} (h : l ++ [x] = before ++ y :: after) :
    (before = l ∧ y = x ∧ after = []) ∨ ∃ rest, after = rest ++ [x] ∧ l = before ++ y :: rest := by
  rcases List.eq_nil_or_concat after with rfl | ⟨rest, z, rfl⟩
  · obtain ⟨rfl, hx⟩ := List.append_inj' h rfl
    exact Or.inl ⟨rfl, (List.singleton_inj.1 hx).symm, rfl⟩
  · rw [List.concat_eq_append, ← List.cons_append, ← List.append_assoc] at h
    obtain ⟨hl, hx⟩ := List.append_inj' h rfl
    rw [List.singleton_inj.1 hx]
    exact Or.inr ⟨rest, by simp, hl⟩

/-! ## Calls -/

section Calls

variable (edit : σ → δ → σ)

def get : Prog σ δ κ (Except CallError (Copy σ)) := fun w =>
  let (fault, w) := w.turn edit
  match fault with
  | some reason => (.error (.failed reason), w)
  | none => (.ok ⟨w.obj, w.version⟩, w)

/-- Writes under the version of a copy. -/
def put (version : Nat) (new : σ) (events : List κ) : Prog σ δ κ (Except CallError Unit) := fun w =>
  let (fault, w) := w.turn edit
  match fault with
  | some reason => (.error (.failed reason), w)
  | none => if w.version = version then (.ok (), w.write new events) else (.error .conflict, w)

def patch (f : σ → σ) (events : σ → List κ) : Prog σ δ κ (Except CallError Unit) := fun w =>
  let (fault, w) := w.turn edit
  match fault with
  | some reason => (.error (.failed reason), w)
  | none => (.ok (), w.write (f w.obj) (events (f w.obj)))

def emit (events : List κ) : Prog σ δ κ Unit := fun w =>
  ((), { w with history := w.history ++ events.map .event })

/-- Reads the object and writes what `f` makes of the copy, or nothing where `f` has nothing to
write. Returns the object as written, or as read. -/
def modify (f : σ → Option (σ × List κ)) : Prog σ δ κ (Except CallError σ) := do
  match ← get edit with
  | .error err => pure (.error err)
  | .ok copy => match f copy.val with
    | none => pure (.ok copy.val)
    | some (new, events) => do
      match ← put edit copy.version new events with
      | .error err => pure (.error err)
      | .ok _ => pure (.ok new)

/-- Repeats a body while it ends in a conflict, `n` times at most; `b` is what one attempt hands on
to the next. -/
def retryOnConflict (body : β → Prog σ δ κ (Except CallError α × β)) : Nat → β → Prog σ δ κ (Except CallError α)
  | 0, b => do
    let (result, _) ← body b
    pure result
  | n + 1, b => do
    match ← body b with
    | (.error .conflict, next) => retryOnConflict body n next
    | (result, _) => pure result

end Calls

/-! ## Triples -/

/-- From a world that meets `P` the program ends with a result and a world that meet `Q`. -/
def Triple (P : World σ δ κ → Prop) (m : Prog σ δ κ α) (Q : α → World σ δ κ → Prop) : Prop :=
  ∀ w, P w → Q (m w).1 (m w).2

namespace Triple

variable {P P' : World σ δ κ → Prop} {Q Q' : α → World σ δ κ → Prop} {R : β → World σ δ κ → Prop}

theorem pure {a : α} (h : ∀ w, P w → Q a w) : Triple P (Pure.pure a) Q := h

variable {m : Prog σ δ κ α}

theorem bind {f : α → Prog σ δ κ β} (hm : Triple P m Q) (hf : ∀ a, Triple (Q a) (f a) R) :
    Triple P (m >>= f) R := by
  intro w hw
  exact hf _ _ (hm w hw)

theorem conseq (h : Triple P m Q) (hpre : ∀ w, P' w → P w) (hpost : ∀ a w, Q a w → Q' a w) : Triple P' m Q' := by
  intro w hw
  exact hpost _ _ (h w (hpre w hw))

theorem post (h : Triple P m Q) (hpost : ∀ a w, Q a w → Q' a w) : Triple P m Q' :=
  h.conseq (fun _ hw => hw) hpost

theorem assume {φ : Prop} (h : φ → Triple P m Q) : Triple (fun w => φ ∧ P w) m Q := by
  rintro w ⟨hφ, hw⟩
  exact h hφ w hw

theorem emit {events : List κ} {Q : Unit → World σ δ κ → Prop}
    (h : ∀ w, P w → Q () { w with history := w.history ++ events.map .event }) : Triple P (Shared.emit events) Q := h

end Triple

/-- What the edits to come cannot break. -/
def Stable (edit : σ → δ → σ) (P : World σ δ κ → Prop) : Prop := ∀ w, P w → P (w.turn edit).2

section Rules

variable {edit : σ → δ → σ} {P : World σ δ κ → Prop}

theorem turn_obj {w : World σ δ κ} (h : (w.turn edit).2.version = w.version) : (w.turn edit).2.obj = w.obj := by
  unfold World.turn at h ⊢
  split
  · rfl
  · rename_i t rest ht
    rw [ht] at h
    have hlen : t.edits.length = 0 := by
      have : w.version + t.edits.length = w.version := h
      omega
    simp only [World.editAll, List.length_eq_zero_iff.1 hlen, List.foldl_nil]

theorem get_triple (hP : Stable edit P) {Q : Except CallError (Copy σ) → World σ δ κ → Prop}
    (hfail : ∀ w err, P w → Q (.error err) w) (hok : ∀ w, P w → Q (.ok ⟨w.obj, w.version⟩) w) :
    Triple P (get edit) Q := by
  intro w hw
  have h := hP w hw
  unfold get
  generalize w.turn edit = out at h
  obtain ⟨fault, v⟩ := out
  cases fault with
  | some reason => exact hfail v _ h
  | none => exact hok v h

variable {Q : Except CallError Unit → World σ δ κ → Prop}

theorem patch_triple (hP : Stable edit P) {f : σ → σ} {events : σ → List κ} (hfail : ∀ w err, P w → Q (.error err) w)
    (hok : ∀ w, P w → Q (.ok ()) (w.write (f w.obj) (events (f w.obj)))) : Triple P (patch edit f events) Q := by
  intro w hw
  have h := hP w hw
  unfold patch
  generalize w.turn edit = out at h
  obtain ⟨fault, v⟩ := out
  cases fault with
  | some reason => exact hfail v _ h
  | none => exact hok v h

/-- A write that goes through finds the object as its copy has it. -/
theorem put_triple (hP : Stable edit P) {obj new : σ} {version : Nat} {events : List κ}
    (hfail : ∀ w err, P w → Q (.error err) w) (hok : ∀ w, P w → w.obj = obj → Q (.ok ()) (w.write new events)) :
    Triple (fun w => P w ∧ w.obj = obj ∧ w.version = version) (put edit version new events) Q := by
  rintro w ⟨hw, rfl, rfl⟩
  have h := hP w hw
  have hobj := @turn_obj _ _ _ edit w
  unfold put
  generalize w.turn edit = out at h hobj
  obtain ⟨fault, v⟩ := out
  cases fault with
  | some reason => exact hfail v _ h
  | none =>
    simp only
    split
    · rename_i hv
      exact hok v h (hobj hv)
    · exact hfail v _ h

/-- A read and a write change the object as it stands or not at all. -/
theorem modify_triple (hP : Stable edit P) {f : σ → Option (σ × List κ)}
    {Q : Except CallError σ → World σ δ κ → Prop} (hfail : ∀ w err, P w → Q (.error err) w)
    (hskip : ∀ w, P w → f w.obj = none → Q (.ok w.obj) w)
    (hwrite : ∀ w new events, P w → f w.obj = some (new, events) → Q (.ok new) (w.write new events)) :
    Triple P (modify edit f) Q := by
  unfold modify
  refine .bind (Q := fun r w => P w ∧ ∀ copy, r = .ok copy → w.obj = copy.val ∧ w.version = copy.version)
    (get_triple hP (fun w err hw => ⟨hw, by simp⟩) (fun w hw => ⟨hw, by rintro _ ⟨⟩; exact ⟨rfl, rfl⟩⟩)) ?_
  rintro (err | copy)
  · exact .pure fun w hw => hfail w err hw.1
  · cases hf : f copy.val with
    | none =>
      simp only [hf]
      refine .pure fun w hw => ?_
      have hobj := (hw.2 copy rfl).1
      rw [← hobj] at hf ⊢
      exact hskip w hw.1 hf
    | some out =>
      obtain ⟨new, events⟩ := out
      simp only [hf]
      have hput : Triple (fun w => P w ∧ w.obj = copy.val ∧ w.version = copy.version)
          (put edit copy.version new events) (fun r w => match r with
            | .error err => Q (.error err) w
            | .ok _ => Q (.ok new) w) := by
        refine put_triple hP (fun w err hw => hfail w err hw) ?_
        intro w hw hobj
        refine hwrite w new events hw ?_
        rw [hobj, hf]
      refine .bind (hput.conseq (fun w hw => ⟨hw.1, hw.2 copy rfl⟩) fun _ _ h => h) ?_
      rintro (err | _)
      · exact .pure fun w hw => hw
      · exact .pure fun w hw => hw

/-- What an attempt leaves after a conflict is what the next one starts from. -/
theorem retryOnConflict_triple {J : β → World σ δ κ → Prop} {Q : Except CallError α → World σ δ κ → Prop}
    {body : β → Prog σ δ κ (Except CallError α × β)}
    (hbody : ∀ b, Triple (J b) (body b) fun out w => Q out.1 w ∧ (out.1 = .error .conflict → J out.2 w)) :
    ∀ n b, Triple (J b) (retryOnConflict body n b) Q
  | 0, b => by
    refine .bind (hbody b) ?_
    rintro ⟨result, next⟩
    exact .pure fun w hw => hw.1
  | n + 1, b => by
    refine .bind (hbody b) ?_
    rintro ⟨result, next⟩
    match result with
    | .error .conflict => exact (retryOnConflict_triple hbody n next).conseq (fun w hw => hw.2 rfl) fun _ _ h => h
    | .error (.failed reason) => exact .pure fun w hw => hw.1
    | .ok a => exact .pure fun w hw => hw.1

end Rules

/-! ## Undisturbed programs -/

section Quiet

variable {edit : σ → δ → σ} {P : World σ δ κ → Prop}

theorem get_quiet (hP : ∀ w, P w → w.turns = []) {Q : Except CallError (Copy σ) → World σ δ κ → Prop}
    (hok : ∀ w, P w → Q (.ok ⟨w.obj, w.version⟩) w) : Triple P (get edit) Q := by
  intro w hw
  unfold get World.turn
  rw [hP w hw]
  exact hok w hw

variable {Q : Except CallError Unit → World σ δ κ → Prop}

theorem patch_quiet (hP : ∀ w, P w → w.turns = []) {f : σ → σ} {events : σ → List κ}
    (hok : ∀ w, P w → Q (.ok ()) (w.write (f w.obj) (events (f w.obj)))) : Triple P (patch edit f events) Q := by
  intro w hw
  unfold patch World.turn
  rw [hP w hw]
  exact hok w hw

theorem put_quiet (hP : ∀ w, P w → w.turns = []) {version : Nat} (hv : ∀ w, P w → w.version = version) {new : σ}
    {events : List κ} (hok : ∀ w, P w → Q (.ok ()) (w.write new events)) :
    Triple P (put edit version new events) Q := by
  intro w hw
  unfold put World.turn
  rw [hP w hw]
  simp only [hv w hw, if_true]
  exact hok w hw

theorem modify_quiet (hP : ∀ w, P w → w.turns = []) {f : σ → Option (σ × List κ)}
    {Q : Except CallError σ → World σ δ κ → Prop} (hskip : ∀ w, P w → f w.obj = none → Q (.ok w.obj) w)
    (hwrite : ∀ w new events, P w → f w.obj = some (new, events) → Q (.ok new) (w.write new events)) :
    Triple P (modify edit f) Q := by
  refine .bind (Q := fun r w => P w ∧ r = .ok ⟨w.obj, w.version⟩) (get_quiet hP fun w hw => ⟨hw, rfl⟩) ?_
  rintro (err | copy)
  · rintro w ⟨_, h⟩
    cases h
  · cases hf : f copy.val with
    | none =>
      simp only [hf]
      refine .pure ?_
      rintro w ⟨hw, ⟨⟩⟩
      exact hskip w hw hf
    | some out =>
      obtain ⟨new, events⟩ := out
      simp only [hf]
      refine .bind (Q := fun r w => r = .ok () ∧ Q (.ok new) w) (put_quiet (fun w hw => hP w hw.1) ?_ ?_) ?_
      · rintro w ⟨_, ⟨⟩⟩
        rfl
      · rintro w ⟨hw, ⟨⟩⟩
        exact ⟨rfl, hwrite w new events hw hf⟩
      · rintro (err | _)
        · rintro w ⟨h, _⟩
          cases h
        · exact .pure fun w hw => hw.2

theorem retryOnConflict_first {Q : Except CallError α → World σ δ κ → Prop}
    {body : β → Prog σ δ κ (Except CallError α × β)} {b : β}
    (hbody : Triple P (body b) fun out w => out.1 ≠ .error .conflict ∧ Q out.1 w) (n : Nat) :
    Triple P (retryOnConflict body n b) Q := by
  cases n with
  | zero =>
    refine .bind hbody ?_
    rintro ⟨result, next⟩
    exact .pure fun w hw => hw.2
  | succ n =>
    refine .bind hbody ?_
    rintro ⟨result, next⟩
    match result with
    | .error .conflict => exact fun w hw => absurd rfl hw.1
    | .error (.failed reason) => exact .pure fun w hw => hw.2
    | .ok a => exact .pure fun w hw => hw.2

end Quiet

/-! ## Invariants -/

/-- `P` holds of the object and the history, and all edits to come are among `A`. -/
def Within (A : δ → Prop) (P : σ → List (Entry δ κ) → Prop) (w : World σ δ κ) : Prop :=
  P w.obj w.history ∧ ∀ t ∈ w.turns, ∀ d ∈ t.edits, A d

def KeptByEdits (edit : σ → δ → σ) (A : δ → Prop) (P : σ → List (Entry δ κ) → Prop) : Prop :=
  ∀ o l d, A d → P o l → P (edit o d) (l ++ [.edit d])

/-- The program keeps `P`, whatever edits among `A` come between its calls. -/
def Keeps (A : δ → Prop) (P : σ → List (Entry δ κ) → Prop) (m : Prog σ δ κ α) : Prop :=
  Triple (Within A P) m fun _ => Within A P

section Invariants

variable {edit : σ → δ → σ} {A : δ → Prop} {P : σ → List (Entry δ κ) → Prop}

theorem KeptByEdits.editAll (h : KeptByEdits edit A P) : ∀ (edits : List δ) (w : World σ δ κ), (∀ d ∈ edits, A d) →
    P w.obj w.history → P (w.editAll edit edits).obj (w.editAll edit edits).history
  | [], w, _, hw => by simpa [World.editAll] using hw
  | d :: edits, w, hd, hw => by
    have hfirst := h w.obj w.history d (hd d List.mem_cons_self) hw
    have hrest := h.editAll edits ⟨edit w.obj d, w.version, w.turns, w.history ++ [.edit d]⟩
      (fun e he => hd e (List.mem_cons_of_mem _ he)) hfirst
    simpa [World.editAll, List.append_assoc] using hrest

theorem KeptByEdits.stable (h : KeptByEdits edit A P) : Stable edit (Within A P) := by
  rintro w ⟨hw, hA⟩
  unfold World.turn
  split
  · exact ⟨hw, hA⟩
  · rename_i t rest ht
    rw [ht] at hA
    exact ⟨h.editAll t.edits { w with turns := rest } (hA t List.mem_cons_self) hw,
      fun u hu => hA u (List.mem_cons_of_mem _ hu)⟩

namespace Keeps

theorem pure {a : α} : Keeps A P (Pure.pure a : Prog σ δ κ α) := Triple.pure fun _ hw => hw

theorem bind {m : Prog σ δ κ α} {f : α → Prog σ δ κ β} (hm : Keeps A P m) (hf : ∀ a, Keeps A P (f a)) :
    Keeps A P (m >>= f) := Triple.bind hm hf

theorem emit {events : List κ} (h : ∀ o l, P o l → P o (l ++ events.map .event)) :
    Keeps A P (Shared.emit events) := Triple.emit fun w hw => ⟨h w.obj w.history hw.1, hw.2⟩

theorem get (hA : KeptByEdits edit A P) : Keeps A P (Shared.get edit) :=
  get_triple hA.stable (fun _ _ hw => hw) fun _ hw => hw

theorem patch (hA : KeptByEdits edit A P) {f : σ → σ} {events : σ → List κ}
    (h : ∀ o l, P o l → P (f o) (l ++ (events (f o)).map .event)) : Keeps A P (Shared.patch edit f events) :=
  patch_triple hA.stable (fun _ _ hw => hw) fun w hw => ⟨h w.obj w.history hw.1, hw.2⟩

theorem put (hA : KeptByEdits edit A P) {version : Nat} {new : σ} {events : List κ}
    (h : ∀ o l, P o l → P new (l ++ events.map .event)) : Keeps A P (Shared.put edit version new events) := by
  intro w hw
  have hv := hA.stable w hw
  unfold Shared.put
  generalize w.turn edit = out at hv
  obtain ⟨fault, v⟩ := out
  cases fault with
  | some reason => exact hv
  | none =>
    simp only
    split
    · exact ⟨h v.obj v.history hv.1, hv.2⟩
    · exact hv

theorem modify (hA : KeptByEdits edit A P) {f : σ → Option (σ × List κ)}
    (h : ∀ o l new events, P o l → f o = some (new, events) → P new (l ++ events.map .event)) :
    Keeps A P (Shared.modify edit f) :=
  modify_triple hA.stable (fun _ _ hw => hw) (fun _ hw _ => hw) fun w new events hw hf =>
    ⟨h w.obj w.history new events hw.1 hf, hw.2⟩

theorem retryOnConflict {body : β → Prog σ δ κ (Except CallError α × β)} (h : ∀ b, Keeps A P (body b)) (n : Nat)
    (b : β) : Keeps A P (Shared.retryOnConflict body n b) :=
  retryOnConflict_triple (J := fun _ => Within A P) (fun b => (h b).post fun _ _ hw => ⟨hw, fun _ => hw⟩) n b

end Keeps

theorem get_within (hA : KeptByEdits edit A P) :
    Triple (Within A P) (get edit) fun r w => Within A P w ∧ ∀ copy, r = .ok copy → ∃ l, P copy.val l := by
  refine get_triple hA.stable (fun w err hw => ⟨hw, by simp⟩) fun w hw => ⟨hw, ?_⟩
  rintro _ ⟨⟩
  exact ⟨w.history, hw.1⟩

end Invariants

end Shared
