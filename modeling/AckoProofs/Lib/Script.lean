/-
Scripts: commands sent to a server one after the other, up to the first error. The server may answer a
command with an error and have carried it out all the same.
-/
import AckoProofs.Lib.Plan
import Mathlib.Data.List.Nodup

open Plan (Answer)

namespace Script

variable {σ κ ε : Type}

/-- A command, with what the sender makes of its error, or an error that the sender finds itself. -/
inductive Step (κ ε : Type)
  | send (c : κ) (wrap : ε → ε)
  | stop (e : ε)

/-- The state of the server and the commands sent so far. -/
structure Session (σ κ : Type) where
  state : σ
  sent : List κ

section Run

variable (apply : σ → κ → σ) (answer : Session σ κ → κ → Answer ε)

def send (s : Session σ κ) (c : κ) : Option ε × Session σ κ :=
  match answer s c with
  | .done => (none, ⟨apply s.state c, s.sent ++ [c]⟩)
  | .failed e applied => (some e, ⟨if applied then apply s.state c else s.state, s.sent ++ [c]⟩)

/-- The error that ends the script, if one does, and the session after it. -/
def exec : Session σ κ → List (Step κ ε) → Option ε × Session σ κ
  | s, [] => (none, s)
  | s, .stop e :: _ => (some e, s)
  | s, .send c wrap :: l =>
    match send apply answer s c with
    | (none, t) => exec t l
    | (some e, t) => (some (wrap e), t)

/-- A script that depends on the state, after a question to the server. -/
def asked (s : Session σ κ) (query : κ) (wrap : ε → ε) (script : σ → List (Step κ ε)) : Option ε × Session σ κ :=
  match send apply answer s query with
  | (some e, t) => (some (wrap e), t)
  | (none, t) => exec apply answer t (script t.state)

end Run

def Step.command : Step κ ε → Option κ
  | .send c _ => some c
  | .stop _ => none

def commands (l : List (Step κ ε)) : List κ := l.filterMap Step.command

theorem commands_append (l m : List (Step κ ε)) : commands (l ++ m) = commands l ++ commands m :=
  List.filterMap_append

theorem commands_flatMap {α : Type} (f : α → List (Step κ ε)) (l : List α) :
    commands (l.flatMap f) = l.flatMap fun a => commands (f a) := by
  induction l with
  | nil => rfl
  | cons a l ih => rw [List.flatMap_cons, commands_append, ih, List.flatMap_cons]

/-! ## What a script does -/

theorem send_cases (apply : σ → κ → σ) (answer : Session σ κ → κ → Answer ε) (s : Session σ κ) (c : κ) :
    (send apply answer s c = (none, ⟨apply s.state c, s.sent ++ [c]⟩)) ∨
      ∃ e t, send apply answer s c = (some e, t) ∧ t.sent = s.sent ++ [c] ∧
        (t.state = s.state ∨ t.state = apply s.state c) := by
  unfold send
  cases answer s c with
  | done => exact Or.inl rfl
  | failed e applied =>
    refine Or.inr ⟨e, _, rfl, rfl, ?_⟩
    cases applied with
    | false => exact Or.inl rfl
    | true => exact Or.inr rfl

variable {apply : σ → κ → σ} {answer : Session σ κ → κ → Answer ε}

theorem exec_done : ∀ {l : List (Step κ ε)} {s t : Session σ κ}, exec apply answer s l = (none, t) →
    t = ⟨(commands l).foldl apply s.state, s.sent ++ commands l⟩ ∧ ∀ e, .stop e ∉ l
  | [], s, t, h => by
    cases h
    exact ⟨congrArg (Session.mk s.state) (List.append_nil _).symm, fun e he => by cases he⟩
  | .stop e :: l, s, t, h => by cases h
  | .send c wrap :: l, s, t, h => by
    unfold exec at h
    rcases send_cases apply answer s c with hs | ⟨e, u, hs, _⟩
    · rw [hs] at h
      obtain ⟨hsession, hno⟩ := exec_done h
      rw [List.append_assoc] at hsession
      refine ⟨hsession, fun e he => ?_⟩
      rcases List.mem_cons.1 he with he | he
      · cases he
      · exact hno e he
    · rw [hs] at h
      cases h

theorem exec_invariant {I : σ → Prop} : ∀ {l : List (Step κ ε)} {s : Session σ κ},
    (∀ c ∈ commands l, ∀ st, I st → I (apply st c)) → I s.state → I (exec apply answer s l).2.state
  | [], s, _, hi => hi
  | .stop e :: l, s, _, hi => hi
  | .send c wrap :: l, s, keep, hi => by
    have hc : ∀ st, I st → I (apply st c) := keep c List.mem_cons_self
    have hl : ∀ d ∈ commands l, ∀ st, I st → I (apply st d) := fun d hd => keep d (List.mem_cons_of_mem _ hd)
    unfold exec
    rcases send_cases apply answer s c with hs | ⟨e, t, hs, _, hstate⟩
    · rw [hs]
      exact exec_invariant hl (hc _ hi)
    · rw [hs]
      rcases hstate with hstate | hstate
      · show I t.state
        rw [hstate]
        exact hi
      · show I t.state
        rw [hstate]
        exact hc _ hi

theorem mem_sent_exec : ∀ {l : List (Step κ ε)} {s : Session σ κ} {d : κ},
    d ∈ (exec apply answer s l).2.sent → d ∈ s.sent ∨ d ∈ commands l
  | [], s, d, h => Or.inl h
  | .stop e :: l, s, d, h => Or.inl h
  | .send c wrap :: l, s, d, h => by
    have hcons : d ∈ s.sent ++ [c] → d ∈ s.sent ∨ d ∈ commands (.send c wrap :: l) := by
      intro h
      rcases List.mem_append.1 h with h | h
      · exact Or.inl h
      · rw [List.mem_singleton.1 h]
        exact Or.inr List.mem_cons_self
    unfold exec at h
    rcases send_cases apply answer s c with hs | ⟨e, t, hs, hsent, _⟩
    · rw [hs] at h
      rcases mem_sent_exec h with h | h
      · exact hcons h
      · exact Or.inr (List.mem_cons_of_mem _ h)
    · rw [hs] at h
      exact hcons (hsent ▸ h)

theorem exec_of_done (hdone : ∀ s c, answer s c = .done) : ∀ {l : List (Step κ ε)} {s : Session σ κ},
    (∀ e, .stop e ∉ l) → exec apply answer s l = (none, ⟨(commands l).foldl apply s.state, s.sent ++ commands l⟩)
  | [], s, _ => by simp [exec, commands]
  | .stop e :: l, s, h => absurd List.mem_cons_self (h e)
  | .send c wrap :: l, s, h => by
    have hs : send apply answer s c = (none, ⟨apply s.state c, s.sent ++ [c]⟩) := by
      unfold send
      rw [hdone]
    unfold exec
    rw [hs]
    show exec apply answer ⟨apply s.state c, s.sent ++ [c]⟩ l = _
    rw [exec_of_done hdone fun e he => h e (List.mem_cons_of_mem _ he)]
    simp [commands, Step.command]

section Asked

variable {s : Session σ κ} {query : κ} {wrap : ε → ε} {script : σ → List (Step κ ε)}

/-- A question changes nothing: it fails, or the script is run on the state as it was. -/
theorem asked_cases (hquery : ∀ st, apply st query = st) :
    (∃ e, asked apply answer s query wrap script = (some e, ⟨s.state, s.sent ++ [query]⟩)) ∨
      asked apply answer s query wrap script =
        exec apply answer ⟨s.state, s.sent ++ [query]⟩ (script s.state) := by
  unfold asked send
  cases answer s query with
  | done => exact Or.inr (by simp only [hquery])
  | failed e applied => exact Or.inl ⟨wrap e, by simp only [hquery, ite_self]⟩

theorem asked_done (hquery : ∀ st, apply st query = st) {t : Session σ κ}
    (h : asked apply answer s query wrap script = (none, t)) :
    t.state = (commands (script s.state)).foldl apply s.state ∧ ∀ e, .stop e ∉ script s.state := by
  rcases asked_cases hquery with ⟨e, he⟩ | he
  · rw [he] at h
    cases h
  · rw [he] at h
    obtain ⟨rfl, hno⟩ := exec_done h
    exact ⟨rfl, hno⟩

theorem asked_invariant (hquery : ∀ st, apply st query = st) {I : σ → Prop}
    (keep : ∀ c ∈ commands (script s.state), ∀ st, I st → I (apply st c)) (hi : I s.state) :
    I (asked apply answer s query wrap script).2.state := by
  rcases asked_cases hquery with ⟨e, he⟩ | he
  · rw [he]
    exact hi
  · rw [he]
    exact exec_invariant keep hi

theorem mem_sent_asked (hquery : ∀ st, apply st query = st) {c : κ}
    (h : c ∈ (asked apply answer s query wrap script).2.sent) :
    (c ∈ s.sent ∨ c = query) ∨ c ∈ commands (script s.state) := by
  have hsent : c ∈ s.sent ++ [query] → c ∈ s.sent ∨ c = query := by simp
  rcases asked_cases hquery with ⟨e, he⟩ | he
  · rw [he] at h
    exact Or.inl (hsent h)
  · rw [he] at h
    exact (mem_sent_exec h).imp_left hsent

end Asked

/-! ## What a list of commands leaves alone -/

theorem foldl_frame {β : Type} {v : σ → β} : ∀ {l : List κ} {s : σ},
    (∀ c ∈ l, ∀ st, v (apply st c) = v st) → v (l.foldl apply s) = v s
  | [], _, _ => rfl
  | c :: l, s, h => by
    rw [List.foldl_cons, foldl_frame fun d hd => h d (List.mem_cons_of_mem _ hd)]
    exact h c List.mem_cons_self s

/-- Of the commands of many items with different names, a part of the state that only one item touches sees
those of that item. -/
theorem foldl_flatMap_view {β ι ν : Type} {v : σ → β} {name : ι → ν} {f : ι → List κ} {l : List ι} {i : ι}
    {s : σ} (hi : i ∈ l) (hnodup : (l.map name).Nodup)
    (frame : ∀ j ∈ l, name j ≠ name i → ∀ c ∈ f j, ∀ st, v (apply st c) = v st) :
    ∃ t, v t = v s ∧ v ((l.flatMap f).foldl apply s) = v ((f i).foldl apply t) := by
  obtain ⟨front, back, rfl⟩ := List.append_of_mem hi
  have hother : ∀ j ∈ front ++ back, ∀ c ∈ f j, ∀ st, v (apply st c) = v st := by
    intro j hj
    have hmem : j ∈ front ++ i :: back := by
      rcases List.mem_append.1 hj with h | h
      · exact List.mem_append_left _ h
      · exact List.mem_append_right _ (List.mem_cons_of_mem _ h)
    refine frame j hmem fun hname => ?_
    have hout := List.nodup_middle.1 (show (front.map name ++ name i :: back.map name).Nodup by simpa using hnodup)
    rw [List.nodup_cons, ← List.map_append] at hout
    exact hout.1 (hname ▸ List.mem_map_of_mem hj)
  refine ⟨(front.flatMap f).foldl apply s, foldl_frame ?_, ?_⟩
  · intro c hc
    obtain ⟨j, hj, hc⟩ := List.mem_flatMap.1 hc
    exact hother j (List.mem_append_left _ hj) c hc
  · rw [List.flatMap_append, List.flatMap_cons, List.foldl_append, List.foldl_append]
    refine foldl_frame ?_
    intro c hc
    obtain ⟨j, hj, hc⟩ := List.mem_flatMap.1 hc
    exact hother j (List.mem_append_right _ hj) c hc

end Script
