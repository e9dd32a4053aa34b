/-
The escape hatch over whole histories. The failure states of all racks share one map, and each failure first
sweeps out the entries of every rack that nothing has touched for an hour. For one rack this amounts to its own
history alone: the hatch is open exactly if its failures up to now that no answer and no gap of more than an
hour interrupts are enough and began long enough ago.
-/
import AckoProofs.Lib.Streak
import AckoProofs.Restart.Gate

namespace Acko

/-! ## Histories -/

/-- A call on the failure states; a failure is recorded at the time it reads from the clock. -/
inductive CheckCall
  | fail (cluster : Cluster) (rackID : Int) (now : Time)
  | clear (cluster : Cluster) (rackID : Int)

def CheckCall.apply (checks : MigrationChecks) : CheckCall → MigrationChecks
  | .fail cluster rackID now => (recordMigrationCheckFailure checks cluster rackID now).1
  | .clear cluster rackID => clearMigrationCheckFailures checks cluster rackID

variable (calls : List CheckCall)

/-- The failure states after the calls since the operator has started. -/
def afterCalls : MigrationChecks := calls.foldl CheckCall.apply []

def CheckCall.time : CheckCall → Option Time
  | .fail _ _ now => some now
  | .clear _ _ => none

def failureTimes : List Time := calls.filterMap CheckCall.time

/-- What a call says of one rack: a failure at a time or, as a break, an answer; nothing of any other rack. -/
def CheckCall.own (uid : String) (rackID : Int) : CheckCall → Option (Option Time)
  | .fail cluster id now => if cluster.uid = uid ∧ id = rackID then some (some now) else none
  | .clear cluster id => if cluster.uid = uid ∧ id = rackID then some none else none

def ownHistory (uid : String) (rackID : Int) (calls : List CheckCall) : List (Option Time) :=
  calls.filterMap (CheckCall.own uid rackID)

def WithinTTL (earlier later : Time) : Prop := later - earlier ≤ migrationCheckStateTTL

instance : DecidableRel WithinTTL := fun earlier later =>
  inferInstanceAs (Decidable (later - earlier ≤ migrationCheckStateTTL))

/-! ## Keys -/

/-- The key ends with the number behind its last slash, whatever the UID holds. -/
theorem migrationCheckKey_inj {cluster cluster' : Cluster} {rackID rackID' : Int} :
    migrationCheckKey cluster rackID = migrationCheckKey cluster' rackID' ↔
      cluster.uid = cluster'.uid ∧ rackID = rackID' := by
  constructor
  · intro h
    have hlist := congrArg String.toList h
    have hslash : ∀ l : List Char, "/".toList ++ l = '/' :: l := fun _ => rfl
    simp only [migrationCheckKey, String.toList_append, List.append_assoc, hslash] at hlist
    obtain ⟨huid, hid⟩ := Cut.append_cons_inj_last (slash_not_mem_toString_int rackID)
      (slash_not_mem_toString_int rackID') hlist
    exact ⟨String.toList_inj.1 huid, toString_int_injective (String.toList_inj.1 hid)⟩
  · rintro ⟨huid, rfl⟩
    rw [migrationCheckKey, migrationCheckKey, huid]

/-! ## One call -/

def MigrationCheckState.live (now : Time) (state : MigrationCheckState) : Bool :=
  decide (now - state.lastSeen ≤ migrationCheckStateTTL)

theorem live_iff {now : Time} {state : MigrationCheckState} : state.live now = true ↔ WithinTTL state.lastSeen now :=
  decide_eq_true_iff

def streakEntry : List Time → Option MigrationCheckState
  | [] => none
  | first :: rest => some ⟨rest.length + 1, first, ((first :: rest).getLast?).getD first⟩

theorem streakEntry_eq {marks : List Time} {first last : Time} (hfirst : marks.head? = some first)
    (hlast : marks.getLast? = some last) : streakEntry marks = some ⟨marks.length, first, last⟩ := by
  cases marks with
  | nil => cases hfirst
  | cons mark marks =>
    cases hfirst
    rw [streakEntry, hlast]
    rfl

/-- The entry that a failure counts on. -/
def recordedState (state : Option MigrationCheckState) (now : Time) : MigrationCheckState :=
  { state.getD ⟨0, now, now⟩ with failures := (state.getD ⟨0, now, now⟩).failures + 1, lastSeen := now }

theorem streakEntry_extend (marks : List Time) (now : Time) :
    streakEntry (Streak.extend WithinTTL marks now) =
      some (recordedState ((streakEntry marks).filter (·.live now)) now) := by
  rcases List.eq_nil_or_concat' marks with rfl | ⟨init, last, rfl⟩
  · rfl
  have hlast : (init ++ [last]).getLast? = some last := List.getLast?_concat
  obtain ⟨first, hfirst⟩ : ∃ first, (init ++ [last]).head? = some first := by
    cases init with
    | nil => exact ⟨last, rfl⟩
    | cons first init => exact ⟨first, rfl⟩
  rw [streakEntry_eq hfirst hlast]
  unfold Streak.extend
  rw [hlast]
  dsimp only
  by_cases hnear : WithinTTL last now
  · have hhead : (init ++ [last] ++ [now]).head? = some first := by rw [List.head?_append, hfirst]; rfl
    rw [if_pos hnear, streakEntry_eq hhead List.getLast?_concat, Option.filter_some_pos (live_iff.2 hnear)]
    simp [recordedState]
  · rw [if_neg hnear, Option.filter_some_neg (Bool.eq_false_iff.2 (mt live_iff.1 hnear))]
    rfl

theorem recordMigrationCheckFailure_eq {checks : MigrationChecks} (hkeys : (checks.map (·.1)).Nodup) (cluster : Cluster)
    (rackID : Int) (now : Time) {state : MigrationCheckState}
    (hstate : state = recordedState ((checks.lookup (migrationCheckKey cluster rackID)).filter (·.live now)) now) :
    recordMigrationCheckFailure checks cluster rackID now =
      (DocTree.put (sweepMigrationCheckState checks now) (migrationCheckKey cluster rackID) state,
        decide (maxMigrationCheckFailures ≤ state.failures) &&
          decide (migrationCheckFailureGrace ≤ now - state.firstSeen)) := by
  have hsweep : (sweepMigrationCheckState checks now).lookup (migrationCheckKey cluster rackID) =
      (checks.lookup (migrationCheckKey cluster rackID)).filter (·.live now) :=
    DocTree.lookup_filter_value (·.live now) _ hkeys
  unfold recordMigrationCheckFailure
  dsimp only
  rw [hsweep, hstate]
  rfl

/-- What is live of a rack's entry after a failure: one failure more, if it is the rack's own. A sweep for
another rack takes only what is no longer live. -/
theorem live_entry_record {checks : MigrationChecks} (hkeys : (checks.map (·.1)).Nodup) (cluster other : Cluster)
    (rackID id : Int) {t now : Time} (hnow : t ≤ now) :
    ((recordMigrationCheckFailure checks other id t).1.lookup (migrationCheckKey cluster rackID)).filter (·.live now) =
      if other.uid = cluster.uid ∧ id = rackID then
        (some (recordedState ((checks.lookup (migrationCheckKey cluster rackID)).filter (·.live t)) t)).filter
          (·.live now)
      else (checks.lookup (migrationCheckKey cluster rackID)).filter (·.live now) := by
  rw [recordMigrationCheckFailure_eq hkeys other id t rfl, DocTree.lookup_put]
  split
  · rename_i hkey
    obtain ⟨huid, hid⟩ := migrationCheckKey_inj.1 hkey
    rw [if_pos ⟨huid.symm, hid.symm⟩, hkey]
  · rename_i hkey
    have hother : ¬ (other.uid = cluster.uid ∧ id = rackID) := by
      rintro ⟨huid, hid⟩
      exact hkey (migrationCheckKey_inj.2 ⟨huid.symm, hid.symm⟩)
    have hsweep : (sweepMigrationCheckState checks t).lookup (migrationCheckKey cluster rackID) =
        (checks.lookup (migrationCheckKey cluster rackID)).filter (·.live t) :=
      DocTree.lookup_filter_value (·.live t) _ hkeys
    rw [if_neg hother, hsweep]
    cases checks.lookup (migrationCheckKey cluster rackID) with
    | none => rfl
    | some state =>
      cases hlive : state.live t with
      | true => rw [Option.filter_some_pos hlive]
      | false =>
        have hdead : state.live now = false := by
          rw [Bool.eq_false_iff, Ne, live_iff] at hlive ⊢
          intro hnear
          exact hlive (le_trans (Int.sub_le_sub_right hnow state.lastSeen) hnear)
        rw [Option.filter_some_neg hlive, Option.filter_some_neg hdead]
        rfl

theorem lookup_clear (checks : MigrationChecks) (cluster other : Cluster) (rackID id : Int) :
    (clearMigrationCheckFailures checks other id).lookup (migrationCheckKey cluster rackID) =
      if other.uid = cluster.uid ∧ id = rackID then none else checks.lookup (migrationCheckKey cluster rackID) := by
  unfold clearMigrationCheckFailures
  rw [DocTree.lookup_filter_key fun key => decide (key ≠ migrationCheckKey other id)]
  by_cases hown : other.uid = cluster.uid ∧ id = rackID
  · rw [if_pos hown, migrationCheckKey_inj.2 hown, if_neg (by simp)]
  · have hne : migrationCheckKey cluster rackID ≠ migrationCheckKey other id := by
      intro heq
      exact hown (migrationCheckKey_inj.1 heq.symm)
    rw [if_neg hown, if_pos (decide_eq_true hne)]

/-! ## Whole histories -/

theorem afterCalls_concat (call : CheckCall) : afterCalls (calls ++ [call]) = call.apply (afterCalls calls) := by
  simp only [afterCalls, List.foldl_append, List.foldl_cons, List.foldl_nil]

variable (cluster : Cluster)

theorem failureTimes_fail (rackID : Int) (now : Time) :
    failureTimes (calls ++ [.fail cluster rackID now]) = failureTimes calls ++ [now] := by
  simp [failureTimes, CheckCall.time]

theorem failureTimes_clear (rackID : Int) :
    failureTimes (calls ++ [.clear cluster rackID]) = failureTimes calls := by
  simp [failureTimes, CheckCall.time]

theorem ownHistory_fail (uid : String) (rackID : Int) (calls : List CheckCall) (cluster : Cluster) (id : Int)
    (now : Time) :
    ownHistory uid rackID (calls ++ [.fail cluster id now]) =
      if cluster.uid = uid ∧ id = rackID then ownHistory uid rackID calls ++ [some now]
      else ownHistory uid rackID calls := by
  by_cases h : cluster.uid = uid ∧ id = rackID <;> simp [ownHistory, CheckCall.own, h]

theorem ownHistory_clear (uid : String) (rackID : Int) (calls : List CheckCall) (cluster : Cluster) (id : Int) :
    ownHistory uid rackID (calls ++ [.clear cluster id]) =
      if cluster.uid = uid ∧ id = rackID then ownHistory uid rackID calls ++ [none]
      else ownHistory uid rackID calls := by
  by_cases h : cluster.uid = uid ∧ id = rackID <;> simp [ownHistory, CheckCall.own, h]

theorem nodup_keys_afterCalls : ((afterCalls calls).map (·.1)).Nodup := by
  induction calls using List.reverseRecOn with
  | nil => exact List.nodup_nil
  | append_singleton calls call ih =>
    rw [afterCalls_concat]
    cases call with
    | fail cluster rackID now => exact DocTree.nodup_keys_put _ _ (DocTree.nodup_keys_filter _ ih)
    | clear cluster rackID => exact DocTree.nodup_keys_filter _ ih

/-- What is live of a rack's entry, at any time from the last failure on, is what its own streak leaves. -/
theorem live_entry_afterCalls (rackID : Int) (calls : List CheckCall) (htimes : (failureTimes calls).Pairwise (· ≤ ·))
    (now : Time) (hnow : ∀ t ∈ failureTimes calls, t ≤ now) :
    ((afterCalls calls).lookup (migrationCheckKey cluster rackID)).filter (·.live now) =
      (streakEntry (Streak.current WithinTTL (ownHistory cluster.uid rackID calls))).filter (·.live now) := by
  -- by induction on the calls, at every later time: a failure consults the entry at its own time
  induction calls using List.reverseRecOn generalizing now with
  | nil => rfl
  | append_singleton calls call ih =>
    rw [afterCalls_concat]
    cases call with
    | clear other id =>
      rw [failureTimes_clear] at htimes hnow
      rw [ownHistory_clear, CheckCall.apply, lookup_clear]
      split
      · rw [Streak.current_concat]
        rfl
      · exact ih htimes now hnow
    | fail other id t =>
      rw [failureTimes_fail] at htimes hnow
      rw [List.pairwise_append] at htimes
      have hupto : ∀ s ∈ failureTimes calls, s ≤ t := fun s hs => htimes.2.2 s hs t (List.mem_singleton_self t)
      have hlate : t ≤ now := hnow t (List.mem_append_right _ (List.mem_singleton_self t))
      rw [ownHistory_fail, CheckCall.apply,
        live_entry_record (nodup_keys_afterCalls calls) cluster other rackID id hlate]
      split
      · rw [Streak.current_concat, Streak.step, streakEntry_extend, ih htimes.1 t hupto]
      · exact ih htimes.1 now fun s hs => hnow s (List.mem_append_left _ hs)

theorem hatch_eq_streak (rackID : Int) (now : Time) (calls : List CheckCall)
    (htimes : (failureTimes calls ++ [now]).Pairwise (· ≤ ·)) {marks : List Time}
    (hmarks : marks = Streak.current WithinTTL (ownHistory cluster.uid rackID calls ++ [some now])) :
    (recordMigrationCheckFailure (afterCalls calls) cluster rackID now).2 = true ↔
      maxMigrationCheckFailures ≤ marks.length ∧
        ∃ first, marks.head? = some first ∧ migrationCheckFailureGrace ≤ now - first := by
  rw [List.pairwise_append] at htimes
  have hupto : ∀ s ∈ failureTimes calls, s ≤ now := fun s hs => htimes.2.2 s hs now (List.mem_singleton_self now)
  have hentry := live_entry_afterCalls cluster rackID calls htimes.1 now hupto
  rw [Streak.current_concat, Streak.step] at hmarks
  have hstate := streakEntry_extend (Streak.current WithinTTL (ownHistory cluster.uid rackID calls)) now
  rw [← hentry, ← hmarks] at hstate
  have hlast : marks.getLast? = some now := by rw [hmarks, Streak.getLast_extend]
  obtain ⟨first, hfirst⟩ : ∃ first, marks.head? = some first := by
    cases marks with
    | nil => cases hlast
    | cons first _ => exact ⟨first, rfl⟩
  rw [streakEntry_eq hfirst hlast, Option.some.injEq] at hstate
  rw [recordMigrationCheckFailure_eq (nodup_keys_afterCalls calls) cluster rackID now hstate, hfirst]
  simp only [Bool.and_eq_true, decide_eq_true_eq, Option.some.injEq, exists_eq_left']

/-- For every history of calls at times that do not decrease, a failure of a rack finds the hatch open exactly
if the rack's failures up to it that no answer for the rack and no gap of more than an hour interrupts are at
least `maxMigrationCheckFailures` and began at least `migrationCheckFailureGrace` ago. Calls for other racks
never matter, and only the rack's own calls carry its key. -/
theorem hatch_open_iff (calls : List CheckCall) (cluster : Cluster) (rackID : Int) (now : Time)
    (htimes : (failureTimes calls ++ [now]).Pairwise (· ≤ ·)) :
    (∃ marks, Streak.IsLongest WithinTTL (ownHistory cluster.uid rackID (calls ++ [.fail cluster rackID now])) marks ∧
      (∀ other, Streak.IsLongest WithinTTL (ownHistory cluster.uid rackID (calls ++ [.fail cluster rackID now])) other →
        other = marks) ∧
      ((recordMigrationCheckFailure (afterCalls calls) cluster rackID now).2 = true ↔
        maxMigrationCheckFailures ≤ marks.length ∧
          ∃ first, marks.head? = some first ∧ migrationCheckFailureGrace ≤ now - first)) ∧
    (∀ calls', (failureTimes calls' ++ [now]).Pairwise (· ≤ ·) →
      ownHistory cluster.uid rackID calls' = ownHistory cluster.uid rackID calls →
      (recordMigrationCheckFailure (afterCalls calls') cluster rackID now).2 =
        (recordMigrationCheckFailure (afterCalls calls) cluster rackID now).2) ∧
    ∀ (cluster' : Cluster) (rackID' : Int), migrationCheckKey cluster' rackID' = migrationCheckKey cluster rackID ↔
      cluster'.uid = cluster.uid ∧ rackID' = rackID := by
  refine ⟨?_, ?_, fun _ _ => migrationCheckKey_inj⟩
  · rw [ownHistory_fail, if_pos ⟨rfl, rfl⟩]
    have hlongest := @Streak.isLongest_current _ WithinTTL _ (ownHistory cluster.uid rackID calls ++ [some now])
    refine ⟨_, hlongest, ?_, hatch_eq_streak cluster rackID now calls htimes rfl⟩
    intro other hother
    exact hother.unique hlongest
  · intro calls' htimes' hsame
    rw [Bool.eq_iff_iff, hatch_eq_streak cluster rackID now calls htimes rfl,
      hatch_eq_streak cluster rackID now calls' htimes' rfl, hsame]

def neighbour : Cluster := { Cluster.bare "kv" "ce:8" with uid := "kv-uid" }

/-- Four failures of a rack three minutes apart, and between them a failure and an answer of another cluster's. -/
def outage : List CheckCall :=
  [.fail (.bare "db" "ce:8") 1 0, .fail neighbour 1 minute, .fail (.bare "db" "ce:8") 1 (3 * minute),
    .clear neighbour 1, .fail (.bare "db" "ce:8") 1 (6 * minute), .fail (.bare "db" "ce:8") 1 (9 * minute)]

theorem hatch_open_iff_outage :
    (recordMigrationCheckFailure (afterCalls outage) (.bare "db" "ce:8") 1 (12 * minute)).2 = true ∧
      ∃ marks, Streak.IsLongest WithinTTL
        (ownHistory (Cluster.bare "db" "ce:8").uid 1 (outage ++ [.fail (.bare "db" "ce:8") 1 (12 * minute)])) marks ∧
        5 ≤ marks.length := by
  have hopen : (recordMigrationCheckFailure (afterCalls outage) (.bare "db" "ce:8") 1 (12 * minute)).2 =
      true := by decide
  obtain ⟨⟨marks, hmarks, -, hiff⟩, -⟩ := hatch_open_iff outage (.bare "db" "ce:8") 1 (12 * minute) (by decide)
  exact ⟨hopen, marks, hmarks, (hiff.1 hopen).1⟩

end Acko
