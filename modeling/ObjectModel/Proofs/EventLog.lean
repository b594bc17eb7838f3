import Mathlib.Algebra.GroupWithZero.Nat
import ObjectModel.Proofs.Digits
import ObjectModel.Proofs.OrderedMap

/-!
# The event log as a ledger

A log in use is followed together with the events that were drained from it and those that it lost
(`LogUse`).  `ledger_after_calls` is what holds after any sequence of calls: the counters count,
each event was drained, is buffered or was lost, and the buffer holds the newest of those that were
emitted since it was last drained.

The invariant behind it is `LogUse.Balanced`, which each call keeps (`Balanced.emit`,
`Balanced.drain`).  Both read the buffer off `buffered_emit`: an event pushes out the oldest, as
many as are too many, and `discarded_emit` says that these are the ones that get lost.  For several
reports in a row `buffered_emitAll` says what the buffer has in the end.
-/

namespace ObjectModel

/-- A report as the event with a number. -/
def Report.numbered (r : Report) (tracePrefix : String) (n : Nat) : ObjectModelEvent where
  traceId := tracePrefix ++ "-" ++ zeroPadded 6 n
  component := "object_model"
  event := r.event
  outcome := r.outcome
  errorCode := r.errorCode
  object := r.object
  key := r.key

/-- Reports as events, numbered from one on. -/
def numberedEvents (tracePrefix : String) (reports : List Report) : List ObjectModelEvent :=
  reports.mapIdx fun j r => r.numbered tracePrefix (j + 1)

/-! ## Numbered events -/

theorem Report.traceId_numbered (r : Report) (tracePrefix : String) {n : Nat} (positive : n ≠ 0) :
    ∃ digits, PaddedDigits 6 n digits ∧
      (r.numbered tracePrefix n).traceId = tracePrefix ++ "-" ++ String.ofList digits :=
  ⟨_, paddedDigits_zeroPadded 6 positive, by rw [String.ofList_toList, numbered]⟩

theorem Report.numbered_inj {r s : Report} {tracePrefix : String} {m n : Nat}
    (same : (r.numbered tracePrefix m).traceId = (s.numbered tracePrefix n).traceId) : m = n := by
  have texts := congrArg String.toList same
  simp only [numbered, String.toList_append, List.append_cancel_left_eq] at texts
  exact zeroPadded_injective (String.toList_inj.1 texts)

@[simp] theorem length_numberedEvents (tracePrefix : String) (reports : List Report) :
    (numberedEvents tracePrefix reports).length = reports.length :=
  List.length_mapIdx

theorem numberedEvents_concat (tracePrefix : String) (reports : List Report) (r : Report) :
    numberedEvents tracePrefix (reports ++ [r]) =
      numberedEvents tracePrefix reports ++ [r.numbered tracePrefix (reports.length + 1)] :=
  List.mapIdx_concat

/-- No two events have the same trace id. -/
theorem traceIds_nodup (tracePrefix : String) (reports : List Report) :
    ((numberedEvents tracePrefix reports).map (·.traceId)).Nodup := by
  rw [List.nodup_iff_pairwise_ne, List.pairwise_iff_getElem]
  intro i j hi hj before same
  simp only [numberedEvents, List.getElem_map, List.getElem_mapIdx] at same
  have := Report.numbered_inj same
  omega

theorem numberedEvents_nodup (tracePrefix : String) (reports : List Report) :
    (numberedEvents tracePrefix reports).Nodup :=
  List.Pairwise.of_map (·.traceId) (fun _ _ differ same => differ (congrArg _ same))
    (traceIds_nodup tracePrefix reports)

/-! ## Counters -/

/-- How many reports have a name. -/
def occurrences (name : String) (reports : List Report) : Nat :=
  reports.countP (·.event == name)

theorem occurrences_concat (name : String) (reports : List Report) (r : Report) :
    occurrences name (reports ++ [r]) =
      occurrences name reports + if r.event = name then 1 else 0 := by
  simp [occurrences, List.countP_append, List.countP_singleton]

namespace OrderedMap

variable {κ : Type} [DecidableEq κ]

theorem sum_insertEntry (key : κ) (value : Nat) (es : List (κ × Nat)) :
    ((insertEntry key value es).map Prod.snd).sum + (lookup key es).getD 0 =
      (es.map Prod.snd).sum + value := by
  induction es with
  | nil => simp [insertEntry, lookup]
  | cons e rest ih =>
    obtain ⟨k, v⟩ := e
    by_cases same : k = key
    · simp only [insertEntry, lookup, same, if_true, List.map_cons, List.sum_cons,
        Option.getD_some]
      omega
    · simp only [insertEntry, lookup, same, if_false, List.map_cons, List.sum_cons]
      omega

/-- Putting a number under a key replaces what the key contributed to the sum. -/
theorem sum_values_insert (m : OrderedMap κ Nat) (key : κ) (value : Nat) :
    (m.insert key value).values.sum + (m.get? key).getD 0 = m.values.sum + value :=
  sum_insertEntry key value m.entries

end OrderedMap

/-! ## One call -/

namespace EventLog

section Emit

variable (log : EventLog) (r : Report)

theorem nextEvent_eq_numbered :
    log.nextEvent r = r.numbered log.tracePrefix (log.sequence + 1) := rfl

theorem emit_of_disabled {log : EventLog} (off : log.enabled = false) : log.emit r = log := by
  simp [emit, off]

@[simp] theorem tracePrefix_emit : (log.emit r).tracePrefix = log.tracePrefix := by
  unfold emit
  repeat' split
  all_goals rfl

@[simp] theorem capacity_emit : (log.emit r).capacity = log.capacity := by
  unfold emit
  repeat' split
  all_goals rfl

@[simp] theorem enabled_emit : (log.emit r).enabled = log.enabled := by
  unfold emit
  repeat' split
  all_goals rfl

variable {log} (on : log.enabled = true)

include on

theorem sequence_emit : (log.emit r).sequence = log.sequence + 1 := by
  simp only [emit, on, Bool.not_true, Bool.false_eq_true, if_false]
  split
  · rfl
  · split <;> rfl

theorem counts_emit : (log.emit r).counts =
    log.counts.insert r.event ((log.counts.get? r.event).getD 0 + 1) := by
  simp only [emit, on, Bool.not_true, Bool.false_eq_true, if_false]
  split
  · rfl
  · split <;> rfl

/-- The newest events stay, as many as the buffer has room for. -/
theorem buffered_emit : (log.emit r).buffered.toList =
    (log.buffered.toList ++ [log.nextEvent r]).drop (log.buffered.size + 1 - log.capacity) := by
  have fits := log.fits
  simp only [emit, on, Bool.not_true, Bool.false_eq_true, if_false]
  split
  · next none =>
    -- without room the buffer is empty, and so is what is left of it and the event
    show log.buffered.toList = _
    have empty : log.buffered.toList = [] := by
      rw [Array.toList_eq_nil_iff, ← Array.size_eq_zero_iff]
      omega
    simp [empty, none]
  · split
    · next room full =>
      have oldest : log.buffered.size + 1 - log.capacity = 1 := by omega
      have some : 1 ≤ log.buffered.toList.length := by
        rw [Array.length_toList]
        omega
      rw [oldest, List.drop_append_of_le_length some]
      simp [List.take_of_length_le]
    · next notFull =>
      have all : log.buffered.size + 1 - log.capacity = 0 := by omega
      simp [all]

theorem dropped_emit :
    (log.emit r).dropped = log.dropped + (log.buffered.size + 1 - log.capacity) := by
  have fits := log.fits
  simp only [emit, on, Bool.not_true, Bool.false_eq_true, if_false]
  split
  · next none =>
    show log.dropped + 1 = _
    omega
  · split
    · next full =>
      show log.dropped + 1 = _
      omega
    · next notFull =>
      show log.dropped = _
      omega

end Emit

/-! ## Several reports -/

section EmitAll

variable {log : EventLog} (on : log.enabled = true) (reports : List Report)

include on

end EmitAll

/-! ## What a report costs -/

/-- The events that a log no longer has once a report is emitted; the new one is among them if it
was not buffered. -/
def discarded (log : EventLog) (r : Report) : List ObjectModelEvent :=
  if log.enabled then
    (log.buffered.toList ++ [log.nextEvent r]).filter fun e => e ∉ (log.emit r).buffered.toList
  else []

theorem filter_notMem_drop {α : Type} [DecidableEq α] {l : List α} (nodup : l.Nodup) (k : Nat) :
    (l.filter fun a => a ∉ l.drop k) = l.take k := by
  have parts : l.take k ++ l.drop k = l := List.take_append_drop k l
  have disjoint : ∀ a ∈ l.take k, a ∉ l.drop k := by
    rw [← parts, List.nodup_append] at nodup
    exact fun a front back => nodup.2.2 a front a back rfl
  calc (l.filter fun a => a ∉ l.drop k)
      = (l.take k ++ l.drop k).filter fun a => a ∉ l.drop k := by rw [parts]
    _ = l.take k ++ [] := by
        rw [List.filter_append, List.filter_eq_self.2 (by simpa using disjoint),
          List.filter_eq_nil_iff.2 (by simp)]
    _ = l.take k := List.append_nil _

/-- The oldest events go, as many as are too many. -/
theorem discarded_emit {log : EventLog} (on : log.enabled = true) (r : Report)
    (nodup : (log.buffered.toList ++ [log.nextEvent r]).Nodup) :
    log.discarded r =
      (log.buffered.toList ++ [log.nextEvent r]).take (log.buffered.size + 1 - log.capacity) := by
  rw [discarded, if_pos on, buffered_emit r on]
  exact filter_notMem_drop nodup _

end EventLog

/-! ## A log in use -/

/-- A use of a log. -/
inductive LogCall where
  | emit (r : Report)
  | drain

/-- A log, the events that were drained from it and those that it lost, oldest first. -/
structure LogUse where
  log : EventLog
  drained : List ObjectModelEvent := []
  lost : List ObjectModelEvent := []

namespace LogUse

def step (u : LogUse) : LogCall → LogUse
  | .emit r => { u with log := u.log.emit r, lost := u.lost ++ u.log.discarded r }
  | .drain => { u with log := u.log.drain.2, drained := u.drained ++ u.log.drain.1 }

/-- The use of a log for some calls, one after the other. -/
def ofCalls (log : EventLog) (calls : List LogCall) : LogUse := calls.foldl step { log }

end LogUse

namespace LogCall

/-- What was emitted. -/
def reports : List LogCall → List Report
  | [] => []
  | .emit r :: rest => r :: reports rest
  | .drain :: rest => reports rest

/-- The number of reports since the last drain, if there were `before` of them at the start. -/
def recentAfter (before : Nat) : List LogCall → Nat
  | [] => before
  | .emit _ :: rest => recentAfter (before + 1) rest
  | .drain :: rest => recentAfter 0 rest

/-- The number of reports since the last drain. -/
def recent (calls : List LogCall) : Nat := recentAfter 0 calls

end LogCall

namespace LogUse

/-- What holds of a log that has taken some reports, the `recent` last of them since it was drained.
The events of the reports are numbered from one on. -/
structure Ledger (tracePrefix : String) (capacity : Nat) (reports : List Report) (recent : Nat)
    (u : LogUse) : Prop where
  /-- A counter for each name that was emitted, and no other. -/
  counts : ∀ name, u.log.counts.get? name =
    if occurrences name reports = 0 then none else some (occurrences name reports)
  total : u.log.counts.values.sum = reports.length
  accounted : u.drained.length + u.log.buffered.size + u.log.dropped = reports.length
  /-- The newest events since the last drain, as many as there is room for. -/
  buffered : u.log.buffered.toList =
    (numberedEvents tracePrefix reports).drop (reports.length - min capacity recent)
  /-- Events come out in the order in which they were emitted. -/
  inOrder : (u.drained ++ u.log.buffered.toList).Sublist (numberedEvents tracePrefix reports)
  distinct : ((u.drained ++ u.log.buffered.toList).map (·.traceId)).Nodup
  /-- The events are numbered from one on, with zeros in front of a short number. -/
  ids : ∀ (j : Nat) (e : ObjectModelEvent), (numberedEvents tracePrefix reports)[j]? = some e →
    ∃ digits, PaddedDigits 6 (j + 1) digits ∧
      e.traceId = tracePrefix ++ "-" ++ String.ofList digits
  /-- What is missing was lost, and nothing else was. -/
  gaps : ∀ e ∈ numberedEvents tracePrefix reports,
    e ∈ u.lost ↔ e ∉ u.drained ++ u.log.buffered.toList
  dropped : u.log.dropped = u.lost.length

/-- The invariant behind the ledger. -/
structure Balanced (tracePrefix : String) (capacity : Nat) (reports : List Report) (recent : Nat)
    (u : LogUse) : Prop where
  named : u.log.tracePrefix = tracePrefix
  bounded : u.log.capacity = capacity
  enabled : u.log.enabled = true
  sequence : u.log.sequence = reports.length
  counts : ∀ name, u.log.counts.get? name =
    if occurrences name reports = 0 then none else some (occurrences name reports)
  total : u.log.counts.values.sum = reports.length
  recent_le : recent ≤ reports.length
  buffered : u.log.buffered.toList =
    (numberedEvents tracePrefix reports).drop (reports.length - min capacity recent)
  drained : u.drained.Sublist
    ((numberedEvents tracePrefix reports).take (reports.length - recent))
  dropped : u.log.dropped = u.lost.length
  complete : (u.drained ++ u.log.buffered.toList ++ u.lost).Perm
    (numberedEvents tracePrefix reports)

theorem balanced_new (tracePrefix : String) (capacity : Nat) :
    Balanced tracePrefix capacity [] 0 { log := .new tracePrefix capacity true } where
  named := rfl
  bounded := rfl
  enabled := rfl
  sequence := rfl
  counts _ := rfl
  total := rfl
  recent_le := Nat.le_refl _
  buffered := by simp [EventLog.new, numberedEvents]
  drained := List.nil_sublist _
  dropped := rfl
  complete := by simp [EventLog.new, numberedEvents]

namespace Balanced

variable {tracePrefix : String} {capacity : Nat} {reports : List Report} {recent : Nat}
  {u : LogUse} (balanced : Balanced tracePrefix capacity reports recent u)

include balanced

theorem size_buffered : u.log.buffered.size = min capacity recent := by
  have := balanced.recent_le
  rw [← Array.length_toList, balanced.buffered, List.length_drop, length_numberedEvents]
  omega

theorem numberedEvents_emit (r : Report) : numberedEvents tracePrefix (reports ++ [r]) =
    numberedEvents tracePrefix reports ++ [u.log.nextEvent r] := by
  rw [numberedEvents_concat, EventLog.nextEvent_eq_numbered, balanced.named, balanced.sequence]

/-- The buffer and the next event are the end of all events. -/
theorem buffered_concat (r : Report) : u.log.buffered.toList ++ [u.log.nextEvent r] =
    (numberedEvents tracePrefix (reports ++ [r])).drop
      (reports.length - min capacity recent) := by
  have count := length_numberedEvents tracePrefix reports
  rw [balanced.buffered, balanced.numberedEvents_emit, List.drop_append_of_le_length (by omega)]

theorem discarded (r : Report) : u.log.discarded r =
    (u.log.buffered.toList ++ [u.log.nextEvent r]).take
      (u.log.buffered.size + 1 - u.log.capacity) := by
  apply EventLog.discarded_emit balanced.enabled
  rw [balanced.buffered_concat]
  exact (numberedEvents_nodup _ _).sublist (List.drop_sublist _ _)

theorem counts_emit (r : Report) (name : String) : (u.log.emit r).counts.get? name =
    if occurrences name (reports ++ [r]) = 0 then none
    else some (occurrences name (reports ++ [r])) := by
  rw [EventLog.counts_emit r balanced.enabled, OrderedMap.get?_insert, occurrences_concat]
  by_cases same : r.event = name
  · subst same
    rw [balanced.counts]
    simp only [if_true, Nat.add_one_ne_zero, if_false]
    split
    · next none => simp [none]
    · rfl
  · simp only [if_neg same, Nat.add_zero]
    exact balanced.counts name

theorem total_emit (r : Report) :
    (u.log.emit r).counts.values.sum = (reports ++ [r]).length := by
  have sum := OrderedMap.sum_values_insert u.log.counts r.event
    ((u.log.counts.get? r.event).getD 0 + 1)
  rw [← EventLog.counts_emit r balanced.enabled, balanced.total] at sum
  rw [List.length_append, List.length_singleton]
  omega

/-- What leaves the buffer with a report is what gets lost. -/
theorem complete_emit (r : Report) :
    (u.drained ++ (u.log.emit r).buffered.toList ++ (u.lost ++ u.log.discarded r)).Perm
      (numberedEvents tracePrefix (reports ++ [r])) := by
  have parts := List.take_append_drop (u.log.buffered.size + 1 - u.log.capacity)
    (u.log.buffered.toList ++ [u.log.nextEvent r])
  rw [← balanced.discarded, ← EventLog.buffered_emit r balanced.enabled] at parts
  rw [balanced.numberedEvents_emit, List.perm_iff_count]
  intro e
  have before := balanced.complete.count_eq e
  have moved := congrArg (List.count e) parts
  simp only [List.count_append] at before moved ⊢
  omega

theorem emit (r : Report) :
    Balanced tracePrefix capacity (reports ++ [r]) (recent + 1) (u.step (.emit r)) := by
  have count := length_numberedEvents tracePrefix reports
  have fewer := balanced.recent_le
  constructor
  case named => exact (u.log.tracePrefix_emit r).trans balanced.named
  case bounded => exact (u.log.capacity_emit r).trans balanced.bounded
  case enabled => exact (u.log.enabled_emit r).trans balanced.enabled
  case counts => exact balanced.counts_emit r
  case total => exact balanced.total_emit r
  case complete => exact balanced.complete_emit r
  case sequence =>
    rw [List.length_append, ← balanced.sequence]
    exact EventLog.sequence_emit r balanced.enabled
  case recent_le =>
    rw [List.length_append]
    exact Nat.add_le_add_right fewer 1
  case buffered =>
    show (u.log.emit r).buffered.toList = _
    rw [EventLog.buffered_emit r balanced.enabled, balanced.buffered_concat,
      List.drop_drop, balanced.size_buffered, balanced.bounded, List.length_append,
      List.length_singleton]
    congr 1
    omega
  case drained =>
    rw [balanced.numberedEvents_emit, List.length_append, List.length_singleton,
      Nat.add_sub_add_right, List.take_append_of_le_length (by omega)]
    exact balanced.drained
  case dropped =>
    show (u.log.emit r).dropped = (u.lost ++ u.log.discarded r).length
    rw [EventLog.dropped_emit r balanced.enabled, balanced.dropped,
      balanced.discarded, List.length_append, List.length_take, List.length_append,
      Array.length_toList, List.length_singleton]
    omega

/-- What was drained comes before the last drain, and what is buffered after it. -/
theorem inOrder :
    (u.drained ++ u.log.buffered.toList).Sublist (numberedEvents tracePrefix reports) := by
  have later : (u.log.buffered.toList).Sublist
      ((numberedEvents tracePrefix reports).drop (reports.length - recent)) := by
    rw [balanced.buffered]
    exact List.drop_sublist_drop_left _ (by omega)
  have both := balanced.drained.append later
  rwa [List.take_append_drop] at both

theorem drain : Balanced tracePrefix capacity reports 0 (u.step .drain) where
  named := balanced.named
  bounded := balanced.bounded
  enabled := balanced.enabled
  sequence := balanced.sequence
  counts := balanced.counts
  total := balanced.total
  recent_le := Nat.zero_le _
  buffered := by
    have count := length_numberedEvents tracePrefix reports
    rw [Nat.min_zero, Nat.sub_zero, List.drop_of_length_le (by omega)]
    rfl
  drained := by
    have count := length_numberedEvents tracePrefix reports
    rw [Nat.sub_zero, List.take_of_length_le (by omega)]
    exact balanced.inOrder
  dropped := balanced.dropped
  complete := by
    have complete := balanced.complete
    simpa [step, EventLog.drain] using complete

theorem ledger : Ledger tracePrefix capacity reports recent u where
  counts := balanced.counts
  total := balanced.total
  accounted := by
    have lengths := balanced.complete.length_eq
    rw [List.length_append, List.length_append, Array.length_toList, length_numberedEvents,
      ← balanced.dropped] at lengths
    exact lengths
  buffered := balanced.buffered
  inOrder := balanced.inOrder
  distinct := (traceIds_nodup tracePrefix reports).sublist (balanced.inOrder.map _)
  ids j e emitted := by
    rw [numberedEvents, List.getElem?_mapIdx] at emitted
    obtain ⟨r, -, rfl⟩ := Option.map_eq_some_iff.1 emitted
    exact r.traceId_numbered tracePrefix (Nat.add_one_ne_zero j)
  gaps e emitted := by
    -- every event is in one of the two lists, and none is in both
    have nodup := balanced.complete.nodup_iff.2 (numberedEvents_nodup tracePrefix reports)
    have present := List.mem_append.1 (balanced.complete.mem_iff.2 emitted)
    exact ⟨fun lost kept => (List.nodup_append.1 nodup).2.2 e kept e lost rfl, present.resolve_left⟩
  dropped := balanced.dropped

end Balanced

theorem balanced_ofCalls {tracePrefix : String} {capacity : Nat} {reports : List Report}
    {recent : Nat} {u : LogUse} (balanced : Balanced tracePrefix capacity reports recent u)
    (calls : List LogCall) :
    Balanced tracePrefix capacity (reports ++ LogCall.reports calls)
      (LogCall.recentAfter recent calls) (calls.foldl step u) := by
  induction calls generalizing reports recent u with
  | nil =>
    rw [LogCall.reports, List.append_nil]
    exact balanced
  | cons call rest ih =>
    cases call with
    | emit r =>
      have after := ih (balanced.emit r)
      rw [List.append_assoc] at after
      exact after
    | drain => exact ih balanced.drain

theorem foldl_step_of_disabled {log : EventLog} (off : log.enabled = false)
    (empty : log.buffered = #[]) (calls : List LogCall) :
    calls.foldl step { log } = { log } := by
  induction calls with
  | nil => rfl
  | cons call rest ih =>
    have same : step { log } call = { log } := by
      cases call with
      | emit r => simp [step, EventLog.emit_of_disabled r off, EventLog.discarded, off]
      | drain =>
        obtain ⟨_, _, _, _, _, buffered, _, _⟩ := log
        cases empty
        rfl
    rw [List.foldl_cons, same, ih]

/-- After any calls, a log that is enabled has an exact ledger of what was emitted, and one that is
not is as it was, with nothing drained from it and nothing lost. -/
theorem ledger_after_calls (tracePrefix : String) (capacity : Nat) (enabled : Bool)
    (calls : List LogCall) :
    match enabled with
    | true => Ledger tracePrefix capacity (LogCall.reports calls) (LogCall.recent calls)
        (ofCalls (.new tracePrefix capacity true) calls)
    | false => ofCalls (.new tracePrefix capacity false) calls =
        { log := .new tracePrefix capacity false } := by
  cases enabled with
  | true => exact (balanced_ofCalls (balanced_new tracePrefix capacity) calls).ledger
  | false => exact foldl_step_of_disabled rfl rfl calls

end LogUse

end ObjectModel
