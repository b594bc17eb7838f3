import ObjectModel.OrderedMap
import ObjectModel.Key
import ObjectModel.Value

/-!
# The event log

Structured events about what a realm did.  The log buffers up to `capacity` events and drops the
oldest first; it counts the events of each name whether they are still buffered or not.  A log that
is not enabled records nothing.
-/

namespace ObjectModel

/-- A structured event. -/
structure ObjectModelEvent where
  /-- The log's own name, a dash and the number of the event. -/
  traceId : String
  component : String
  /-- What happened, such as `define_property`. -/
  event : String
  /-- How it ended: an outcome of a definition, `rejected`, or the reason of a no-op. -/
  outcome : String
  /-- The stable code of the error of a rejection. -/
  errorCode : Option String
  object : Option ObjectHandle
  key : Option PropertyKey
deriving DecidableEq, Inhabited

namespace ObjectModelEvent

/-- The component that events of a realm name. -/
def componentName : String := "object_model"

end ObjectModelEvent

/-- What an event reports, before it is numbered. -/
structure Report where
  event : String
  outcome : String
  errorCode : Option String := none
  object : Option ObjectHandle := none
  key : Option PropertyKey := none
deriving DecidableEq, Inhabited

/-- A number in decimal with leading zeros up to a width. -/
def zeroPadded (width n : Nat) : String :=
  let digits := Nat.toDigits 10 n
  String.ofList (List.replicate (width - digits.length) '0' ++ digits)

/-- A bounded buffer of events with counters. -/
structure EventLog where
  tracePrefix : String
  capacity : Nat
  enabled : Bool
  /-- The number of events so far. -/
  sequence : Nat := 0
  /-- The number of events that were dropped because the buffer was full. -/
  dropped : Nat := 0
  /-- The buffered events, oldest first. -/
  buffered : Array ObjectModelEvent := #[]
  /-- The number of events so far by name. -/
  counts : OrderedMap String Nat := .empty
  /-- No log holds more events than it has room for. -/
  fits : buffered.size ≤ capacity := by exact Nat.zero_le _

namespace EventLog

/-- A log before its first event. -/
def new (tracePrefix : String) (capacity : Nat) (enabled : Bool) : EventLog :=
  { tracePrefix, capacity, enabled }

instance : Inhabited EventLog := ⟨.new "" 0 false⟩

/-- The report as the next event of the log. -/
def nextEvent (log : EventLog) (r : Report) : ObjectModelEvent where
  traceId := log.tracePrefix ++ "-" ++ zeroPadded 6 (log.sequence + 1)
  component := ObjectModelEvent.componentName
  event := r.event
  outcome := r.outcome
  errorCode := r.errorCode
  object := r.object
  key := r.key

/-- Numbers and counts an event with a name. -/
def counted (log : EventLog) (name : String) : EventLog :=
  { log with
    sequence := log.sequence + 1
    counts := log.counts.insert name ((log.counts.get? name).getD 0 + 1) }

/-- Records a report, unless the log is disabled. -/
def emit (log : EventLog) (r : Report) : EventLog :=
  if !log.enabled then log
  else if noRoom : log.capacity = 0 then
    { log.counted r.event with dropped := log.dropped + 1 }
  else if full : log.buffered.size = log.capacity then
    { log.counted r.event with
      dropped := log.dropped + 1
      buffered := (log.buffered.extract 1 log.buffered.size).push (log.nextEvent r)
      fits := by
        rw [Array.size_push, Array.size_extract, Nat.min_self, full]
        show log.capacity - 1 + 1 ≤ log.capacity
        omega }
  else
    { log.counted r.event with
      buffered := log.buffered.push (log.nextEvent r)
      fits := by
        rw [Array.size_push]
        exact Nat.lt_of_le_of_ne log.fits full }

/-- Takes the buffered events out. -/
def drain (log : EventLog) : List ObjectModelEvent × EventLog :=
  (log.buffered.toList, { log with buffered := #[], fits := Nat.zero_le _ })

end EventLog

end ObjectModel
