import ObjectModel.ArrayLike
import ObjectModel.Proofs.Transition
import ObjectModel.Proofs.Upholds

/-!
# Reading without calls

Reading a property runs a function only if the chain shows an accessor.  Where it shows a data
property (`Realm.Shows`) or nothing, reading yields a value at once (`Realm.ReadsPlainly.get`), and
a search that was cut off is reported, which changes the log alone.
-/

namespace ObjectModel

variable {β σ : Type}

namespace Realm

/-- The chain of the object shows a data property under the key, and the value is stored there. -/
def Shows (r : Realm β) (object : ObjectHandle) (key : PropertyKey) (value : Value) : Prop :=
  ∃ owner writable enumerable configurable truncation,
    r.heap.findProperty object key r.maxHops =
      .ok ⟨some (owner, .data value writable enumerable configurable), truncation⟩

/-- Reading the key meets no accessor, and yields the value. -/
inductive ReadsPlainly (r : Realm β) (object : ObjectHandle) (key : PropertyKey) :
    Value → Prop where
  | shown {value} (shows : r.Shows object key value) : ReadsPlainly r object key value
  | absent {truncation}
      (ends : r.heap.findProperty object key r.maxHops = .ok ⟨none, truncation⟩) :
      ReadsPlainly r object key .undefined

variable {r : Realm β} {object : ObjectHandle} {key : PropertyKey} {value value' : Value}

theorem Shows.unique (shows : r.Shows object key value) (shows' : r.Shows object key value') :
    value = value' := by
  obtain ⟨owner, w, e, c, truncation, ends⟩ := shows
  obtain ⟨owner', w', e', c', truncation', ends'⟩ := shows'
  cases ends.symm.trans ends'
  rfl

theorem shows_of_own {o : OrdinaryObject} {w e c : Bool} (live : r.heap.get? object = some o)
    (owned : o.getOwn? key = some (.data value w e c)) : r.Shows object key value :=
  ⟨object, w, e, c, none, Heap.findProperty_of_own live owned r.maxHops⟩

theorem ReadsPlainly.withEvents (reads : r.ReadsPlainly object key value) (events : EventLog) :
    ({ r with events } : Realm β).ReadsPlainly object key value := by
  cases reads with
  | shown shows => exact .shown shows
  | absent ends => exact .absent ends

theorem ReadsPlainly.get (reads : r.ReadsPlainly object key value) (receiver : Value) :
    ∃ events, r.get object key receiver = (.done (.ok value), { r with events }) := by
  cases reads with
  | shown shows =>
    obtain ⟨owner, w, e, c, truncation, ends⟩ := shows
    obtain ⟨events, noted⟩ := r.noteTruncation_eq object (some key) truncation
    exact ⟨events, by rw [Realm.get, ends]; exact congrArg _ noted⟩
  | @absent truncation ends =>
    obtain ⟨events, noted⟩ := r.noteTruncation_eq object (some key) truncation
    exact ⟨events, by rw [Realm.get, ends]; exact congrArg _ noted⟩

theorem has_of_findProperty {lookup : PropertyLookup}
    (ends : r.heap.findProperty object key r.maxHops = .ok lookup) :
    ∃ events, r.has object key = (.done (.ok lookup.found.isSome), { r with events }) := by
  obtain ⟨events, noted⟩ := r.noteTruncation_eq object (some key) lookup.truncation
  exact ⟨events, by rw [has, ends]; exact congrArg _ noted⟩

end Realm

section Run

variable {r : Realm β} {object : ObjectHandle} {key : PropertyKey} {value : Value}
  (bodies : β → Value → List Value → Program β σ Value) (depth : Nat) (state : σ)

theorem Realm.ReadsPlainly.run_getValue (reads : r.ReadsPlainly object key value) :
    ∃ events, (Program.getValue object key).run bodies depth ⟨r, state⟩ =
      some (.ok value, ⟨{ r with events }, state⟩) := by
  obtain ⟨events, answered⟩ := reads.get (.object object)
  exact ⟨events, Program.run_request_done (q := .get object key (.object object)) answered bodies
    depth state⟩

theorem Realm.run_has {lookup : PropertyLookup}
    (ends : r.heap.findProperty object key r.maxHops = .ok lookup) :
    ∃ events, (Program.has object key).run bodies depth ⟨r, state⟩ =
      some (.ok lookup.found.isSome, ⟨{ r with events }, state⟩) := by
  obtain ⟨events, answered⟩ := has_of_findProperty ends
  exact ⟨events, Program.run_request_done (q := .has object key) answered bodies depth state⟩

theorem ArrayLike.run_lengthOf {v : Value} {r' : Realm β}
    (answered : r.get object lengthKey (.object object) = (.done (.ok v), r')) :
    (lengthOf object).run bodies depth ⟨r, state⟩ = some (.ok v.toUInt32, ⟨r', state⟩) := by
  have ended : (Program.getValue object lengthKey).run bodies depth ⟨r, state⟩ =
      some (.ok v, ⟨r', state⟩) :=
    Program.run_request_done (q := .get object lengthKey (.object object)) answered bodies depth
      state
  show ((Program.getValue object lengthKey).andThen fun v => .done (.ok v.toUInt32)).run bodies
    depth ⟨r, state⟩ = _
  rw [Program.run_andThen, ended]
  rfl

end Run

end ObjectModel
