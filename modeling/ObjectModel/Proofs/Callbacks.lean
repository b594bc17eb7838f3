import ObjectModel.Proofs.ArrayLiteral
import ObjectModel.Proofs.CallbackLoop
import ObjectModel.Proofs.Reachability

/-!
# Functions called on each element

`forEach` and `map` read the length, see that the function is one and then loop over the indices
below the length (`overElements_of_read`), so what `CallbackLoop` says of such loops holds for them,
whatever the function does (`callbacks_bounded_by_length`).

`map` stores each result in a new array, behind the earlier ones.  Unless the function changes that
array itself, nothing hinders this (`CallbackLoop.Course.fills`), and in the end the array is made
of the results and its length (`HoldsResults`).
-/

namespace ObjectModel

variable {β σ : Type}

namespace ArrayLike

/-! ## What comes before the loop -/

/-- What functions called on elements get as their receiver. -/
def receiver (r : Realm β) (thisArg : Value) : Value :=
  if thisArg = .undefined ∨ thisArg = .null then .object r.intrinsics.global else thisArg

/-- A loop over an object, after its length is read and the function is seen to be one. -/
def overElements {α : Type} (object callback : ObjectHandle) (thisArg : Value)
    (loop : UInt32 → Value → Program β σ α) : Program β σ α :=
  (lengthOf object).andThen fun length => (Program.requireCallable callback).andThen fun _ =>
    (callbackThis thisArg).andThen fun this => loop length this

section Prologue

variable {α : Type} {w : World β σ} {object callback : ObjectHandle}
  (bodies : β → Value → List Value → Program β σ Value) (depth : Nat)

theorem run_callbackThis (thisArg : Value) (w : World β σ) :
    (callbackThis thisArg).run bodies depth w = some (.ok (receiver w.realm thisArg), w) := by
  cases thisArg <;> rfl

theorem run_requireCallable (callable : w.realm.isCallable callback = true) :
    (Program.requireCallable callback).run bodies depth w = some (.ok (), w) := by
  show some (if w.realm.isCallable callback then _ else _, w) = _
  rw [if_pos callable]

theorem calls_lengthOf (object : ObjectHandle) (w : World β σ) :
    (lengthOf object).calls bodies depth w = [] := by
  show ((Program.getValue object lengthKey).andThen fun v => .done (.ok v.toUInt32)).calls bodies
    depth w = _
  rw [Program.calls_andThen_done]
  exact Program.calls_request bodies depth (.get object lengthKey (.object object)) w

variable (callable : w.realm.isCallable callback = true) (thisArg : Value)
  (loop : UInt32 → Value → Program β σ α)

include callable

/-- Reading the length leaves the function callable, and the global object as it is. -/
theorem callable_of_length {result : Except ObjectError UInt32} {v : World β σ}
    (read : (lengthOf object).run bodies depth w = some (result, v)) :
    v.realm.isCallable callback = true ∧ receiver v.realm thisArg = receiver w.realm thisArg := by
  have kept := Program.run_keeps
    (P := fun r => r.isCallable callback = true ∧ r.intrinsics = w.realm.intrinsics)
    (fun r q ⟨callable, same⟩ => ⟨(r.perform_transition q).isCallable callable,
      (r.perform_transition q).intrinsics_eq.trans same⟩) read ⟨callable, rfl⟩
  exact ⟨kept.1, by rw [receiver, receiver, kept.2]⟩

theorem overElements_of_read {length : UInt32} {v : World β σ}
    (read : (lengthOf object).run bodies depth w = some (.ok length, v)) :
    let program := loop length (receiver w.realm thisArg)
    (overElements object callback thisArg loop).calls bodies depth w =
        program.calls bodies depth v ∧
      (overElements object callback thisArg loop).run bodies depth w =
        program.run bodies depth v := by
  obtain ⟨callable', same⟩ := callable_of_length bodies depth callable thisArg read
  have requires : (Program.requireCallable callback).calls bodies depth v = [] := rfl
  have receives : (callbackThis thisArg).calls bodies depth v = [] := rfl
  rw [overElements, Program.calls_andThen, Program.run_andThen, calls_lengthOf, read]
  simp only [Option.bind_some, Program.calls_andThen, Program.run_andThen,
    run_requireCallable bodies depth callable', run_callbackThis, same, requires, receives,
    List.nil_append, and_self]

omit callable in
theorem overElements_of_unread
    (unread : ¬∃ length v, (lengthOf object).run bodies depth w = some (.ok length, v)) :
    (overElements object callback thisArg loop).calls bodies depth w = [] ∧
      PassedOn ((lengthOf object).run bodies depth w)
        ((overElements object callback thisArg loop).run bodies depth w) := by
  rw [overElements, Program.calls_andThen, Program.run_andThen, calls_lengthOf]
  cases read : (lengthOf object).run bodies depth w with
  | none => exact ⟨rfl, .nothing⟩
  | some ended =>
    obtain ⟨result, v⟩ := ended
    cases result with
    | error e => exact ⟨rfl, .error e v⟩
    | ok length => exact absurd ⟨length, v, read⟩ unread

end Prologue

/-! ## The two loops -/

/-- The loop of `forEach`. -/
def forEachLoop (object callback : ObjectHandle) (this : Value)
    (bodies : β → Value → List Value → Program β σ Value) (depth : Nat) : CallbackLoop β σ :=
  ⟨object, callback, this, fun _ _ => pure (), bodies, depth⟩

/-- What `forEach` does after the length is read. -/
def forEachFrom (object callback : ObjectHandle) (length : UInt32) (this : Value) :
    Program β σ Unit :=
  visit object callback this (fun _ _ => pure ()) length.toNat 0

/-- Stores a result. -/
def store (array : ObjectHandle) (k : UInt32) (value : Value) : Program β σ Unit :=
  (Program.define array (.ofIndex k) (openFields value)).andThen fun _ => .done (.ok ())

/-- What `map` does after the length is read. -/
def mapFrom (object callback : ObjectHandle) (length : UInt32) (this : Value) :
    Program β σ ObjectHandle :=
  (newArray length).andThen fun array =>
    (visit object callback this (store array) length.toNat 0).andThen fun _ => .done (.ok array)

theorem forEach_eq (object callback : ObjectHandle) (thisArg : Value) :
    (forEach object callback thisArg : Program β σ Unit) =
      overElements object callback thisArg (forEachFrom object callback) := rfl

theorem map_eq (object callback : ObjectHandle) (thisArg : Value) :
    (map object callback thisArg : Program β σ ObjectHandle) =
      overElements object callback thisArg (mapFrom object callback) := rfl

/-- The loop of `map`, which stores the results in an array. -/
def mapLoop (array object callback : ObjectHandle) (this : Value)
    (bodies : β → Value → List Value → Program β σ Value) (depth : Nat) : CallbackLoop β σ :=
  ⟨object, callback, this, store array, bodies, depth⟩

end ArrayLike

open ArrayLike

/-- A definition calls nothing, so it always ends. -/
theorem Program.run_define_ends (object : ObjectHandle) (key : PropertyKey)
    (fields : DescriptorFields) (bodies : β → Value → List Value → Program β σ Value) (depth : Nat)
    (w : World β σ) :
    ∃ result v, (define object key fields).run bodies depth w = some (result, v) := by
  obtain ⟨r, state⟩ := w
  have answered : ∃ result r', r.define object key fields = (.done result, r') := by
    unfold Realm.define
    split
    · exact ⟨_, _, rfl⟩
    · split
      · exact ⟨_, _, rfl⟩
      · split <;> exact ⟨_, _, rfl⟩
  obtain ⟨result, r', answered⟩ := answered
  exact ⟨result, _, run_define answered⟩

namespace CallbackLoop

variable {array object callback : ObjectHandle} {this : Value}
  {bodies : β → Value → List Value → Program β σ Value} {depth : Nat}

theorem Usable.of_forEachLoop : (forEachLoop object callback this bodies depth).Usable where
  ends _ _ w := ⟨.ok (), w, rfl⟩
  silent _ _ _ := rfl

/-- Storing a result ends as its definition does. -/
theorem run_store {k : UInt32} {value : Value} {w v : World β σ}
    {result : Except ObjectError DefineOutcome}
    (ended : (Program.define array (.ofIndex k) (openFields value)).run bodies depth w =
      some (result, v)) :
    (store array k value).run bodies depth w = some (result.map fun _ => (), v) := by
  rw [store, Program.run_andThen_done, ended]
  rfl

theorem Usable.of_mapLoop : (mapLoop array object callback this bodies depth).Usable where
  ends k value w := by
    obtain ⟨result, v, ended⟩ :=
      Program.run_define_ends array (.ofIndex k) (openFields value) bodies depth w
    exact ⟨_, v, run_store ended⟩
  silent k value w := by
    show (store array k value).calls bodies depth w = _
    rw [store, Program.calls_andThen_done]
    exact Program.calls_request bodies depth (.define array (.ofIndex k) (openFields value)) w

/-! ## The array of the results -/

variable {length : UInt32} {index : Nat} {elements : List (Nat × Value)} {w v : World β σ}

/-- A result that is stored behind the elements before it comes last. -/
theorem Happens.fills {round : Round β σ}
    (happens : (mapLoop array object callback this bodies depth).Happens round)
    (filled : FilledBelow round.returned.realm array length round.index.toNat elements) :
    round.used = .ok () ∧ FilledBelow round.left.realm array length (round.index.toNat + 1)
      (elements ++ [(round.index.toNat, round.result)]) := by
  obtain ⟨r', ended, filled', -⟩ :=
    run_define_element bodies depth round.returned.host filled round.result
  rw [← PropertyKey.ofIndex_eq_decimal] at ended
  obtain ⟨used, left⟩ := Prod.mk.inj (Option.some.inj (happens.used.symm.trans (run_store ended)))
  exact ⟨used, left ▸ filled'⟩

/-- The array is in the world in which a result is stored as it was before the round. -/
theorem filledBelow_of_untouched {round : Round β σ}
    (filled : FilledBelow w.realm array length index elements) (same : w.SameButLog round.asked)
    (untouched : round.returned.realm.heap.get? array = round.asked.realm.heap.get? array) :
    FilledBelow round.returned.realm array length index elements := by
  rwa [FilledBelow, untouched, same.heap]

/-- If no round changes the array before its result is stored, then every result is, in the order
of the rounds. -/
theorem Course.fills {count : Nat} {rounds : List (Round β σ)} {calls : List (Invocation β σ)}
    {ended : Option (Except ObjectError Unit × World β σ)}
    (course : (mapLoop array object callback this bodies depth).Course count index w rounds calls
      ended)
    (small : index + count ≤ 2 ^ 32) (filled : FilledBelow w.realm array length index elements)
    (untouched : ∀ round ∈ rounds,
      round.returned.realm.heap.get? array = round.asked.realm.heap.get? array) :
    (∀ round ∈ rounds, round.used = .ok ()) ∧ ∀ w', ended = some (.ok (), w') →
      FilledBelow w'.realm array length (index + count)
        (elements ++ rounds.map fun round => (round.index.toNat, round.result)) := by
  -- a round that is reached finds the earlier elements below its index, so its own one is new
  induction course generalizing elements with
  | finished =>
    refine ⟨List.forall_mem_nil _, fun w' ended => ?_⟩
    cases ended
    rwa [List.map_nil, List.append_nil]
  | @skipped count index w asked rounds calls ended same absent rest ih =>
    have last : index + (count + 1) = index + 1 + count := by omega
    rw [last]
    have kept : FilledBelow asked.realm array length index elements := by
      rwa [FilledBelow, same.heap]
    exact ih (by omega) kept.succ untouched
  | unread same present failed =>
    exact ⟨List.forall_mem_nil _, fun w' ended => absurd ended (failed.not_ok () w')⟩
  | uncalled same present read failed =>
    exact ⟨List.forall_mem_nil _, fun w' ended => absurd ended (failed.not_ok () w')⟩
  | @unused count index w round e here same happens failed =>
    have number : round.index.toNat = index := here ▸ Heap.index_ofNat (by omega)
    have kept := filledBelow_of_untouched filled same (untouched round List.mem_cons_self)
    obtain ⟨used, -⟩ := happens.fills (number ▸ kept)
    cases failed.symm.trans used
  | @visited count index w round rounds calls ended here same happens used rest ih =>
    have number : round.index.toNat = index := here ▸ Heap.index_ofNat (by omega)
    have last : index + (count + 1) = index + 1 + count := by omega
    have kept := filledBelow_of_untouched filled same (untouched round List.mem_cons_self)
    obtain ⟨-, stored⟩ := happens.fills (number ▸ kept)
    rw [number] at stored
    obtain ⟨later, fills⟩ :=
      ih (by omega) stored fun round member => untouched round (List.mem_cons_of_mem _ member)
    refine ⟨List.forall_mem_cons.2 ⟨used, later⟩, fun w' ended => ?_⟩
    rw [last, List.map_cons, number]
    have filled := fills w' ended
    rwa [List.append_assoc] at filled

end CallbackLoop

namespace ArrayLike

/-! ## The whole run -/

/-- An array of the results of some rounds, each under its index, and of nothing else. -/
structure HoldsResults (o : OrdinaryObject) (length : UInt32) (rounds : List (Round β σ)) :
    Prop where
  classTag : o.classTag = some "Array"
  length : o.getOwn? lengthKey = some (.data (.ofUInt32 length) true false false)
  keys : o.ownKeys = rounds.map (fun round => .ofIndex round.index) ++ [lengthKey]
  results : ∀ round ∈ rounds, o.getOwn? (.ofIndex round.index) = some (.openData round.result)

theorem holdsResults_of_visits {loop : CallbackLoop β σ} {stop : Nat} {start : World β σ}
    {rounds : List (Round β σ)} {length : UInt32} {o : OrdinaryObject}
    (visits : loop.Visits 0 stop start rounds) (inside : stop ≤ length.toNat)
    (holds : o.HoldsArray length (rounds.map fun round => (round.index.toNat, round.result))) :
    HoldsResults o length rounds where
  classTag := holds.classTag
  length := holds.getOwn?_length
  keys := by
    have ascending : OrdinaryObject.Ascending
        ((rounds.map fun round => (round.index.toNat, round.result)).map Prod.fst) := by
      rw [List.map_map]
      refine ⟨List.pairwise_map.2 (visits.ascending.imp UInt32.lt_iff_toNat_lt.1), ?_⟩
      intro k listed
      obtain ⟨round, member, rfl⟩ := List.mem_map.1 listed
      have below := (visits.bounded round member).2
      have small : length.toNat < 2 ^ 32 := length.toNat_lt
      simp only [Function.comp_apply]
      omega
    rw [holds.ownKeys ascending, List.map_map, List.map_map]
    refine congrArg (· ++ _) (List.map_congr_left fun round _ => ?_)
    exact (PropertyKey.ofIndex_eq_decimal _).symm
  results round member := by
    rw [PropertyKey.ofIndex_eq_decimal, holds.getOwn?_eq_some_iff]
    exact ⟨round.result, List.mem_map_of_mem member, rfl⟩

variable (object callback : ObjectHandle) (thisArg : Value)
  (bodies : β → Value → List Value → Program β σ Value) (depth : Nat)

theorem calls_newArray (length : UInt32) (w : World β σ) :
    (newArray length).calls bodies depth w = [] := by
  obtain ⟨r, state⟩ := w
  show ((Program.allocate (some r.intrinsics.arrayPrototype) "Array").andThen fun array =>
    (Program.define array lengthKey (.ofDescriptor (.data (.ofUInt32 length) true false false))
      ).andThen fun _ => .done (.ok array)).calls bodies depth ⟨r, state⟩ = _
  have allocates : (Program.allocate (some r.intrinsics.arrayPrototype) "Array").calls bodies depth
      ⟨r, state⟩ = [] :=
    Program.calls_request bodies depth (.allocate (some r.intrinsics.arrayPrototype) "Array") _
  rw [Program.calls_andThen, allocates, List.nil_append]
  split
  · next array w _ =>
    rw [Program.calls_andThen_done]
    exact Program.calls_request bodies depth (.define array lengthKey
      (.ofDescriptor (.data (.ofUInt32 length) true false false))) w
  · rfl

/-- How `forEach` goes once the length is read.  What the function returns is not used. -/
def ForEachRuns (this : Value) (length : UInt32) (start : World β σ)
    (calls : List (Invocation β σ)) (ended : Option (Except ObjectError Unit × World β σ)) : Prop :=
  ∃ rounds, (forEachLoop object callback this bodies depth).Goes 0 length.toNat start rounds calls
      ended ∧
    ∀ round ∈ rounds, round.used = .ok () ∧ round.left = round.returned

/-- How `map` goes once the length is read.  It makes a new array, unless no handle is left for it,
and stores the results there.  If no round changes the array before its result is stored, then the
array holds the results in the end. -/
inductive MapRuns (this : Value) (length : UInt32) (v : World β σ) : List (Invocation β σ) →
    Option (Except ObjectError ObjectHandle × World β σ) → Prop where
  | full (size : v.realm.heap.size = 2 ^ 32) : MapRuns this length v [] none
  | loop {array start rounds calls ended} (fresh : v.realm.heap.get? array = none)
      (made : (newArray length).run bodies depth v = some (.ok array, start))
      (others : ∀ h, h ≠ array → start.realm.heap.get? h = v.realm.heap.get? h)
      (goes : (mapLoop array object callback this bodies depth).Goes 0 length.toNat start rounds
        calls ended)
      (stored : (∀ round ∈ rounds,
          round.returned.realm.heap.get? array = round.asked.realm.heap.get? array) →
        (∀ round ∈ rounds, round.used = .ok ()) ∧ ∀ w', ended = some (.ok (), w') →
          ∃ o, w'.realm.heap.get? array = some o ∧ HoldsResults o length rounds) :
      MapRuns this length v calls
        (ended.map fun (result, w) => (result.map fun _ => array, w))

section Loops

variable {object} {v : World β σ} (live : v.realm.heap.contains object = true) (this : Value)
  (length : UInt32)

include live

theorem forEach_runs :
    ForEachRuns object callback bodies depth this length v
      ((forEachFrom object callback length this).calls bodies depth v)
      ((forEachFrom object callback length this).run bodies depth v) := by
  obtain ⟨rounds, -, goes⟩ := CallbackLoop.goes_of_run
    (CallbackLoop.Usable.of_forEachLoop : (forEachLoop object callback this bodies depth).Usable)
    length live
  refine ⟨rounds, goes, fun round member => ?_⟩
  obtain ⟨stop, rest, -, visits, -⟩ := goes
  have used := Prod.mk.inj (Option.some.inj (visits.happens round member).used)
  exact ⟨used.1.symm, used.2.symm⟩

theorem map_runs :
    MapRuns object callback bodies depth this length v
      ((mapFrom object callback length this).calls bodies depth v)
      ((mapFrom object callback length this).run bodies depth v) := by
  have made := newArray_run bodies depth v.host length v.realm
  rw [mapFrom, Program.calls_andThen, Program.run_andThen, calls_newArray, List.nil_append]
  cases new : (newArray length).run bodies depth v with
  | none =>
    rw [new] at made
    exact .full made
  | some ended =>
    obtain ⟨result, start⟩ := ended
    rw [new] at made
    obtain ⟨-, array, o, rfl, fresh, arrayLive, holds, others⟩ := made
    have live' := Realm.grows_of_run new object live
    obtain ⟨rounds, course, goes⟩ := CallbackLoop.goes_of_run
      (CallbackLoop.Usable.of_mapLoop : (mapLoop array object callback this bodies depth).Usable)
      length live'
    simp only [Option.bind_some, Program.run_andThen_done, Program.calls_andThen_done]
    refine .loop fresh new others goes fun untouched => ?_
    have empty : FilledBelow start.realm array length 0 [] :=
      ⟨o, arrayLive, holds, List.forall_mem_nil _⟩
    have small : length.toNat < 2 ^ 32 := length.toNat_lt
    obtain ⟨used, fills⟩ := course.fills (by omega) empty untouched
    refine ⟨used, fun w' ended => ?_⟩
    obtain ⟨o', live', holds', -⟩ := fills w' ended
    obtain ⟨stop, rest, inside, visits, -⟩ := goes
    exact ⟨o', live', holdsResults_of_visits visits inside holds'⟩

end Loops

/-- A length is read from an object only. -/
theorem live_of_length {w v : World β σ} {length : UInt32}
    (read : (lengthOf object).run bodies depth w = some (.ok length, v)) :
    w.realm.heap.contains object = true := by
  obtain ⟨r, state⟩ := w
  cases ends : r.heap.findProperty object lengthKey r.maxHops with
  | ok lookup => exact (Heap.contains_iff _ _).2 (Heap.live_of_findProperty ends)
  | error e =>
    have failed : (Program.getValue object lengthKey).run bodies depth ⟨r, state⟩ =
        some (.error e, ⟨r, state⟩) :=
      Program.run_request_done (q := .get object lengthKey (.object object))
        (by rw [Realm.perform, Realm.get, ends]; rfl) bodies depth state
    change ((Program.getValue object lengthKey).andThen fun v => .done (.ok v.toUInt32)).run bodies
      depth ⟨r, state⟩ = _ at read
    rw [Program.run_andThen_done, failed] at read
    cases read

/-- `forEach` and `map` read the length once.  If that fails, they end as it does and call nothing;
otherwise they call the function on elements below that length only, whatever the function does. -/
theorem callbacks_bounded_by_length (w : World β σ)
    (callable : w.realm.isCallable callback = true) :
    let read := (lengthOf object).run bodies depth w
    let forEachCalls := (forEach object callback thisArg).calls bodies depth w
    let forEachRun := (forEach object callback thisArg).run bodies depth w
    let mapCalls := (map object callback thisArg).calls bodies depth w
    let mapRun := (map object callback thisArg).run bodies depth w
    (PassedOn read forEachRun ∧ forEachCalls = [] ∧ PassedOn read mapRun ∧ mapCalls = []) ∨
    ∃ length v, read = some (.ok length, v) ∧
      ForEachRuns object callback bodies depth (receiver w.realm thisArg) length v forEachCalls
        forEachRun ∧
      MapRuns object callback bodies depth (receiver w.realm thisArg) length v mapCalls mapRun := by
  by_cases found : ∃ length v, (lengthOf object).run bodies depth w = some (.ok length, v)
  · obtain ⟨length, v, read⟩ := found
    have live := Realm.grows_of_run read object (live_of_length object bodies depth read)
    obtain ⟨forEachCalls, forEachRun⟩ :=
      overElements_of_read bodies depth callable thisArg (forEachFrom object callback) read
    obtain ⟨mapCalls, mapRun⟩ :=
      overElements_of_read bodies depth callable thisArg (mapFrom object callback) read
    refine .inr ⟨length, v, read, ?_, ?_⟩
    · rw [forEach_eq, forEachCalls, forEachRun]
      exact forEach_runs callback bodies depth live _ length
    · rw [map_eq, mapCalls, mapRun]
      exact map_runs callback bodies depth live _ length
  · obtain ⟨forEachCalls, forEachRun⟩ :=
      overElements_of_unread bodies depth thisArg (forEachFrom object callback) found
    obtain ⟨mapCalls, mapRun⟩ :=
      overElements_of_unread bodies depth thisArg (mapFrom object callback) found
    exact .inl ⟨forEachRun, forEachCalls, mapRun, mapCalls⟩

/-- A function of length two with an element and a hole, in a new realm: it is called on the element
alone. -/
theorem callbacks_over_hole :
    let function : ObjectHandle := ⟨5⟩
    let setup : List (Request Unit) := [.createFunction "f" (),
      .define function lengthKey (openFields (.ofUInt32 2)),
      .define function (.decimal 0) (openFields .null)]
    let w : World Unit Unit := ⟨setup.foldl (fun r q => (r.perform q).2) (Realm.ofConfig {}), ()⟩
    let bodies : Unit → Value → List Value → Program Unit Unit Value := fun _ _ _ => pure .null
    w.realm.isCallable function = true ∧
      ((forEach function function .undefined).calls bodies 1 w).map Invocation.args =
        [[.null, .ofUInt32 0, .object function]] ∧
      ∃ v, (lengthOf function).run bodies 1 w = some (.ok 2, v) ∧
        ForEachRuns function function bodies 1 (receiver w.realm .undefined) 2 v
          ((forEach function function .undefined).calls bodies 1 w)
          ((forEach function function .undefined).run bodies 1 w) ∧
        MapRuns function function bodies 1 (receiver w.realm .undefined) 2 v
          ((map function function .undefined).calls bodies 1 w)
          ((map function function .undefined).run bodies 1 w) := by
  intro function setup w bodies
  have callable : w.realm.isCallable function = true := by decide
  have read : (lengthOf function).run bodies 1 w = some (.ok 2, w) := by rfl
  obtain ⟨failed, -⟩ | ⟨length, v, readOk, runs⟩ :=
    callbacks_bounded_by_length function function .undefined bodies 1 w callable
  · rw [read] at failed
    cases failed
  · cases read.symm.trans readOk
    exact ⟨callable, by decide +kernel, w, read, runs⟩

end ArrayLike

end ObjectModel
