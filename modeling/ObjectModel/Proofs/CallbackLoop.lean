import ObjectModel.Proofs.Calls
import ObjectModel.Proofs.Closure
import ObjectModel.Proofs.Reading

/-!
# Loops that call a function on each element

The function that such a loop calls is arbitrary, and may change the object that the loop is over.
`CallbackLoop.Course` gives the possible courses of the loop, each with the rounds that are
completed, the calls that are made and the end, and every run has one of them
(`CallbackLoop.course_of_run`), whether or not it has a result.

By induction on its course, a loop over the indices up to `last` comes to some index `stop`
(`CallbackLoop.Course.tells`).  Below `stop` it calls the function exactly under those indices where
there is a property in the world that the earlier calls lead to (`CallbackLoop.Visits`).  It is at
the end there, or something fails there, and then that is the last thing that happens
(`CallbackLoop.Ending`).
-/

namespace ObjectModel

variable {β σ : Type}

/-- The worlds differ at most in their event logs. -/
def World.SameButLog (w v : World β σ) : Prop := ∃ events, v = ⟨{ w.realm with events }, w.host⟩

namespace World.SameButLog

variable {w v u : World β σ}

theorem refl (w : World β σ) : w.SameButLog w := ⟨w.realm.events, rfl⟩

theorem trans (same : w.SameButLog v) (same' : v.SameButLog u) : w.SameButLog u := by
  obtain ⟨events, rfl⟩ := same
  obtain ⟨events', rfl⟩ := same'
  exact ⟨events', rfl⟩

theorem heap (same : w.SameButLog v) : v.realm.heap = w.realm.heap := by
  obtain ⟨events, rfl⟩ := same
  rfl

end World.SameButLog

/-- The chain of the object shows a property under the key. -/
def Realm.Has (r : Realm β) (object : ObjectHandle) (key : PropertyKey) : Prop :=
  ∃ owner p truncation,
    r.heap.findProperty object key r.maxHops = .ok ⟨some (owner, p), truncation⟩

theorem World.SameButLog.has {w v : World β σ} (same : w.SameButLog v) (object : ObjectHandle)
    (key : PropertyKey) : v.realm.Has object key ↔ w.realm.Has object key := by
  obtain ⟨events, rfl⟩ := same
  exact Iff.rfl

/-- Asking for a property of an object that is there tells whether there is one. -/
theorem Realm.run_has_of_live {w : World β σ} {object : ObjectHandle}
    (live : w.realm.heap.contains object = true) (key : PropertyKey)
    (bodies : β → Value → List Value → Program β σ Value) (depth : Nat) :
    ∃ present asked, (Program.has object key).run bodies depth w = some (.ok present, asked) ∧
      w.SameButLog asked ∧ (present = true ↔ w.realm.Has object key) := by
  obtain ⟨r, state⟩ := w
  obtain ⟨o, there⟩ := (Heap.contains_iff _ _).1 live
  obtain ⟨⟨found, truncation⟩, ends⟩ := Heap.findProperty_of_live there key r.maxHops
  obtain ⟨events, ran⟩ := Realm.run_has bodies depth state ends
  refine ⟨_, _, ran, ⟨events, rfl⟩, ?_⟩
  cases found with
  | none =>
    refine ⟨nofun, fun ⟨_, _, _, shown⟩ => ?_⟩
    cases ends.symm.trans shown
  | some entry => exact ⟨fun _ => ⟨entry.1, entry.2, truncation, ends⟩, fun _ => rfl⟩

/-- A run without a value, passed on as it is: it has no result, or it ends with an error. -/
inductive PassedOn {α γ : Type} : Option (Except ObjectError α × World β σ) →
    Option (Except ObjectError γ × World β σ) → Prop where
  | nothing : PassedOn none none
  | error (e : ObjectError) (w : World β σ) : PassedOn (some (.error e, w)) (some (.error e, w))

theorem PassedOn.not_ok {α γ : Type} {ran : Option (Except ObjectError α × World β σ)}
    {ended : Option (Except ObjectError γ × World β σ)} (passed : PassedOn ran ended) (c : γ)
    (w : World β σ) : ended ≠ some (.ok c, w) := by
  cases passed <;> nofun

/-- One element that a function is called on. -/
structure Round (β σ : Type) where
  index : UInt32
  /-- The world in which the element is read. -/
  asked : World β σ
  element : Value
  /-- The world in which the function is called. -/
  entered : World β σ
  /-- What the function returns. -/
  result : Value
  returned : World β σ
  /-- How the use of what it returns ends. -/
  used : Except ObjectError Unit
  left : World β σ

/-- A loop that calls a function on each element of an object, and what it uses the results for. -/
structure CallbackLoop (β σ : Type) where
  object : ObjectHandle
  callback : ObjectHandle
  this : Value
  use : UInt32 → Value → Program β σ Unit
  bodies : β → Value → List Value → Program β σ Value
  depth : Nat

namespace CallbackLoop

variable (loop : CallbackLoop β σ)

/-- The loop over `count` indices from `index` on. -/
def program (count index : Nat) : Program β σ Unit :=
  ArrayLike.visit loop.object loop.callback loop.this loop.use count index

def read (k : UInt32) : Program β σ Value := Program.getValue loop.object (.ofIndex k)

def arguments (k : UInt32) (element : Value) : List Value :=
  [element, .ofUInt32 k, .object loop.object]

def call (k : UInt32) (element : Value) : Program β σ Value :=
  Program.call loop.callback loop.this (loop.arguments k element)

def invocation (k : UInt32) (element : Value) (entered : World β σ) : Invocation β σ :=
  ⟨loop.callback, loop.this, loop.arguments k element, entered⟩

/-- The element is there when its index is reached, it is what the function is called on, and what
the function returns is used. -/
structure Happens (round : Round β σ) : Prop where
  present : round.asked.realm.Has loop.object (.ofIndex round.index)
  read : (loop.read round.index).run loop.bodies loop.depth round.asked =
    some (.ok round.element, round.entered)
  called : (loop.call round.index round.element).run loop.bodies loop.depth round.entered =
    some (.ok round.result, round.returned)
  used : (loop.use round.index round.result).run loop.bodies loop.depth round.returned =
    some (round.used, round.left)

/-- How the loop goes: the rounds that it completes, the calls that it makes and how it ends. -/
inductive Course : (count index : Nat) → World β σ → List (Round β σ) → List (Invocation β σ) →
    Option (Except ObjectError Unit × World β σ) → Prop where
  | finished {index w} : Course 0 index w [] [] (some (.ok (), w))
  | skipped {count index w asked rounds calls ended} (same : w.SameButLog asked)
      (absent : ¬w.realm.Has loop.object (.ofIndex (UInt32.ofNat index)))
      (rest : Course count (index + 1) asked rounds calls ended) :
      Course (count + 1) index w rounds calls ended
  | unread {count index w asked ended} (same : w.SameButLog asked)
      (present : asked.realm.Has loop.object (.ofIndex (UInt32.ofNat index)))
      (failed : PassedOn ((loop.read (UInt32.ofNat index)).run loop.bodies loop.depth asked)
        ended) :
      Course (count + 1) index w [] [] ended
  | uncalled {count index w asked element entered ended} (same : w.SameButLog asked)
      (present : asked.realm.Has loop.object (.ofIndex (UInt32.ofNat index)))
      (read : (loop.read (UInt32.ofNat index)).run loop.bodies loop.depth asked =
        some (.ok element, entered))
      (failed : PassedOn ((loop.call (UInt32.ofNat index) element).run loop.bodies loop.depth
        entered) ended) :
      Course (count + 1) index w [] [loop.invocation (UInt32.ofNat index) element entered] ended
  | unused {count index w} {round : Round β σ} {e} (here : round.index = UInt32.ofNat index)
      (same : w.SameButLog round.asked) (happens : loop.Happens round)
      (failed : round.used = .error e) :
      Course (count + 1) index w [round]
        [loop.invocation round.index round.element round.entered] (some (.error e, round.left))
  | visited {count index w} {round : Round β σ} {rounds calls ended}
      (here : round.index = UInt32.ofNat index) (same : w.SameButLog round.asked)
      (happens : loop.Happens round) (used : round.used = .ok ())
      (rest : Course count (index + 1) round.left rounds calls ended) :
      Course (count + 1) index w (round :: rounds)
        (loop.invocation round.index round.element round.entered :: calls) ended

variable {loop} {count index : Nat} {w : World β σ}

/-! ## The course of a run -/

/-- What is done with a result always ends, without calling anything. -/
structure Usable (loop : CallbackLoop β σ) : Prop where
  ends : ∀ k v w, ∃ used left, (loop.use k v).run loop.bodies loop.depth w = some (used, left)
  silent : ∀ k v w, (loop.use k v).calls loop.bodies loop.depth w = []

theorem program_succ (count index : Nat) : loop.program (count + 1) index =
    (Program.has loop.object (.ofIndex (UInt32.ofNat index)) : Program β σ Bool).andThen
      fun present =>
        if present then
          (loop.read (UInt32.ofNat index)).andThen fun element =>
            (loop.call (UInt32.ofNat index) element).andThen fun result =>
              (loop.use (UInt32.ofNat index) result).andThen fun _ =>
                loop.program count (index + 1)
        else loop.program count (index + 1) := rfl

theorem calls_read (k : UInt32) (w : World β σ) :
    (loop.read k).calls loop.bodies loop.depth w = [] :=
  Program.calls_request loop.bodies loop.depth
    (.get loop.object (.ofIndex k) (.object loop.object)) w

theorem calls_call (k : UInt32) (element : Value) (w : World β σ) :
    (loop.call k element).calls loop.bodies loop.depth w = [loop.invocation k element w] :=
  Program.calls_request loop.bodies loop.depth
    (.call loop.callback loop.this (loop.arguments k element)) w

/-- The course of the rest of a run. -/
def RunsOn (loop : CallbackLoop β σ) (count index : Nat) (w : World β σ) : Prop :=
  ∃ rounds, loop.Course count index w rounds
    ((loop.program count index).calls loop.bodies loop.depth w)
    ((loop.program count index).run loop.bodies loop.depth w)

/-- An element that is there: it is read, the function is called on it, and the result is used,
unless one of these fails. -/
theorem course_of_present (usable : loop.Usable) {asked : World β σ} (same : w.SameButLog asked)
    (live : asked.realm.heap.contains loop.object = true)
    (present : asked.realm.Has loop.object (.ofIndex (UInt32.ofNat index)))
    (rest : ∀ {left : World β σ}, left.realm.heap.contains loop.object = true →
      loop.RunsOn count (index + 1) left) :
    let body := (loop.read (UInt32.ofNat index)).andThen fun element =>
      (loop.call (UInt32.ofNat index) element).andThen fun result =>
        (loop.use (UInt32.ofNat index) result).andThen fun _ => loop.program count (index + 1)
    ∃ rounds, loop.Course (count + 1) index w rounds (body.calls loop.bodies loop.depth asked)
      (body.run loop.bodies loop.depth asked) := by
  intro body
  simp only [body, Program.run_andThen, Program.calls_andThen, calls_read, List.nil_append]
  generalize read : (loop.read (UInt32.ofNat index)).run loop.bodies loop.depth asked = answer
  match answer with
  | none => exact ⟨[], .unread same present (by rw [read]; exact .nothing)⟩
  | some (.error e, v) => exact ⟨[], .unread same present (by rw [read]; exact .error e v)⟩
  | some (.ok element, entered) =>
    simp only [Option.bind_some, calls_call]
    generalize called : (loop.call (UInt32.ofNat index) element).run loop.bodies loop.depth
      entered = answer
    match answer with
    | none => exact ⟨[], .uncalled same present read (by rw [called]; exact .nothing)⟩
    | some (.error e, v) =>
      exact ⟨[], .uncalled same present read (by rw [called]; exact .error e v)⟩
    | some (.ok result, returned) =>
      obtain ⟨used, left, use⟩ := usable.ends (UInt32.ofNat index) result returned
      have happens : loop.Happens
          ⟨UInt32.ofNat index, asked, element, entered, result, returned, used, left⟩ :=
        ⟨present, read, called, use⟩
      simp only [Option.bind_some, usable.silent, use, List.nil_append, List.singleton_append]
      cases used with
      | error e => exact ⟨_, .unused rfl same happens rfl⟩
      | ok _ =>
        obtain ⟨rounds, later⟩ := rest (Realm.grows_of_run use _ (Realm.grows_of_run called _
          (Realm.grows_of_run read _ live)))
        exact ⟨_, .visited rfl same happens rfl later⟩

/-- Every run is such a course, also one without a result. -/
theorem course_of_run (usable : loop.Usable) (count index : Nat)
    (live : w.realm.heap.contains loop.object = true) : loop.RunsOn count index w := by
  -- asking changes the log alone, so the object is still there; the rounds are only added to it
  induction count generalizing index w with
  | zero => exact ⟨[], .finished⟩
  | succ count ih =>
    obtain ⟨present, asked, ask, same, present_iff⟩ :=
      Realm.run_has_of_live live (.ofIndex (UInt32.ofNat index)) loop.bodies loop.depth
    have noCalls : (Program.has loop.object (.ofIndex (UInt32.ofNat index)) :
        Program β σ Bool).calls loop.bodies loop.depth w = [] :=
      Program.calls_request loop.bodies loop.depth
        (.has loop.object (.ofIndex (UInt32.ofNat index))) w
    have live' : asked.realm.heap.contains loop.object = true := by rwa [same.heap]
    rw [RunsOn, program_succ, Program.run_andThen, Program.calls_andThen, ask, noCalls]
    simp only [Option.bind_some, List.nil_append]
    cases present with
    | false =>
      obtain ⟨rounds, rest⟩ := ih (index + 1) live'
      exact ⟨rounds, .skipped same (fun shown => nomatch present_iff.2 shown) rest⟩
    | true =>
      exact course_of_present usable same live' ((same.has _ _).2 (present_iff.1 rfl))
        (ih (index + 1))

/-! ## What a course tells -/

/-- The world that some rounds lead to. -/
def stateAfter (start : World β σ) (rounds : List (Round β σ)) : World β σ :=
  (rounds.getLast?.map Round.left).getD start

/-- The world that the rounds before an index lead to. -/
def stateBefore (start : World β σ) (rounds : List (Round β σ)) (k : UInt32) : World β σ :=
  stateAfter start (rounds.filter (·.index < k))

/-- The rounds of a loop over the indices from `first` up to `stop`.  They are in ascending order,
and exactly those indices are visited under which there is a property in the world that the earlier
rounds lead to. -/
structure Visits (loop : CallbackLoop β σ) (first stop : Nat) (start : World β σ)
    (rounds : List (Round β σ)) : Prop where
  ordered : first ≤ stop
  ascending : rounds.Pairwise fun a b => a.index < b.index
  bounded : ∀ round ∈ rounds, first ≤ round.index.toNat ∧ round.index.toNat < stop
  happens : ∀ round ∈ rounds, loop.Happens round
  linked : ∀ round ∈ rounds, (stateBefore start rounds round.index).SameButLog round.asked
  complete : ∀ k : UInt32, first ≤ k.toNat → k.toNat < stop →
    ((∃ round ∈ rounds, round.index = k) ↔
      (stateBefore start rounds k).realm.Has loop.object (.ofIndex k))

/-- How a loop ends that has come to the index `stop`: at the end, or because reading the element
fails, or the function that is called on it, or the use of what that returns. -/
inductive Ending (loop : CallbackLoop β σ) (start : World β σ) (rounds : List (Round β σ))
    (stop last : Nat) :
    List (Invocation β σ) → Option (Except ObjectError Unit × World β σ) → Prop where
  | finished {v} (used : ∀ round ∈ rounds, round.used = .ok ()) (all : stop = last)
      (same : (stateAfter start rounds).SameButLog v) :
      Ending loop start rounds stop last [] (some (.ok (), v))
  | unread {asked ended} (used : ∀ round ∈ rounds, round.used = .ok ()) (inside : stop < last)
      (same : (stateAfter start rounds).SameButLog asked)
      (present : asked.realm.Has loop.object (.ofIndex (UInt32.ofNat stop)))
      (failed : PassedOn ((loop.read (UInt32.ofNat stop)).run loop.bodies loop.depth asked)
        ended) :
      Ending loop start rounds stop last [] ended
  | uncalled {asked element entered ended} (used : ∀ round ∈ rounds, round.used = .ok ())
      (inside : stop < last) (same : (stateAfter start rounds).SameButLog asked)
      (present : asked.realm.Has loop.object (.ofIndex (UInt32.ofNat stop)))
      (read : (loop.read (UInt32.ofNat stop)).run loop.bodies loop.depth asked =
        some (.ok element, entered))
      (failed : PassedOn ((loop.call (UInt32.ofNat stop) element).run loop.bodies loop.depth
        entered) ended) :
      Ending loop start rounds stop last [loop.invocation (UInt32.ofNat stop) element entered] ended
  | unused {front round e} (split : rounds = front ++ [round])
      (here : round.index.toNat + 1 = stop) (used : ∀ round ∈ front, round.used = .ok ())
      (failed : round.used = .error e) :
      Ending loop start rounds stop last [] (some (.error e, round.left))

/-- The calls of some rounds. -/
def invocations (loop : CallbackLoop β σ) (rounds : List (Round β σ)) : List (Invocation β σ) :=
  rounds.map fun round => loop.invocation round.index round.element round.entered

section State

variable {start start' : World β σ} {round : Round β σ} {rounds : List (Round β σ)} {k : UInt32}

theorem stateAfter_cons (start : World β σ) (round : Round β σ) (rounds : List (Round β σ)) :
    stateAfter start (round :: rounds) = stateAfter round.left rounds := by
  rw [stateAfter, stateAfter, List.getLast?_cons]
  cases rounds.getLast? <;> rfl

theorem stateAfter_same (same : start.SameButLog start') (rounds : List (Round β σ)) :
    (stateAfter start rounds).SameButLog (stateAfter start' rounds) := by
  unfold stateAfter
  cases rounds.getLast? with
  | none => exact same
  | some round => exact .refl _

theorem stateBefore_of_later (later : ∀ round ∈ rounds, ¬round.index < k) :
    stateBefore start rounds k = start := by
  have none : rounds.filter (·.index < k) = [] :=
    List.filter_eq_nil_iff.2 fun round member => by simpa using later round member
  rw [stateBefore, none]
  rfl

theorem stateBefore_cons (earlier : round.index < k) :
    stateBefore start (round :: rounds) k = stateBefore round.left rounds k := by
  rw [stateBefore, List.filter_cons_of_pos (by simpa using earlier), stateAfter_cons]
  rfl

end State

theorem Visits.nil (loop : CallbackLoop β σ) (first : Nat) (start : World β σ) :
    loop.Visits first first start [] where
  ordered := Nat.le_refl _
  ascending := .nil
  bounded _ member := nomatch member
  happens _ member := nomatch member
  linked _ member := nomatch member
  complete _ low high := absurd low (Nat.not_le.2 high)

theorem Visits.later {first stop : Nat} {start : World β σ} {rounds : List (Round β σ)}
    (visits : loop.Visits first stop start rounds) {k : UInt32} (low : k.toNat ≤ first) :
    ∀ round ∈ rounds, ¬round.index < k := by
  intro round member before
  have := (visits.bounded round member).1
  rw [UInt32.lt_iff_toNat_lt] at before
  omega

section Step

variable {stop : Nat} {start asked : World β σ} {rounds : List (Round β σ)}

/-- An index without a property is passed over. -/
theorem Visits.skip (small : index < 2 ^ 32) (same : start.SameButLog asked)
    (absent : ¬start.realm.Has loop.object (.ofIndex (UInt32.ofNat index)))
    (visits : loop.Visits (index + 1) stop asked rounds) :
    loop.Visits index stop start rounds where
  ordered := Nat.le_of_succ_le visits.ordered
  ascending := visits.ascending
  bounded round member :=
    ⟨Nat.le_of_succ_le (visits.bounded round member).1, (visits.bounded round member).2⟩
  happens := visits.happens
  linked round member :=
    (stateAfter_same same _).trans (visits.linked round member)
  complete k low high := by
    have number := Heap.index_ofNat small
    by_cases here : k = UInt32.ofNat index
    · subst here
      rw [stateBefore_of_later (visits.later (by omega))]
      refine ⟨fun ⟨round, member, same⟩ => ?_, fun shown => absurd shown absent⟩
      have := (visits.bounded round member).1
      rw [same] at this
      omega
    · have := mt UInt32.toNat_inj.1 here
      rw [visits.complete k (by omega) high]
      exact (stateAfter_same same _).has _ _

/-- An index with a property is visited. -/
theorem Visits.cons {round : Round β σ} (small : index < 2 ^ 32)
    (here : round.index = UInt32.ofNat index) (same : start.SameButLog round.asked)
    (happens : loop.Happens round) (visits : loop.Visits (index + 1) stop round.left rounds) :
    loop.Visits index stop start (round :: rounds) := by
  have number : round.index.toNat = index := here ▸ Heap.index_ofNat small
  have after : ∀ other ∈ rounds, round.index < other.index := by
    intro other member
    have := (visits.bounded other member).1
    rw [UInt32.lt_iff_toNat_lt]
    omega
  have ordered := visits.ordered
  have notBefore : ∀ other ∈ round :: rounds, ¬other.index < round.index :=
    List.forall_mem_cons.2
      ⟨UInt32.lt_irrefl _, fun other member => UInt32.lt_asymm (after other member)⟩
  have bounded : ∀ other ∈ rounds, index ≤ other.index.toNat ∧ other.index.toNat < stop := by
    intro other member
    have := visits.bounded other member
    omega
  have linked : ∀ other ∈ rounds,
      (stateBefore start (round :: rounds) other.index).SameButLog other.asked := by
    intro other member
    rw [stateBefore_cons (after other member)]
    exact visits.linked other member
  have complete : ∀ k : UInt32, index ≤ k.toNat → k.toNat < stop →
      ((∃ other ∈ round :: rounds, other.index = k) ↔
        (stateBefore start (round :: rounds) k).realm.Has loop.object (.ofIndex k)) := by
    intro k low high
    by_cases this : k = round.index
    · subst this
      rw [stateBefore_of_later notBefore]
      exact ⟨fun _ => (same.has _ _).1 happens.present, fun _ => ⟨round, List.mem_cons_self, rfl⟩⟩
    · have above := mt UInt32.toNat_inj.1 this
      have earlier : round.index < k := by
        rw [UInt32.lt_iff_toNat_lt]
        omega
      rw [stateBefore_cons earlier, ← visits.complete k (by omega) high]
      simp [Ne.symm this]
  exact
    { ordered := by omega
      ascending := List.pairwise_cons.2 ⟨after, visits.ascending⟩
      bounded := List.forall_mem_cons.2 ⟨by omega, bounded⟩
      happens := List.forall_mem_cons.2 ⟨happens, visits.happens⟩
      linked := List.forall_mem_cons.2 ⟨by rwa [stateBefore_of_later notBefore], linked⟩
      complete }

variable {last : Nat} {calls : List (Invocation β σ)}
  {ended : Option (Except ObjectError Unit × World β σ)}

theorem Ending.skip (same : start.SameButLog asked)
    (ending : loop.Ending asked rounds stop last calls ended) :
    loop.Ending start rounds stop last calls ended := by
  have before := stateAfter_same same rounds
  cases ending with
  | finished used all same => exact .finished used all (before.trans same)
  | unread used inside same present failed =>
    exact .unread used inside (before.trans same) present failed
  | uncalled used inside same present read failed =>
    exact .uncalled used inside (before.trans same) present read failed
  | unused split here used failed => exact .unused split here used failed

theorem Ending.cons {round : Round β σ} (used : round.used = .ok ())
    (ending : loop.Ending round.left rounds stop last calls ended) :
    loop.Ending start (round :: rounds) stop last calls ended := by
  have all : (∀ other ∈ rounds, other.used = .ok ()) → ∀ other ∈ round :: rounds,
      other.used = .ok () := fun rest => List.forall_mem_cons.2 ⟨used, rest⟩
  cases ending with
  | finished rest stopped same =>
    exact .finished (all rest) stopped (by rwa [stateAfter_cons])
  | unread rest inside same present failed =>
    exact .unread (all rest) inside (by rwa [stateAfter_cons]) present failed
  | uncalled rest inside same present read failed =>
    exact .uncalled (all rest) inside (by rwa [stateAfter_cons]) present read failed
  | unused split here rest failed =>
    subst split
    exact .unused List.cons_append.symm here (List.forall_mem_cons.2 ⟨used, rest⟩) failed

end Step

/-- How a loop over the indices from `first` up to `last` goes: the rounds that it completes, the
calls that it makes and how it ends. -/
def Goes (loop : CallbackLoop β σ) (first last : Nat) (start : World β σ)
    (rounds : List (Round β σ)) (calls : List (Invocation β σ))
    (ended : Option (Except ObjectError Unit × World β σ)) : Prop :=
  ∃ stop rest, stop ≤ last ∧ loop.Visits first stop start rounds ∧
    calls = loop.invocations rounds ++ rest ∧ loop.Ending start rounds stop last rest ended

theorem Course.tells {rounds : List (Round β σ)} {calls : List (Invocation β σ)}
    {ended : Option (Except ObjectError Unit × World β σ)}
    (course : loop.Course count index w rounds calls ended) (small : index + count ≤ 2 ^ 32) :
    loop.Goes index (index + count) w rounds calls ended := by
  -- one index at a time: what holds from the next index on holds from this one on
  induction course with
  | @finished index w =>
    have ending : loop.Ending w [] index (index + 0) [] (some (.ok (), w)) :=
      .finished (List.forall_mem_nil _) (Nat.add_zero index).symm (.refl w)
    exact ⟨index, [], Nat.le_refl _, .nil loop index w, rfl, ending⟩
  | @skipped count index w asked rounds calls ended same absent course ih =>
    obtain ⟨stop, rest, bound, visits, called, ending⟩ := ih (by omega)
    have last : index + (count + 1) = index + 1 + count := by omega
    rw [last]
    exact ⟨stop, rest, bound, visits.skip (by omega) same absent, called, ending.skip same⟩
  | @unread count index w asked ended same present failed =>
    have ending : loop.Ending w [] index (index + (count + 1)) [] ended :=
      .unread (List.forall_mem_nil _) (by omega) same present failed
    exact ⟨index, [], by omega, .nil loop index w, rfl, ending⟩
  | @uncalled count index w asked element entered ended same present read failed =>
    have ending : loop.Ending w [] index (index + (count + 1))
        [loop.invocation (UInt32.ofNat index) element entered] ended :=
      .uncalled (List.forall_mem_nil _) (by omega) same present read failed
    exact ⟨index, _, by omega, .nil loop index w, rfl, ending⟩
  | @unused count index w round e here same happens failed =>
    have visits := Visits.cons (by omega) here same happens (.nil loop (index + 1) round.left)
    have number : round.index.toNat = index := here ▸ Heap.index_ofNat (by omega)
    have ending : loop.Ending w [round] (index + 1) (index + (count + 1)) []
        (some (.error e, round.left)) :=
      .unused (List.nil_append _).symm (by omega) (List.forall_mem_nil _) failed
    exact ⟨index + 1, [], by omega, visits, rfl, ending⟩
  | @visited count index w round rounds calls ended here same happens used course ih =>
    obtain ⟨stop, rest, bound, visits, rfl, ending⟩ := ih (by omega)
    have last : index + (count + 1) = index + 1 + count := by omega
    rw [last]
    exact ⟨stop, rest, bound, visits.cons (by omega) here same happens, rfl, ending.cons used⟩

/-- Every run over all indices below a length, with its course. -/
theorem goes_of_run (usable : loop.Usable) (length : UInt32)
    (live : w.realm.heap.contains loop.object = true) :
    let calls := (loop.program length.toNat 0).calls loop.bodies loop.depth w
    let ended := (loop.program length.toNat 0).run loop.bodies loop.depth w
    ∃ rounds, loop.Course length.toNat 0 w rounds calls ended ∧
      loop.Goes 0 length.toNat w rounds calls ended := by
  obtain ⟨rounds, course⟩ := course_of_run usable length.toNat 0 live
  have small : length.toNat < 2 ^ 32 := length.toNat_lt
  have goes := course.tells (by omega)
  rw [Nat.zero_add] at goes
  exact ⟨rounds, course, goes⟩

end CallbackLoop

end ObjectModel
