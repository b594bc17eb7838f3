import ObjectModel.Program

/-!
# What a run does

`Program.visits` says which worlds a run comes by: one before each operation and each change of the
host's state, those inside the bodies that operations call, and the one at the end.  All of them
keep what every operation keeps (`Program.visits_keeps`, `Program.run_keeps`), by induction on the
depth of calls and, for each depth, on the program (`Program.visitsWith_keeps`).

A program of one operation ends with the answer to it (`Program.run_request_done`), or with the end
of the one body that the operation calls (`Program.run_request_call`).
-/

namespace ObjectModel

variable {β σ α : Type}

namespace Program

/-! ## Worlds that a run comes by -/

/-- The worlds that a program comes by when `callee` runs the bodies of functions and `within` says
which worlds they come by. -/
def visitsWith (callee : β → Value → List Value → World β σ →
      Option (Except ObjectError Value × World β σ))
    (within : β → Value → List Value → World β σ → World β σ → Prop) :
    Program β σ α → World β σ → World β σ → Prop
  | done _, w, v => v = w
  | ask q next, w, v => v = w ∨
    match w.realm.perform q with
    | (.done result, realm) => (next result).visitsWith callee within ⟨realm, w.host⟩ v
    | (.call body this args finish, realm) =>
      within body this args ⟨realm, w.host⟩ v ∨
        ∃ result w', callee body this args ⟨realm, w.host⟩ = some (result, w') ∧
          (next (result.map finish)).visitsWith callee within w' v
    | (.exhausted, realm) => v = ⟨realm, w.host⟩
  | look next, w, v => (next w.realm).visitsWith callee within w v
  | host change next, w, v => v = w ∨
    (next (change w.host)).visitsWith callee within ⟨w.realm, change w.host⟩ v

/-- The worlds that the body of a function comes by. -/
def bodyVisits (bodies : β → Value → List Value → Program β σ Value) :
    (depth : Nat) → β → Value → List Value → World β σ → World β σ → Prop
  | 0, _, _, _, w, v => v = w
  | depth + 1, body, this, args, w, v =>
    (bodies body this args).visitsWith (runBody bodies depth) (bodyVisits bodies depth) w v

/-- The worlds that a run comes by. -/
def visits (bodies : β → Value → List Value → Program β σ Value) (depth : Nat)
    (p : Program β σ α) (w v : World β σ) : Prop :=
  p.visitsWith (runBody bodies depth) (bodyVisits bodies depth) w v

section With

variable {callee : β → Value → List Value → World β σ →
    Option (Except ObjectError Value × World β σ)}
  {within : β → Value → List Value → World β σ → World β σ → Prop}

theorem visitsWith_end (p : Program β σ α) {w w' : World β σ} {result : Except ObjectError α}
    (ends : p.runWith callee w = some (result, w')) : p.visitsWith callee within w w' := by
  induction p generalizing w with
  | done answer =>
    cases ends
    exact rfl
  | ask q next ih =>
    obtain ⟨realm, state⟩ := w
    rw [visitsWith]
    right
    rw [runWith] at ends
    split at ends
    · next answer realm' reply =>
      simp only [reply]
      exact ih _ ends
    · next body this args finish realm' reply =>
      simp only [reply]
      split at ends
      · next answer w'' called => exact .inr ⟨answer, w'', called, ih _ ends⟩
      · cases ends
    · cases ends
  | look next ih => exact ih _ ends
  | host change next ih => exact .inr (ih _ ends)

/-! ## What operations keep -/

variable {P : Realm β → Prop} (step : ∀ r q, P r → P (r.perform q).2)
  (calls : ∀ {body this args w result w'}, callee body this args w = some (result, w') →
    P w.realm → P w'.realm)

include step calls

/-- A program keeps what every operation and every call keeps, at all worlds that it comes by. -/
theorem visitsWith_keeps
    (inside : ∀ {body this args w v}, within body this args w v → P w.realm → P v.realm)
    (p : Program β σ α) {w v : World β σ} (visited : p.visitsWith callee within w v)
    (start : P w.realm) : P v.realm := by
  induction p generalizing w with
  | done answer =>
    cases visited
    exact start
  | ask q next ih =>
    have performed := step w.realm q start
    rw [visitsWith] at visited
    obtain rfl | later := visited
    · exact start
    · split at later
      · next answer realm reply =>
        rw [reply] at performed
        exact ih _ later performed
      · next body this args finish realm reply =>
        rw [reply] at performed
        obtain within | ⟨answer, w', called, later⟩ := later
        · exact inside within performed
        · exact ih _ later (calls called performed)
      · next realm reply =>
        rw [reply] at performed
        cases later
        exact performed
  | look next ih => exact ih _ visited start
  | host change next ih =>
    obtain rfl | later := visited
    · exact start
    · exact ih _ later start

theorem runWith_keeps (p : Program β σ α) {w w' : World β σ} {result : Except ObjectError α}
    (ends : p.runWith callee w = some (result, w')) (start : P w.realm) : P w'.realm := by
  -- the worlds inside the bodies do not matter for the one at the end
  have visited : p.visitsWith callee (fun _ _ _ _ _ => False) w w' := visitsWith_end p ends
  exact visitsWith_keeps step calls (fun inside => inside.elim) p visited start

end With

theorem runBody_keeps {P : Realm β → Prop} (step : ∀ r q, P r → P (r.perform q).2)
    (bodies : β → Value → List Value → Program β σ Value) (depth : Nat) {body : β} {this : Value}
    {args : List Value} {w w' : World β σ} {result : Except ObjectError Value}
    (ends : runBody bodies depth body this args w = some (result, w')) (start : P w.realm) :
    P w'.realm := by
  induction depth generalizing body this args w w' result with
  | zero => cases ends
  | succ depth ih => exact runWith_keeps step ih (bodies body this args) ends start

theorem run_keeps {P : Realm β → Prop} (step : ∀ r q, P r → P (r.perform q).2)
    {bodies : β → Value → List Value → Program β σ Value} {depth : Nat} {p : Program β σ α}
    {w w' : World β σ} {result : Except ObjectError α}
    (ends : p.run bodies depth w = some (result, w')) (start : P w.realm) : P w'.realm :=
  runWith_keeps step (runBody_keeps step bodies depth) p ends start

theorem bodyVisits_keeps {P : Realm β → Prop} (step : ∀ r q, P r → P (r.perform q).2)
    (bodies : β → Value → List Value → Program β σ Value) (depth : Nat) {body : β} {this : Value}
    {args : List Value} {w v : World β σ} (visited : bodyVisits bodies depth body this args w v)
    (start : P w.realm) : P v.realm := by
  induction depth generalizing body this args w v with
  | zero =>
    cases visited
    exact start
  | succ depth ih =>
    exact visitsWith_keeps step (runBody_keeps step bodies depth) ih (bodies body this args)
      visited start

theorem visits_keeps {P : Realm β → Prop} (step : ∀ r q, P r → P (r.perform q).2)
    {bodies : β → Value → List Value → Program β σ Value} {depth : Nat} {p : Program β σ α}
    {w v : World β σ} (visited : p.visits bodies depth w v) (start : P w.realm) : P v.realm :=
  visitsWith_keeps step (runBody_keeps step bodies depth) (bodyVisits_keeps step bodies depth) p
    visited start

section Request

variable {r r' : Realm β} {q : Request β}

/-- An operation that is answered at once. -/
theorem run_request_done {result : Except ObjectError q.Answer}
    (answered : r.perform q = (.done result, r'))
    (bodies : β → Value → List Value → Program β σ Value) (depth : Nat) (state : σ) :
    (request q).run bodies depth ⟨r, state⟩ = some (result, ⟨r', state⟩) := by
  rw [run, request, runWith, answered]
  rfl

/-- An operation that calls a function runs its body once, and ends as that does. -/
theorem run_request_call {body : β} {this : Value} {args : List Value}
    {finish : Value → q.Answer} (answered : r.perform q = (.call body this args finish, r'))
    (bodies : β → Value → List Value → Program β σ Value) (depth : Nat) (state : σ) :
    (request q).run bodies depth ⟨r, state⟩ =
      (runBody bodies depth body this args ⟨r', state⟩).map
        fun (result, w) => (result.map finish, w) := by
  rw [run, request, runWith, answered]
  dsimp only
  cases runBody bodies depth body this args ⟨r', state⟩ <;> rfl

/-- An operation that adds an object ends with its handle, or not at all. -/
theorem run_request_alloc {o : OrdinaryObject} (answer : ObjectHandle → q.Answer)
    (asked : r.perform q = match r.heap.alloc? o with
      | some (h, heap) => (.done (.ok (answer h)), { r with heap })
      | none => (.exhausted, r))
    (bodies : β → Value → List Value → Program β σ Value) (depth : Nat) (state : σ) :
    (request q).run bodies depth ⟨r, state⟩ = (r.heap.alloc? o).map
      fun made => (.ok (answer made.1), ⟨{ r with heap := made.2 }, state⟩) := by
  rw [run, request, runWith, asked]
  cases r.heap.alloc? o <;> rfl

theorem run_define {object : ObjectHandle} {key : PropertyKey} {fields : DescriptorFields}
    {result : Except ObjectError DefineOutcome}
    (answered : r.define object key fields = (.done result, r'))
    {bodies : β → Value → List Value → Program β σ Value} {depth : Nat} {state : σ} :
    (define object key fields).run bodies depth ⟨r, state⟩ = some (result, ⟨r', state⟩) :=
  run_request_done (q := .define object key fields) answered bodies depth state

end Request

end Program

end ObjectModel
