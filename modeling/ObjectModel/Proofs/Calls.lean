import ObjectModel.Proofs.Upholds

/-!
# The calls of a program

`Program.calls` lists the functions that a program asks for by itself while it runs: not those that
other functions ask for, and not those that reading or writing a property runs.  The calls of a
sequence are those of its parts (`Program.calls_andThen`), whether or not the run has a result.
-/

namespace ObjectModel

variable {β σ α γ : Type}

/-- A function that is called, and the world in which it is. -/
structure Invocation (β σ : Type) where
  function : ObjectHandle
  this : Value
  args : List Value
  world : World β σ

/-- The call that an operation is. -/
def Request.invocation? (q : Request β) (w : World β σ) : Option (Invocation β σ) :=
  match q with
  | .call function this args => some ⟨function, this, args, w⟩
  | _ => none

namespace Program

/-- The calls of a program when `callee` runs the bodies of functions. -/
def callsWith (callee : β → Value → List Value → World β σ →
    Option (Except ObjectError Value × World β σ)) :
    Program β σ α → World β σ → List (Invocation β σ)
  | done _, _ => []
  | ask q next, w => (q.invocation? w).toList ++
    match w.realm.perform q with
    | (.done result, realm) => (next result).callsWith callee ⟨realm, w.host⟩
    | (.call body this args finish, realm) =>
      match callee body this args ⟨realm, w.host⟩ with
      | some (result, w) => (next (result.map finish)).callsWith callee w
      | none => []
    | (.exhausted, _) => []
  | look next, w => (next w.realm).callsWith callee w
  | host change next, w => (next (change w.host)).callsWith callee ⟨w.realm, change w.host⟩

/-- The calls of a program when `bodies` says what the body of a function does and at most `depth`
calls may be running at once. -/
def calls (bodies : β → Value → List Value → Program β σ Value) (depth : Nat)
    (p : Program β σ α) (w : World β σ) : List (Invocation β σ) :=
  p.callsWith (runBody bodies depth) w

section With

variable {callee : β → Value → List Value → World β σ →
    Option (Except ObjectError Value × World β σ)}

theorem callsWith_continueWith (p : Program β σ α) (f : Except ObjectError α → Program β σ γ)
    (w : World β σ) :
    (p.continueWith f).callsWith callee w = p.callsWith callee w ++
      match p.runWith callee w with
      | some (result, w') => (f result).callsWith callee w'
      | none => [] := by
  induction p generalizing w with
  | done result => rfl
  | ask q next ih =>
    obtain ⟨realm, state⟩ := w
    simp only [continueWith, callsWith, runWith, List.append_assoc]
    congr 1
    obtain ⟨reply, realm'⟩ := realm.perform q
    cases reply with
    | done result => exact ih _ _
    | call body this args finish =>
      dsimp only
      cases callee body this args ⟨realm', state⟩ with
      | none => rfl
      | some ended => exact ih _ _
    | exhausted => rfl
  | look next ih => exact ih _ _
  | host change next ih => exact ih _ _

end With

variable (bodies : β → Value → List Value → Program β σ Value) (depth : Nat)

theorem calls_andThen (p : Program β σ α) (f : α → Program β σ γ) (w : World β σ) :
    (p.andThen f).calls bodies depth w = p.calls bodies depth w ++
      match p.run bodies depth w with
      | some (.ok a, w') => (f a).calls bodies depth w'
      | _ => [] := by
  rw [andThen_eq_continueWith, calls, callsWith_continueWith]
  congr 1
  show (match p.run bodies depth w with | some (result, w') => _ | none => []) = _
  cases p.run bodies depth w with
  | none => rfl
  | some ended =>
    obtain ⟨result, w'⟩ := ended
    cases result <;> rfl

theorem calls_andThen_done (p : Program β σ α) (f : α → γ) (w : World β σ) :
    (p.andThen fun a => done (.ok (f a))).calls bodies depth w = p.calls bodies depth w := by
  rw [calls_andThen]
  split <;> exact List.append_nil _

theorem calls_request (q : Request β) (w : World β σ) :
    (request q).calls bodies depth w = (q.invocation? w).toList := by
  rw [calls, request, callsWith]
  split
  · exact List.append_nil _
  · split <;> exact List.append_nil _
  · exact List.append_nil _

end Program

end ObjectModel
