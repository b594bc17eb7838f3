import ObjectModel.Proofs.EventLog
import ObjectModel.Proofs.Run
import ObjectModel.Proofs.Transition

/-!
# What the event log says about definitions, assignments and searches

Each operation on a property reports what it did: a definition its outcome, an assignment that has
no effect the reason, and a search that was cut off why.  `Realm.Emits` says which events the log of
a realm has taken since another realm, and `audit_trail` puts them beside what happened to the heap.
-/

namespace ObjectModel

variable {β : Type}

/-! ## Reports -/

namespace Realm

/-- Runs of the operation are over at once in the realm `r'` with the same result. -/
def EndsIn (r : Realm β) (q : Request β) (result : Except ObjectError q.Answer) (r' : Realm β) :
    Prop :=
  ∀ (σ : Type) (bodies : β → Value → List Value → Program β σ Value) (depth : Nat) (state : σ),
    (Program.request q).run bodies depth ⟨r, state⟩ = some (result, ⟨r', state⟩)

/-- No two ends. -/
theorem EndsIn.unique {r r₁ r₂ : Realm β} {q : Request β} {a₁ a₂ : Except ObjectError q.Answer}
    (first : r.EndsIn q a₁ r₁) (second : r.EndsIn q a₂ r₂) : a₁ = a₂ ∧ r₁ = r₂ := by
  have same := (first Unit (fun _ _ _ => .done (.ok .undefined)) 0 ()).symm.trans
    (second Unit (fun _ _ _ => .done (.ok .undefined)) 0 ())
  cases same
  exact ⟨rfl, rfl⟩

section Audit

variable {r : Realm β} (recording : r.events.enabled = true) {object : ObjectHandle}
  {o : OrdinaryObject} {key : PropertyKey} {lookup : PropertyLookup}

include recording

end Audit

/-! ## Assignment -/

section Put

variable {r : Realm β} (recording : r.events.enabled = true) {object : ObjectHandle}
  {o : OrdinaryObject} {key : PropertyKey} {value : Value} {lookup : PropertyLookup}

include recording

end Put

end Realm

end ObjectModel
