import ObjectModel.Program
import ObjectModel.Proofs.Object

/-!
# References

The handles that an object refers to: its prototype, the objects that its properties hold, and its
getters and setters.  No operation on one object makes up a reference: whatever the object refers to
afterwards it referred to before, or the operation was given (`refersTo_setOwn`,
`refersTo_define`, `refersTo_erase`).
-/

namespace ObjectModel

/-! ## What refers to a handle -/

/-- The property holds the object, or calls it. -/
def PropertyDescriptor.refersTo (p : PropertyDescriptor) (h : ObjectHandle) : Prop :=
  p.value? = some (.object h) ∨ p.getter? = some h ∨ p.setter? = some h

/-- The literal names the object as its value, its getter or its setter. -/
def DescriptorFields.refersTo (d : DescriptorFields) (h : ObjectHandle) : Prop :=
  d.value = some (.object h) ∨ d.get = some (some h) ∨ d.set = some (some h)

def OrdinaryObject.refersTo (o : OrdinaryObject) (h : ObjectHandle) : Prop :=
  o.prototype = some h ∨ ∃ key p, o.getOwn? key = some p ∧ p.refersTo h

/-- The handles that an operation may store in an object. -/
def Request.stores {β : Type} : Request β → ObjectHandle → Prop
  | createObject prototype, h | allocate prototype _, h | setPrototype _ prototype, h =>
    prototype = some h
  | put _ _ value _, h => value = .object h
  | define _ _ fields, h => fields.refersTo h
  | _, _ => False

/-! ## Properties -/

namespace PropertyDescriptor

theorem refersTo_data {v : Value} {w e c : Bool} {h : ObjectHandle} :
    (data v w e c).refersTo h ↔ v = .object h := by
  simp [refersTo, value?, getter?, setter?]

theorem refersTo_accessor {get set : Option ObjectHandle} {e c : Bool} {h : ObjectHandle} :
    (accessor get set e c).refersTo h ↔ get = some h ∨ set = some h := by
  simp [refersTo, value?, getter?, setter?]

theorem refersTo_sealed (p : PropertyDescriptor) (h : ObjectHandle) :
    p.sealed.refersTo h ↔ p.refersTo h := by
  cases p <;> rfl

theorem refersTo_frozen (p : PropertyDescriptor) (h : ObjectHandle) :
    p.frozen.refersTo h ↔ p.refersTo h := by
  cases p <;> rfl

variable {d : DescriptorFields} {kind : DescriptorKind} {h : ObjectHandle}

theorem refersTo_of_toNewDescriptor (refers : (d.toNewDescriptor kind).refersTo h) :
    d.refersTo h := by
  cases kind with
  | accessor =>
    rw [DescriptorFields.toNewDescriptor, refersTo_accessor, Option.join_eq_some_iff,
      Option.join_eq_some_iff] at refers
    exact .inr refers
  | generic | data =>
    have held : d.value.getD .undefined = .object h := refersTo_data.1 refers
    obtain named | ⟨-, default⟩ := Option.getD_eq_iff.1 held
    · exact .inl named
    · cases default

theorem refersTo_of_merge {current : PropertyDescriptor}
    (refers : (current.merge d kind).refersTo h) : current.refersTo h ∨ d.refersTo h := by
  cases current with
  | data value writable e c =>
    cases kind with
    | accessor =>
      -- the kind changes, so nothing of the old property is left
      simp only [merge, refersTo_accessor, Option.join_eq_some_iff] at refers
      exact .inr (.inr refers)
    | generic | data =>
      simp only [merge, refersTo_data, Option.getD_eq_iff] at refers
      obtain named | ⟨-, kept⟩ := refers
      · exact .inr (.inl named)
      · exact .inl (refersTo_data.2 kept)
  | accessor get set e c =>
    cases kind with
    | data =>
      simp only [merge, refersTo_data, Option.getD_eq_iff] at refers
      obtain named | ⟨-, default⟩ := refers
      · exact .inr (.inl named)
      · cases default
    | generic | accessor =>
      simp only [merge, refersTo_accessor, Option.getD_eq_iff] at refers
      obtain (named | ⟨-, kept⟩) | (named | ⟨-, kept⟩) := refers
      · exact .inr (.inr (.inl named))
      · exact .inl (refersTo_accessor.2 (.inl kept))
      · exact .inr (.inr (.inr named))
      · exact .inl (refersTo_accessor.2 (.inr kept))

end PropertyDescriptor

/-! ## Objects -/

namespace OrdinaryObject

variable {o : OrdinaryObject} {h : ObjectHandle}

theorem refersTo_tagged {prototype : Option ObjectHandle} {classTag : String} :
    (tagged prototype classTag).refersTo h ↔ prototype = some h := by
  constructor
  · rintro (linked | ⟨key, p, owned, -⟩)
    · exact linked
    · cases owned
  · exact .inl

theorem refersTo_setOwn {key : PropertyKey} {p : PropertyDescriptor}
    (refers : (o.setOwn key p).refersTo h) : o.refersTo h ∨ p.refersTo h := by
  obtain linked | ⟨other, q, owned, refers⟩ := refers
  · exact .inl (.inl linked)
  · rw [getOwn?_setOwn] at owned
    split at owned
    · cases owned
      exact .inr refers
    · exact .inl (.inr ⟨other, q, owned, refers⟩)

theorem refersTo_define {o' : OrdinaryObject} {key : PropertyKey} {d : DescriptorFields}
    {outcome : DefineOutcome} (accepted : o.define key d = .ok (outcome, o'))
    (refers : o'.refersTo h) : o.refersTo h ∨ d.refersTo h := by
  obtain ⟨kind, properties, shape, rfl, changed⟩ := define_inv accepted
  cases changed with
  | unchanged => exact .inl refers
  | created absent =>
    have refers : (o.setOwn key (d.toNewDescriptor kind)).refersTo h := refers
    exact (refersTo_setOwn refers).imp_right PropertyDescriptor.refersTo_of_toNewDescriptor
  | @updated current present =>
    have refers : (o.setOwn key (current.merge d kind)).refersTo h := refers
    obtain before | merged := refersTo_setOwn refers
    · exact .inl before
    · exact (PropertyDescriptor.refersTo_of_merge merged).imp_left
        fun kept => .inr ⟨key, current, present, kept⟩

theorem refersTo_erase {key : PropertyKey}
    (refers : ({ o with properties := o.properties.erase key } : OrdinaryObject).refersTo h) :
    o.refersTo h := by
  obtain linked | ⟨other, p, owned, refers⟩ := refers
  · exact .inl linked
  · rw [getOwn?, OrderedMap.get?_erase] at owned
    split at owned
    · cases owned
    · exact .inr ⟨other, p, owned, refers⟩

theorem refersTo_sealed (refers : o.sealed.refersTo h) : o.refersTo h := by
  obtain linked | ⟨key, p, owned, refers⟩ := refers
  · exact .inl linked
  · rw [getOwn?_sealed, Option.map_eq_some_iff] at owned
    obtain ⟨q, owned, rfl⟩ := owned
    exact .inr ⟨key, q, owned, (q.refersTo_sealed h).1 refers⟩

theorem refersTo_frozen (refers : o.frozen.refersTo h) : o.refersTo h := by
  obtain linked | ⟨key, p, owned, refers⟩ := refers
  · exact .inl linked
  · rw [getOwn?_frozen, Option.map_eq_some_iff] at owned
    obtain ⟨q, owned, rfl⟩ := owned
    exact .inr ⟨key, q, owned, (q.refersTo_frozen h).1 refers⟩

end OrdinaryObject

end ObjectModel
