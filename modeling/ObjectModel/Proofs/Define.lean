import ObjectModel.Object
import ObjectModel.Proofs.OrderedMap

/-!
# What a definition does to a table

`PropertyTable.define` is opened once here.  A literal with a faulty shape is rejected for it
(`define_of_shape_error`), a new key depends on extensibility alone (`define_absent`), and a key
that is there depends on `PropertyDescriptor.verdict` alone (`define_refused`, `define_admitted`).
`define_inv` reads the same equations backwards.

The lemma behind every permanence result is `merge_of_fixed`: a literal that a non-configurable
property admits either holds of it already, or changes the value or `writable` of a writable data
property.
-/

namespace ObjectModel

theorem Value.sameValue_refl (v : Value) : v.sameValue v = true := by
  cases v with
  | number x => exact (Double.sameValue_iff x x).2 (.inr rfl)
  | undefined | null | bool _ | string _ | object _ => simp [sameValue]

theorem Value.sameValue_comm (v w : Value) : v.sameValue w = w.sameValue v := by
  cases v with
  | number x =>
    cases w with
    | number y =>
      rw [Bool.eq_iff_iff]
      exact ((Double.sameValue_iff x y).trans (or_congr and_comm eq_comm)).trans
        (Double.sameValue_iff y x).symm
    | undefined | null | bool _ | string _ | object _ => rfl
  | undefined | null | bool _ | string _ | object _ => cases w <;> simp [sameValue, Bool.beq_comm]

theorem PropertyDescriptor.sameAs_refl (p : PropertyDescriptor) : p.sameAs p = true := by
  cases p <;> simp [sameAs, Value.sameValue_refl]

theorem PropertyDescriptor.sameAs_comm (p q : PropertyDescriptor) : p.sameAs q = q.sameAs p := by
  cases p <;> cases q <;> simp only [sameAs, Value.sameValue_comm, Bool.beq_comm]

/-! ## The shape of a literal -/

namespace DescriptorFields

theorem hasDataFields_eq_false_iff (d : DescriptorFields) :
    d.hasDataFields = false ↔ d.value = none ∧ d.writable = none := by
  simp [hasDataFields]

theorem hasAccessorFields_eq_false_iff (d : DescriptorFields) :
    d.hasAccessorFields = false ↔ d.get = none ∧ d.set = none := by
  simp [hasAccessorFields]

theorem classify_inv {d : DescriptorFields} {kind : DescriptorKind}
    (shape : d.classify = .ok kind) :
    d.hasDataFields = decide (kind = .data) ∧
      d.hasAccessorFields = decide (kind = .accessor) := by
  unfold classify at shape
  split at shape
  · next accessor =>
    split at shape
    · cases shape
    · next noValue =>
      split at shape
      · cases shape
      · next noWritable =>
        cases shape
        simp_all [hasDataFields]
  · next noAccessor =>
    split at shape <;> cases shape <;> simp_all

theorem classify_ofDescriptor (p : PropertyDescriptor) :
    (ofDescriptor p).classify = .ok p.kind := by
  cases p <;> rfl

theorem toNewDescriptor_ofDescriptor (p : PropertyDescriptor) :
    (ofDescriptor p).toNewDescriptor p.kind = p := by
  cases p <;> rfl

end DescriptorFields

/-! ## Properties that are there -/

namespace PropertyDescriptor

/-- Is a literal of the given kind accepted for a property that is there? -/
def verdict (current : PropertyDescriptor) (d : DescriptorFields) (kind : DescriptorKind)
    (key : PropertyKey) : Except DefineError Unit :=
  if current.isConfigurable then .ok () else current.checkFixed d kind key

/-- A complete literal leaves nothing of the property that was there, whatever its kind. -/
theorem merge_ofDescriptor (current p : PropertyDescriptor) :
    current.merge (.ofDescriptor p) p.kind = p := by
  cases current <;> cases p <;> rfl

section Fixed

variable {current : PropertyDescriptor} {d : DescriptorFields} {kind : DescriptorKind}
  {key : PropertyKey}

theorem verdict_of_free (free : current.isConfigurable = true) :
    current.verdict d kind key = .ok () := by
  rw [verdict, if_pos free]

theorem verdict_of_fixed (fixed : current.isConfigurable = false) :
    current.verdict d kind key = current.checkFixed d kind key := by
  rw [verdict, fixed, if_neg Bool.false_ne_true]

theorem keepsFlags_of_checkFixed (admitted : current.checkFixed d kind key = .ok ()) :
    current.keepsFlags d = true := by
  unfold checkFixed at admitted
  split at admitted
  · cases admitted
  · simp_all

theorem flags_of_keepsFlags (fixed : current.isConfigurable = false)
    (keeps : current.keepsFlags d = true) :
    d.enumerable.getD current.isEnumerable = current.isEnumerable ∧
      d.configurable.getD current.isConfigurable = false := by
  simp only [keepsFlags, Bool.and_eq_true, bne_iff_ne, ne_eq] at keeps
  constructor
  · cases specified : d.enumerable <;> simp_all
  · cases specified : d.configurable <;> simp_all

/-- A non-writable data property admits its own value and no other. -/
theorem fields_of_checkFixed_data {value : Value} {e : Bool}
    (admitted : (data value false e false).checkFixed d .data key = .ok ()) :
    (d.value.getD value).sameValue value = true ∧ d.writable.getD false = false := by
  have keeps := keepsFlags_of_checkFixed admitted
  simp only [checkFixed, keeps, Bool.not_true, Bool.false_eq_true, if_false,
    Bool.false_or] at admitted
  split at admitted
  · next accepted =>
    simp only [Bool.and_eq_true, bne_iff_ne, ne_eq] at accepted
    constructor
    · cases specified : d.value <;> simp_all [Value.sameValue_refl]
    · cases specified : d.writable <;> simp_all
  · cases admitted

/-- An accessor property admits its own functions and no others. -/
theorem fields_of_checkFixed_accessor {get set : Option ObjectHandle} {e : Bool}
    (admitted : (accessor get set e false).checkFixed d .accessor key = .ok ()) :
    d.get.getD get = get ∧ d.set.getD set = set := by
  have keeps := keepsFlags_of_checkFixed admitted
  simp only [checkFixed, keeps, Bool.not_true, Bool.false_eq_true, if_false] at admitted
  split at admitted
  · next accepted =>
    simp only [Bool.and_eq_true] at accepted
    constructor
    · cases specified : d.get <;> simp_all
    · cases specified : d.set <;> simp_all
  · cases admitted

/-- What a non-configurable property becomes: the same again, unless it is a writable data
property. -/
theorem merge_of_fixed (shape : d.classify = .ok kind) (fixed : current.isConfigurable = false)
    (admitted : current.checkFixed d kind key = .ok ()) :
    (current.merge d kind).sameAs current = true ∨
      ∃ value enumerable value' writable', current = .data value true enumerable false ∧
        current.merge d kind = .data value' writable' enumerable false := by
  have keeps := keepsFlags_of_checkFixed admitted
  obtain ⟨enumerable, configurable⟩ := flags_of_keepsFlags fixed keeps
  obtain ⟨dataFields, accessorFields⟩ := DescriptorFields.classify_inv shape
  cases current with
  | data value writable e c =>
    cases fixed
    simp only [isEnumerable, isConfigurable] at enumerable configurable
    -- a literal of the other kind is refused, and a generic one has only flags to give
    cases kind with
    | accessor => simp [checkFixed, keeps] at admitted
    | generic =>
      obtain ⟨noValue, noWritable⟩ := (DescriptorFields.hasDataFields_eq_false_iff d).1 dataFields
      left
      simp [merge, sameAs, isEnumerable, isConfigurable, enumerable, configurable, noValue,
        noWritable, Value.sameValue_refl]
    | data =>
      cases writable with
      | true =>
        right
        refine ⟨value, e, d.value.getD value, d.writable.getD true, rfl, ?_⟩
        simp [merge, isEnumerable, isConfigurable, enumerable, configurable]
      | false =>
        obtain ⟨sameValue, notWritable⟩ := fields_of_checkFixed_data admitted
        left
        simp [merge, sameAs, isEnumerable, isConfigurable, enumerable, configurable, sameValue,
          notWritable]
  | accessor get set e c =>
    cases fixed
    simp only [isEnumerable, isConfigurable] at enumerable configurable
    left
    cases kind with
    | data => simp [checkFixed, keeps] at admitted
    | generic =>
      obtain ⟨noGet, noSet⟩ := (DescriptorFields.hasAccessorFields_eq_false_iff d).1 accessorFields
      simp [merge, sameAs, isEnumerable, isConfigurable, enumerable, configurable, noGet, noSet]
    | accessor =>
      obtain ⟨sameGet, sameSet⟩ := fields_of_checkFixed_accessor admitted
      simp [merge, sameAs, isEnumerable, isConfigurable, enumerable, configurable, sameGet,
        sameSet]

end Fixed

end PropertyDescriptor

/-! ## Tables -/

namespace PropertyTable

variable {t t' : PropertyTable} {extensible : Bool} {key : PropertyKey} {d : DescriptorFields}
  {kind : DescriptorKind} {current : PropertyDescriptor} {outcome : DefineOutcome} {e : DefineError}

theorem define_of_shape_error (faulty : d.classify = .error e) :
    t.define extensible key d = .error e := by
  rw [define, faulty]
  rfl

theorem define_absent (shape : d.classify = .ok kind) (absent : t.get? key = none)
    (extensible : Bool) :
    t.define extensible key d =
      if extensible then .ok (.created, t.insert key (d.toNewDescriptor kind))
      else .error (.notExtensible key) := by
  rw [define, shape]
  simp only [bind, Except.bind, absent]
  rfl

theorem define_ofDescriptor_absent (absent : t.get? key = none) (p : PropertyDescriptor) :
    t.define true key (.ofDescriptor p) = .ok (.created, t.insert key p) := by
  rw [define_absent (DescriptorFields.classify_ofDescriptor p) absent,
    DescriptorFields.toNewDescriptor_ofDescriptor, if_pos rfl]

theorem define_refused (shape : d.classify = .ok kind) (present : t.get? key = some current)
    (refused : current.verdict d kind key = .error e) : t.define extensible key d = .error e := by
  unfold PropertyDescriptor.verdict at refused
  split at refused
  · cases refused
  · next fixed =>
    rw [define, shape]
    simp [bind, Except.bind, present, fixed, refused]

theorem define_admitted (shape : d.classify = .ok kind) (present : t.get? key = some current)
    (admitted : current.verdict d kind key = .ok ()) (extensible : Bool) :
    t.define extensible key d =
      if (current.merge d kind).sameAs current then .ok (.unchanged, t)
      else .ok (.updated, t.insert key (current.merge d kind)) := by
  unfold PropertyDescriptor.verdict at admitted
  split at admitted
  · next free =>
    rw [define, shape]
    simp [bind, Except.bind, present, free]
    rfl
  · next fixed =>
    rw [define, shape]
    simp [bind, Except.bind, present, fixed, admitted]
    rfl

/-- How an accepted definition changes a table. -/
inductive Defined (t : PropertyTable) (extensible : Bool) (key : PropertyKey)
    (d : DescriptorFields) (kind : DescriptorKind) : DefineOutcome → PropertyTable → Prop where
  | created (absent : t.get? key = none) (free : extensible = true) :
      Defined t extensible key d kind .created (t.insert key (d.toNewDescriptor kind))
  | unchanged {current : PropertyDescriptor} (present : t.get? key = some current)
      (admitted : current.verdict d kind key = .ok ())
      (same : (current.merge d kind).sameAs current = true) :
      Defined t extensible key d kind .unchanged t
  | updated {current : PropertyDescriptor} (present : t.get? key = some current)
      (admitted : current.verdict d kind key = .ok ())
      (differs : (current.merge d kind).sameAs current = false) :
      Defined t extensible key d kind .updated (t.insert key (current.merge d kind))

theorem define_inv (accepted : t.define extensible key d = .ok (outcome, t')) :
    ∃ kind, d.classify = .ok kind ∧ t.Defined extensible key d kind outcome t' := by
  cases shape : d.classify with
  | error e => rw [define_of_shape_error shape] at accepted; cases accepted
  | ok kind =>
    refine ⟨kind, rfl, ?_⟩
    cases found : t.get? key with
    | none =>
      rw [define_absent shape found] at accepted
      split at accepted
      · next free => cases accepted; exact .created found free
      · cases accepted
    | some current =>
      cases admitted : current.verdict d kind key with
      | error e => rw [define_refused shape found admitted] at accepted; cases accepted
      | ok _ =>
        rw [define_admitted shape found admitted] at accepted
        split at accepted
        · next same => cases accepted; exact .unchanged found admitted same
        · next differs =>
          cases accepted
          exact .updated found admitted (by simpa using differs)

end PropertyTable

end ObjectModel
