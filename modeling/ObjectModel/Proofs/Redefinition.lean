import ObjectModel.Proofs.Reconciliation

/-!
# Literals that hold already

The literal of an accepted definition holds of the property afterwards (`holdsOf_of_define`), and a
literal that holds of a property is accepted, whatever the property's flags are, and changes nothing
(`define_of_holdsOf`).  That an accepted definition may be repeated
(`accepted_definition_holds_and_repeats`) is the two of them in a row.

`DescriptorFields.holdsOf` compares whole literals.  `Describes` says field by field what it
decides.
-/

namespace ObjectModel

open Reference

namespace DescriptorFields

/-! ## Field by field -/

/-- Every field that the literal specifies is a field of the property, with the same value. -/
structure Describes (d : DescriptorFields) (p : PropertyDescriptor) : Prop where
  value : ∀ v, d.value = some v → ∃ w, p.value? = some w ∧ v.sameValue w = true
  writable : ∀ b, d.writable = some b → p.isData = true ∧ p.isWritable = b
  get : ∀ g, d.get = some g → p.isAccessor = true ∧ p.getter? = g
  set : ∀ s, d.set = some s → p.isAccessor = true ∧ p.setter? = s
  enumerable : ∀ b, d.enumerable = some b → p.isEnumerable = b
  configurable : ∀ b, d.configurable = some b → p.isConfigurable = b

theorem isAccessorLiteral_eq_false_iff (d : DescriptorFields) :
    isAccessorLiteral d = false ↔ d.get = none ∧ d.set = none :=
  d.hasAccessorFields_eq_false_iff

theorem isDataLiteral_eq_false_iff (d : DescriptorFields) :
    isDataLiteral d = false ↔ d.value = none ∧ d.writable = none :=
  d.hasDataFields_eq_false_iff

theorem describes_of_holdsOf {d : DescriptorFields} {p : PropertyDescriptor}
    (holds : d.holdsOf p = true) : d.Describes p := by
  cases p with
  | data value writable enumerable configurable =>
    simp only [holdsOf_data, Bool.and_eq_true, Bool.not_eq_true', Option.all_eq_true,
      beq_iff_eq] at holds
    obtain ⟨⟨⟨⟨sameValue, sameWritable⟩, noFunctions⟩, sameEnumerable⟩, sameConfigurable⟩ := holds
    -- a field of the other kind would have to be there, and is not specified at all
    obtain ⟨noGet, noSet⟩ := d.isAccessorLiteral_eq_false_iff.1 noFunctions
    exact
      { value := fun v specified => ⟨value, rfl, sameValue v specified⟩
        writable := fun b specified => ⟨rfl, (sameWritable b specified).symm⟩
        get := fun g specified => nomatch noGet.symm.trans specified
        set := fun s specified => nomatch noSet.symm.trans specified
        enumerable := fun b specified => (sameEnumerable b specified).symm
        configurable := fun b specified => (sameConfigurable b specified).symm }
  | accessor get set enumerable configurable =>
    simp only [holdsOf_accessor, Bool.and_eq_true, Bool.not_eq_true', Option.all_eq_true,
      beq_iff_eq] at holds
    obtain ⟨⟨⟨⟨noData, sameGet⟩, sameSet⟩, sameEnumerable⟩, sameConfigurable⟩ := holds
    obtain ⟨noValue, noWritable⟩ := d.isDataLiteral_eq_false_iff.1 noData
    exact
      { value := fun v specified => nomatch noValue.symm.trans specified
        writable := fun b specified => nomatch noWritable.symm.trans specified
        get := fun g specified => ⟨rfl, (sameGet g specified).symm⟩
        set := fun s specified => ⟨rfl, (sameSet s specified).symm⟩
        enumerable := fun b specified => (sameEnumerable b specified).symm
        configurable := fun b specified => (sameConfigurable b specified).symm }

/-! ## What a definition stores -/

/-- The literal has no fields of the other kind of property. -/
def Fits (d : DescriptorFields) : PropertyDescriptor → Prop
  | .data .. => isAccessorLiteral d = false
  | .accessor .. => isDataLiteral d = false

theorem all_getD {α : Type} [BEq α] [ReflBEq α] (o : Option α) (a : α) :
    o.all (· == o.getD a) = true := by
  cases o <;> simp

theorem all_sameValue_getD (o : Option Value) (v : Value) :
    o.all (·.sameValue (o.getD v)) = true := by
  cases o <;> simp [Value.sameValue_refl]

theorem Fits.holdsOf_writeFields {d : DescriptorFields} {p : PropertyDescriptor}
    (fits : d.Fits p) : d.holdsOf (writeFields p d) = true := by
  cases p with
  | data =>
    have noFunctions : isAccessorLiteral d = false := fits
    simp only [writeFields, holdsOf_data, all_sameValue_getD, all_getD, noFunctions, Bool.not_false,
      Bool.and_self]
  | accessor =>
    have noData : isDataLiteral d = false := fits
    simp only [writeFields, holdsOf_accessor, all_getD, noData, Bool.not_false, Bool.and_self]

section Shaped

variable {d : DescriptorFields} {kind : DescriptorKind}

theorem isDataLiteral_of_isAccessorLiteral (shape : d.classify = .ok kind)
    (accessor : isAccessorLiteral d = true) : isDataLiteral d = false := by
  rw [isAccessorLiteral_of_classify shape, decide_eq_true_eq] at accessor
  rw [isDataLiteral_of_classify shape, accessor]
  rfl

theorem fits_convert (shape : d.classify = .ok kind) (current : PropertyDescriptor) :
    d.Fits (convert current d) := by
  cases current with
  | data =>
    cases accessor : isAccessorLiteral d with
    | true =>
      rw [convert, if_pos accessor]
      exact isDataLiteral_of_isAccessorLiteral shape accessor
    | false =>
      rw [convert, if_neg (by simp [accessor])]
      exact accessor
  | accessor =>
    cases data : isDataLiteral d with
    | true =>
      rw [convert, if_pos data]
      -- a literal with fields of both kinds has no shape
      cases accessor : isAccessorLiteral d with
      | true => exact absurd data (by simp [isDataLiteral_of_isAccessorLiteral shape accessor])
      | false => exact accessor
    | false =>
      rw [convert, if_neg (by simp [data])]
      exact data

theorem fits_default (shape : d.classify = .ok kind) :
    d.Fits (if isAccessorLiteral d then .defaultAccessor else .defaultData) := by
  split
  · next accessor => exact isDataLiteral_of_isAccessorLiteral shape accessor
  · next data => exact Bool.eq_false_iff.2 data

theorem holdsOf_merge (shape : d.classify = .ok kind) (current : PropertyDescriptor) :
    d.holdsOf (current.merge d kind) = true := by
  rw [merge_eq_writeFields shape]
  exact (fits_convert shape current).holdsOf_writeFields

theorem holdsOf_toNewDescriptor (shape : d.classify = .ok kind) :
    d.holdsOf (d.toNewDescriptor kind) = true := by
  rw [toNewDescriptor_eq_writeFields shape]
  exact (fits_default shape).holdsOf_writeFields

end Shaped

theorem holdsOf_ofDescriptor (p : PropertyDescriptor) : (ofDescriptor p).holdsOf p = true := by
  cases p with
  | data => simp [holdsOf_data, ofDescriptor, isAccessorLiteral, Value.sameValue_refl]
  | accessor => simp [holdsOf_accessor, ofDescriptor, isDataLiteral]

end DescriptorFields

namespace PropertyTable

variable {t t' : PropertyTable} {extensible : Bool} {key : PropertyKey} {d : DescriptorFields}
  {kind : DescriptorKind} {current : PropertyDescriptor} {outcome : DefineOutcome}

/-- What an accepted definition leaves under its key. -/
theorem holdsOf_of_define (accepted : t.define extensible key d = .ok (outcome, t')) :
    ∃ kind p, d.classify = .ok kind ∧ t'.get? key = some p ∧ d.holdsOf p = true := by
  obtain ⟨kind, shape, changed⟩ := define_inv accepted
  cases changed with
  | created absent free =>
    exact ⟨kind, _, shape, OrderedMap.get?_insert_self ..,
      DescriptorFields.holdsOf_toNewDescriptor shape⟩
  | unchanged present admitted same =>
    rw [sameAs_merge_eq_holdsOf shape] at same
    exact ⟨kind, _, shape, present, same⟩
  | updated present admitted differs =>
    exact ⟨kind, _, shape, OrderedMap.get?_insert_self .., DescriptorFields.holdsOf_merge shape _⟩

/-- A literal that holds is accepted even if nothing about the property may change any more. -/
theorem define_of_holdsOf (shape : d.classify = .ok kind) (present : t.get? key = some current)
    (holds : d.holdsOf current = true) (extensible : Bool) :
    t.define extensible key d = .ok (.unchanged, t) := by
  have admitted : current.verdict d kind key = .ok () := by
    rw [verdict_eq_validate shape]
    split
    · rfl
    · next fixed =>
      rw [validate_of_holdsOf (Bool.eq_false_iff.2 fixed) holds]
      rfl
  rw [define_admitted shape present admitted, sameAs_merge_eq_holdsOf shape, if_pos holds]

/-- An accepted definition achieves what it asked for: its literal holds of the property
afterwards, and so the same definition is accepted again and changes nothing.  The literal of the
current property is a definition that asks for nothing new. -/
theorem accepted_definition_holds_and_repeats (t : PropertyTable) (extensible : Bool)
    (key : PropertyKey) (d : DescriptorFields) :
    (∀ outcome t', t.define extensible key d = .ok (outcome, t') →
      (∃ p, t'.get? key = some p ∧ d.holdsOf p = true ∧ d.Describes p) ∧
        ∀ extensible', t'.define extensible' key d = .ok (.unchanged, t')) ∧
    ∀ current, t.get? key = some current →
      ∀ extensible', t.define extensible' key (.ofDescriptor current) = .ok (.unchanged, t) := by
  constructor
  · intro outcome t' accepted
    obtain ⟨kind, p, shape, stored, holds⟩ := holdsOf_of_define accepted
    exact ⟨⟨p, stored, holds, DescriptorFields.describes_of_holdsOf holds⟩,
      define_of_holdsOf shape stored holds⟩
  · intro current present
    exact define_of_holdsOf (DescriptorFields.classify_ofDescriptor current) present
      (DescriptorFields.holdsOf_ofDescriptor current)

/-- An accessor becomes a constant that is not a number.  The constant may not change any more, yet
it may be defined again. -/
theorem constant_in_place_of_accessor :
    let t : PropertyTable := .ofList [(⟨"x"⟩, .accessor (some ⟨7⟩) none true true)]
    let d : DescriptorFields := .ofDescriptor (.constant (.number .nan))
    ∃ t', t.define true ⟨"x"⟩ d = .ok (.updated, t') ∧
      (∃ p, t'.get? ⟨"x"⟩ = some p ∧ d.holdsOf p = true ∧ d.Describes p) ∧
      t'.define false ⟨"x"⟩ d = .ok (.unchanged, t') ∧
      t.define false ⟨"x"⟩ (.ofDescriptor (.accessor (some ⟨7⟩) none true true)) =
        .ok (.unchanged, t) := by
  intro t d
  obtain ⟨repeats, current⟩ := accepted_definition_holds_and_repeats t true ⟨"x"⟩ d
  have accepted : t.define true ⟨"x"⟩ d =
      .ok (.updated, .ofList [(⟨"x"⟩, .constant (.number .nan))]) := rfl
  obtain ⟨holds, again⟩ := repeats _ _ accepted
  exact ⟨_, accepted, holds, again false, current _ rfl false⟩

end PropertyTable

end ObjectModel
