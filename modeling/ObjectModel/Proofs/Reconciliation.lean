import ObjectModel.Proofs.Define

/-!
# Reconciliation against its reference

`Reference.defineOwn` is `[[DefineOwnProperty]]` (ES5 §8.12.9) step by step: the faults of the
literal itself, the early exits, the checks of a non-configurable property, the change of kind and
at last the fields one by one.  It knows neither the kind of a literal nor the merge that
`PropertyTable.define` is made of.

The main statement, `define_agrees_with_reference`, says that the two accept the same literals,
reject the others for the same reason and store the same property.  Its parts compare one stage
each: `classify_eq_checkShape`, `checkFixed_eq_validate`, `merge_eq_writeFields`, and
`sameAs_merge_eq_holdsOf` for the early exit.
-/

namespace ObjectModel

/-- The rejection of a key for a reason; two of the reasons do not name it. -/
def DefineErrorKind.at (key : PropertyKey) : DefineErrorKind → DefineError
  | descriptorMismatch => .descriptorMismatch
  | invalidWritableDescriptor => .invalidWritableDescriptor
  | nonconfigurableRedefined => .nonconfigurableRedefined key
  | nonwritableModified => .nonwritableModified key
  | notExtensible => .notExtensible key

/-! ## The reference -/

namespace Reference

def isAccessorLiteral (d : DescriptorFields) : Bool := d.get.isSome || d.set.isSome

def isDataLiteral (d : DescriptorFields) : Bool := d.value.isSome || d.writable.isSome

/-- The faults that a literal has on its own. -/
def checkShape (d : DescriptorFields) : Except DefineErrorKind Unit :=
  if d.value.isSome && isAccessorLiteral d then .error .descriptorMismatch
  else if d.writable.isSome && isAccessorLiteral d then .error .invalidWritableDescriptor
  else .ok ()

/-- Steps 7, 9, 10 and 11 for a non-configurable property. -/
def validate (current : PropertyDescriptor) (d : DescriptorFields) : Except DefineErrorKind Unit :=
  if d.configurable = some true then .error .nonconfigurableRedefined
  else if d.enumerable = some (!current.isEnumerable) then .error .nonconfigurableRedefined
  else match current with
    | .data value writable _ _ =>
      if isAccessorLiteral d then .error .nonconfigurableRedefined
      else if !writable && d.writable == some true then .error .nonwritableModified
      else if !writable && d.value.any (!·.sameValue value) then .error .nonwritableModified
      else .ok ()
    | .accessor get set _ _ =>
      if isDataLiteral d then .error .nonconfigurableRedefined
      else if d.set.any (· != set) then .error .nonconfigurableRedefined
      else if d.get.any (· != get) then .error .nonconfigurableRedefined
      else .ok ()

/-- Step 9: the property with the kind that the literal asks for.  A change of kind keeps
`enumerable` and `configurable` and gives all other attributes their defaults. -/
def convert (current : PropertyDescriptor) (d : DescriptorFields) : PropertyDescriptor :=
  match current with
  | .data _ _ enumerable configurable =>
    if isAccessorLiteral d then .accessor none none enumerable configurable else current
  | .accessor _ _ enumerable configurable =>
    if isDataLiteral d then .data .undefined false enumerable configurable else current

/-- Step 12: each attribute that the literal specifies takes the value it specifies. -/
def writeFields (p : PropertyDescriptor) (d : DescriptorFields) : PropertyDescriptor :=
  match p with
  | .data value writable enumerable configurable =>
    .data (d.value.getD value) (d.writable.getD writable) (d.enumerable.getD enumerable)
      (d.configurable.getD configurable)
  | .accessor get set enumerable configurable =>
    .accessor (d.get.getD get) (d.set.getD set) (d.enumerable.getD enumerable)
      (d.configurable.getD configurable)

/-- `[[DefineOwnProperty]]`: the property under the key afterwards, or the reason of rejection. -/
def defineOwn (current : Option PropertyDescriptor) (extensible : Bool) (d : DescriptorFields) :
    Except DefineErrorKind PropertyDescriptor := do
  checkShape d
  match current with
  | none =>
    -- steps 3 and 4
    if !extensible then throw .notExtensible
    else return writeFields (if isAccessorLiteral d then .defaultAccessor else .defaultData) d
  | some c =>
    -- steps 5 and 6; a literal without fields holds of every property
    if d.holdsOf c then return c
    else
      if !c.isConfigurable then validate c d
      return writeFields (convert c d) d

end Reference

/-! ## Stage by stage -/

open Reference

theorem classify_eq_checkShape (d : DescriptorFields) (key : PropertyKey) :
    (∃ kind, d.classify = .ok kind ∧ checkShape d = .ok ()) ∨
      ∃ fault, d.classify = .error (fault.at key) ∧ checkShape d = .error fault := by
  unfold DescriptorFields.classify checkShape
  have accessorFields : d.hasAccessorFields = isAccessorLiteral d := rfl
  rw [accessorFields]
  cases isAccessorLiteral d with
  | false => left; cases d.hasDataFields <;> simp
  | true =>
    cases d.value.isSome with
    | true => exact .inr ⟨.descriptorMismatch, rfl, rfl⟩
    | false =>
      cases d.writable.isSome with
      | true => exact .inr ⟨.invalidWritableDescriptor, rfl, rfl⟩
      | false => exact .inl ⟨.accessor, rfl, rfl⟩

section Present

variable {d : DescriptorFields} {kind : DescriptorKind}

theorem isDataLiteral_of_classify (shape : d.classify = .ok kind) :
    isDataLiteral d = decide (kind = .data) :=
  (DescriptorFields.classify_inv shape).1

theorem isAccessorLiteral_of_classify (shape : d.classify = .ok kind) :
    isAccessorLiteral d = decide (kind = .accessor) :=
  (DescriptorFields.classify_inv shape).2

/-! ### The merge -/

theorem join_eq_getD_none {α : Type} (o : Option (Option α)) : o.join = o.getD none := by
  cases o <;> rfl

theorem merge_eq_writeFields (shape : d.classify = .ok kind) (current : PropertyDescriptor) :
    current.merge d kind = writeFields (convert current d) d := by
  have data := isDataLiteral_of_classify shape
  have accessor := isAccessorLiteral_of_classify shape
  cases current <;> cases kind <;>
    simp [PropertyDescriptor.merge, convert, writeFields, data, accessor, join_eq_getD_none,
      PropertyDescriptor.isEnumerable, PropertyDescriptor.isConfigurable]

theorem toNewDescriptor_eq_writeFields (shape : d.classify = .ok kind) :
    d.toNewDescriptor kind =
      writeFields (if isAccessorLiteral d then .defaultAccessor else .defaultData) d := by
  rw [isAccessorLiteral_of_classify shape]
  cases kind <;>
    simp [DescriptorFields.toNewDescriptor, writeFields, PropertyDescriptor.defaultAccessor,
      PropertyDescriptor.defaultData, PropertyDescriptor.constant, join_eq_getD_none]

/-! ### The early exit -/

theorem getD_beq_self {α : Type} [BEq α] [ReflBEq α] (o : Option α) (a : α) :
    (o.getD a == a) = o.all (· == a) := by
  cases o <;> simp

theorem getD_sameValue_self (o : Option Value) (v : Value) :
    (o.getD v).sameValue v = o.all (·.sameValue v) := by
  cases o <;> simp [Value.sameValue_refl]

theorem holdsOf_data (d : DescriptorFields) (value : Value)
    (writable enumerable configurable : Bool) :
    d.holdsOf (.data value writable enumerable configurable) =
      (d.value.all (·.sameValue value) && d.writable.all (· == writable) && !isAccessorLiteral d &&
        d.enumerable.all (· == enumerable) && d.configurable.all (· == configurable)) := by
  obtain ⟨v, w, g, s, e, c⟩ := d
  cases v <;> cases w <;> cases g <;> cases s <;> cases e <;> cases c <;>
    simp [DescriptorFields.holdsOf, DescriptorFields.ofDescriptor, isAccessorLiteral]

theorem holdsOf_accessor (d : DescriptorFields) (get set : Option ObjectHandle)
    (enumerable configurable : Bool) :
    d.holdsOf (.accessor get set enumerable configurable) =
      (!isDataLiteral d && d.get.all (· == get) && d.set.all (· == set) &&
        d.enumerable.all (· == enumerable) && d.configurable.all (· == configurable)) := by
  obtain ⟨v, w, g, s, e, c⟩ := d
  rw [Bool.eq_iff_iff]
  cases v <;> cases w <;> cases g <;> cases s <;> cases e <;> cases c <;>
    simp [DescriptorFields.holdsOf, DescriptorFields.ofDescriptor, isDataLiteral]

/-- The merge changes nothing exactly if the literal holds already. -/
theorem sameAs_merge_eq_holdsOf (shape : d.classify = .ok kind) (current : PropertyDescriptor) :
    (current.merge d kind).sameAs current = d.holdsOf current := by
  have data := isDataLiteral_of_classify shape
  have accessor := isAccessorLiteral_of_classify shape
  cases current with
  | data value writable enumerable configurable =>
    rw [holdsOf_data, accessor]
    cases kind <;>
      simp [PropertyDescriptor.merge, PropertyDescriptor.sameAs, PropertyDescriptor.isEnumerable,
        PropertyDescriptor.isConfigurable, getD_beq_self, getD_sameValue_self]
  | accessor get set enumerable configurable =>
    rw [holdsOf_accessor, data]
    cases kind <;>
      simp [PropertyDescriptor.merge, PropertyDescriptor.sameAs, PropertyDescriptor.isEnumerable,
        PropertyDescriptor.isConfigurable, getD_beq_self]

/-! ### The checks of a non-configurable property -/

theorem mapError_ok {ε ε' α : Type} (f : ε → ε') (a : α) : (Except.ok a).mapError f = .ok a := rfl

theorem mapError_error {ε ε' α : Type} (f : ε → ε') (e : ε) :
    (Except.error e : Except ε α).mapError f = .error (f e) := rfl

theorem keepsFlags_iff (current : PropertyDescriptor) (d : DescriptorFields) :
    current.keepsFlags d = true ↔
      d.configurable ≠ some true ∧ d.enumerable ≠ some (!current.isEnumerable) := by
  simp only [PropertyDescriptor.keepsFlags, Bool.and_eq_true, bne_iff_ne]
  refine and_congr_right fun _ => ?_
  cases d.enumerable with
  | none => simp
  | some e => cases e <;> cases current.isEnumerable <;> simp

theorem validate_of_flags_changed {current : PropertyDescriptor}
    (changes : ¬current.keepsFlags d = true) :
    validate current d = .error .nonconfigurableRedefined := by
  rw [keepsFlags_iff, Decidable.not_and_iff_not_or_not] at changes
  unfold validate
  obtain configurable | enumerable := changes
  · rw [if_pos (Decidable.not_not.1 configurable)]
  · split
    · rfl
    · rw [if_pos (Decidable.not_not.1 enumerable)]

theorem checkFixed_data_eq_validate (shape : d.classify = .ok kind) {value : Value}
    {writable e c : Bool} (keeps : (PropertyDescriptor.data value writable e c).keepsFlags d = true)
    (key : PropertyKey) :
    (PropertyDescriptor.data value writable e c).checkFixed d kind key =
      (validate (.data value writable e c) d).mapError (·.at key) := by
  obtain ⟨configurable, enumerable⟩ := (keepsFlags_iff _ d).1 keeps
  unfold PropertyDescriptor.checkFixed validate
  rw [isAccessorLiteral_of_classify shape]
  simp only [keeps, Bool.not_true, Bool.false_eq_true, if_false, configurable, enumerable]
  cases kind with
  | accessor => rfl
  | generic =>
    obtain ⟨noValue, noWritable⟩ :=
      (DescriptorFields.hasDataFields_eq_false_iff d).1 (DescriptorFields.classify_inv shape).1
    simp [noValue, noWritable, mapError_ok]
  | data =>
    cases writable with
    | true => simp [mapError_ok]
    | false =>
      -- turning `writable` on and changing the value are refused for one reason
      cases d.value with
      | none =>
        by_cases on : d.writable = some true <;>
          simp [on, mapError_ok, mapError_error, DefineErrorKind.at]
      | some v =>
        by_cases on : d.writable = some true <;> cases same : v.sameValue value <;>
          simp [on, same, mapError_ok, mapError_error, DefineErrorKind.at]

theorem checkFixed_accessor_eq_validate (shape : d.classify = .ok kind)
    {get set : Option ObjectHandle} {e c : Bool}
    (keeps : (PropertyDescriptor.accessor get set e c).keepsFlags d = true) (key : PropertyKey) :
    (PropertyDescriptor.accessor get set e c).checkFixed d kind key =
      (validate (.accessor get set e c) d).mapError (·.at key) := by
  obtain ⟨configurable, enumerable⟩ := (keepsFlags_iff _ d).1 keeps
  unfold PropertyDescriptor.checkFixed validate
  rw [isDataLiteral_of_classify shape]
  simp only [keeps, Bool.not_true, Bool.false_eq_true, if_false, configurable, enumerable]
  cases kind with
  | data => rfl
  | generic =>
    obtain ⟨noGet, noSet⟩ :=
      (DescriptorFields.hasAccessorFields_eq_false_iff d).1 (DescriptorFields.classify_inv shape).2
    simp [noGet, noSet, mapError_ok]
  | accessor =>
    dsimp only
    have setters : d.set.any (· != set) = !d.set.all (· == set) := by cases d.set <;> simp [bne]
    have getters : d.get.any (· != get) = !d.get.all (· == get) := by cases d.get <;> simp [bne]
    rw [setters, getters]
    cases d.set.all (· == set) <;> cases d.get.all (· == get) <;>
      simp [mapError_ok, mapError_error, DefineErrorKind.at]

theorem checkFixed_eq_validate (shape : d.classify = .ok kind) (current : PropertyDescriptor)
    (key : PropertyKey) :
    current.checkFixed d kind key = (validate current d).mapError (·.at key) := by
  by_cases keeps : current.keepsFlags d = true
  · cases current with
    | data => exact checkFixed_data_eq_validate shape keeps key
    | accessor => exact checkFixed_accessor_eq_validate shape keeps key
  · rw [validate_of_flags_changed keeps]
    simp [PropertyDescriptor.checkFixed, keeps, mapError_error, DefineErrorKind.at]

theorem verdict_eq_validate (shape : d.classify = .ok kind) (current : PropertyDescriptor)
    (key : PropertyKey) :
    current.verdict d kind key =
      if current.isConfigurable then .ok () else (validate current d).mapError (·.at key) := by
  rw [PropertyDescriptor.verdict, checkFixed_eq_validate shape]

theorem keepsFlags_of_holdsOf {current : PropertyDescriptor}
    (fixed : current.isConfigurable = false) (holds : d.holdsOf current = true) :
    current.keepsFlags d = true := by
  have flags : d.enumerable.all (· == current.isEnumerable) = true ∧
      d.configurable.all (· == false) = true := by
    cases current <;> cases fixed <;>
      simp_all [holdsOf_data, holdsOf_accessor, PropertyDescriptor.isEnumerable]
  obtain ⟨sameEnumerable, sameConfigurable⟩ := flags
  rw [PropertyDescriptor.keepsFlags, sameEnumerable, Bool.and_true]
  cases specified : d.configurable <;> simp_all

/-- The early exit accepts nothing that the checks after it would refuse. -/
theorem validate_of_holdsOf {current : PropertyDescriptor} (fixed : current.isConfigurable = false)
    (holds : d.holdsOf current = true) : validate current d = .ok () := by
  obtain ⟨notOn, notFlipped⟩ := (keepsFlags_iff _ d).1 (keepsFlags_of_holdsOf fixed holds)
  unfold validate
  rw [if_neg notOn, if_neg notFlipped]
  cases current with
  | data value writable enumerable configurable =>
    simp only [holdsOf_data, Bool.and_eq_true, Bool.not_eq_true'] at holds
    obtain ⟨⟨⟨⟨sameValue, sameWritable⟩, noAccessor⟩, -⟩, -⟩ := holds
    have writableKept : (!writable && d.writable == some true) = false := by
      cases specified : d.writable <;> cases writable <;> simp_all
    have valueKept : d.value.any (!·.sameValue value) = false := by
      cases specified : d.value <;> simp_all
    simp [noAccessor, writableKept, valueKept]
  | accessor get set enumerable configurable =>
    simp only [holdsOf_accessor, Bool.and_eq_true, Bool.not_eq_true'] at holds
    obtain ⟨⟨⟨⟨noData, sameGet⟩, sameSet⟩, -⟩, -⟩ := holds
    have getKept : d.get.any (· != get) = false := by cases specified : d.get <;> simp_all
    have setKept : d.set.any (· != set) = false := by cases specified : d.set <;> simp_all
    simp [noData, getKept, setKept]

theorem defineOwn_present (wellShaped : checkShape d = .ok ()) (current : PropertyDescriptor)
    (extensible : Bool) :
    Reference.defineOwn (some current) extensible d =
      if d.holdsOf current then .ok current
      else (if current.isConfigurable then .ok () else validate current d).map
        fun _ => writeFields (convert current d) d := by
  simp only [Reference.defineOwn, wellShaped, bind, Except.bind, pure, Except.pure]
  cases d.holdsOf current with
  | true => rfl
  | false =>
    cases current.isConfigurable with
    | true => rfl
    | false => cases validate current d <;> rfl

end Present

/-! ## Agreement -/

/-- What an admitted literal leaves under the key. -/
theorem get?_define_admitted {t : PropertyTable} {key : PropertyKey} {d : DescriptorFields}
    {kind : DescriptorKind} {current : PropertyDescriptor} (extensible : Bool)
    (shape : d.classify = .ok kind) (present : t.get? key = some current)
    (admitted : current.verdict d kind key = .ok ()) :
    ∃ outcome t', t.define extensible key d = .ok (outcome, t') ∧
      t'.get? key =
        some (if d.holdsOf current then current else writeFields (convert current d) d) := by
  have defined := PropertyTable.define_admitted shape present admitted extensible
  rw [sameAs_merge_eq_holdsOf shape, merge_eq_writeFields shape] at defined
  cases holds : d.holdsOf current with
  | true =>
    rw [holds, if_pos rfl] at defined
    exact ⟨_, _, defined, present⟩
  | false =>
    rw [holds, if_neg Bool.false_ne_true] at defined
    exact ⟨_, _, defined, OrderedMap.get?_insert_self t key _⟩

/-- Defining a property agrees with `[[DefineOwnProperty]]`: it accepts the same literals and then
stores the same property under the key, and it rejects the others for the same reason. -/
theorem define_agrees_with_reference (t : PropertyTable) (extensible : Bool) (key : PropertyKey)
    (d : DescriptorFields) :
    match Reference.defineOwn (t.get? key) extensible d with
    | .ok p =>
      ∃ outcome t', t.define extensible key d = .ok (outcome, t') ∧ t'.get? key = some p
    | .error reason => t.define extensible key d = .error (reason.at key) := by
  obtain ⟨kind, shape, wellShaped⟩ | ⟨fault, shape, faulty⟩ := classify_eq_checkShape d key
  · cases found : t.get? key with
    | none =>
      have created := PropertyTable.define_absent shape found extensible
      unfold Reference.defineOwn
      rw [wellShaped]
      cases extensible with
      | false => exact created
      | true =>
        refine ⟨_, _, created, ?_⟩
        rw [OrderedMap.get?_insert_self, toNewDescriptor_eq_writeFields shape]
    | some current =>
      rw [defineOwn_present wellShaped]
      have verdict := verdict_eq_validate shape current key
      have defined := get?_define_admitted extensible shape found
      cases holds : d.holdsOf current with
      | true =>
        rw [holds, if_pos rfl] at defined
        apply defined
        rw [verdict]
        split
        · rfl
        · next fixed => rw [validate_of_holdsOf (by simpa using fixed) holds]; rfl
      | false =>
        rw [holds, if_neg Bool.false_ne_true] at defined
        cases free : current.isConfigurable with
        | true => exact defined (by rw [verdict, free]; rfl)
        | false =>
          rw [free] at verdict
          cases checked : validate current d with
          | ok _ => exact defined (by rw [verdict, checked]; rfl)
          | error reason =>
            exact PropertyTable.define_refused shape found (by rw [verdict, checked]; rfl)
  · unfold Reference.defineOwn
    rw [faulty]
    exact PropertyTable.define_of_shape_error shape

end ObjectModel
