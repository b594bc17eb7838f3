import ObjectModel.Proofs.Outcomes

/-!
# What a definition can tell apart

`Value.sameValue` and `PropertyDescriptor.sameAs` see of a not-a-number only that it is one.
`observed` keeps just what they see: it puts one not-a-number in the place of them all, in a value,
a property, a literal or a table.  Two of these are the same exactly if they are observed alike
(`Value.sameValue_iff_observed` and the three `sameAs_iff_observed`), so that each sameness is an
equivalence.

A definition looks no further.  Each of its stages commutes with `observed`, and so does the whole
(`define_observed`), which `definition_respects_sameness` reads as a statement about two
definitions side by side.
-/

namespace ObjectModel

section Observed

variable {α : Type} {R : α → α → Prop} {f : α → α}

theorem equivalence_of_observed (seen : ∀ a b, R a b ↔ f a = f b) : Equivalence R where
  refl a := (seen a a).2 rfl
  symm same := (seen _ _).2 ((seen _ _).1 same).symm
  trans same same' := (seen _ _).2 (((seen _ _).1 same).trans ((seen _ _).1 same'))

theorem optionRel_iff_observed (seen : ∀ a b, R a b ↔ f a = f b) (o o' : Option α) :
    Option.Rel R o o' ↔ o.map f = o'.map f := by
  cases o <;> cases o' <;> simp [seen]

/-- What is observed already is told apart no further. -/
theorem same_of_observed {same : α → α → Bool} (seen : ∀ a b, same a b = true ↔ f a = f b)
    (again : ∀ a, f (f a) = f a) (a b : α) : same (f a) (f b) = same a b := by
  rw [Bool.eq_iff_iff, seen, seen, again, again]

end Observed

/-! ## Values -/

namespace Double

/-- The number, with one not-a-number for all of them. -/
def observed (x : Double) : Double := if x.isNaN then nan else x

theorem isNaN_nan : nan.isNaN = true := by decide

theorem observed_of_isNaN {x : Double} (notNumber : x.isNaN = true) : x.observed = nan :=
  if_pos notNumber

theorem observed_of_not_isNaN {x : Double} (number : x.isNaN = false) : x.observed = x :=
  if_neg (by rw [number]; exact Bool.false_ne_true)

theorem isNaN_observed (x : Double) : x.observed.isNaN = x.isNaN := by
  cases notNumber : x.isNaN with
  | true => rw [observed_of_isNaN notNumber, isNaN_nan]
  | false => rw [observed_of_not_isNaN notNumber, notNumber]

theorem observed_observed (x : Double) : x.observed.observed = x.observed := by
  cases notNumber : x.isNaN with
  | true => rw [observed_of_isNaN notNumber, observed_of_isNaN isNaN_nan]
  | false => rw [observed_of_not_isNaN notNumber, observed_of_not_isNaN notNumber]

theorem sameValue_iff_observed (x y : Double) :
    x.sameValue y = true ↔ x.observed = y.observed := by
  rw [sameValue_iff]
  constructor
  · rintro (⟨notNumber, notNumber'⟩ | rfl)
    · rw [observed_of_isNaN notNumber, observed_of_isNaN notNumber']
    · rfl
  · intro alike
    have both : x.isNaN = y.isNaN := by rw [← isNaN_observed x, alike, isNaN_observed]
    cases notNumber : x.isNaN with
    | true => exact .inl ⟨rfl, both ▸ notNumber⟩
    | false =>
      rw [observed_of_not_isNaN notNumber, observed_of_not_isNaN (both ▸ notNumber)] at alike
      exact .inr alike

end Double

namespace Value

/-- What `sameValue` sees of a value. -/
def observed : Value → Value
  | number x => number x.observed
  | v => v

theorem observed_observed (v : Value) : v.observed.observed = v.observed := by
  cases v with
  | number x => exact congrArg number x.observed_observed
  | undefined | null | bool _ | string _ | object _ => rfl

theorem sameValue_iff_observed (v w : Value) :
    v.sameValue w = true ↔ v.observed = w.observed := by
  cases v <;> cases w <;> simp [sameValue, observed, Double.sameValue_iff_observed]

theorem sameValue_observed (v w : Value) : v.observed.sameValue w.observed = v.sameValue w :=
  same_of_observed sameValue_iff_observed observed_observed v w

/-- Apart from not-a-numbers, only equal values are the same. -/
theorem sameValue_iff (v w : Value) :
    v.sameValue w = true ↔
      v = w ∨ ∃ x y, v = number x ∧ w = number y ∧ x.isNaN = true ∧ y.isNaN = true := by
  cases v <;> cases w <;> simp [sameValue, Double.sameValue_iff, or_comm]

end Value

/-! ## Properties, literals and tables -/

namespace PropertyDescriptor

/-- What `sameAs` sees of a property. -/
def observed : PropertyDescriptor → PropertyDescriptor
  | data value writable enumerable configurable =>
    .data value.observed writable enumerable configurable
  | p => p

theorem sameAs_iff_observed (p q : PropertyDescriptor) :
    p.sameAs q = true ↔ p.observed = q.observed := by
  cases p <;> cases q <;>
    simp [sameAs, observed, Value.sameValue_iff_observed, and_assoc]

theorem observed_observed (p : PropertyDescriptor) : p.observed.observed = p.observed := by
  cases p with
  | data => simp only [observed, Value.observed_observed]
  | accessor => rfl

theorem sameAs_observed (p q : PropertyDescriptor) : p.observed.sameAs q.observed = p.sameAs q :=
  same_of_observed sameAs_iff_observed observed_observed p q

end PropertyDescriptor

namespace DescriptorFields

/-- The same fields with the same contents, values compared by `Value.sameValue`. -/
structure SameAs (d d' : DescriptorFields) : Prop where
  value : Option.Rel (fun v w => v.sameValue w = true) d.value d'.value
  others : { d with value := d'.value } = d'

def observed (d : DescriptorFields) : DescriptorFields :=
  { d with value := d.value.map Value.observed }

theorem sameAs_iff_observed (d d' : DescriptorFields) :
    d.SameAs d' ↔ d.observed = d'.observed := by
  obtain ⟨v, w, g, s, e, c⟩ := d
  obtain ⟨v', w', g', s', e', c'⟩ := d'
  have values := optionRel_iff_observed Value.sameValue_iff_observed v v'
  constructor
  · rintro ⟨sameValue, others⟩
    cases others
    exact congrArg (DescriptorFields.mk · w g s e c) (values.1 sameValue)
  · intro alike
    simp only [observed, mk.injEq] at alike
    obtain ⟨sameValue, rfl, rfl, rfl, rfl, rfl⟩ := alike
    exact ⟨values.2 sameValue, rfl⟩

/-- Properties are the same if the literals that specify all of them are. -/
theorem sameAs_ofDescriptor_iff (p q : PropertyDescriptor) :
    (ofDescriptor p).SameAs (ofDescriptor q) ↔ p.sameAs q = true := by
  rw [sameAs_iff_observed, PropertyDescriptor.sameAs_iff_observed]
  cases p <;> cases q <;> simp [ofDescriptor, observed, PropertyDescriptor.observed]

end DescriptorFields

namespace PropertyTable

/-- The same keys in the same order, and under each of them the same property. -/
structure SameAs (t u : PropertyTable) : Prop where
  keys : t.keys = u.keys
  properties : ∀ key, Option.Rel (fun p q => p.sameAs q = true) (t.get? key) (u.get? key)

def observed (t : PropertyTable) : PropertyTable := t.mapValues PropertyDescriptor.observed

theorem get?_observed (t : PropertyTable) (key : PropertyKey) :
    t.observed.get? key = (t.get? key).map PropertyDescriptor.observed :=
  t.get?_mapValues _ key

theorem sameAs_iff_observed (t u : PropertyTable) : t.SameAs u ↔ t.observed = u.observed := by
  have properties (key : PropertyKey) :=
    optionRel_iff_observed PropertyDescriptor.sameAs_iff_observed (t.get? key) (u.get? key)
  constructor
  · intro same
    apply OrderedMap.ext_view
    · rw [observed, observed, OrderedMap.keys_mapValues, OrderedMap.keys_mapValues, same.keys]
    · intro key
      rw [get?_observed, get?_observed]
      exact (properties key).1 (same.properties key)
  · intro alike
    constructor
    · have keys := congrArg OrderedMap.keys alike
      rwa [observed, observed, OrderedMap.keys_mapValues, OrderedMap.keys_mapValues] at keys
    · intro key
      rw [properties, ← get?_observed, ← get?_observed, alike]

end PropertyTable

/-! ## The stages of a definition -/

namespace DescriptorFields

theorem classify_observed (d : DescriptorFields) : d.observed.classify = d.classify := by
  obtain ⟨value, _, _, _, _, _⟩ := d
  cases value <;> rfl

/-- The default value is observed as it is. -/
theorem getD_undefined_observed (o : Option Value) :
    (o.map Value.observed).getD .undefined = (o.getD .undefined).observed :=
  o.getD_map Value.observed .undefined

theorem toNewDescriptor_observed (d : DescriptorFields) (kind : DescriptorKind) :
    d.observed.toNewDescriptor kind = (d.toNewDescriptor kind).observed := by
  cases kind <;>
    simp only [toNewDescriptor, observed, PropertyDescriptor.observed, getD_undefined_observed]

end DescriptorFields

namespace PropertyDescriptor

variable (current : PropertyDescriptor) (d : DescriptorFields) (kind : DescriptorKind)

theorem isConfigurable_observed : current.observed.isConfigurable = current.isConfigurable := by
  cases current <;> rfl

theorem isEnumerable_observed : current.observed.isEnumerable = current.isEnumerable := by
  cases current <;> rfl

/-- A merge hands values on and looks at none of them. -/
theorem merge_observed :
    current.observed.merge d.observed kind = (current.merge d kind).observed := by
  cases current <;> cases kind <;>
    simp only [merge, observed, DescriptorFields.observed, isEnumerable, isConfigurable,
      Option.getD_map, DescriptorFields.getD_undefined_observed]

theorem keepsFlags_observed : current.observed.keepsFlags d.observed = current.keepsFlags d := by
  rw [keepsFlags, keepsFlags, isEnumerable_observed]
  rfl

theorem checkFixed_observed (key : PropertyKey) :
    current.observed.checkFixed d.observed kind key = current.checkFixed d kind key := by
  simp only [checkFixed.eq_def, keepsFlags_observed]
  cases current with
  | accessor => cases kind <;> rfl
  | data =>
    cases kind with
    | generic | accessor => rfl
    | data =>
      -- the only check that compares values
      simp only [observed, DescriptorFields.observed, Option.all_map, Value.sameValue_observed]

theorem verdict_observed (key : PropertyKey) :
    current.observed.verdict d.observed kind key = current.verdict d kind key := by
  rw [verdict, verdict, isConfigurable_observed, checkFixed_observed]

end PropertyDescriptor

/-! ## Definitions side by side -/

namespace PropertyTable

theorem observed_insert (t : PropertyTable) (key : PropertyKey) (p : PropertyDescriptor) :
    observed (t.insert key p) = t.observed.insert key p.observed :=
  t.mapValues_insert _ key p

/-- A definition in what is observed of a table, with what is observed of a literal, is the
definition as it is observed. -/
theorem define_observed (t : PropertyTable) (extensible : Bool) (key : PropertyKey)
    (d : DescriptorFields) :
    t.observed.define extensible key d.observed =
      (t.define extensible key d).map fun result => (result.1, result.2.observed) := by
  cases shape : d.classify with
  | error e =>
    rw [define_of_shape_error shape, define_of_shape_error (d.classify_observed.trans shape)]
    rfl
  | ok kind =>
    -- the literal is of the same kind, and the key is there or not in both tables
    have shape' := d.classify_observed.trans shape
    have found' := t.get?_observed key
    cases found : t.get? key with
    | none =>
      rw [found] at found'
      rw [define_absent shape found, define_absent shape' found', d.toNewDescriptor_observed,
        ← observed_insert]
      cases extensible <;> rfl
    | some current =>
      rw [found] at found'
      have verdict' := current.verdict_observed d kind key
      cases verdict : current.verdict d kind key with
      | error e =>
        rw [define_refused shape found verdict,
          define_refused shape' found' (verdict'.trans verdict)]
        rfl
      | ok =>
        rw [define_admitted shape found verdict,
          define_admitted shape' found' (verdict'.trans verdict), current.merge_observed,
          PropertyDescriptor.sameAs_observed, ← observed_insert]
        split <;> rfl

theorem runOn_observed (t : PropertyTable) (extensible : Bool) (key : PropertyKey)
    (d : DescriptorFields) :
    (defineInPlace extensible key d.observed).runOn t.observed =
      (((defineInPlace extensible key d).runOn t).1,
        ((defineInPlace extensible key d).runOn t).2.observed) := by
  rw [runOn_defineInPlace, runOn_defineInPlace, define_observed]
  cases t.define extensible key d <;> rfl

theorem define_eq_runOn (t : PropertyTable) (extensible : Bool) (key : PropertyKey)
    (d : DescriptorFields) :
    t.define extensible key d =
      ((defineInPlace extensible key d).runOn t).1.map
        (·, ((defineInPlace extensible key d).runOn t).2) := by
  rw [runOn_defineInPlace]
  cases t.define extensible key d <;> rfl

theorem runOn_congr {t u : PropertyTable} {d d' : DescriptorFields} (tables : t.SameAs u)
    (literals : d.SameAs d') (extensible : Bool) (key : PropertyKey) :
    ((defineInPlace extensible key d).runOn t).1 = ((defineInPlace extensible key d').runOn u).1 ∧
      SameAs ((defineInPlace extensible key d).runOn t).2
        ((defineInPlace extensible key d').runOn u).2 := by
  -- both come to what happens to the one table and the one literal that are observed of them
  have alike := t.runOn_observed extensible key d
  rw [(sameAs_iff_observed t u).1 tables,
    (DescriptorFields.sameAs_iff_observed d d').1 literals, runOn_observed] at alike
  obtain ⟨answer, left⟩ := Prod.mk.inj alike.symm
  exact ⟨answer, (sameAs_iff_observed ..).2 left⟩

/-- Being the same is an equivalence of values and of properties: values are the same if they are
equal or both not numbers, and properties are the same if their complete literals are.  A definition
cannot tell what is the same apart: it gives the same answer, an outcome or an error, and leaves the
same table, whether it was accepted or not. -/
theorem definition_respects_sameness :
    Equivalence (fun v w : Value => v.sameValue w = true) ∧
    (∀ v w : Value, v.sameValue w = true ↔
      v = w ∨ ∃ x y, v = .number x ∧ w = .number y ∧ x.isNaN = true ∧ y.isNaN = true) ∧
    (Value.number (.zero false)).sameValue (.number (.zero true)) = false ∧
    Equivalence (fun p q : PropertyDescriptor => p.sameAs q = true) ∧
    (∀ p q : PropertyDescriptor, p.sameAs q = true ↔
      (DescriptorFields.ofDescriptor p).SameAs (.ofDescriptor q)) ∧
    ∀ (t u : PropertyTable) (extensible : Bool) (key : PropertyKey) (d d' : DescriptorFields),
      t.SameAs u → d.SameAs d' →
        ∃ (answer : Except DefineError DefineOutcome) (t' u' : PropertyTable),
          t.define extensible key d = answer.map (·, t') ∧
          u.define extensible key d' = answer.map (·, u') ∧
          (defineInPlace extensible key d).runOn t = (answer, t') ∧
          (defineInPlace extensible key d').runOn u = (answer, u') ∧
          t'.SameAs u' := by
  refine ⟨equivalence_of_observed Value.sameValue_iff_observed, Value.sameValue_iff, by decide,
    equivalence_of_observed PropertyDescriptor.sameAs_iff_observed,
    fun p q => (DescriptorFields.sameAs_ofDescriptor_iff p q).symm, ?_⟩
  intro t u extensible key d d' tables literals
  obtain ⟨answer, same⟩ := runOn_congr tables literals extensible key
  refine ⟨_, _, _, t.define_eq_runOn extensible key d, ?_, rfl, ?_, same⟩
  · rw [answer]
    exact u.define_eq_runOn extensible key d'
  · rw [answer]

/-- Two constants with different payloads, and a definition with two payloads more.  How the
second one goes is told by how the first one went. -/
theorem constants_with_different_payloads :
    let t : PropertyTable := .ofList [(⟨"x"⟩, .constant (.number .nan))]
    let u : PropertyTable := .ofList [(⟨"x"⟩, .constant (.number ⟨0xfff0000000000001⟩))]
    let d : DescriptorFields := { value := some (.number ⟨0x7ff0000000000002⟩) }
    let d' : DescriptorFields := { value := some (.number ⟨0xfff8000000000003⟩) }
    t ≠ u ∧ t.SameAs u ∧ d.SameAs d' ∧
      t.define false ⟨"x"⟩ d = .ok (.unchanged, t) ∧
      ∃ u', u.define false ⟨"x"⟩ d' = .ok (.unchanged, u') ∧ t.SameAs u' := by
  intro t u d d'
  have tables : t.SameAs u := (sameAs_iff_observed t u).2 rfl
  have literals : d.SameAs d' := (DescriptorFields.sameAs_iff_observed d d').2 rfl
  obtain ⟨-, -, -, -, -, respects⟩ := definition_respects_sameness
  obtain ⟨answer, t', u', defined, defined', ran, -, same⟩ :=
    respects t u false ⟨"x"⟩ d d' tables literals
  have unchanged : (defineInPlace false ⟨"x"⟩ d).runOn t = (.ok .unchanged, t) := rfl
  cases unchanged.symm.trans ran
  exact ⟨by decide, tables, literals, defined, _, defined', same⟩

end PropertyTable

end ObjectModel
