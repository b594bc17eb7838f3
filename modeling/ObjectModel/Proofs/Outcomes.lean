import ObjectModel.Proofs.Define

/-!
# What the answer to a definition tells

A definition answers with an outcome or an error.  `outcome_tells_change` says that the answer
determines what became of the table: an error leaves it as it was, and each of the three outcomes
stands for exactly one kind of change (`DefineOutcome.Tells`).  That an error writes nothing is a
statement about the order of checks and writes, so it is made of `defineInPlace`, whose steps act on
one table that keeps what was written before a failure.

`check_predicts_definition` says that `checkDefine`, which looks at the table on its own, comes to
the verdict of `define`.
-/

namespace ObjectModel

/-- What an outcome tells about a table before and after the definition of a key. -/
def DefineOutcome.Tells (key : PropertyKey) (before after : PropertyTable) : DefineOutcome → Prop
  | .created => before.get? key = none ∧ ∃ p, after.entries = before.entries ++ [(key, p)]
  | .unchanged => (∃ p, before.get? key = some p) ∧ after = before
  | .updated =>
    (∃ old new, before.get? key = some old ∧ after.get? key = some new ∧
      new.sameAs old = false) ∧
    after.keys = before.keys ∧ ∀ other, other ≠ key → after.get? other = before.get? other

/-- The tables alone decide which outcome can tell their story. -/
theorem DefineOutcome.Tells.eq {key : PropertyKey} {before after : PropertyTable}
    {outcome : DefineOutcome} (tells : outcome.Tells key before after) :
    outcome = if before.get? key = none then .created
      else if after = before then .unchanged else .updated := by
  cases outcome with
  | created => rw [if_pos tells.1]
  | unchanged =>
    obtain ⟨⟨p, present⟩, same⟩ := tells
    rw [if_neg (by simp [present]), if_pos same]
  | updated =>
    obtain ⟨⟨old, new, present, stored, differs⟩, -⟩ := tells
    have changed : after ≠ before := by
      rintro rfl
      cases present.symm.trans stored
      cases differs.symm.trans old.sameAs_refl
    rw [if_neg (by simp [present]), if_neg changed]

namespace PropertyTable

variable {t t' : PropertyTable} {extensible : Bool} {key : PropertyKey} {d : DescriptorFields}
  {kind : DescriptorKind} {outcome : DefineOutcome}

/-! ## Outcomes -/

theorem Defined.tells (changed : t.Defined extensible key d kind outcome t') :
    outcome.Tells key t t' := by
  cases changed with
  | created absent free =>
    have fresh : key ∉ t.entries.map Prod.fst := (OrderedMap.get?_eq_none_iff t key).1 absent
    exact ⟨absent, _, OrderedMap.insertEntry_of_absent fresh⟩
  | unchanged present admitted same => exact ⟨⟨_, present⟩, rfl⟩
  | updated present admitted differs =>
    refine ⟨⟨_, _, present, OrderedMap.get?_insert_self .., differs⟩, ?_, ?_⟩
    · exact OrderedMap.keys_insert_of_get? present _
    · intro other otherKey
      exact OrderedMap.get?_insert_of_ne t otherKey _

/-- The property under the key may not change any more. -/
def Permanent (t : PropertyTable) (key : PropertyKey) : Prop :=
  ∃ p, t.get? key = some p ∧ p.isConfigurable = false ∧
    (p.isAccessor = true ∨ p.isData = true ∧ p.isWritable = false)

theorem Defined.not_updated (shape : d.classify = .ok kind)
    (changed : t.Defined extensible key d kind outcome t') (permanent : t.Permanent key) :
    outcome ≠ .updated := by
  rintro rfl
  obtain ⟨p, present, fixed, kept⟩ := permanent
  cases changed with
  | updated present' admitted differs =>
    cases present.symm.trans present'
    rw [PropertyDescriptor.verdict_of_fixed fixed] at admitted
    -- what a non-configurable property admits holds of it, unless it is writable data
    obtain same | ⟨value, enumerable, _, _, rfl, -⟩ :=
      PropertyDescriptor.merge_of_fixed shape fixed admitted
    · cases differs.symm.trans same
    · obtain accessor | ⟨-, constant⟩ := kept
      · cases accessor
      · cases constant

/-! ## In place -/

/-- Steps on one table.  What a step has written stays written if a later step fails. -/
abbrev InPlace := ExceptT DefineError (StateM PropertyTable)

namespace InPlace

variable {α β : Type}

/-- The answer of some steps, and what they leave of the table. -/
def runOn (steps : InPlace α) (t : PropertyTable) : Except DefineError α × PropertyTable :=
  steps.run.run t

theorem runOn_bind (steps : InPlace α) (next : α → InPlace β) (t : PropertyTable) :
    (steps >>= next).runOn t =
      match steps.runOn t with
      | (.ok a, t') => (next a).runOn t'
      | (.error e, t') => (.error e, t') := by
  simp only [runOn, ExceptT.run_bind, StateT.run_bind]
  obtain ⟨_ | _, t'⟩ := steps.run.run t <;> rfl

theorem runOn_check (check : Except DefineError α) (t : PropertyTable) :
    runOn (liftM check) t = (check, t) := rfl

theorem runOn_get (t : PropertyTable) : runOn get t = (.ok t, t) := rfl

end InPlace

/-- The definition step by step, on a table that changes in place. -/
def defineInPlace (extensible : Bool) (key : PropertyKey) (d : DescriptorFields) :
    InPlace DefineOutcome := do
  let kind ← d.classify
  match (← get).get? key with
  | none =>
    if !extensible then throw (.notExtensible key)
    modify (·.insert key (d.toNewDescriptor kind))
    return .created
  | some current =>
    if !current.isConfigurable then current.checkFixed d kind key
    let merged := current.merge d kind
    if merged.sameAs current then return .unchanged
    modify (·.insert key merged)
    return .updated

/-- No check follows the write, so that a rejected definition has written nothing. -/
theorem runOn_defineInPlace (t : PropertyTable) (extensible : Bool) (key : PropertyKey)
    (d : DescriptorFields) :
    (defineInPlace extensible key d).runOn t =
      match t.define extensible key d with
      | .ok (outcome, t') => (.ok outcome, t')
      | .error e => (.error e, t) := by
  unfold defineInPlace
  rw [InPlace.runOn_bind, InPlace.runOn_check]
  cases shape : d.classify with
  | error e => rw [define_of_shape_error shape]
  | ok kind =>
    simp only [InPlace.runOn_bind, InPlace.runOn_get]
    cases found : t.get? key with
    | none =>
      rw [define_absent shape found]
      cases extensible <;> rfl
    | some current =>
      cases free : current.isConfigurable with
      | true =>
        rw [define_admitted shape found (PropertyDescriptor.verdict_of_free free)]
        simp only [free, Bool.not_true, Bool.false_eq_true, if_false]
        cases (current.merge d kind).sameAs current <;> rfl
      | false =>
        have verdict : current.verdict d kind key = current.checkFixed d kind key :=
          PropertyDescriptor.verdict_of_fixed free
        simp only [free, Bool.not_false, if_true, InPlace.runOn_bind, InPlace.runOn_check]
        cases checked : current.checkFixed d kind key with
        | error e => rw [define_refused shape found (verdict.trans checked)]
        | ok =>
          rw [define_admitted shape found (verdict.trans checked)]
          cases (current.merge d kind).sameAs current <;> rfl

/-- The answer to a definition tells exactly what became of the table.  A rejection left it as it
was, an outcome is the only one that tells its change, and a permanent property is never updated. -/
theorem outcome_tells_change (t : PropertyTable) (extensible : Bool) (key : PropertyKey)
    (d : DescriptorFields) :
    match (defineInPlace extensible key d).runOn t with
    | (.error e, after) => t.define extensible key d = .error e ∧ after = t
    | (.ok outcome, after) =>
      t.define extensible key d = .ok (outcome, after) ∧
        (∀ other : DefineOutcome, other = outcome ↔ other.Tells key t after) ∧
        (t.Permanent key → outcome ≠ .updated) := by
  rw [runOn_defineInPlace]
  cases defined : t.define extensible key d with
  | error e => exact ⟨rfl, rfl⟩
  | ok result =>
    obtain ⟨outcome, after⟩ := result
    obtain ⟨kind, shape, changed⟩ := define_inv defined
    refine ⟨rfl, fun other => ⟨?_, ?_⟩, changed.not_updated shape⟩
    · rintro rfl
      exact changed.tells
    · intro tells
      exact tells.eq.trans changed.tells.eq.symm

/-- A constant that is defined once more, with its own value. -/
theorem constant_left_unchanged :
    let t : PropertyTable := .ofList [(⟨"x"⟩, .constant (.number .nan))]
    let d : DescriptorFields := { value := some (.number .nan) }
    t.Permanent ⟨"x"⟩ ∧ (defineInPlace true ⟨"x"⟩ d).runOn t = (.ok .unchanged, t) ∧
      DefineOutcome.unchanged.Tells ⟨"x"⟩ t t ∧ DefineOutcome.unchanged ≠ .updated := by
  intro t d
  have permanent : t.Permanent ⟨"x"⟩ := ⟨_, rfl, rfl, .inr ⟨rfl, rfl⟩⟩
  have ran : (defineInPlace true ⟨"x"⟩ d).runOn t = (.ok .unchanged, t) := rfl
  have told := outcome_tells_change t true ⟨"x"⟩ d
  rw [ran] at told
  obtain ⟨-, tells, kept⟩ := told
  exact ⟨permanent, ran, (tells _).1 rfl, kept permanent⟩

/-! ## The verdict alone -/

theorem checkDefine_eq (t : PropertyTable) (extensible : Bool) (key : PropertyKey)
    (d : DescriptorFields) :
    t.checkDefine extensible key d = (t.define extensible key d).map fun _ => () := by
  unfold checkDefine
  cases shape : d.classify with
  | error e =>
    rw [define_of_shape_error shape]
    rfl
  | ok kind =>
    simp only [bind, Except.bind]
    cases found : t.get? key with
    | none =>
      rw [define_absent shape found]
      cases extensible <;> rfl
    | some current =>
      have verdict : (if current.isConfigurable then pure () else current.checkFixed d kind key) =
        current.verdict d kind key := rfl
      simp only [verdict]
      cases admitted : current.verdict d kind key with
      | error e =>
        rw [define_refused shape found admitted]
        rfl
      | ok =>
        rw [define_admitted shape found admitted]
        split <;> rfl

/-- The check accepts exactly the definitions that are accepted, and rejects the others for the same
reason. -/
theorem check_predicts_definition (t : PropertyTable) (extensible : Bool) (key : PropertyKey)
    (d : DescriptorFields) :
    (t.checkDefine extensible key d = .ok () ↔
      ∃ outcome t', t.define extensible key d = .ok (outcome, t')) ∧
    ∀ e, t.checkDefine extensible key d = .error e ↔ t.define extensible key d = .error e := by
  rw [checkDefine_eq]
  cases t.define extensible key d with
  | error e =>
    refine ⟨⟨nofun, nofun⟩, fun e' => ?_⟩
    simp [Except.map]
  | ok result =>
    obtain ⟨outcome, t'⟩ := result
    exact ⟨⟨fun _ => ⟨outcome, t', rfl⟩, fun _ => rfl⟩, fun e => ⟨nofun, nofun⟩⟩

end PropertyTable

end ObjectModel
