import ObjectModel.Proofs.Snapshot

/-!
# Decoding what was written

Decoders on the trees that writers make.  A written record shows its fields to a reader that knows
their names (`record?_record`), also behind a tag (`tagged?_record`); a field that was left out is
read as absent.  And whatever text a number is decoded from, it is finite (`toDouble?_yields`),
which carries over to the types that hold numbers.
-/

namespace ObjectModel.Json

/-! ## Plain trees -/

@[simp] theorem toText?_ofString (p : Place) (s : String) : toText? p (ofString s) = some s := rfl

@[simp] theorem toBool?_bool (p : Place) (b : Bool) : toBool? p (bool b) = some b := rfl

@[simp] theorem isHoldable_null (depth : Nat) : isHoldable depth null = true := rfl

@[simp] theorem isHoldable_ofOption {α : Type} (depth : Nat) (f : α → Json) (a? : Option α) :
    isHoldable depth (ofOption f a?) = a?.all fun a => isHoldable depth (f a) := by
  cases a? <;> rfl

@[simp] theorem isHoldable_ofList {α : Type} (depth : Nat) (f : α → Json) (as : List α) :
    isHoldable depth (ofList f as) =
      (decide (depth < depthLimit) && as.all fun a => isHoldable (depth + 1) (f a)) := by
  rw [ofList, isHoldable]
  congr 1
  induction as with
  | nil => rfl
  | cons a as ih => simp [areHoldable, ih]

section Nested

variable {α : Type} {decode : Decoder α} {f : α → Json} {p : Place}

theorem toOption?_ofOption {a? : Option α}
    (read : ∀ a ∈ a?, f a ≠ null ∧ decode p (f a) = some a) :
    toOption? decode p (ofOption f a?) = some a? := by
  cases a? with
  | none => rfl
  | some a =>
    obtain ⟨there, read⟩ := read a rfl
    rw [ofOption, toOption?, read]
    · rfl
    · exact there

@[simp] theorem toOption?_ofString (p : Place) (s? : Option String) :
    toOption? toText? p (ofOption ofString s?) = some s? :=
  toOption?_ofOption fun _ _ => ⟨nofun, rfl⟩

theorem toList?_ofList {as : List α} (read : ∀ a ∈ as, decode p.inner (f a) = some a) :
    toList? decode p (ofList f as) = some as := by
  show (as.map f).mapM (decode p.inner) = some as
  rw [List.mapM_map]
  exact mapM_eq_self read

end Nested

/-! ## Records -/

section Record

variable {names : List String} {p : Place} {fields : List (String × Json)}

theorem hasRepeats_eq_false (distinct : (fields.map Prod.fst).Nodup) :
    hasRepeats fields = false := by
  induction fields with
  | nil => rfl
  | cons field rest ih =>
    obtain ⟨fresh, distinct⟩ := List.nodup_cons.1 distinct
    have unrepeated : (rest.any fun other => other.1 == field.1) = false := by
      rw [List.any_eq_false]
      intro other member same
      exact fresh (eq_of_beq same ▸ List.mem_map_of_mem member)
    rw [hasRepeats, unrepeated, ih distinct]
    rfl

/-- A written record shows its fields, whether or not it may have others. -/
theorem record?_record {closed : Bool} (listed : (fields.map Prod.fst).Sublist names)
    (distinct : names.Nodup) :
    record? names closed p (record fields) = some ⟨p.inner, false, fields⟩ := by
  have known : ∀ field ∈ fields, names.contains field.1 = true := by
    intro field member
    simpa using listed.subset (List.mem_map_of_mem member)
  have unrepeated := hasRepeats_eq_false (distinct.sublist listed)
  rw [record, record?, namedMembers?_record, Option.bind_eq_bind, Option.bind_some]
  dsimp only
  rw [List.filter_eq_self.2 known, unrepeated]
  simp

/-- The tag of a written record names its alternative, and the other fields are left. -/
theorem tagged?_record {tag name : String} (listed : names.contains name = true)
    (untagged : (fields.all fun field => field.1 != tag) = true)
    (held : isHoldable p.depth (record ((tag, ofString name) :: fields)) = true) :
    tagged? tag names p (record ((tag, ofString name) :: fields)) =
      some (name, p.hold, record fields) := by
  have known : name ∈ names := by simpa using listed
  have others : ∀ m ∈ fields.map fun field => ((some field.1 : Option String), field.2),
      m.1 ≠ some tag := by
    simp only [List.forall_mem_map]
    intro field member same
    exact bne_iff_ne.1 (List.all_eq_true.1 untagged field member) (Option.some.inj same)
  have tags : (fields.map fun field => ((some field.1 : Option String), field.2)).filter
      (·.1 == some tag) = [] := by
    apply List.filter_eq_nil_iff.2
    simpa using others
  have rest : (fields.map fun field => ((some field.1 : Option String), field.2)).filter
      (·.1 != some tag) = fields.map fun field => (some field.1, field.2) := by
    apply List.filter_eq_self.2
    simpa using others
  unfold tagged?
  rw [held, Bool.or_true]
  simp [record, tags, rest, tagName?, ofString, known]

theorem wellFormed_member {α : Type} {name : String} {f : α → Json} {a? : Option α} :
    (∀ field ∈ member name f a?, field.2.WellFormed) ↔ ∀ a, a? = some a → (f a).WellFormed := by
  cases a? <;> simp [member]

@[simp] theorem isHoldable_member {α : Type} (depth : Nat) (name : String) (f : α → Json)
    (a? : Option α) :
    ((member name f a?).all fun field => isHoldable depth field.2) =
      a?.all fun a => isHoldable depth (f a) := by
  cases a? <;> simp [member]

@[simp] theorem lookup_member {α : Type} (name sought : String) (f : α → Json) (a? : Option α) :
    (member name f a?).lookup sought = if sought = name then a?.map f else none := by
  cases a? with
  | none => simp [member]
  | some a =>
    by_cases same : sought = name
    · simp [member, same]
    · simp [member, same, List.lookup_cons, beq_false_of_ne same]

theorem member_names {α : Type} (name : String) (f : α → Json) (a? : Option α) :
    ((member name f a?).map Prod.fst).Sublist [name] := by
  cases a? <;> simp [member]

/-- The record of a descriptor literal, whatever values and functions are written as: it shows the
fields that are present. -/
theorem record?_literal {α γ : Type} (closed : Bool) (p : Place) (f : α → Json) (g : γ → Json)
    (value : Option α) (writable : Option Bool) (get set : Option (Option γ))
    (enumerable configurable : Option Bool) :
    ∃ fields, record? DescriptorFields.fieldNames closed p
        (record (member "value" f value ++ member "writable" .bool writable ++
          member "get" (.ofOption g) get ++ member "set" (.ofOption g) set ++
          member "enumerable" .bool enumerable ++ member "configurable" .bool configurable)) =
        some ⟨p.inner, false, fields⟩ ∧
      fields.lookup "value" = value.map f ∧ fields.lookup "writable" = writable.map .bool ∧
      fields.lookup "get" = get.map (.ofOption g) ∧ fields.lookup "set" = set.map (.ofOption g) ∧
      fields.lookup "enumerable" = enumerable.map .bool ∧
      fields.lookup "configurable" = configurable.map .bool := by
  refine ⟨_, record?_record ?_ (by decide), ?_⟩
  · simp only [List.map_append]
    exact (((((member_names ..).append (member_names ..)).append (member_names ..)).append
      (member_names ..)).append (member_names ..)).append (member_names ..)
  · simp [List.lookup_append]

variable {α : Type} {positional : Bool} {name : String} {decode : Decoder α}

/-- A field that is never written as null is read as what its tree is decoded to. -/
theorem optional_written {f : α → Json} {a? : Option α} (found : fields.lookup name = a?.map f)
    (there : ∀ a ∈ a?, f a ≠ null) :
    (Record.mk p positional fields).optional name decode = a?.mapM fun a => decode p (f a) := by
  rw [Record.optional, Record.withDefault, Record.field?, found]
  cases a? with
  | none => rfl
  | some a =>
    have notNull := there a rfl
    show toOption? decode p (f a) = (decode p (f a)).map some
    unfold toOption?
    split
    · next null => exact absurd null notNull
    · rfl

theorem optional_member {f : α → Json} {a? : Option α} (found : fields.lookup name = a?.map f)
    (read : ∀ a ∈ a?, f a ≠ null ∧ decode p (f a) = some a) :
    (Record.mk p positional fields).optional name decode = some a? := by
  rw [optional_written found fun a there => (read a there).1]
  cases a? with
  | none => rfl
  | some a => exact congrArg (Option.map some) (read a rfl).2

theorem tristate_member {f : α → Json} {a? : Option (Option α)}
    (found : fields.lookup name = a?.map (ofOption f))
    (read : ∀ a, f a ≠ null ∧ decode p (f a) = some a) :
    (Record.mk p positional fields).tristate name decode = some a? := by
  rw [Record.tristate, Record.withDefault, Record.field?, found]
  cases a? with
  | none => rfl
  | some a? => exact congrArg (Option.map some) (toOption?_ofOption fun a _ => read a)

end Record

/-! ## What decoders yield -/

/-- Whatever the decoder accepts has the property. -/
def Decoder.Yields {α : Type} (decode : Decoder α) (P : α → Prop) : Prop :=
  ∀ p j a, decode p j = some a → P a

theorem toDouble?_yields : Decoder.Yields toDouble? fun x => x.isFinite = true := by
  intro p j x read
  cases j with
  | number n => exact Numeral.toDouble?_isFinite read
  | null | bool | string | array | object => cases read

section Yields

variable {α : Type} {decode : Decoder α} {P : α → Prop} (each : decode.Yields P)

include each

theorem toOption?_yields : (toOption? decode).Yields fun a? => ∀ a ∈ a?, P a := by
  rintro p j a? read a rfl
  cases j with
  | null => cases read
  | bool | number | string | array | object =>
    obtain ⟨a, read, ⟨⟩⟩ := Option.map_eq_some_iff.1 read
    exact each _ _ _ read

theorem toList?_yields : (toList? decode).Yields fun as => ∀ a ∈ as, P a := by
  intro p j as read
  cases j with
  | array items =>
    induction items generalizing as with
    | nil =>
      cases read
      exact nofun
    | cons j items ih =>
      replace read : (j :: items).mapM (decode p.inner) = some as := read
      rw [List.mapM_cons] at read
      obtain ⟨a, first, read⟩ := Option.bind_eq_some_iff.1 read
      obtain ⟨rest, others, ⟨⟩⟩ := Option.bind_eq_some_iff.1 read
      exact List.forall_mem_cons.2 ⟨each _ _ _ first, ih rest others⟩
  | null | bool | number | string | object => cases read

theorem required_yields {r : Record} {name : String} {a : α}
    (read : r.required name decode = some a) : P a := by
  obtain ⟨j, -, read⟩ := Option.bind_eq_some_iff.1 read
  exact each _ _ _ read

theorem optional_yields {r : Record} {name : String} {a? : Option α}
    (read : r.optional name decode = some a?) : ∀ a ∈ a?, P a := by
  unfold Record.optional Record.withDefault at read
  split at read
  · exact toOption?_yields each _ _ _ read
  · cases read
    exact nofun

end Yields

end ObjectModel.Json
