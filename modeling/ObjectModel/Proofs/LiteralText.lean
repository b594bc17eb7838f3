import ObjectModel.Proofs.Decoding

/-!
# The text of a descriptor literal

A field of a literal that is absent is left out of its text, and a getter or setter that is
explicitly undefined is written as null (`DescriptorFields.text_shows`).  No other field is ever
written as null, so the reader tells the three states apart, and a literal is read back up to the
number in its value (`DescriptorFields.ofText?_text`).
-/

namespace ObjectModel

theorem ObjectHandle.toJson_inj {f g : ObjectHandle} : f.toJson = g.toJson ↔ f = g := by
  refine ⟨fun same => ?_, fun same => same ▸ rfl⟩
  have index := f.decode_toJson .root
  rw [same, g.decode_toJson, Option.some.injEq] at index
  exact index.symm

theorem Value.toJson_ne_null (v : Value) : v.toJson ≠ .null := by
  cases v <;> exact nofun

namespace DescriptorFields

/-- The text of a literal. -/
def text (d : DescriptorFields) : String := d.toJson.render

/-- The literal that a text is read as. -/
def ofText? (text : String) : Option DescriptorFields := (Json.read? text).bind (decode .root)

/-- The literal with the number in its value read back. -/
def readBack? (d : DescriptorFields) : Option DescriptorFields :=
  (d.value.mapM Value.readBack?).map fun value => { d with value }

/-! ## What the text shows -/

/-- The states of an accessor function: absent, explicitly undefined, or a function. -/
structure ShowsFunction (member : Option Json) (field : Option (Option ObjectHandle)) : Prop where
  absent : member = none ↔ field = none
  undefined : member = some .null ↔ field = some none
  function : ∀ f, member = some f.toJson ↔ field = some (some f)

/-- The members of a text show which fields of a literal are absent.  Null stands for an explicit
undefined, and for nothing else. -/
structure ShowsFields (d : DescriptorFields) (members : List (String × Json)) : Prop where
  value : members.lookup "value" = none ↔ d.value = none
  writable : members.lookup "writable" = none ↔ d.writable = none
  enumerable : members.lookup "enumerable" = none ↔ d.enumerable = none
  configurable : members.lookup "configurable" = none ↔ d.configurable = none
  notNull : ∀ name ∈ ["value", "writable", "enumerable", "configurable"],
    members.lookup name ≠ some .null
  get : ShowsFunction (members.lookup "get") d.get
  set : ShowsFunction (members.lookup "set") d.set

theorem showsFunction (field : Option (Option ObjectHandle)) :
    ShowsFunction (field.map (.ofOption ObjectHandle.toJson)) field := by
  have notNull : ∀ f : ObjectHandle, f.toJson ≠ .null := fun f => nofun
  cases field with
  | none => exact ⟨by simp, by simp, by simp⟩
  | some f? =>
    cases f? with
    | none =>
      exact ⟨by simp, by simp [Json.ofOption],
        fun f => by simp [Json.ofOption, (notNull f).symm]⟩
    | some f =>
      exact ⟨by simp, by simp [Json.ofOption, notNull],
        fun g => by simp [Json.ofOption, ObjectHandle.toJson_inj]⟩

theorem toJson_wellFormed (d : DescriptorFields) : d.toJson.WellFormed := by
  apply Json.wellFormed_record
  simp only [List.forall_mem_append, Json.wellFormed_member]
  have function := Json.wellFormed_ofOption ObjectHandle.toJson_wellFormed
  simp [Value.toJson_wellFormed, function]

theorem text_shows (d : DescriptorFields) :
    ∃ members, Json.read? d.text = some (.record members) ∧ ShowsFields d members := by
  refine ⟨_, Json.read?_render d.toJson_wellFormed, ?_⟩
  constructor
  case get | set =>
    simp only [List.lookup_append, Json.lookup_member]
    simpa using showsFunction _
  case notNull => simp [List.lookup_append, Value.toJson_ne_null]
  all_goals simp [List.lookup_append]

/-! ## Reading it back -/

theorem decode_toJson (d : DescriptorFields) (p : Json.Place) :
    decode p d.toJson = d.readBack? := by
  obtain ⟨value, writable, get, set, enumerable, configurable⟩ := d
  obtain ⟨fields, shown, valueAt, writableAt, getAt, setAt, enumerableAt, configurableAt⟩ :=
    Json.record?_literal false p Value.toJson ObjectHandle.toJson value writable get set enumerable
      configurable
  have handleRead : ∀ f : ObjectHandle, f.toJson ≠ .null ∧
      ObjectHandle.decode p.inner f.toJson = some f := fun f => ⟨nofun, f.decode_toJson _⟩
  have valueRead : (fun v : Value => Value.decode p.inner v.toJson) = Value.readBack? :=
    funext fun v => v.decode_toJson _
  rw [decode, toJson, shown, Option.bind_eq_bind, Option.bind_some,
    Json.optional_written valueAt fun v _ => v.toJson_ne_null, valueRead,
    Json.optional_member writableAt fun _ _ => ⟨nofun, rfl⟩,
    Json.tristate_member getAt handleRead, Json.tristate_member setAt handleRead,
    Json.optional_member enumerableAt fun _ _ => ⟨nofun, rfl⟩,
    Json.optional_member configurableAt fun _ _ => ⟨nofun, rfl⟩, readBack?, Option.map_eq_bind]
  rfl

/-- Reading a literal back from its text is reading back the number in its value. -/
theorem ofText?_text (d : DescriptorFields) : ofText? d.text = d.readBack? := by
  rw [ofText?, text, Json.read?_render d.toJson_wellFormed, Option.bind_some, decode_toJson]

/-- A value that JSON has no numeral for is lost, and the literal with it. -/
theorem ofText?_text_of_not_finite {d : DescriptorFields} {x : Double}
    (given : d.value = some (.number x)) (notFinite : x.isFinite = false) :
    ofText? d.text = none := by
  have lost : Value.readBack? (.number x) = none := by
    rw [Value.readBack?, Double.readBack?_of_not_finite notFinite, Option.map_none]
  rw [ofText?_text, readBack?, given]
  show ((Value.readBack? (.number x)).map some).map _ = none
  rw [lost, Option.map_none, Option.map_none]

/-- A literal whose value is no infinity and no not-a-number is read back from its text as it is, if
finite numbers are read as they are written.  The text shows which fields are absent and tells an
explicit undefined from absence, so the literal has the same kind and defines the same as before. -/
theorem literal_survives_text {d : DescriptorFields}
    (finite : ∀ x, d.value = some (.number x) → x.isFinite = true)
    (same : ∀ x, d.value = some (.number x) → x.isFinite = true → x.readBack? = some x) :
    ofText? d.text = some d ∧
      (∃ members, Json.read? d.text = some (.record members) ∧ ShowsFields d members) ∧
      (ofText? d.text).map classify = some d.classify ∧
      ∀ (t : PropertyTable) extensible key,
        (ofText? d.text).map (t.define extensible key) = some (t.define extensible key d) := by
  have value : d.value.mapM Value.readBack? = some d.value := by
    cases given : d.value with
    | none => rfl
    | some v =>
      have read : v.readBack? = some v :=
        Value.readBack?_eq_self fun x held => same x (held ▸ given) (finite x (held ▸ given))
      show v.readBack?.map some = _
      rw [read, Option.map_some]
  have restored : ofText? d.text = some d := by
    rw [ofText?_text, readBack?, value, Option.map_some]
  refine ⟨restored, d.text_shows, ?_, fun t extensible key => ?_⟩
  · rw [restored, Option.map_some]
  · rw [restored, Option.map_some]

/-- A literal with fields of all states: a number, an explicit undefined, a function, a flag, and
two fields that are absent. -/
theorem mixed_literal_survives :
    let d : DescriptorFields := { value := some (.number ⟨0x4004000000000000⟩), get := some none,
                                  set := some (some ⟨7⟩), configurable := some false }
    (∀ x, d.value = some (.number x) → x.isFinite = true ∧ x.readBack? = some x) ∧
      ofText? d.text = some d := by
  intro d
  have number : ∀ x, d.value = some (.number x) → x.isFinite = true ∧ x.readBack? = some x := by
    rintro x ⟨⟩
    decide +kernel
  exact ⟨number, (literal_survives_text (fun x given => (number x given).1)
    fun x given _ => (number x given).2).1⟩

end DescriptorFields

end ObjectModel
