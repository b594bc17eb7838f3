import ObjectModel.Proofs.Evidence
import ObjectModel.Proofs.Vocabulary

/-!
# Texts of one line

Which texts have no line feed.  Numbers, handles, quoted texts and what is made of them are one
line, whatever they are about (`Detail.oneLine_ofDescriptor`, `Detail.oneLine_ofFields`,
`Detail.oneLine_ofTexts`).  A value is one line unless it is a string that is not
(`Value.oneLine_toText`), and the message of an error unless its key is not
(`ObjectError.oneLine_message`).
-/

namespace ObjectModel

/-- The text has no line feed. -/
def OneLine (text : String) : Prop := '\n' ∉ text.toList

instance (text : String) : Decidable (OneLine text) :=
  inferInstanceAs (Decidable ('\n' ∉ text.toList))

@[simp]
theorem oneLine_append {text rest : String} :
    OneLine (text ++ rest) ↔ OneLine text ∧ OneLine rest := by
  simp [OneLine]

theorem oneLine_ofList {cs : List Char} : OneLine (String.ofList cs) ↔ '\n' ∉ cs := by
  rw [OneLine, String.toList_ofList]

theorem oneLine_intercalate {separator : String} {texts : List String}
    (between : OneLine separator) (each : ∀ text ∈ texts, OneLine text) :
    OneLine (separator.intercalate texts) := by
  rw [OneLine, String.toList_intercalate]
  induction texts with
  | nil => exact nofun
  | cons text rest ih =>
    obtain ⟨first, each⟩ := List.forall_mem_cons.1 each
    cases rest with
    | nil => simpa [OneLine] using first
    | cons next rest =>
      rw [List.map_cons, List.map_cons, List.intercalate_cons_cons]
      simp only [List.mem_append, not_or]
      exact ⟨⟨first, between⟩, ih each⟩

/-! ## Numbers and handles -/

theorem newline_notMem_toDigits (n : Nat) : '\n' ∉ Nat.toDigits 10 n :=
  fun member => absurd (allDigits_toDigits n _ member) (by decide)

@[simp]
theorem oneLine_repr (n : Nat) : OneLine (Nat.repr n) := by
  rw [Nat.repr, oneLine_ofList]
  exact newline_notMem_toDigits n

theorem oneLine_numeral (layout : NumberLayout) (negative : Bool) (m : Nat) (q : Int) :
    OneLine (String.ofList (layout.numeral negative m q).chars) :=
  have wellFormed := NumberLayout.numeral_wellFormed layout negative m q
  oneLine_ofList.2 (Json.newline_notMem_number wellFormed)

@[simp]
theorem Double.oneLine_toText (x : Double) : OneLine x.toText := by
  unfold toText
  split
  · decide
  · split <;> decide
  · split
    · decide
    · split
      · rw [oneLine_append]
        exact ⟨by split <;> decide, oneLine_repr _⟩
      · exact oneLine_numeral _ _ _ _

@[simp]
theorem Double.oneLine_toDebugText (x : Double) : OneLine x.toDebugText := by
  unfold toDebugText
  split
  · decide
  · split <;> decide
  · exact oneLine_numeral _ _ _ _

@[simp]
theorem ObjectHandle.oneLine_toText (h : ObjectHandle) : OneLine h.toText := by
  simp [toText]
  decide

/-- A value is written on one line if it is no string with a line feed. -/
theorem Value.oneLine_toText {v : Value} (speaks : v.Speaks OneLine) : OneLine v.toText := by
  cases v with
  | undefined | null => decide
  | bool b => cases b <;> decide
  | number x => exact x.oneLine_toText
  | string s => exact speaks s rfl
  | object h =>
    simp [toText]
    decide

/-! ## Quoted texts -/

theorem newline_notMem_hexDigits (n : Nat) : '\n' ∉ Nat.toDigits 16 n := by
  have digits : ∀ d < 16, '\n' ≠ Nat.digitChar d := by decide
  induction n using Nat.strongRecOn with
  | ind n ih =>
    rw [Nat.toDigits_eq_if (by decide)]
    split
    · next small => simp [digits n small]
    · next large => simp [ih (n / 16) (by omega), digits (n % 16) (by omega)]

theorem Text.newline_notMem_quoteChar (c : Char) : '\n' ∉ quoteChar c := by
  fun_cases quoteChar c with
  | case1 | case2 | case3 | case4 | case5 | case6 => decide
  | case7 => simpa [codeEscape] using newline_notMem_hexDigits c.toNat
  | case8 _ _ newline => simpa [eq_comm] using newline

@[simp]
theorem Text.oneLine_quoted (s : String) : OneLine (quoted s) := by
  rw [quoted, oneLine_ofList]
  simp [newline_notMem_quoteChar]

/-! ## Structural texts -/

namespace Detail

@[simp]
theorem oneLine_applied {name field : String} :
    OneLine (applied name field) ↔ OneLine name ∧ OneLine field := by
  have brackets : OneLine "(" ∧ OneLine ")" := by decide
  simp [applied, brackets]

theorem oneLine_structured {name : String} {fields : List (String × String)} (named : OneLine name)
    (each : ∀ f ∈ fields, OneLine f.1 ∧ OneLine f.2) : OneLine (structured name fields) := by
  have marks : OneLine ": " ∧ OneLine " \x7b " ∧ OneLine " \x7d" := by decide
  have listed : OneLine (", ".intercalate (fields.map fun f => f.1 ++ ": " ++ f.2)) := by
    refine oneLine_intercalate (by decide) (List.forall_mem_map.2 fun f member => ?_)
    simpa [marks] using each f member
  simp [structured, named, listed, marks]

@[simp]
theorem oneLine_ofBool (b : Bool) : OneLine (ofBool b) := by
  cases b <;> decide

@[simp]
theorem oneLine_ofHandle (h : ObjectHandle) : OneLine (ofHandle h) := by
  simp [ofHandle]
  decide

theorem oneLine_ofOption {α : Type} {f : α → String} (each : ∀ a, OneLine (f a)) :
    (x : Option α) → OneLine (ofOption f x)
  | none => show OneLine "None" by decide
  | some a => oneLine_applied.2 ⟨by decide, each a⟩

/-- Whatever the value is, since strings are quoted. -/
@[simp]
theorem oneLine_ofValue (v : Value) : OneLine (ofValue v) := by
  cases v with
  | undefined | null => decide
  | bool | number | string | object => exact oneLine_applied.2 ⟨by decide, by simp⟩

@[simp]
theorem oneLine_ofDescriptor (p : PropertyDescriptor) : OneLine (ofDescriptor p) := by
  cases p with
  | data value w e c =>
    refine oneLine_structured (by decide) ?_
    simp
    decide
  | accessor get set e c =>
    refine oneLine_structured (by decide) ?_
    simp [oneLine_ofOption]
    decide

@[simp]
theorem oneLine_ofFields (d : DescriptorFields) : OneLine (ofFields d) := by
  refine oneLine_structured (by decide) ?_
  simp [oneLine_ofOption]
  decide

@[simp]
theorem oneLine_ofTexts (texts : List String) : OneLine (ofTexts texts) := by
  have listed : OneLine (", ".intercalate (texts.map Text.quoted)) :=
    oneLine_intercalate (by decide) (by simp)
  simp [ofTexts, listed]
  decide

end Detail

/-! ## Messages -/

@[simp]
theorem DefineErrorKind.oneLine_code (kind : DefineErrorKind) : OneLine kind.code := by
  cases kind <;> decide

@[simp]
theorem DefineOutcome.oneLine_name (outcome : DefineOutcome) : OneLine outcome.name := by
  cases outcome <;> decide

@[simp]
theorem ObjectError.oneLine_code (e : ObjectError) : OneLine e.code := by
  cases e with
  | define e => exact e.kind.oneLine_code
  | objectNotFound => exact show OneLine "OM-HEAP-0001" by decide
  | notCallable => exact show OneLine "OM-CALL-0001" by decide
  | typeError => exact show OneLine "OM-CALL-0002" by decide

theorem DefineError.oneLine_message {e : DefineError}
    (named : ∀ key, e.key? = some key → OneLine key.text) : OneLine e.message := by
  unfold message
  split
  · decide +kernel
  · decide +kernel
  all_goals
    next key =>
      have shown := named key rfl
      rw [oneLine_append, oneLine_append]
      exact ⟨⟨by decide +kernel, shown⟩, by decide +kernel⟩

/-- A message is one line if the texts in the error are. -/
theorem ObjectError.oneLine_message {e : ObjectError} (speaks : e.Speaks OneLine) :
    OneLine e.message := by
  cases e with
  | define e => exact DefineError.oneLine_message speaks
  | objectNotFound h =>
    rw [message, oneLine_append]
    exact ⟨h.oneLine_toText, by decide⟩
  | notCallable h =>
    rw [message, oneLine_append, oneLine_append]
    exact ⟨⟨by decide, h.oneLine_toText⟩, by decide⟩
  | typeError detail =>
    rw [message, oneLine_append]
    exact ⟨by decide, speaks⟩

end ObjectModel
