import ObjectModel.Json.Printer
import ObjectModel.Proofs.Numerals

/-!
# JSON that is written is read back

A tree whose numbers are well formed is what its text is read as (`Json.read?_render`).  The reader
takes a value off the front of a text and leaves the rest (`Reader.Reads`), so this is shown for any
rest that can stand behind a value, by induction on the tree.  The fuel of the reader is enough as
long as it is not less than the number of characters.
-/

namespace ObjectModel.Json

/-! ## Well-formed trees -/

/-- A tree whose numbers are well formed. -/
inductive WellFormed : Json → Prop where
  | null : WellFormed null
  | bool (b : Bool) : WellFormed (bool b)
  | number {n : Numeral} (wellFormed : n.WellFormed) : WellFormed (number n)
  | string (text : Option String) : WellFormed (string text)
  | array {items : List Json} (all : ∀ j ∈ items, WellFormed j) : WellFormed (array items)
  | object {members : List (Option String × Json)} (all : ∀ m ∈ members, WellFormed m.2) :
    WellFormed (object members)

@[simp] theorem wellFormed_null : null.WellFormed := .null

@[simp] theorem wellFormed_bool (b : Bool) : (bool b).WellFormed := .bool b

@[simp] theorem wellFormed_ofString (s : String) : (ofString s).WellFormed := .string _

@[simp] theorem wellFormed_ofNat (n : Nat) : (ofNat n).WellFormed :=
  .number (Numeral.ofNat_wellFormed n)

@[simp] theorem wellFormed_ofDouble (x : Double) : (ofDouble x).WellFormed := by
  unfold ofDouble
  split
  · next written => exact .number (Double.toJsonNumeral?_wellFormed written)
  · exact .null

theorem wellFormed_ofOption {α : Type} {f : α → Json} (each : ∀ a, (f a).WellFormed)
    (a? : Option α) : (ofOption f a?).WellFormed := by
  cases a? with
  | none => exact .null
  | some a => exact each a

theorem wellFormed_ofList {α : Type} {f : α → Json} (each : ∀ a, (f a).WellFormed) (as : List α) :
    (ofList f as).WellFormed := by
  apply WellFormed.array
  simp only [List.forall_mem_map]
  exact fun a _ => each a

theorem wellFormed_record {members : List (String × Json)}
    (each : ∀ m ∈ members, m.2.WellFormed) : (record members).WellFormed := by
  apply WellFormed.object
  simp only [List.forall_mem_map]
  exact each

namespace Reader

/-! ## String literals -/

/-- The unit is what a printed character is read as. -/
structure ReadsAs (c : Char) (unit : StringUnit) : Prop where
  units : ∀ {rest units after}, stringUnits rest = some (units, after) →
    stringUnits (escapeChar c ++ rest) = some (unit :: units, after)
  text : ∀ units, unitsText? (unit :: units) = (unitsText? units).map (c :: ·)

/-- A character behind a backslash. -/
theorem readsAs_escaped {c e : Char} (printed : escapeChar c = ['\\', e])
    (letter : escaped? e = some c) (noCode : e ≠ 'u') : ReadsAs c (.char c) where
  units := by
    intro rest units after read
    rw [printed]
    show stringUnits ('\\' :: e :: rest) = _
    rw [stringUnits, letter, read]
    · rfl
    · exact fun _ _ _ _ _ same => absurd same noCode
  text _ := rfl

/-- A control character, as its code. -/
theorem readsAs_code {c : Char} (control : c.toNat < 0x20)
    (printed : escapeChar c =
      ['\\', 'u', '0', '0', Text.hexDigit (c.toNat / 16), Text.hexDigit (c.toNat % 16)]) :
    ReadsAs c (.code c.toNat) where
  units := by
    intro rest units after read
    have code : hexCode? '0' '0' (Text.hexDigit (c.toNat / 16)) (Text.hexDigit (c.toNat % 16)) =
        some c.toNat := by
      have zero : Text.hexValue? '0' = some 0 := rfl
      have high := Text.hexValue?_hexDigit (n := c.toNat / 16) (by omega)
      have low := Text.hexValue?_hexDigit (n := c.toNat % 16) (by omega)
      simp only [hexCode?, zero, high, low]
      show some _ = some _
      congr 1
      omega
    rw [printed]
    show stringUnits ('\\' :: 'u' :: '0' :: '0' :: _ :: _ :: rest) = _
    rw [stringUnits, code, read]
    rfl
  text units := by
    have low : ¬ (0xD800 ≤ c.toNat ∧ c.toNat < 0xDC00) := by omega
    have high : ¬ (0xDC00 ≤ c.toNat ∧ c.toNat < 0xE000) := by omega
    conv => lhs; unfold unitsText?
    rw [if_neg low, if_neg high, Char.ofNat_toNat]

theorem readsAs_itself {c : Char} (noQuote : c ≠ '"') (noBackslash : c ≠ '\\')
    (visible : ¬ c.toNat < 0x20) (printed : escapeChar c = [c]) : ReadsAs c (.char c) where
  units := by
    intro rest units after read
    rw [printed]
    show stringUnits (c :: rest) = _
    rw [stringUnits, if_neg, read]
    · rfl
    · rintro (control | backslash)
      · exact visible control
      · exact noBackslash backslash
    · exact noQuote
    · exact fun _ _ _ _ _ same => absurd same noBackslash
    · exact fun _ _ same => absurd same noBackslash
  text _ := rfl

theorem exists_readsAs (c : Char) : ∃ unit, ReadsAs c unit := by
  by_cases named : c ∈ ['"', '\\', '\x08', '\x0c', '\n', '\r', '\t']
  · simp only [List.mem_cons, List.not_mem_nil, or_false] at named
    obtain rfl | rfl | rfl | rfl | rfl | rfl | rfl := named
    · exact ⟨_, readsAs_escaped (e := '"') rfl rfl (by decide)⟩
    · exact ⟨_, readsAs_escaped (e := '\\') rfl rfl (by decide)⟩
    · exact ⟨_, readsAs_escaped (e := 'b') rfl rfl (by decide)⟩
    · exact ⟨_, readsAs_escaped (e := 'f') rfl rfl (by decide)⟩
    · exact ⟨_, readsAs_escaped (e := 'n') rfl rfl (by decide)⟩
    · exact ⟨_, readsAs_escaped (e := 'r') rfl rfl (by decide)⟩
    · exact ⟨_, readsAs_escaped (e := 't') rfl rfl (by decide)⟩
  · simp only [List.mem_cons, List.not_mem_nil, or_false, not_or] at named
    obtain ⟨quote, backslash, b, f, n, r, t⟩ := named
    have printed : escapeChar c = if c.toNat < 0x20 then
        ['\\', 'u', '0', '0', Text.hexDigit (c.toNat / 16), Text.hexDigit (c.toNat % 16)]
        else [c] := by
      rw [escapeChar, if_neg quote, if_neg backslash, if_neg b, if_neg f, if_neg n, if_neg r,
        if_neg t]
    by_cases control : c.toNat < 0x20
    · exact ⟨_, readsAs_code control (printed.trans (if_pos control))⟩
    · exact ⟨_, readsAs_itself quote backslash control (printed.trans (if_neg control))⟩

/-- The text of a string literal is read up to its closing quote. -/
theorem stringUnits_text (cs rest : List Char) :
    ∃ units, stringUnits (cs.flatMap escapeChar ++ '"' :: rest) = some (units, rest) ∧
      unitsText? units = some cs := by
  induction cs with
  | nil => exact ⟨[], rfl, rfl⟩
  | cons c cs ih =>
    obtain ⟨units, read, text⟩ := ih
    obtain ⟨unit, reads⟩ := exists_readsAs c
    refine ⟨unit :: units, ?_, ?_⟩
    · rw [List.flatMap_cons, List.append_assoc]
      exact reads.units read
    · rw [reads.text, text]
      rfl

/-- A string literal is read as what it was written for, also one that denotes no text. -/
theorem stringBody_chars (text : Option String) :
    ∃ body, stringChars text = '"' :: body ∧
      ∀ rest, stringBody (body ++ rest) = some (text, rest) := by
  cases text with
  | none => exact ⟨['\\', 'u', 'd', '8', '0', '0', '"'], rfl, fun _ => rfl⟩
  | some s =>
    refine ⟨s.toList.flatMap escapeChar ++ ['"'], rfl, fun rest => ?_⟩
    obtain ⟨units, read, text⟩ := stringUnits_text s.toList rest
    rw [List.append_assoc, List.singleton_append, stringBody, read]
    show some ((unitsText? units).map String.ofList, rest) = _
    rw [text, Option.map_some, String.ofList_toList]

/-! ## Values -/

theorem skipBlanks_cons {c : Char} (visible : c ∉ [' ', '\n', '\r', '\t']) (cs : List Char) :
    skipBlanks (c :: cs) = c :: cs := by
  simp only [List.mem_cons, List.not_mem_nil, or_false, not_or] at visible
  obtain ⟨space, newline, return_, tab⟩ := visible
  apply List.dropWhile_cons_of_neg
  simp [space, newline, return_, tab]

/-- What a value begins with: no blank, and not the end of an array. -/
def BeginsValue (cs : List Char) : Prop :=
  ∃ c after, cs = c :: after ∧ c ∉ [' ', '\n', '\r', '\t'] ∧ c ≠ ']'

theorem BeginsValue.append {cs : List Char} (begins : BeginsValue cs) (rest : List Char) :
    BeginsValue (cs ++ rest) := by
  obtain ⟨c, after, rfl, visible, open_⟩ := begins
  exact ⟨c, after ++ rest, rfl, visible, open_⟩

theorem number_begins {n : Numeral} (wellFormed : n.WellFormed) :
    ∃ c after, n.chars = c :: after ∧ (c = '-' ∨ c.isDigit = true) := by
  obtain ⟨negative, whole, fraction, exponent⟩ := n
  obtain ⟨c, cs, rfl⟩ := List.exists_cons_of_ne_nil wellFormed.whole.nonempty
  cases negative with
  | true => exact ⟨'-', _, rfl, .inl rfl⟩
  | false => exact ⟨c, _, rfl, .inr (wellFormed.whole.digits c List.mem_cons_self)⟩

/-- The tree is read off the front of a text that begins with it. -/
structure Reads (j : Json) : Prop where
  begins : BeginsValue (chars j)
  value : ∀ {fuel rest}, EndsValue rest → (chars j).length ≤ fuel →
    value fuel (chars j ++ rest) = some (j, rest)

/-- One step of fuel for each character is enough. -/
theorem exists_fuel (c : Char) (cs : List Char) {fuel : Nat} (enough : (c :: cs).length ≤ fuel) :
    ∃ fuel', fuel = fuel' + 1 ∧ cs.length ≤ fuel' := by
  obtain ⟨fuel, rfl⟩ := Nat.exists_eq_add_of_le' (Nat.le_trans (Nat.succ_pos _) enough)
  exact ⟨fuel, rfl, Nat.le_of_succ_le_succ enough⟩

theorem reads_number {n : Numeral} (wellFormed : n.WellFormed) : Reads (.number n) := by
  obtain ⟨c, after, starts, digit⟩ := number_begins wellFormed
  have visible : c ∉ [' ', '\n', '\r', '\t'] ∧ c ≠ ']' := by
    refine ⟨fun member => ?_, ?_⟩
    · simp only [List.mem_cons, List.not_mem_nil, or_false] at member
      obtain rfl | rfl | rfl | rfl := member <;> exact absurd digit (by decide)
    · rintro rfl
      exact absurd digit (by decide)
  refine ⟨⟨c, after, starts, visible⟩, fun {fuel rest} ends enough => ?_⟩
  have read := number_chars wellFormed ends
  rw [chars, starts] at enough ⊢
  obtain ⟨fuel, rfl, -⟩ := exists_fuel _ _ enough
  rw [starts, List.cons_append] at read
  rw [Reader.value, List.cons_append, skipBlanks_cons visible.1]
  -- no other value begins with a sign or a digit
  split
  case h_7 => rw [read, Option.map_some]
  all_goals
    next same =>
      obtain rfl := (List.cons.inj same).1
      exact absurd digit (by decide)

theorem reads_null : Reads .null where
  begins := ⟨'n', ['u', 'l', 'l'], rfl, by decide, by decide⟩
  value {fuel rest} _ enough := by
    obtain ⟨fuel, rfl, -⟩ := exists_fuel 'n' ['u', 'l', 'l'] enough
    rfl

theorem reads_bool (b : Bool) : Reads (.bool b) := by
  cases b with
  | true =>
    refine ⟨⟨'t', ['r', 'u', 'e'], rfl, by decide, by decide⟩, fun {fuel rest} _ enough => ?_⟩
    obtain ⟨fuel, rfl, -⟩ := exists_fuel 't' ['r', 'u', 'e'] enough
    rfl
  | false =>
    refine ⟨⟨'f', ['a', 'l', 's', 'e'], rfl, by decide, by decide⟩, fun {fuel rest} _ enough => ?_⟩
    obtain ⟨fuel, rfl, -⟩ := exists_fuel 'f' ['a', 'l', 's', 'e'] enough
    rfl

theorem reads_string (text : Option String) : Reads (.string text) := by
  obtain ⟨body, written, read⟩ := stringBody_chars text
  refine ⟨⟨'"', body, written, by decide, by decide⟩, fun {fuel rest} _ enough => ?_⟩
  rw [chars, written] at enough ⊢
  obtain ⟨fuel, rfl, -⟩ := exists_fuel _ _ enough
  show (stringBody (body ++ rest)).map (fun read => (Json.string read.1, read.2)) = _
  rw [read, Option.map_some]

/-! ### Arrays and objects -/

theorem endsValue_cons {c : Char} (ends : c = ',' ∨ c = ']' ∨ c = '}') (rest : List Char) :
    EndsValue (c :: rest) := by
  rintro _ ⟨⟩
  exact ends

theorem items_more {fuel : Nat} {cs rest : List Char} {j : Json}
    (read : Reader.value fuel cs = some (j, ',' :: rest)) :
    items (fuel + 1) cs = (items fuel rest).map fun (js, rest) => (j :: js, rest) := by
  rw [items, read]
  rfl

theorem items_last {fuel : Nat} {cs rest : List Char} {j : Json}
    (read : Reader.value fuel cs = some (j, ']' :: rest)) :
    items (fuel + 1) cs = some ([j], rest) := by
  rw [items, read]
  rfl

theorem items_chars {js : List Json} (reads : ∀ j ∈ js, Reads j) (some_ : js ≠ [])
    {fuel : Nat} (enough : (itemsChars js).length ≤ fuel) (rest : List Char) :
    items fuel (itemsChars js ++ rest) = some (js, rest) := by
  induction js generalizing fuel with
  | nil => exact absurd rfl some_
  | cons j js ih =>
    have readsItem := reads j List.mem_cons_self
    cases js with
    | nil =>
      have written : itemsChars [j] = chars j ++ [']'] := rfl
      rw [written, List.length_append, List.length_singleton] at enough
      rw [written, List.append_assoc, List.singleton_append]
      obtain ⟨fuel, rfl⟩ : ∃ fuel', fuel = fuel' + 1 := ⟨fuel - 1, by omega⟩
      exact items_last (readsItem.value (endsValue_cons (by decide) _) (by omega))
    | cons next js =>
      have written : itemsChars (j :: next :: js) = chars j ++ ',' :: itemsChars (next :: js) := rfl
      rw [written, List.length_append, List.length_cons] at enough
      rw [written, List.append_assoc, List.cons_append]
      -- the characters of the item and of the rest are at most the fuel that is left
      obtain ⟨fuel, rfl⟩ : ∃ fuel', fuel = fuel' + 1 := ⟨fuel - 1, by omega⟩
      have more : items fuel (itemsChars (next :: js) ++ rest) = some (next :: js, rest) :=
        ih (fun i member => reads i (List.mem_cons_of_mem _ member)) nofun (by omega)
      rw [items_more (readsItem.value (endsValue_cons (by decide) _) (by omega)), more,
        Option.map_some]

/-- The members from the value of one on. -/
def afterName (fuel : Nat) (name : Option String) :
    Option (Json × List Char) → Option (List (Option String × Json) × List Char)
  | none => none
  | some (j, rest) =>
    match skipBlanks rest with
    | ',' :: rest => (members fuel rest).map fun (ms, rest) => ((name, j) :: ms, rest)
    | '}' :: rest => some ([(name, j)], rest)
    | _ => none

theorem members_named {fuel : Nat} {body cs : List Char} {name : Option String}
    (named : stringBody body = some (name, ':' :: cs)) :
    members (fuel + 1) ('"' :: body) = afterName fuel name (Reader.value fuel cs) := by
  rw [members, skipBlanks_cons (by decide)]
  -- a character in a pattern does not reduce, so the case of the quote is picked by hand
  split
  · next same =>
    cases same
    rw [named]
    rfl
  · next noName => exact absurd rfl (noName body)

theorem members_chars {ms : List (Option String × Json)} (reads : ∀ m ∈ ms, Reads m.2)
    (some_ : ms ≠ []) {fuel : Nat} (enough : (membersChars ms).length ≤ fuel)
    (rest : List Char) :
    members fuel (membersChars ms ++ rest) = some (ms, rest) := by
  induction ms generalizing fuel with
  | nil => exact absurd rfl some_
  | cons m ms ih =>
    have readsMember := reads m List.mem_cons_self
    obtain ⟨name, j⟩ := m
    dsimp only at readsMember
    obtain ⟨body, literal, named⟩ := stringBody_chars name
    cases ms with
    | nil =>
      have written : membersChars [(name, j)] = stringChars name ++ ':' :: (chars j ++ ['}']) := rfl
      rw [written, literal] at enough ⊢
      simp only [List.cons_append, List.append_assoc, List.nil_append]
      simp only [List.cons_append, List.length_cons, List.length_append] at enough
      obtain ⟨fuel, rfl⟩ : ∃ fuel', fuel = fuel' + 1 := ⟨fuel - 1, by omega⟩
      rw [members_named (named _), readsMember.value (endsValue_cons (by decide) _) (by omega)]
      rfl
    | cons next ms =>
      have written : membersChars ((name, j) :: next :: ms) =
          stringChars name ++ ':' :: (chars j ++ ',' :: membersChars (next :: ms)) := rfl
      rw [written, literal] at enough ⊢
      simp only [List.cons_append, List.append_assoc]
      simp only [List.cons_append, List.length_cons, List.length_append] at enough
      obtain ⟨fuel, rfl⟩ : ∃ fuel', fuel = fuel' + 1 := ⟨fuel - 1, by omega⟩
      have more : members fuel (membersChars (next :: ms) ++ rest) = some (next :: ms, rest) :=
        ih (fun m member => reads m (List.mem_cons_of_mem _ member)) nofun (by omega)
      rw [members_named (named _), readsMember.value (endsValue_cons (by decide) _) (by omega)]
      show (members fuel _).map _ = _
      rw [more, Option.map_some]

theorem itemsChars_begins {js : List Json} (reads : ∀ j ∈ js, Reads j) (some_ : js ≠ []) :
    BeginsValue (itemsChars js) := by
  obtain ⟨j, js, rfl⟩ := List.exists_cons_of_ne_nil some_
  have begins := (reads j List.mem_cons_self).begins
  cases js with
  | nil => exact begins.append _
  | cons next js => exact begins.append _

/-- An array behind its opening bracket. -/
def afterBracket (fuel : Nat) : List Char → Option (Json × List Char)
  | ']' :: rest => some (.array [], rest)
  | rest => (items fuel rest).map fun (js, rest) => (.array js, rest)

theorem value_array {fuel : Nat} {c : Char} {after : List Char}
    (visible : c ∉ [' ', '\n', '\r', '\t']) (open_ : c ≠ ']') :
    Reader.value (fuel + 1) ('[' :: c :: after) =
      (items fuel (c :: after)).map fun (js, rest) => (.array js, rest) := by
  show afterBracket fuel (skipBlanks (c :: after)) = _
  rw [skipBlanks_cons visible, afterBracket]
  exact fun _ same => absurd (List.cons.inj same).1 open_

theorem reads_array {js : List Json} (reads : ∀ j ∈ js, Reads j) : Reads (.array js) := by
  refine ⟨⟨'[', itemsChars js, rfl, by decide, by decide⟩, fun {fuel rest} _ enough => ?_⟩
  obtain ⟨fuel, rfl, room⟩ := exists_fuel '[' (itemsChars js) enough
  rw [chars, List.cons_append]
  by_cases none : js = []
  · subst none
    rfl
  · -- the first character of the first item is what tells the array from an empty one
    obtain ⟨c, after, starts, visible, open_⟩ := (itemsChars_begins reads none).append rest
    have read := items_chars reads none room rest
    rw [starts] at read ⊢
    rw [value_array visible open_, read, Option.map_some]

theorem membersChars_begins {ms : List (Option String × Json)} (some_ : ms ≠ []) :
    ∃ after, membersChars ms = '"' :: after := by
  obtain ⟨⟨name, j⟩, ms, rfl⟩ := List.exists_cons_of_ne_nil some_
  obtain ⟨body, literal, -⟩ := stringBody_chars name
  cases ms with
  | nil => exact ⟨_, by rw [membersChars, literal, List.cons_append]⟩
  | cons m ms => exact ⟨_, by rw [membersChars, literal, List.cons_append]; exact nofun⟩

theorem reads_object {ms : List (Option String × Json)} (reads : ∀ m ∈ ms, Reads m.2) :
    Reads (.object ms) := by
  refine ⟨⟨'{', membersChars ms, rfl, by decide, by decide⟩, fun {fuel rest} _ enough => ?_⟩
  obtain ⟨fuel, rfl, room⟩ := exists_fuel '{' (membersChars ms) enough
  rw [chars, List.cons_append]
  by_cases none : ms = []
  · subst none
    rfl
  · obtain ⟨after, starts⟩ := membersChars_begins none
    have read := members_chars reads none room rest
    rw [starts, List.cons_append] at read ⊢
    show (members fuel ('"' :: (after ++ rest))).map (fun read => (Json.object read.1, read.2)) = _
    rw [read, Option.map_some]

/-- Well-formed trees are read. -/
theorem reads {j : Json} (wellFormed : j.WellFormed) : Reads j := by
  induction wellFormed with
  | null => exact reads_null
  | bool b => exact reads_bool b
  | number wellFormed => exact reads_number wellFormed
  | string text => exact reads_string text
  -- the induction hypothesis is `Reads` of every item, and of every member
  | array _ reads => exact reads_array reads
  | object _ reads => exact reads_object reads

end Reader

/-- A well-formed tree is what its text is read as. -/
theorem read?_render {j : Json} (wellFormed : j.WellFormed) : read? j.render = some j := by
  have read : Reader.value (2 * (chars j).length + 2) (chars j ++ []) = some (j, []) :=
    (Reader.reads wellFormed).value nofun (by omega)
  rw [read?, render, String.toList_ofList]
  rw [List.append_nil] at read
  rw [read]
  rfl

end ObjectModel.Json
