import Mathlib.Data.List.DropRight
import ScenarioTables.Json.Reader
import ScenarioTables.Json.Writer

/-!
# Texts of a JSON value

Which texts a JSON value has is laid down by a grammar, apart from how a text is read or written
(`Spells`): spaces may stand around the parts, and a character of a string stands for itself or is
escaped in one of several ways. The reader reads every such text as the value (`read?_of_spells`), so
no text belongs to two values (`SpellsText.unique`). The layout over lines is one of the texts of a
value, if the numbers in the value are numbers (`spells_pretty`).

That the reader reads nothing else is not shown here. A number is kept as it is written; so the
grammar has numbers only as the reader checks them.
-/

set_option autoImplicit false

namespace ScenarioTables.Json

/-! ## The grammar -/

/-- A text of spaces. -/
def Spaces (cs : List Char) : Prop :=
  ∀ c ∈ cs, isSpace c = true

/-- **The ways to write a character in a string**: as itself, with an escape of two characters, with
the code of the character, or with the codes of two surrogates. -/
inductive SpellsChar (x : Char) : List Char → Prop where
  | plain (quote : x ≠ '"') (backslash : x ≠ '\\') (control : 0x20 ≤ x.toNat) : SpellsChar x [x]
  | short {letter : Char} (h : shortEscape? letter = some x) : SpellsChar x ['\\', letter]
  | code {a b c d : Char} (h : Text.hexadecimal? [a, b, c, d] = some x.toNat) :
      SpellsChar x ['\\', 'u', a, b, c, d]
  | surrogates {a b c d e f g h : Char} (large : 0x10000 ≤ x.toNat)
      (high : Text.hexadecimal? [a, b, c, d] = some (0xD800 + (x.toNat - 0x10000) / 0x400))
      (low : Text.hexadecimal? [e, f, g, h] = some (0xDC00 + (x.toNat - 0x10000) % 0x400)) :
      SpellsChar x ['\\', 'u', a, b, c, d, '\\', 'u', e, f, g, h]

/-- The ways to write a text between quotes. -/
inductive SpellsChars : List Char → List Char → Prop where
  | nil : SpellsChars [] []
  | cons {x : Char} {xs text rest : List Char} (first : SpellsChar x text)
      (others : SpellsChars xs rest) : SpellsChars (x :: xs) (text ++ rest)

mutual

/-- **The texts of a JSON value**, without spaces around them. -/
inductive Spells : Json → List Char → Prop where
  | null : Spells .null ['n', 'u', 'l', 'l']
  | yes : Spells (.bool true) ['t', 'r', 'u', 'e']
  | no : Spells (.bool false) ['f', 'a', 'l', 's', 'e']
  | number {text : String} (h : isNumber text.toList = true) : Spells (.number text) text.toList
  | string {text : String} {chars : List Char} (h : SpellsChars text.toList chars) :
      Spells (.string text) ('"' :: chars ++ ['"'])
  | emptyArray {spaces : List Char} (h : Spaces spaces) : Spells (.array []) ('[' :: spaces ++ [']'])
  | array {items : List Json} {chars : List Char} (h : SpellsItems items chars) :
      Spells (.array items) ('[' :: chars ++ [']'])
  | emptyObject {spaces : List Char} (h : Spaces spaces) :
      Spells (.object []) ('\x7b' :: spaces ++ ['\x7d'])
  | object {fields : List (String × Json)} {chars : List Char} (h : SpellsFields fields chars) :
      Spells (.object fields) ('\x7b' :: chars ++ ['\x7d'])

/-- The texts of the items of a list, of which there is at least one. -/
inductive SpellsItems : List Json → List Char → Prop where
  | last {item : Json} {before chars behind : List Char} (hbefore : Spaces before)
      (h : Spells item chars) (hbehind : Spaces behind) :
      SpellsItems [item] (before ++ (chars ++ behind))
  | cons {item : Json} {items : List Json} {before chars behind rest : List Char}
      (hbefore : Spaces before) (h : Spells item chars) (hbehind : Spaces behind)
      (others : SpellsItems items rest) :
      SpellsItems (item :: items) (before ++ (chars ++ (behind ++ ',' :: rest)))

/-- The texts of a field. -/
inductive SpellsField : String × Json → List Char → Prop where
  | mk {name : String} {value : Json} {key colon middle chars : List Char}
      (hkey : SpellsChars name.toList key) (hcolon : Spaces colon) (hmiddle : Spaces middle)
      (h : Spells value chars) :
      SpellsField (name, value) ('"' :: (key ++ '"' :: (colon ++ ':' :: (middle ++ chars))))

/-- The texts of the fields of an object, of which there is at least one. -/
inductive SpellsFields : List (String × Json) → List Char → Prop where
  | last {field : String × Json} {before chars behind : List Char} (hbefore : Spaces before)
      (h : SpellsField field chars) (hbehind : Spaces behind) :
      SpellsFields [field] (before ++ (chars ++ behind))
  | cons {field : String × Json} {fields : List (String × Json)}
      {before chars behind rest : List Char} (hbefore : Spaces before)
      (h : SpellsField field chars) (hbehind : Spaces behind) (others : SpellsFields fields rest) :
      SpellsFields (field :: fields) (before ++ (chars ++ (behind ++ ',' :: rest)))

end

/-- **The JSON texts of a value**: its texts, with spaces around them. -/
def SpellsText (value : Json) (text : String) : Prop :=
  ∃ before chars behind, text.toList = before ++ (chars ++ behind)
    ∧ Spaces before ∧ Spells value chars ∧ Spaces behind

/-! ## Reading the parts -/

/-- White space in front is skipped. -/
theorem dropWhile_spaces {spaces rest : List Char} (h : Spaces spaces) :
    (spaces ++ rest).dropWhile isSpace = rest.dropWhile isSpace :=
  List.dropWhile_append_of_pos h

theorem dropWhile_cons {c : Char} (rest : List Char) (h : isSpace c = false) :
    (c :: rest).dropWhile isSpace = c :: rest :=
  List.dropWhile_cons_of_neg (by simp [h])

/-! ### Strings -/

/-- A code point is not a surrogate. -/
theorem toNat_valid (x : Char) :
    x.toNat < 0xD800 ∨ 0xDFFF < x.toNat ∧ x.toNat < 0x110000 :=
  x.valid

/-- A number that is no surrogate stands for its character. -/
theorem unitMeaning?_code (x : Char) : unitMeaning? none x.toNat = some (.character x) := by
  have hvalid := toNat_valid x
  unfold unitMeaning?
  dsimp only
  rw [if_neg (by omega), if_neg (by omega), Char.ofNat_toNat]

section Surrogates

variable {x : Char} (large : 0x10000 ≤ x.toNat)

include large

theorem unitMeaning?_high : unitMeaning? none (0xD800 + (x.toNat - 0x10000) / 0x400)
    = some (.firstHalf (0xD800 + (x.toNat - 0x10000) / 0x400)) := by
  have hvalid := toNat_valid x
  unfold unitMeaning?
  exact if_pos (by omega)

theorem unitMeaning?_low : unitMeaning? (some (0xD800 + (x.toNat - 0x10000) / 0x400))
    (0xDC00 + (x.toNat - 0x10000) % 0x400) = some (.character x) := by
  have hcode : 0x10000 + (0xD800 + (x.toNat - 0x10000) / 0x400 - 0xD800) * 0x400
      + (0xDC00 + (x.toNat - 0x10000) % 0x400 - 0xDC00) = x.toNat := by
    omega
  unfold unitMeaning?
  dsimp only
  rw [if_pos (by omega), hcode, Char.ofNat_toNat]

end Surrogates

/-- A character is read, however it is written. -/
theorem readChars_of_spells {x : Char} {text : List Char} (h : SpellsChar x text)
    (rest : List Char) : readChars none (text ++ rest)
      = (readChars none rest).map fun (xs, rest) => (x :: xs, rest) := by
  cases h with
  | plain quote backslash control =>
    have hcontrol : ¬ (x = '\\' ∨ x.toNat < 0x20) := by
      rintro (hx | hx)
      · exact backslash hx
      · exact absurd hx (Nat.not_lt.mpr control)
    rw [List.singleton_append, readChars, if_neg (by simp), if_neg quote, if_neg hcontrol]
    · rintro a b c d others rfl
      exact fun _ => backslash rfl
    · intro e others hx
      exact fun _ => backslash hx
  | @short letter hletter =>
    have hcode : letter ≠ 'u' := by
      rintro rfl
      cases hletter
    change readChars none ('\\' :: letter :: rest) = _
    rw [readChars, hletter]
    · rfl
    · exact fun _ _ _ _ _ hletter => absurd hletter hcode
  | code hcode =>
    simp only [List.cons_append, List.nil_append]
    rw [readChars, hcode, Option.bind_some, unitMeaning?_code]
  | surrogates large high low =>
    simp only [List.cons_append, List.nil_append]
    rw [readChars, high, Option.bind_some, unitMeaning?_high large]
    dsimp only
    rw [readChars, low, Option.bind_some, unitMeaning?_low large]

/-- A text between quotes is read up to the closing quote. -/
theorem readChars_quoted {xs text : List Char} (h : SpellsChars xs text) (rest : List Char) :
    readChars none (text ++ '"' :: rest) = some (xs, rest) := by
  induction h with
  | nil =>
    rw [List.nil_append, readChars]
    · rfl
    · intro a b c d others hquote
      cases hquote
    · intro e others hquote
      cases hquote
  | cons first others ih =>
    rw [List.append_assoc, readChars_of_spells first, ih]
    rfl

/-! ### Numbers -/

/-- A text of characters that can stand in a number. -/
def Numeric (cs : List Char) : Prop :=
  ∀ c ∈ cs, isNumberChar c = true

/-- Digits are characters of numbers. -/
theorem numeric_of_isDigits {cs : List Char} (h : isDigits cs = true) : Numeric cs := by
  intro c hc
  simp only [isDigits, Bool.and_eq_true, List.all_eq_true] at h
  simp [isNumberChar, h.2 c hc]

theorem numeric_of_isExponent {cs : List Char} (h : isExponent cs = true) : Numeric cs := by
  unfold isExponent at h
  split at h
  · exact List.forall_mem_cons.mpr ⟨rfl, numeric_of_isDigits h⟩
  · exact List.forall_mem_cons.mpr ⟨rfl, numeric_of_isDigits h⟩
  · exact numeric_of_isDigits h

/-- An exponent with its letter. -/
theorem numeric_cons_exponent {c : Char} {cs : List Char}
    (h : ((c == 'e' || c == 'E') && isExponent cs) = true) : Numeric (c :: cs) := by
  simp only [Bool.and_eq_true, Bool.or_eq_true, beq_iff_eq] at h
  obtain ⟨hletter, hexponent⟩ := h
  refine List.forall_mem_cons.mpr ⟨?_, numeric_of_isExponent hexponent⟩
  rcases hletter with rfl | rfl <;> rfl

/-- A text is numeric if it is behind its first digits. -/
theorem numeric_of_dropWhile {cs : List Char} (h : Numeric (cs.dropWhile (·.isDigit))) :
    Numeric cs := by
  rw [← @List.takeWhile_append_dropWhile _ (·.isDigit) cs]
  intro c hc
  rcases List.mem_append.mp hc with hdigit | hrest
  · have hdigit := List.mem_takeWhile_imp hdigit
    simp [isNumberChar, hdigit]
  · exact h c hrest

theorem numeric_of_isNumberTail {cs : List Char} (h : isNumberTail cs = true) : Numeric cs := by
  unfold isNumberTail at h
  split at h
  · exact fun c hc => nomatch hc
  next cs =>
    refine List.forall_mem_cons.mpr ⟨rfl, numeric_of_dropWhile ?_⟩
    dsimp only at h
    split at h
    next hnil => rw [hnil]; exact fun c hc => nomatch hc
    next c rest hrest =>
      rw [hrest]
      rw [Bool.and_assoc] at h
      exact numeric_cons_exponent (Bool.and_eq_true_iff.mp h).2
  next => exact numeric_cons_exponent h

theorem numeric_of_isUnsignedNumber {cs : List Char} (h : isUnsignedNumber cs = true) :
    Numeric cs := by
  unfold isUnsignedNumber at h
  split at h
  · exact List.forall_mem_cons.mpr ⟨rfl, numeric_of_isNumberTail h⟩
  next c cs _ =>
    obtain ⟨hdigit, htail⟩ := Bool.and_eq_true_iff.mp h
    refine List.forall_mem_cons.mpr ⟨by simp [isNumberChar, hdigit], ?_⟩
    exact numeric_of_dropWhile (numeric_of_isNumberTail htail)
  · cases h

/-- All characters of a number are characters of numbers. -/
theorem numeric_of_isNumber {cs : List Char} (h : isNumber cs = true) : Numeric cs := by
  unfold isNumber at h
  split at h
  · exact List.forall_mem_cons.mpr ⟨rfl, numeric_of_isUnsignedNumber h⟩
  · exact numeric_of_isUnsignedNumber h

/-- A number ends where no more of it can follow. -/
def EndsNumber (rest : List Char) : Prop :=
  ∀ c ∈ rest.head?, isNumberChar c = false

theorem readNumber_append {text rest : List Char} (h : isNumber text = true)
    (hrest : EndsNumber rest) :
    readNumber (text ++ rest) = some (.number (String.ofList text), rest) := by
  have hnumeric := numeric_of_isNumber h
  have hstop : rest.takeWhile isNumberChar = [] ∧ rest.dropWhile isNumberChar = rest := by
    cases rest with
    | nil => exact ⟨rfl, rfl⟩
    | cons c rest => simp [hrest c rfl]
  rw [readNumber, List.takeWhile_append_of_pos hnumeric, hstop.1, List.append_nil, if_pos h,
    List.dropWhile_append_of_pos hnumeric, hstop.2]

/-! ## Reading a value -/

/-- A character that can stand in a number begins nothing else. -/
theorem ne_of_isNumberChar {c other : Char} (h : isNumberChar c = true)
    (hother : isNumberChar other = false) : c ≠ other := by
  rintro rfl
  rw [h] at hother
  cases hother

theorem isNumberChar_of_isSpace {c : Char} (h : isSpace c = true) : isNumberChar c = false := by
  simp only [isSpace, Bool.or_eq_true, beq_iff_eq] at h
  rcases h with ((rfl | rfl) | rfl) | rfl <;> rfl

theorem isSpace_of_isNumberChar {c : Char} (h : isNumberChar c = true) : isSpace c = false := by
  refine Bool.eq_false_iff.mpr fun hspace => ?_
  rw [isNumberChar_of_isSpace hspace] at h
  cases h

/-- A mark that no number has in it, with spaces before it, ends a number. -/
theorem endsNumber_spaces {spaces rest : List Char} {mark : Char} (h : Spaces spaces)
    (hmark : isNumberChar mark = false) : EndsNumber (spaces ++ mark :: rest) := by
  intro c hc
  cases spaces with
  | nil =>
    cases hc
    exact hmark
  | cons first spaces =>
    cases hc
    exact isNumberChar_of_isSpace (h c List.mem_cons_self)

/-- A number begins like no other value. -/
theorem exists_cons_of_isNumber {text : List Char} (h : isNumber text = true) :
    ∃ c cs, text = c :: cs ∧ isNumberChar c = true := by
  cases text with
  | nil => cases h
  | cons c cs => exact ⟨c, cs, rfl, numeric_of_isNumber h c List.mem_cons_self⟩

/-- A text of a value begins with no space and does not end a list. -/
theorem Spells.exists_cons {value : Json} {chars : List Char} (h : Spells value chars) :
    ∃ c cs, chars = c :: cs ∧ isSpace c = false ∧ c ≠ ']' := by
  cases h with
  | number h =>
    obtain ⟨c, cs, htext, hc⟩ := exists_cons_of_isNumber h
    exact ⟨c, cs, htext, isSpace_of_isNumberChar hc, ne_of_isNumberChar hc rfl⟩
  | _ => exact ⟨_, _, rfl, rfl, by decide⟩

theorem readValue_dropWhile (fuel : Nat) (cs : List Char) :
    readValue fuel (cs.dropWhile isSpace) = readValue fuel cs := by
  cases fuel with
  | zero => rfl
  | succ fuel => rw [readValue, readValue, List.dropWhile_idempotent]

theorem readItems_dropWhile (fuel : Nat) (cs : List Char) :
    readItems fuel (cs.dropWhile isSpace) = readItems fuel cs := by
  cases fuel with
  | zero => rfl
  | succ fuel => rw [readItems, readItems, readValue_dropWhile]

theorem readFields_dropWhile (fuel : Nat) (cs : List Char) :
    readFields fuel (cs.dropWhile isSpace) = readFields fuel cs := by
  cases fuel with
  | zero => rfl
  | succ fuel => rw [readFields, readFields, List.dropWhile_idempotent]

theorem readValue_spaces {spaces : List Char} (h : Spaces spaces) (fuel : Nat) (rest : List Char) :
    readValue fuel (spaces ++ rest) = readValue fuel rest := by
  rw [← readValue_dropWhile, dropWhile_spaces h, readValue_dropWhile]

theorem readFields_spaces {spaces : List Char} (h : Spaces spaces) (fuel : Nat) (rest : List Char) :
    readFields fuel (spaces ++ rest) = readFields fuel rest := by
  rw [← readFields_dropWhile, dropWhile_spaces h, readFields_dropWhile]

/-- A number is read up to its end. -/
theorem readValue_number {text rest : List Char} (h : isNumber text = true)
    (hrest : EndsNumber rest) (fuel : Nat) :
    readValue (fuel + 1) (text ++ rest) = some (.number (String.ofList text), rest) := by
  obtain ⟨c, cs, rfl, hc⟩ := exists_cons_of_isNumber h
  have hne {other : Char} {more others : List Char} (hother : isNumberChar other = false) :
      c :: more ≠ other :: others := fun heq => ne_of_isNumberChar hc hother (List.cons.inj heq).1
  have hatom : readAtom (c :: (cs ++ rest)) = readNumber (c :: (cs ++ rest)) := by
    unfold readAtom
    split
    next heq => exact absurd heq (hne rfl)
    next heq => exact absurd heq (hne rfl)
    next heq => exact absurd heq (hne rfl)
    next => rfl
  rw [← readNumber_append h hrest, List.cons_append, ← hatom, readValue,
    dropWhile_cons _ (isSpace_of_isNumberChar hc)]
  split
  next heq => exact absurd heq (hne rfl)
  next heq => exact absurd heq (hne rfl)
  next heq => exact absurd heq (hne rfl)
  next => rfl

/-- What stands between brackets is read as items, if it is not the end of the list. -/
theorem readValue_array {c : Char} {cs tail : List Char} (hcs : cs.dropWhile isSpace = c :: tail)
    (hc : c ≠ ']') (fuel : Nat) : readValue (fuel + 1) ('[' :: cs)
      = (readItems fuel cs).map fun (items, rest) => (.array items, rest) := by
  rw [← readItems_dropWhile, readValue, dropWhile_cons cs rfl]
  simp only
  rw [hcs]
  split
  next hend => exact absurd (List.cons.inj hend).1 hc
  next => rfl

/-- What stands between braces is read as fields, if it is not the end of the object. -/
theorem readValue_object {c : Char} {cs tail : List Char} (hcs : cs.dropWhile isSpace = c :: tail)
    (hc : c ≠ '\x7d') (fuel : Nat) : readValue (fuel + 1) ('\x7b' :: cs)
      = (readFields fuel cs).map fun (fields, rest) => (.object fields, rest) := by
  rw [← readFields_dropWhile, readValue, dropWhile_cons cs rfl]
  simp only
  rw [hcs]
  split
  next hend => exact absurd (List.cons.inj hend).1 hc
  next => rfl

/-- Items begin with a value, after spaces. -/
theorem SpellsItems.exists_dropWhile {items : List Json} {chars : List Char}
    (h : SpellsItems items chars) (rest : List Char) :
    ∃ c tail, (chars ++ rest).dropWhile isSpace = c :: tail ∧ c ≠ ']' := by
  have hitem {item : Json} {before chars : List Char} (hbefore : Spaces before)
      (h : Spells item chars) (rest : List Char) :
      ∃ c tail, (before ++ (chars ++ rest)).dropWhile isSpace = c :: tail ∧ c ≠ ']' := by
    obtain ⟨c, cs, rfl, hspace, hc⟩ := h.exists_cons
    rw [dropWhile_spaces hbefore, List.cons_append, dropWhile_cons _ hspace]
    exact ⟨c, _, rfl, hc⟩
  cases h with
  | last hbefore h _ => simpa only [List.append_assoc] using hitem hbefore h _
  | cons hbefore h _ _ =>
    simpa only [List.append_assoc, List.cons_append] using hitem hbefore h _

/-- Fields begin with a quote, after spaces. -/
theorem SpellsFields.exists_dropWhile {fields : List (String × Json)} {chars : List Char}
    (h : SpellsFields fields chars) (rest : List Char) :
    ∃ tail, (chars ++ rest).dropWhile isSpace = '"' :: tail := by
  have hfield {field : String × Json} {before chars : List Char} (hbefore : Spaces before)
      (h : SpellsField field chars) (rest : List Char) :
      ∃ tail, (before ++ (chars ++ rest)).dropWhile isSpace = '"' :: tail := by
    cases h with
    | mk =>
      rw [dropWhile_spaces hbefore, List.cons_append, dropWhile_cons _ rfl]
      exact ⟨_, rfl⟩
  cases h with
  | last hbefore h _ => simpa only [List.append_assoc] using hfield hbefore h _
  | cons hbefore h _ _ =>
    simpa only [List.append_assoc, List.cons_append] using hfield hbefore h _

mutual

/-- A value is read up to its end, whatever follows that no number can go on with. -/
theorem readValue_of_spells {value : Json} {chars : List Char} (h : Spells value chars)
    {fuel : Nat} (hfuel : chars.length < fuel) {rest : List Char} (hrest : EndsNumber rest) :
    readValue fuel (chars ++ rest) = some (value, rest) := by
  obtain ⟨fuel, rfl⟩ := Nat.exists_eq_add_one_of_ne_zero (Nat.ne_zero_of_lt hfuel)
  cases h with
  | null => rfl
  | yes => rfl
  | no => rfl
  | number hnumber => rw [readValue_number hnumber hrest, String.ofList_toList]
  | string htext =>
    rw [List.append_assoc, List.cons_append, List.singleton_append, readValue, dropWhile_cons _ rfl]
    simp only
    rw [readChars_quoted htext, Option.map_some, String.ofList_toList]
  | emptyArray hspaces =>
    rw [List.append_assoc, List.cons_append, List.singleton_append, readValue, dropWhile_cons _ rfl]
    simp only
    rw [dropWhile_spaces hspaces, dropWhile_cons _ rfl]
    rfl
  | @array items chars hitems =>
    rw [List.append_assoc, List.cons_append, List.singleton_append]
    obtain ⟨c, tail, hstart, hc⟩ := hitems.exists_dropWhile (']' :: rest)
    have hlength : chars.length + 1 < fuel := by simpa using hfuel
    rw [readValue_array hstart hc, readItems_of_spells hitems hlength, Option.map_some]
  | emptyObject hspaces =>
    rw [List.append_assoc, List.cons_append, List.singleton_append, readValue, dropWhile_cons _ rfl]
    simp only
    rw [dropWhile_spaces hspaces, dropWhile_cons _ rfl]
    rfl
  | @object fields chars hfields =>
    rw [List.append_assoc, List.cons_append, List.singleton_append]
    obtain ⟨tail, hstart⟩ := hfields.exists_dropWhile ('\x7d' :: rest)
    have hlength : chars.length + 1 < fuel := by simpa using hfuel
    rw [readValue_object hstart (by decide), readFields_of_spells hfields hlength, Option.map_some]

/-- Items are read up to the closing bracket. -/
theorem readItems_of_spells {items : List Json} {chars : List Char} (h : SpellsItems items chars)
    {fuel : Nat} (hfuel : chars.length + 1 < fuel) (rest : List Char) :
    readItems fuel (chars ++ ']' :: rest) = some (items, rest) := by
  obtain ⟨fuel, rfl⟩ := Nat.exists_eq_add_one_of_ne_zero (Nat.ne_zero_of_lt hfuel)
  cases h with
  | last hbefore hitem hbehind =>
    simp only [List.length_append] at hfuel
    simp only [List.append_assoc]
    rw [readItems, readValue_spaces hbefore,
      readValue_of_spells hitem (by omega) (endsNumber_spaces hbehind rfl)]
    simp only
    rw [dropWhile_spaces hbehind, dropWhile_cons _ rfl]
    rfl
  | cons hbefore hitem hbehind hitems =>
    simp only [List.length_append, List.length_cons] at hfuel
    simp only [List.append_assoc, List.cons_append]
    rw [readItems, readValue_spaces hbefore,
      readValue_of_spells hitem (by omega) (endsNumber_spaces hbehind rfl)]
    simp only
    rw [dropWhile_spaces hbehind, dropWhile_cons _ rfl]
    simp only
    rw [readItems_of_spells hitems (by omega), Option.map_some]

/-- A field is read up to the mark behind it: a comma, with more fields to come, or the brace. -/
theorem readFields_of_spellsField {field : String × Json} {chars : List Char}
    (h : SpellsField field chars) {fuel : Nat} (hfuel : chars.length ≤ fuel)
    {rest later : List Char} (hrest : EndsNumber rest) :
    (rest.dropWhile isSpace = ',' :: later → readFields (fuel + 1) (chars ++ rest)
        = (readFields fuel later).map fun (fields, rest) => (field :: fields, rest))
      ∧ (rest.dropWhile isSpace = '\x7d' :: later →
        readFields (fuel + 1) (chars ++ rest) = some ([field], later)) := by
  cases h with
  | mk hkey hcolon hmiddle hvalue =>
    simp only [List.length_append, List.length_cons] at hfuel
    simp only [List.append_assoc, List.cons_append]
    rw [readFields, dropWhile_cons _ rfl]
    simp only
    rw [readChars_quoted hkey]
    simp only
    rw [dropWhile_spaces hcolon, dropWhile_cons _ rfl]
    simp only
    rw [readValue_spaces hmiddle, readValue_of_spells hvalue (by omega) hrest,
      String.ofList_toList]
    constructor
    · intro hmark
      simp only [hmark]
    · intro hmark
      simp only [hmark]

/-- Fields are read up to the closing brace. -/
theorem readFields_of_spells {fields : List (String × Json)} {chars : List Char}
    (h : SpellsFields fields chars) {fuel : Nat} (hfuel : chars.length + 1 < fuel)
    (rest : List Char) : readFields fuel (chars ++ '\x7d' :: rest) = some (fields, rest) := by
  obtain ⟨fuel, rfl⟩ := Nat.exists_eq_add_one_of_ne_zero (Nat.ne_zero_of_lt hfuel)
  cases h with
  | last hbefore hfield hbehind =>
    simp only [List.length_append] at hfuel
    simp only [List.append_assoc]
    rw [readFields_spaces hbefore]
    apply (readFields_of_spellsField hfield (by omega) (endsNumber_spaces hbehind rfl)).2
    rw [dropWhile_spaces hbehind, dropWhile_cons _ rfl]
  | cons hbefore hfield hbehind hfields =>
    simp only [List.length_append, List.length_cons] at hfuel
    simp only [List.append_assoc, List.cons_append]
    rw [readFields_spaces hbefore,
      (readFields_of_spellsField hfield (by omega) (endsNumber_spaces hbehind rfl)).1,
      readFields_of_spells hfields (by omega), Option.map_some]
    rw [dropWhile_spaces hbehind, dropWhile_cons _ rfl]

end

/-- **The reader reads every text of a value.** -/
theorem read?_of_spells {value : Json} {text : String} (h : SpellsText value text) :
    read? text = some value := by
  obtain ⟨before, chars, behind, htext, hbefore, hvalue, hbehind⟩ := h
  have hlength : chars.length < text.toList.length + 1 := by
    simp only [htext, List.length_append]
    omega
  have hend : EndsNumber behind := fun c hc =>
    isNumberChar_of_isSpace (hbehind c (List.mem_of_mem_head? hc))
  have hread := readValue_of_spells hvalue hlength hend
  rw [← readValue_spaces hbefore, ← htext] at hread
  rw [read?, hread]
  exact if_pos (List.all_eq_true.mpr hbehind)

/-- No text belongs to two values. -/
theorem SpellsText.unique {value other : Json} {text : String} (h : SpellsText value text)
    (hother : SpellsText other text) : value = other :=
  Option.some.inj ((read?_of_spells h).symm.trans (read?_of_spells hother))

/-! ## Writing a value -/

/-- The code of a control character is read back from its two digits. -/
theorem hexadecimal?_control : ∀ n < 0x20,
    Text.hexadecimal? ('0' :: '0' :: twoHexDigits n) = some n := by
  decide

/-- A character is written in one of its ways. -/
theorem spellsChar_escapeChar (x : Char) : SpellsChar x (escapeChar x) := by
  have hshort {letter mark : Char} (h : shortEscape? letter = some mark) (hx : x = mark) :
      SpellsChar x ['\\', letter] := .short (hx ▸ h)
  fun_cases escapeChar x with
  | case1 h => exact hshort rfl h
  | case2 _ h => exact hshort rfl h
  | case3 _ _ h => exact hshort rfl h
  | case4 _ _ _ h => exact hshort rfl h
  | case5 _ _ _ _ h => exact hshort rfl h
  | case6 _ _ _ _ _ h => exact hshort rfl h
  | case7 _ _ _ _ _ _ h => exact hshort rfl h
  | case8 _ _ _ _ _ _ _ hcontrol => exact .code (hexadecimal?_control x.toNat hcontrol)
  | case9 hquote hbackslash _ _ _ _ _ hcontrol =>
    exact .plain hquote hbackslash (Nat.not_lt.mp hcontrol)

/-- Escaped characters spell the text. -/
theorem spellsChars_escape (xs : List Char) : SpellsChars xs (xs.flatMap escapeChar) := by
  induction xs with
  | nil => exact .nil
  | cons x xs ih => exact .cons (spellsChar_escapeChar x) ih

theorem spaces_nil : Spaces [] :=
  fun _ hc => nomatch hc

/-- A new line is a text of spaces. -/
theorem spaces_lineAt (depth : Nat) : Spaces (lineAt depth) := by
  intro c hc
  rcases List.mem_cons.mp hc with rfl | hspace
  · rfl
  · rw [List.eq_of_mem_replicate hspace]
    rfl

/-- **A value in which every number is a number.** -/
inductive Sound : Json → Prop where
  | null : Sound .null
  | bool (value : Bool) : Sound (.bool value)
  | number {text : String} (h : isNumber text.toList = true) : Sound (.number text)
  | string (text : String) : Sound (.string text)
  | array {items : List Json} (h : ∀ item ∈ items, Sound item) : Sound (.array items)
  | object {fields : List (String × Json)} (h : ∀ field ∈ fields, Sound field.2) :
      Sound (.object fields)

/-- A field on one line. -/
theorem spellsField_pretty {depth : Nat} (name : String) {value : Json}
    (h : Spells value (prettyAt depth value)) : SpellsField (name, value)
      ('"' :: (name.toList.flatMap escapeChar ++ '"' :: ':' :: ' ' :: prettyAt depth value)) :=
  .mk (spellsChars_escape name.toList) spaces_nil (List.forall_mem_singleton.mpr rfl) h

section Lines

variable {depth : Nat} {before behind : List Char} (hbehind : Spaces behind)

include hbehind

/-- Items on lines of their own, of which the first stands behind some spaces. -/
theorem spellsItems_pretty {item : Json} {items : List Json} (hbefore : Spaces before)
    (h : ∀ other ∈ item :: items, Spells other (prettyAt depth other)) :
    SpellsItems (item :: items)
      (before ++ (prettyAt depth item ++ (prettyItems depth items ++ behind))) := by
  induction items generalizing item before with
  | nil => exact .last hbefore (h item List.mem_cons_self) hbehind
  | cons next items ih =>
    obtain ⟨hitem, hothers⟩ := List.forall_mem_cons.mp h
    have hitems := SpellsItems.cons hbefore hitem spaces_nil (ih (spaces_lineAt depth) hothers)
    simpa only [prettyItems, List.append_assoc, List.cons_append, List.nil_append] using hitems

/-- Fields on lines of their own, of which the first stands behind some spaces. -/
theorem spellsFields_pretty {name : String} {value : Json} {fields : List (String × Json)}
    (hbefore : Spaces before)
    (h : ∀ field ∈ (name, value) :: fields, Spells field.2 (prettyAt depth field.2)) :
    SpellsFields ((name, value) :: fields)
      (before ++ (writeString name ++ (':' :: ' ' ::
        (prettyAt depth value ++ (prettyFields depth fields ++ behind))))) := by
  induction fields generalizing name value before with
  | nil =>
    have hlast := SpellsFields.last hbefore (spellsField_pretty name (h _ List.mem_cons_self))
      hbehind
    simpa only [writeString, prettyFields, List.append_assoc, List.cons_append, List.nil_append]
      using hlast
  | cons next fields ih =>
    obtain ⟨hvalue, hothers⟩ := List.forall_mem_cons.mp h
    have hfields := SpellsFields.cons hbefore (spellsField_pretty name hvalue) spaces_nil
      (ih (spaces_lineAt depth) hothers)
    simpa only [writeString, prettyFields, List.append_assoc, List.cons_append, List.nil_append]
      using hfields

end Lines

/-- At every depth of indentation the writer spells the value. -/
theorem spells_prettyAt {value : Json} (h : Sound value) (depth : Nat) :
    Spells value (prettyAt depth value) := by
  induction h generalizing depth with
  | null => exact .null
  | bool value => cases value with
    | false => exact .no
    | true => exact .yes
  | number h => exact .number h
  | string text => exact .string (spellsChars_escape text.toList)
  | @array items h ih =>
    cases items with
    | nil => exact .emptyArray spaces_nil
    | cons item items =>
      have hitems := spellsItems_pretty (spaces_lineAt depth) (spaces_lineAt (depth + 1))
        fun other hother => ih other hother (depth + 1)
      simpa only [prettyAt, List.append_assoc, List.cons_append] using Spells.array hitems
  | @object fields h ih =>
    cases fields with
    | nil => exact .emptyObject spaces_nil
    | cons field fields =>
      have hfields := spellsFields_pretty (spaces_lineAt depth) (spaces_lineAt (depth + 1))
        fun other hother => ih other hother (depth + 1)
      simpa only [prettyAt, List.append_assoc, List.cons_append, List.nil_append] using
        Spells.object hfields

/-- **The layout over lines is a text of the value.** -/
theorem spells_pretty {value : Json} (h : Sound value) : SpellsText value value.pretty :=
  ⟨[], prettyAt 0 value, [], by simp [pretty], spaces_nil, spells_prettyAt h 0, spaces_nil⟩

end ScenarioTables.Json
