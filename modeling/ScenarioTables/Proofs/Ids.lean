import ScenarioTables.Proofs.Document

/-!
# The ids of instructions

An id is a flat text: the id of a table, then the number of an action in it, or the row of a call
and the id of the called table, and so on inwards. Read from its beginning such a text has one
meaning. A number ends where the text has no further digit, and what ends a number tells an action
(nothing), a call (a slash) and, behind a table of the document, what lies in the table (an
underscore) from one another (`Text.number_inj`).

So no two instructions of a document have one id (`ids_nodup`). Nothing is asked of the ids of
scenarios: the scenarios that are called from one row are never more than one, and the ids in its
call all begin alike. That a refused table hands its number on does no harm, as it has no
instructions.
-/

set_option autoImplicit false

namespace ScenarioTables

namespace Text

/-- A text that can stand behind a number: it does not go on with a digit. -/
def EndsNumber (text : String) : Prop :=
  ∀ c ∈ text.toList.head?, c.isDigit = false

/-- The digits of a number end where no digit follows. -/
private theorem takeWhile_digits {rest : List Char}
    (hrest : ∀ c ∈ rest.head?, c.isDigit = false) (n : Nat) :
    (Nat.toDigits 10 n ++ rest).takeWhile Char.isDigit = Nat.toDigits 10 n := by
  have hstop : rest.takeWhile Char.isDigit = [] := by
    cases rest with
    | nil => rfl
    | cons c rest => exact List.takeWhile_cons_of_neg (by simp [hrest c rfl])
  have hdigits : ∀ c ∈ Nat.toDigits 10 n, c.isDigit = true := fun c hc =>
    Nat.isDigit_of_mem_toDigits (by decide) (by decide) hc
  rw [List.takeWhile_append_of_pos hdigits, hstop, List.append_nil]

/-- Behind one beginning a number and what ends it can be told apart. -/
theorem number_inj {start : String} {n m : Nat} {first second : String}
    (hfirst : EndsNumber first) (hsecond : EndsNumber second)
    (h : start ++ toString n ++ first = start ++ toString m ++ second) :
    n = m ∧ first = second := by
  have hchars : Nat.toDigits 10 n ++ first.toList = Nat.toDigits 10 m ++ second.toList := by
    have hlists := congrArg String.toList h
    simp only [String.toList_append, Nat.toString_eq_repr, Nat.toList_repr, List.append_assoc]
      at hlists
    exact List.append_cancel_left hlists
  have hdigits : Nat.toDigits 10 n = Nat.toDigits 10 m := by
    rw [← takeWhile_digits hfirst n, hchars, takeWhile_digits hsecond m]
  have hnumber : n = m := by
    rw [← Nat.ofDigitChars_ten_toDigits (n := n), hdigits, Nat.ofDigitChars_ten_toDigits]
  subst hnumber
  exact ⟨rfl, String.toList_inj.mp (List.append_cancel_left hchars)⟩

/-- A text that begins with a number begins with a digit. -/
theorem not_endsNumber_number (n : Nat) (rest : String) : ¬ EndsNumber (toString n ++ rest) := by
  intro h
  obtain ⟨c, digits, hdigits⟩ :=
    List.exists_cons_of_ne_nil (Nat.toDigits_ne_nil (n := n) (b := 10))
  have hhead : (toString n ++ rest).toList.head? = some c := by
    rw [String.toList_append, Nat.toString_eq_repr, Nat.toList_repr, hdigits]
    rfl
  have hdigit : c.isDigit = true := by
    refine Nat.isDigit_of_mem_toDigits (b := 10) (n := n) (by decide) (by decide) ?_
    rw [hdigits]
    exact List.mem_cons_self
  rw [h c hhead] at hdigit
  exact absurd hdigit (by decide)

theorem endsNumber_empty : EndsNumber "" := by
  intro c hc
  cases hc

theorem endsNumber_slash (rest : String) : EndsNumber ("/" ++ rest) := by
  intro c hc
  rw [String.toList_append] at hc
  cases hc
  rfl

theorem endsNumber_underscore (rest : String) : EndsNumber ("_" ++ rest) := by
  intro c hc
  rw [String.toList_append] at hc
  cases hc
  rfl

theorem slash_ne_empty (rest : String) : "/" ++ rest ≠ "" := by
  intro h
  have hchars := congrArg String.toList h
  rw [String.toList_append] at hchars
  cases hchars

end Text

/-- The ids of the instructions of some assertions. -/
def idsOf (checks : List Check) : List String :=
  checks.map fun check => check.instruction.id

theorem idsOf_append (first second : List Check) :
    idsOf (first ++ second) = idsOf first ++ idsOf second :=
  List.map_append

/-- What stands in an id behind the number that follows a table's id, when the rows of the table are
read from a place on: nothing behind the number of an action, and a slash behind the row of a call.
-/
inductive Place.Ends (place : Place) (number : Nat) : String → Prop
  | action : place.number ≤ number → Ends place number ""
  | call (inner : String) : place.row ≤ number → Ends place number ("/" ++ inner)

/-- The ids that rows read from a place on can give. -/
def Place.Names (place : Place) (id : String) : Prop :=
  ∃ number rest, id = place.assignment.tableId ++ "_" ++ toString number ++ rest
    ∧ place.Ends number rest

namespace Place

variable {place : Place} {number : Nat} {rest id : String}

/-- What can stand behind the number of an id begins with no digit. -/
theorem Ends.endsNumber (h : place.Ends number rest) : Text.EndsNumber rest := by
  cases h with
  | action _ => exact Text.endsNumber_empty
  | call inner _ => exact Text.endsNumber_slash inner

theorem Ends.of_empty (h : place.Ends number "") : place.number ≤ number := by
  generalize hrest : "" = rest at h
  cases h with
  | action hle => exact hle
  | call inner _ => exact absurd hrest.symm (Text.slash_ne_empty inner)

theorem Ends.of_slash {inner : String} (h : place.Ends number ("/" ++ inner)) :
    place.row ≤ number := by
  generalize hrest : "/" ++ inner = rest at h
  cases h with
  | action _ => exact absurd hrest (Text.slash_ne_empty inner)
  | call _ hle => exact hle

/-- What can be named further on in a script can be named here. -/
theorem Names.earlier {later : Place} (h : later.Names id)
    (hassignment : later.assignment = place.assignment) (hnumber : place.number ≤ later.number)
    (hrow : place.row ≤ later.row) : place.Names id := by
  obtain ⟨number, rest, rfl, hends⟩ := h
  refine ⟨number, rest, by rw [hassignment], ?_⟩
  cases hends with
  | action hle => exact .action (Nat.le_trans hnumber hle)
  | call inner hle => exact .call inner (Nat.le_trans hrow hle)

/-- Everything in a call made here is named by the row here. -/
theorem Names.of_inside {scenario : Scenario} {rows : List (List String)}
    (h : (place.inside scenario rows).Names id) :
    ∃ inner, id = place.assignment.tableId ++ "_" ++ toString place.row ++ ("/" ++ inner) := by
  obtain ⟨number, rest, rfl, -⟩ := h
  refine ⟨scenario.tableId ++ "_" ++ toString number ++ rest, ?_⟩
  simp only [inside, Scenario.callId, site, Script.siteOf, String.append_assoc]

theorem rollUp_id (place : Place) (scenario : Scenario) : (place.rollUp scenario).instruction.id
    = place.assignment.tableId ++ "_" ++ toString place.row
      ++ ("/" ++ (scenario.tableId ++ "_rollup")) := by
  simp only [rollUp, Scenario.rollUp, Instruction.id, Scenario.callId, site, Script.siteOf,
    String.append_assoc]

/-- The roll-up of a call is not named like anything in the call. -/
theorem not_names_rollUp (place : Place) (scenario : Scenario) (rows : List (List String)) :
    ¬ (place.inside scenario rows).Names (place.rollUp scenario).instruction.id := by
  rintro ⟨number, rest, hid, -⟩
  have hnumber : "rollup" = toString number ++ rest := by
    refine (String.append_right_inj (scenario.callId place.site ++ "_")).mp ?_
    simp only [rollUp, Scenario.rollUp, Instruction.id, inside] at hid
    rw [← String.append_assoc, ← hid, String.append_assoc]
    rfl
  refine Text.not_endsNumber_number number rest (hnumber ▸ ?_)
  intro c hc
  cases hc
  rfl

/-- An action here is not named by anything further on. -/
theorem not_names_action (place : Place) :
    ¬ place.behindAction.Names (place.assignment.tableId ++ "_" ++ toString place.number) := by
  rintro ⟨number, rest, hid, hends⟩
  rw [← String.append_empty (s := _ ++ toString place.number)] at hid
  obtain ⟨rfl, rfl⟩ := Text.number_inj Text.endsNumber_empty hends.endsNumber hid
  exact absurd hends.of_empty (Nat.not_succ_le_self _)

/-- A call here is not named by anything further on. -/
theorem not_names_call (place : Place) (calls : Nat) (inner : String) :
    ¬ (place.behindCall calls).Names
        (place.assignment.tableId ++ "_" ++ toString place.row ++ ("/" ++ inner)) := by
  rintro ⟨number, rest, hid, hends⟩
  obtain ⟨rfl, rfl⟩ := Text.number_inj (Text.endsNumber_slash inner) hends.endsNumber hid
  exact absurd hends.of_slash (Nat.not_succ_le_self _)

end Place

namespace Outline

/-- Rows give ids that they can be told by. -/
theorem names_of_mem_idsOf (outline : Outline) (place : Place) :
    ∀ id ∈ idsOf (outline.checks place), place.Names id := by
  induction outline generalizing place with
  | done => intro id hid; cases hid
  | note cells rest ih =>
    intro id hid
    exact (ih place.behindNote id hid).earlier rfl (Nat.le_refl _) (Nat.le_succ _)
  | action cells judge parts rest ih =>
    intro id hid
    rcases List.mem_cons.mp hid with rfl | hrest
    · exact ⟨place.number, "", String.append_empty.symm, .action (Nat.le_refl _)⟩
    · exact (ih place.behindAction id hrest).earlier rfl (Nat.le_succ _) (Nat.le_succ _)
  | call scenario rows body rest ihbody ihrest =>
    intro id hid
    simp only [checks, idsOf_append, List.mem_append] at hid
    rcases hid with (hbody | hrollUp) | hrest
    · obtain ⟨inner, rfl⟩ := (ihbody (place.inside scenario rows) id hbody).of_inside
      exact ⟨place.row, _, rfl, .call inner (Nat.le_refl _)⟩
    · rw [List.mem_singleton.mp hrollUp]
      exact ⟨place.row, _, place.rollUp_id scenario, .call _ (Nat.le_refl _)⟩
    · exact (ihrest (place.behindCall body.callCount) id hrest).earlier rfl (Nat.le_refl _)
        (Nat.le_succ _)

/-- Rows never give one id twice. -/
theorem idsOf_checks_nodup (outline : Outline) (place : Place) :
    (idsOf (outline.checks place)).Nodup := by
  induction outline generalizing place with
  | done => exact .nil
  | note cells rest ih => exact ih place.behindNote
  | action cells judge parts rest ih =>
    refine List.nodup_cons.mpr ⟨?_, ih place.behindAction⟩
    intro hmem
    exact place.not_names_action (rest.names_of_mem_idsOf place.behindAction _ hmem)
  | call scenario rows body rest ihbody ihrest =>
    have hbehind : ∀ id ∈ idsOf (rest.checks (place.behindCall body.callCount)), ∀ inner,
        id ≠ place.assignment.tableId ++ "_" ++ toString place.row ++ ("/" ++ inner) := by
      rintro id hid inner rfl
      exact place.not_names_call body.callCount inner (rest.names_of_mem_idsOf _ _ hid)
    simp only [checks, idsOf_append]
    have hinside := body.names_of_mem_idsOf (place.inside scenario rows)
    refine List.nodup_append.mpr ⟨List.nodup_append.mpr ⟨ihbody _, ?_, ?_⟩, ihrest _, ?_⟩
    · exact List.pairwise_singleton _ _
    · rintro id hid _ hrollUp rfl
      rw [List.mem_singleton.mp hrollUp] at hid
      exact place.not_names_rollUp scenario rows (hinside _ hid)
    · rintro id hid other hother rfl
      rcases List.mem_append.mp hid with hbody | hrollUp
      · obtain ⟨inner, hinner⟩ := (hinside id hbody).of_inside
        exact hbehind id hother inner hinner
      · rw [List.mem_singleton.mp hrollUp] at hother
        exact hbehind _ hother _ (place.rollUp_id scenario)

end Outline

namespace Document

variable {defaultKind : String} {depth : Nat} {document next last : Document}

/-- The ids of a document are distinct, and each begins with the id of one of its tables. -/
structure Identifies (document : Document) : Prop where
  distinct : (idsOf document.checks).Nodup
  tables : ∀ id ∈ idsOf document.checks, ∃ number < document.tables.length, ∃ rest,
    id = "table_" ++ toString number ++ ("_" ++ rest)

theorem identifies_empty : empty.Identifies :=
  ⟨.nil, fun _ hid => absurd hid List.not_mem_nil⟩

/-- A document that has more tables, but no further assertions, tells its instructions apart. -/
theorem Identifies.of_checks (h : document.Identifies) (hchecks : next.checks = document.checks)
    (htables : document.tables.length ≤ next.tables.length) : next.Identifies := by
  refine ⟨hchecks ▸ h.distinct, ?_⟩
  intro id hid
  obtain ⟨number, hnumber, hrest⟩ := h.tables id (hchecks ▸ hid)
  exact ⟨number, Nat.lt_of_lt_of_le hnumber htables, hrest⟩

/-- A scenario table takes a number and adds no id. -/
theorem Identifies.declared (h : document.Identifies) (rows : List (List String)) :
    (document.declared rows).Identifies := by
  rw [Document.declared_eq]
  cases Scenario.ofRows? document.nextTableId rows with
  | error fault => exact h
  | ok scenario =>
    refine h.of_checks rfl ?_
    simp only [List.length_append]
    omega

/-- The ids of a script begin with the number of its table, which no table before it has. -/
theorem Identifies.scripted (h : document.Identifies) (rows : List (List String))
    (outline : Outline) : (document.scripted rows outline).Identifies := by
  have hids : idsOf (document.scripted rows outline).checks
      = idsOf document.checks ++ idsOf (outline.checks (document.place rows)) :=
    idsOf_append _ _
  have hscript : ∀ id ∈ idsOf (outline.checks (document.place rows)), ∃ rest,
      id = "table_" ++ toString document.tables.length ++ ("_" ++ rest) := by
    intro id hid
    obtain ⟨number, rest, rfl, -⟩ := outline.names_of_mem_idsOf (document.place rows) id hid
    refine ⟨toString number ++ rest, ?_⟩
    simp only [place, assignment, nextTableId, String.append_assoc]
  refine ⟨?_, ?_⟩
  · rw [hids]
    refine List.nodup_append.mpr ⟨h.distinct, outline.idsOf_checks_nodup _, ?_⟩
    rintro id hid _ hscripted rfl
    obtain ⟨number, hnumber, rest, hearlier⟩ := h.tables id hid
    obtain ⟨rest', hlater⟩ := hscript id hscripted
    have hsame := (Text.number_inj (Text.endsNumber_underscore _) (Text.endsNumber_underscore _)
      (hearlier.symm.trans hlater)).1
    omega
  · intro id hid
    rw [length_scripted]
    rcases List.mem_append.mp (hids ▸ hid) with hearlier | hscripted
    · obtain ⟨number, hnumber, hrest⟩ := h.tables id hearlier
      exact ⟨number, by omega, hrest⟩
    · exact ⟨document.tables.length, by omega, hscript id hscripted⟩

/-- No table that is offered brings an id twice. -/
theorem Identifies.offer {rows : List (List String)} (h : document.Identifies)
    (hoffer : document.offer defaultKind depth rows = some next) : next.Identifies := by
  rcases offer_cases hoffer with ⟨-, outline, -, -, rfl⟩ | ⟨-, rfl⟩ | ⟨-, -, rfl⟩
  · exact h.scripted rows outline
  · exact h.declared rows
  · exact h

/-- No tables that are offered bring an id twice. -/
theorem Identifies.offerAll {tables : List (List (List String))} (h : document.Identifies)
    (hlast : document.offerAll defaultKind depth tables = some last) : last.Identifies := by
  induction tables generalizing document with
  | nil => cases hlast; exact h
  | cons rows tables ih =>
    obtain ⟨next, hoffer, hrest⟩ := offerAll_cons_eq_some.mp hlast
    exact ih (h.offer hoffer) hrest

/-- **No two instructions have one id.** Whatever tables a document was offered, scenarios that were
declared again and tables that it refused among them, and however deeply the calls nest: the ids of
its instructions, roll-ups included, are pairwise distinct. -/
theorem ids_nodup {tables : List (List (List String))}
    (h : ofTables defaultKind depth tables = some document) : (idsOf document.checks).Nodup :=
  (identifies_empty.offerAll h).distinct

/-- Nested calls, and behind them a table that is refused and another script. -/
def refusedTable : List (List (List String)) :=
  nestedCalls ++ [[["query"]], [["script"], ["greet", "Bob"], ["leave"]]]

/-- The nine instructions around the refused table have distinct ids. -/
theorem ids_nodup_refusedTable : ∃ document,
    ofTables Script.kindName 2 refusedTable = some document
      ∧ document.checks.length = 9 ∧ (idsOf document.checks).Nodup := by
  obtain ⟨document, h⟩ := Option.isSome_iff_exists.mp
    (show (ofTables Script.kindName 2 refusedTable).isSome by decide +kernel)
  have hlength : (ofTables Script.kindName 2 refusedTable).map (·.checks.length) = some 9 := by
    decide +kernel
  rw [h, Option.map_some, Option.some_inj] at hlength
  exact ⟨document, h, hlength, ids_nodup h⟩

end Document

end ScenarioTables
