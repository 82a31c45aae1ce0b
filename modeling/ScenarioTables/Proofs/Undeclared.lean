import ScenarioTables.Proofs.Binding
import ScenarioTables.Proofs.ByteOrder
import ScenarioTables.Proofs.ReplacementOrder
import ScenarioTables.Table

/-!
# Undeclared arguments

A binding is checked against the declared inputs twice: when it is made by name, and again when the
body of a scenario is expanded with it. Both checks refuse the same bindings, those that bind a name
that is no input, and report the same fault, about the least such name in byte order. The answer and
the expanded table follow from the bound names and their values; in which order the binding lists
them makes no difference (`Expansion.expandTable_agrees`).

Inputs may repeat and names may be empty. What stands in the cells of the expanded table is not said
here, only that there is one for each cell of the body.
-/

set_option autoImplicit false

namespace ScenarioTables

/-- Two sets with the same members are equal. -/
theorem NameSet.eq_of_mem {set other : NameSet} (h : ∀ name, name ∈ set ↔ name ∈ other) :
    set = other := by
  have hperm : set.names.Perm other.names :=
    (List.perm_ext_iff_of_nodup set.nodup other.nodup).mpr h
  have hnames : set.names = other.names := hperm.eq_of_pairwise
    (fun _ _ _ _ hlt hgt => absurd hgt (String.lt_asymm hlt)) set.ascending other.ascending
  obtain ⟨names, _⟩ := set
  cases hnames
  rfl

/-- The full text of the fault about an undeclared argument. -/
theorem Fault.text_undeclaredArgument (name : String) : (Fault.undeclaredArgument name).text
    = "SYNTAX/The argument " ++ name ++ " is not an input to the scenario." := by
  have hlabel : "SYNTAX" ++ "/" ++ "The argument " = "SYNTAX/The argument " := by decide
  change "SYNTAX" ++ "/" ++ ("The argument " ++ name ++ " is not an input to the scenario.") = _
  rw [← String.append_assoc, ← String.append_assoc, hlabel]

namespace Binding

variable {inputs : List String} {binding other : Binding} {name : String} {fault : Fault}

/-- No name is reported exactly if all bound names are inputs. -/
theorem undeclared?_eq_none_iff :
    binding.undeclared? inputs = none ↔ ∀ name ∈ binding.keys, name ∈ inputs := by
  refine ⟨fun h name hname => ?_, undeclared?_eq_none⟩
  have hinput := List.find?_eq_none.mp h name (NameSet.mem_ofList.mpr hname)
  simpa only [Bool.not_eq_true', Bool.not_eq_false, List.contains_iff_mem] using hinput

/-- The name that is reported is the least of the bound names that are no inputs. -/
theorem undeclared?_eq_some_iff : binding.undeclared? inputs = some name
    ↔ (name ∈ binding.keys ∧ name ∉ inputs)
      ∧ ∀ other ∈ binding.keys, other ∉ inputs → name ≤ other := by
  have hforward {name : String} (h : binding.undeclared? inputs = some name) :
      (name ∈ binding.keys ∧ name ∉ inputs)
        ∧ ∀ other ∈ binding.keys, other ∉ inputs → name ≤ other := by
    obtain ⟨hname, before, behind, hnames, hbefore⟩ := List.find?_eq_some_iff_append.mp h
    simp only [Bool.not_eq_true', List.contains_eq_mem, decide_eq_false_iff_not] at hname
    have hascending := (NameSet.ofList binding.keys).ascending
    have hmember (other : String) : other ∈ binding.keys ↔ other ∈ before ++ name :: behind := by
      rw [← hnames]
      exact NameSet.mem_ofList.symm
    rw [hnames, List.pairwise_append, List.pairwise_cons] at hascending
    refine ⟨⟨(hmember name).mpr (by simp), hname⟩, fun other hother hundeclared => ?_⟩
    rcases List.mem_append.mp ((hmember other).mp hother) with hearlier | hlater
    · have hinput := hbefore other hearlier
      simp only [Bool.not_not, List.contains_iff_mem] at hinput
      exact absurd hinput hundeclared
    · rcases List.mem_cons.mp hlater with rfl | hlater
      · exact String.le_refl _
      · exact String.not_lt.mp (String.lt_asymm (hascending.2.1.1 other hlater))
  refine ⟨hforward, fun ⟨⟨hname, hundeclared⟩, hleast⟩ => ?_⟩
  cases hfound : binding.undeclared? inputs with
  | none => exact absurd (undeclared?_eq_none_iff.mp hfound name hname) hundeclared
  | some found =>
    obtain ⟨⟨hmem, hnot⟩, hbest⟩ := hforward hfound
    rw [String.le_antisymm (hbest name hname hundeclared) (hleast found hmem hnot)]

/-- The bound names do not depend on the order of the entries. -/
theorem mem_keys_of_perm (h : other.entries.Perm binding.entries) :
    name ∈ other.keys ↔ name ∈ binding.keys :=
  (h.map Prod.fst).mem_iff

/-- The order of the entries makes no difference to the name that is reported. -/
theorem undeclared?_of_perm (h : other.entries.Perm binding.entries) :
    other.undeclared? inputs = binding.undeclared? inputs := by
  ext name
  simp only [undeclared?_eq_some_iff, mem_keys_of_perm h]

/-- Binding by name fails exactly with the fault about the reported name. -/
theorem named_eq_error_iff : named inputs binding = .error fault
    ↔ ∃ name, binding.undeclared? inputs = some name ∧ fault = .undeclaredArgument name := by
  rw [named]
  cases binding.undeclared? inputs with
  | none => exact iff_of_false nofun nofun
  | some name => simp only [Except.error.injEq, Option.some.injEq, exists_eq_left', eq_comm]

/-- The values of a binding follow from its entries in any order. -/
theorem valueOf_of_perm (h : other.entries.Perm binding.entries)
    (hname : name ∈ binding.keys) : other.valueOf name = binding.valueOf name := by
  obtain ⟨⟨name, value⟩, hentry, rfl⟩ := List.mem_map.mp hname
  rw [valueOf, valueOf, Dictionary.find?_of_mem hentry,
    Dictionary.find?_of_mem (h.mem_iff.mpr hentry)]

end Binding

namespace Expansion

variable {inputs : List String} {binding other : Binding} {body table : Table} {fault : Fault}

/-- The order of the entries makes no difference to the pairs. -/
theorem pairsOf_of_perm (h : other.entries.Perm binding.entries) :
    pairsOf other = pairsOf binding := by
  have hnames : other.names = binding.names := by
    apply NameSet.eq_of_mem
    intro name
    rw [Binding.names, Binding.names, NameSet.mem_ofList, NameSet.mem_ofList]
    exact Binding.mem_keys_of_perm h
  rw [pairsOf_eq, pairsOf_eq, hnames]
  refine List.map_congr_left fun name hname => ?_
  have hbound := NameSet.mem_ofList.mp (mem_replacementOrder.mp hname).1
  rw [Binding.valueOf_of_perm h hbound]

/-- A replacement that cannot fail goes through all cells. -/
theorem mapCells_ok (body : Table) (change : String → String) :
    (body.mapCells fun content => (.ok (change content) : Except Fault String))
      = .ok (.ofRows (body.rows.map fun cells => cells.map change)) := by
  have hcells (cells : List String) :
      (cells.mapM fun content => (.ok (change content) : Except Fault String))
        = .ok (cells.map change) := List.mapM_pure
  have hrows : (body.rows.mapM fun cells => (.ok (cells.map change) : Except Fault (List String)))
      = .ok (body.rows.map fun cells => cells.map change) := List.mapM_pure
  simp only [Table.mapCells, hcells, hrows]
  rfl

/-- The cells of an expanded table are the expanded rows. -/
theorem expandTable_eq (body : Table) (inputs : List String) (binding : Binding) :
    expandTable body inputs binding = (expand body.rows inputs binding).map Table.ofRows := by
  rw [expandTable, expand, mapCells_ok]
  cases binding.undeclared? inputs <;> rfl

/-- Expanding a table fails exactly with the fault about the reported name. -/
theorem expandTable_eq_error_iff : expandTable body inputs binding = .error fault
    ↔ ∃ name, binding.undeclared? inputs = some name ∧ fault = .undeclaredArgument name := by
  rw [expandTable, mapCells_ok]
  cases binding.undeclared? inputs with
  | none => exact iff_of_false nofun nofun
  | some name => simp only [Except.error.injEq, Option.some.injEq, exists_eq_left', eq_comm]

/-- The order of the entries makes no difference to the expanded table. -/
theorem expandTable_of_perm (h : other.entries.Perm binding.entries) :
    expandTable body inputs other = expandTable body inputs binding := by
  rw [expandTable, expandTable, Binding.undeclared?_of_perm h, pairsOf_of_perm h]

/-- An expanded table has the shape of its body and nothing has happened to it. -/
theorem shape_of_expandTable (h : expandTable body inputs binding = .ok table) :
    table.rowCount = body.rowCount ∧ (∀ row, table.columnCount row = body.columnCount row)
      ∧ table.results = .empty ∧ table.children = [] := by
  rw [expandTable, mapCells_ok] at h
  cases hcheck : binding.undeclared? inputs with
  | some name =>
    rw [hcheck] at h
    cases h
  | none =>
    rw [hcheck] at h
    cases h
    refine ⟨List.length_map _, fun row => ?_, rfl, rfl⟩
    simp only [Table.columnCount, Table.row?, Table.ofRows, List.getElem?_map, Option.map_map]
    cases body.rows[row]? with
    | none => rfl
    | some cells => exact List.length_map _

/-- **The two checks agree, whatever the order.** Making a binding by name and expanding a table
with the same binding fail together and with one fault. They fail exactly if some bound name is not
an input, and then the fault names the one whose bytes come first. Any other order of the entries
gives the same answers. A table that is expanded has as many rows as the body and as many cells in
each row, no results and no attached tables. -/
theorem expandTable_agrees (inputs : List String) (values : Dictionary String String)
    (body : Table) :
    (∀ fault, Binding.named inputs values = .error fault
        ↔ expandTable body inputs values = .error fault)
      ∧ ((∃ fault, Binding.named inputs values = .error fault)
          ↔ ∃ name ∈ values.keys, name ∉ inputs)
      ∧ (∀ fault, Binding.named inputs values = .error fault →
          ∃ name ∈ values.keys, name ∉ inputs
            ∧ (∀ other ∈ values.keys, other ∉ inputs → Text.bytes name ≤ Text.bytes other)
            ∧ fault = .undeclaredArgument name ∧ fault.category = .wording
            ∧ fault.text = "SYNTAX/The argument " ++ name ++ " is not an input to the scenario.")
      ∧ (∀ other : Dictionary String String, other.entries.Perm values.entries →
          (∀ fault, Binding.named inputs other = .error fault
              ↔ Binding.named inputs values = .error fault)
            ∧ expandTable body inputs other = expandTable body inputs values)
      ∧ ∀ table, expandTable body inputs values = .ok table →
          table.rowCount = body.rowCount ∧ (∀ row, table.columnCount row = body.columnCount row)
            ∧ table.results = .empty ∧ table.children = [] := by
  refine ⟨fun fault => ?_, ?_, fun fault h => ?_, fun other hperm => ⟨fun fault => ?_, ?_⟩,
    fun table => shape_of_expandTable⟩
  · rw [Binding.named_eq_error_iff, expandTable_eq_error_iff]
  · constructor
    · rintro ⟨fault, h⟩
      obtain ⟨name, hname, -⟩ := Binding.named_eq_error_iff.mp h
      exact ⟨name, (Binding.undeclared?_eq_some_iff.mp hname).1⟩
    · rintro ⟨name, hname, hundeclared⟩
      cases hfound : Binding.undeclared? values inputs with
      | none => exact absurd (Binding.undeclared?_eq_none_iff.mp hfound name hname) hundeclared
      | some found => exact ⟨_, Binding.named_eq_error_iff.mpr ⟨found, hfound, rfl⟩⟩
  · obtain ⟨name, hname, rfl⟩ := Binding.named_eq_error_iff.mp h
    obtain ⟨⟨hkey, hundeclared⟩, hleast⟩ := Binding.undeclared?_eq_some_iff.mp hname
    refine ⟨name, hkey, hundeclared, fun other hother hnot => ?_, rfl, rfl, ?_⟩
    · exact Text.le_iff_bytes_le.mp (hleast other hother hnot)
    · exact Fault.text_undeclaredArgument name
  · rw [Binding.named_eq_error_iff, Binding.named_eq_error_iff, Binding.undeclared?_of_perm hperm]
  · exact expandTable_of_perm hperm

/-- Some names in no order; one is empty and one is not of ASCII characters. -/
def mixedNames : Dictionary String String :=
  .ofList [("é", "1"), ("", "2"), ("z", "3"), ("x", "4")]

/-- The same names and values in another order. -/
def mixedNamesReversed : Dictionary String String :=
  .ofList [("x", "4"), ("z", "3"), ("", "2"), ("é", "1")]

/-- Of two names that are not declared the first in byte order is refused. When all are declared the
body is expanded, and alike in either order. -/
theorem expandTable_agrees_mixedNames :
    Binding.named ["x", "", "x"] mixedNames = .error (.undeclaredArgument "z")
      ∧ expandTable (.ofRows [["@z", "@é"], []]) ["x", "", "x"] mixedNames
        = .error (.undeclaredArgument "z")
      ∧ expandTable (.ofRows [["@z", "@é"], []]) ["x", "", "é", "z"] mixedNamesReversed
        = expandTable (.ofRows [["@z", "@é"], []]) ["x", "", "é", "z"] mixedNames
      ∧ ∃ table, expandTable (.ofRows [["@z", "@é"], []]) ["x", "", "é", "z"] mixedNames = .ok table
        ∧ table.rowCount = 2 ∧ table.columnCount 0 = 2 := by
  obtain ⟨hagree, -⟩ := expandTable_agrees ["x", "", "x"] mixedNames (.ofRows [["@z", "@é"], []])
  obtain ⟨-, -, -, horder, hshape⟩ :=
    expandTable_agrees ["x", "", "é", "z"] mixedNames (.ofRows [["@z", "@é"], []])
  have hnamed : Binding.named ["x", "", "x"] mixedNames = .error (.undeclaredArgument "z") := rfl
  refine ⟨hnamed, (hagree _).mp hnamed, (horder mixedNamesReversed (by decide)).2, ?_⟩
  obtain ⟨table, htable⟩ : ∃ table, expandTable (.ofRows [["@z", "@é"], []])
      ["x", "", "é", "z"] mixedNames = .ok table := ⟨_, rfl⟩
  obtain ⟨hrows, hcolumns, -⟩ := hshape table htable
  exact ⟨table, htable, hrows, hcolumns 0⟩

end Expansion

end ScenarioTables
