import ScenarioTables.Script
import ScenarioTables.Proofs.Binding
import ScenarioTables.Proofs.Resolution

/-!
# The columns of a call

A row with the layout of an alternating header calls the header's scenario by name
(`Script.assertionsFrom_columns`). The header tells inputs from outputs; the row does not, and hands
over the cells of all its argument columns. So an input gets the value of the column that has its
place among the inputs: its own column if no output stands before it, and otherwise one further to
the left (`Script.not_own_column`).
-/

set_option autoImplicit false

namespace ScenarioTables

namespace Cells

/-- **A row with the layout of alternating cells**: the same fragments of a name, and as many
cells. -/
structure SameLayout (cells row : List String) : Prop where
  fragments : Cells.fragments row = Cells.fragments cells
  length : row.length = cells.length

theorem length_arguments (cells : List String) : (arguments cells).length = cells.length / 2 := by
  fun_induction arguments cells with
  | case1 => rfl
  | case2 => simp
  | case3 _ cell rest ih =>
    rw [List.length_cons, ih, List.length_cons, List.length_cons]
    omega

/-- Rows of one layout spell the same name. -/
theorem SameLayout.spelledName {cells row : List String} (h : SameLayout cells row) :
    Cells.spelledName row = Cells.spelledName cells := by
  rw [Cells.spelledName, h.fragments, Cells.spelledName]

/-- Such a row has a value in every argument column. -/
theorem SameLayout.length_spelledArguments {cells row : List String} (h : SameLayout cells row) :
    (spelledArguments row).length = (arguments cells).length := by
  rw [spelledArguments, List.length_map, length_arguments, length_arguments, h.length]

end Cells

/-- Every argument is an input or an output. -/
theorem Argument.length_inputs_outputs (arguments : List Argument) :
    (arguments.filterMap input?).length + (arguments.filterMap output?).length
      = arguments.length := by
  induction arguments with
  | nil => rfl
  | cons argument arguments ih =>
    cases argument with
    | input name =>
      simp only [List.filterMap_cons, input?, output?, List.length_cons]
      omega
    | output name =>
      simp only [List.filterMap_cons, input?, output?, List.length_cons]
      omega

namespace Scenario

variable {tableId label : String} {cells row : List String} {body : List (List String)}
  {scenario : Scenario}

/-- The header of a scenario whose name cell has no placeholder is read in columns. -/
theorem header_of_plain (h : ofRows? tableId ((label :: cells) :: body) = .ok scenario)
    (hplain : (NameTemplate.parse (cells.head?.getD "")).isParameterized = false) :
    scenario.header = Header.ofAlternating cells := by
  cases cells with
  | nil => cases h
  | cons nameCell rest =>
    have hheader : Header.ofRows? ((label :: nameCell :: rest) :: body)
        = .ok (Header.ofAlternating (nameCell :: rest)) :=
      if_neg (Bool.eq_false_iff.mp hplain)
    rw [ofRows?, hheader] at h
    cases h
    rfl

/-- An input gets the value of the column that has its place among the inputs. -/
theorem find?_bindPositional (hheader : scenario.header = Header.ofAlternating cells)
    (hlayout : Cells.SameLayout cells row) {before behind : List Argument} {name : String}
    (hcolumns : (Cells.arguments cells).map Argument.ofText = before ++ .input name :: behind)
    (hlast : .input name ∉ behind) :
    let place := (before.filterMap Argument.input?).length
    ∃ value, (Cells.spelledArguments row)[place]? = some value
      ∧ (scenario.bindPositional (Cells.spelledArguments row)).find? name = some value := by
  intro place
  have hinputs : scenario.header.inputs = before.filterMap Argument.input?
      ++ name :: behind.filterMap Argument.input? := by
    have hdeclared : scenario.header.inputs
        = ((Cells.arguments cells).map Argument.ofText).filterMap Argument.input? := by
      rw [hheader]
      rfl
    rw [hdeclared, hcolumns, List.filterMap_append]
    rfl
  -- There are no more inputs in front than columns, so the row has a value at that place.
  have hplace : place < (Cells.spelledArguments row).length := by
    have hlength := congrArg List.length hcolumns
    rw [List.length_map, List.length_append, List.length_cons] at hlength
    have hbefore := Argument.length_inputs_outputs before
    rw [hlayout.length_spelledArguments]
    omega
  have hlater : name ∉ behind.filterMap Argument.input? := by
    intro hmem
    obtain ⟨argument, hargument, hname⟩ := List.mem_filterMap.mp hmem
    cases argument with
    | input other =>
      cases hname
      exact hlast hargument
    | output other => cases hname
  have hvalue := List.getElem?_eq_getElem hplace
  refine ⟨_, hvalue, ?_⟩
  rw [bindPositional, hinputs]
  exact Binding.find?_positional hlater hvalue

end Scenario

namespace Script

/-- A row that begins with none of the keywords. -/
theorem Row.ofCells_plain (scenarios : Registry) {first : String} (rest : List String)
    (hblank : Text.trimmed first ≠ "")
    (hkeyword : Text.lowered (Text.trimmed first) ∉ ["note", "check", "ensure", "reject"]) :
    Row.ofCells scenarios (first :: rest) = Row.ofPlainCells scenarios (first :: rest) := by
  have hword : keywordOf (first :: rest) = Text.lowered (Text.trimmed first) := rfl
  have hempty : Text.lowered (Text.trimmed first) ≠ "" := mt Text.eq_empty_of_lowered hblank
  simp only [List.mem_cons, List.not_mem_nil, or_false, not_or] at hkeyword
  obtain ⟨hnote, hcheck, hensure, hreject⟩ := hkeyword
  simp only [Row.ofCells, hword, hempty, hnote, hcheck, hensure, hreject, false_and, or_false,
    if_false]

section Columns

variable {tableId label first : String} {cells others : List String} {body : List (List String)}
  {scenario : Scenario} {earlier later : List (String × Scenario)} {expander : Expander}

/-- **A row with the layout of an alternating header** calls the scenario that is registered under
its name, and every input has a value. It is the one in the argument column whose number is the
number of inputs before it, and so that of its own column if no output stands before it. An input
that is declared twice goes by its last column. -/
theorem assertionsFrom_columns
    (hscenario : Scenario.ofRows? tableId ((label :: cells) :: body) = .ok scenario)
    (hplain : (NameTemplate.parse (cells.head?.getD "")).isParameterized = false)
    (hscenarios : expander.scenarios
      = .ofList (earlier ++ (scenario.name, scenario) :: later))
    (hsole : ∀ registration ∈ later, registration.1 ≠ scenario.name)
    (hlayout : Cells.SameLayout cells (first :: others)) (hblank : Text.trimmed first ≠ "")
    (hkeyword : Text.lowered (Text.trimmed first) ∉ ["note", "check", "ensure", "reject"])
    (assignment : Assignment) (row number : Nat) (rest : List (List String)) :
    let values := Cells.spelledArguments (first :: others)
    let binding := scenario.bindPositional values
    (assertionsFrom assignment expander row number ((first :: others) :: rest) = do
        let block ← expander.call scenario binding (siteOf assignment row)
        let checks ← assertionsFrom assignment expander (row + 1) number rest
        return block ++ checks)
      ∧ ∀ before name behind,
          (Cells.arguments cells).map Argument.ofText = before ++ .input name :: behind →
          .input name ∉ behind →
            (binding.find? name).isSome
              ∧ binding.find? name = values[(before.filterMap Argument.input?).length]?
              ∧ (before.filterMap Argument.output? = [] →
                  binding.find? name = values[before.length]?) := by
  intro values binding
  have hheader := Scenario.header_of_plain hscenario hplain
  constructor
  · have hname : Identifier.className (Cells.spelledName (first :: others)) = scenario.name := by
      rw [hlayout.spelledName, Scenario.name, hheader]
      rfl
    have hresolved : expander.scenarios.resolve? (first :: others) = some (scenario, values) := by
      rw [Registry.resolve?, hname, hscenarios, (Registry.represents_ofList _).find?,
        Dictionary.find?_ofList hsole]
    rw [assertionsFrom, Row.ofCells_plain expander.scenarios others hblank hkeyword,
      Row.ofPlainCells, hresolved]
  · intro before name behind hcolumns hlast
    obtain ⟨value, hvalue, hbound⟩ := Scenario.find?_bindPositional hheader hlayout hcolumns hlast
    refine ⟨Option.isSome_of_eq_some hbound, hbound.trans hvalue.symm, fun houtputs => ?_⟩
    have hlength := Argument.length_inputs_outputs before
    rw [houtputs, List.length_nil, Nat.add_zero] at hlength
    rw [← hlength]
    exact hbound.trans hvalue.symm

end Columns

/-- A scenario with an output between two inputs. -/
def ordering : Scenario :=
  ⟨"table_0", [["scenario", "order", "item", "and get", "price?", "for", "count"],
      ["echo", "@item", "times", "@count"]],
    Header.ofAlternating ["order", "item", "and get", "price?", "for", "count"]⟩

/-- In front of the output the input has its own value, behind it the value of the output. -/
theorem assertionsFrom_columns_ordering :
    Scenario.ofRows? "table_0" ordering.rows = .ok ordering
      ∧ ∀ (assignment : Assignment) (expander : Expander),
        expander.scenarios = .ofList [(ordering.name, ordering)] →
        ∀ (row number : Nat) (rest : List (List String)),
          let values := Cells.spelledArguments ["order", "book", "and get", "12", "for", "3"]
          let binding := ordering.bindPositional values
          assertionsFrom assignment expander row number
              (["order", "book", "and get", "12", "for", "3"] :: rest) = (do
                let block ← expander.call ordering binding (siteOf assignment row)
                let checks ← assertionsFrom assignment expander (row + 1) number rest
                return block ++ checks)
            ∧ binding.find? "item" = some "book" ∧ binding.find? "count" = some "12" := by
  refine ⟨rfl, fun assignment expander hscenarios row number rest => ?_⟩
  intro values binding
  have hplain : (NameTemplate.parse "order").isParameterized = false := by decide +kernel
  have hsole : ∀ registration ∈ ([] : List (String × Scenario)), registration.1 ≠ ordering.name :=
    nofun
  have hlayout : Cells.SameLayout ["order", "item", "and get", "price?", "for", "count"]
      ["order", "book", "and get", "12", "for", "3"] := ⟨rfl, rfl⟩
  have hcells : (Cells.arguments ["order", "item", "and get", "price?", "for", "count"]).map
      Argument.ofText = [.input "item", .output "price", .input "count"] := by decide +kernel
  have hvalues : values = ["book", "12", "3"] := by decide +kernel
  have hscenario : Scenario.ofRows? "table_0" ordering.rows = .ok ordering := rfl
  have hregistered : expander.scenarios = .ofList ([] ++ [(ordering.name, ordering)]) := hscenarios
  obtain ⟨hcall, hcolumns⟩ := assertionsFrom_columns hscenario hplain hregistered hsole hlayout
    (by decide +kernel) (by decide +kernel) assignment row number rest
  obtain ⟨-, -, hitem⟩ := hcolumns [] "item" [.output "price", .input "count"] hcells (by decide)
  obtain ⟨-, hcount, -⟩ := hcolumns [.input "item", .output "price"] "count" [] hcells nofun
  refine ⟨hcall, (hitem rfl).trans ?_, hcount.trans ?_⟩
  · exact congrArg (·[0]?) hvalues
  · exact congrArg (·[1]?) hvalues

/-- An input behind an output does not always get the value of its own column. -/
theorem not_own_column :
    ¬ ∀ (tableId label first : String) (cells others : List String) (body : List (List String))
      (scenario : Scenario) (earlier later : List (String × Scenario)) (expander : Expander),
      Scenario.ofRows? tableId ((label :: cells) :: body) = .ok scenario →
      (NameTemplate.parse (cells.head?.getD "")).isParameterized = false →
      expander.scenarios = .ofList (earlier ++ (scenario.name, scenario) :: later) →
      (∀ registration ∈ earlier ++ later, registration.1 ≠ scenario.name) →
      Cells.SameLayout cells (first :: others) → Text.trimmed first ≠ "" →
      Text.lowered (Text.trimmed first) ∉ ["note", "check", "ensure", "reject"] →
      ∀ (assignment : Assignment) (row number : Nat) (rest : List (List String)),
        ∃ binding : Binding,
          (assertionsFrom assignment expander row number ((first :: others) :: rest) = do
              let block ← expander.call scenario binding (siteOf assignment row)
              let checks ← assertionsFrom assignment expander (row + 1) number rest
              return block ++ checks)
            ∧ ∀ before name behind,
                (Cells.arguments cells).map Argument.ofText = before ++ .input name :: behind →
                .input name ∉ behind →
                  binding.find? name
                    = (Cells.spelledArguments (first :: others))[before.length]? := by
  intro h
  -- Calls that only tell which value the count was given.
  let telling : Expander := ⟨.ofList [(ordering.name, ordering)], fun _ binding _ =>
    throw (.fault (.undeclaredArgument ((binding.find? "count").getD "")))⟩
  let stopOf : Except Stop (List Check) → Option Stop
    | .error stop => some stop
    | .ok _ => none
  let assignment : Assignment :=
    ⟨kindName, ⟨0, []⟩, [["script"], ["order", "book", "and get", "12", "for", "3"]], "table_1",
      none, []⟩
  obtain ⟨binding, hcall, hown⟩ := h "table_0" "scenario" "order"
    ["order", "item", "and get", "price?", "for", "count"] ["book", "and get", "12", "for", "3"]
    [["echo", "@item", "times", "@count"]] ordering [] [] telling rfl (by decide +kernel) rfl nofun
    ⟨rfl, rfl⟩ (by decide +kernel) (by decide +kernel) assignment 1 0 []
  have hcount : binding.find? "count" = some "3" :=
    (hown [.input "item", .output "price"] "count" [] (by decide +kernel) nofun).trans
      (by decide +kernel)
  have htold := congrArg (fun build => stopOf (build ⟨[], .empty⟩).1) hcall
  have hgiven : stopOf (assertionsFrom assignment telling 1 0
      [["order", "book", "and get", "12", "for", "3"]] ⟨[], .empty⟩).1
        = some (.fault (.undeclaredArgument "12")) := by decide +kernel
  have hclaimed : some (Stop.fault (.undeclaredArgument "12"))
      = some (Stop.fault (.undeclaredArgument ((binding.find? "count").getD ""))) :=
    hgiven.symm.trans htold
  rw [hcount] at hclaimed
  revert hclaimed
  decide

end Script

end ScenarioTables
