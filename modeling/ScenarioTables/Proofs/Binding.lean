import ScenarioTables.Scenario.Basic

/-!
# Bindings by position

The names that a positional call binds are inputs of the scenario, so such a call is never refused.
Each is bound to the value at the place of its last input (`Binding.find?_positional`).
-/

set_option autoImplicit false

namespace ScenarioTables

namespace Dictionary

variable {κ α : Type} [DecidableEq κ]

/-- Inserting adds its key and takes none away. -/
theorem mem_keys_insert {d : Dictionary κ α} {key other : κ} {value : α} :
    other ∈ (d.insert key value).keys ↔ other = key ∨ other ∈ d.keys := by
  rw [keys_insert]
  split
  next hkey =>
    refine ⟨Or.inr, ?_⟩
    rintro (rfl | hother)
    · exact hkey
    · exact hother
  next =>
    simp only [List.mem_append, List.mem_singleton]
    exact or_comm

/-- The keys after some insertions are the inserted ones and those from before. -/
private theorem mem_keys_foldl_insert {pairs : List (κ × α)} {d : Dictionary κ α} {key : κ} :
    key ∈ (pairs.foldl (fun d pair => d.insert pair.1 pair.2) d).keys
      ↔ key ∈ pairs.map Prod.fst ∨ key ∈ d.keys := by
  induction pairs generalizing d with
  | nil => simp only [List.foldl_nil, List.map_nil, List.not_mem_nil, false_or]
  | cons pair pairs ih =>
    rw [List.foldl_cons, ih, mem_keys_insert, List.map_cons, List.mem_cons]
    exact or_left_comm.trans or_assoc.symm

/-- The keys of the dictionary of a list are the first parts of its pairs. -/
theorem mem_keys_ofList {pairs : List (κ × α)} {key : κ} :
    key ∈ (ofList pairs).keys ↔ key ∈ pairs.map Prod.fst := by
  rw [ofList, mem_keys_foldl_insert, keys_empty]
  exact or_iff_left List.not_mem_nil

/-- Insertions under other keys do not change what is found. -/
private theorem find?_foldl_insert {pairs : List (κ × α)} {d : Dictionary κ α} {key : κ}
    (h : ∀ pair ∈ pairs, pair.1 ≠ key) :
    (pairs.foldl (fun d pair => d.insert pair.1 pair.2) d).find? key = d.find? key := by
  induction pairs generalizing d with
  | nil => rfl
  | cons pair pairs ih =>
    obtain ⟨hpair, hpairs⟩ := List.forall_mem_cons.mp h
    rw [List.foldl_cons, ih hpairs, find?_insert, if_neg hpair]

/-- Of the pairs with one key the last gives the value. -/
theorem find?_ofList {earlier later : List (κ × α)} {key : κ} {value : α}
    (h : ∀ pair ∈ later, pair.1 ≠ key) :
    (ofList (earlier ++ (key, value) :: later)).find? key = some value := by
  rw [ofList, List.foldl_append, List.foldl_cons, find?_foldl_insert h, find?_insert, if_pos rfl]

/-- What is found after some insertions was inserted or was found before. -/
private theorem mem_of_find?_foldl_insert {pairs : List (κ × α)} {d : Dictionary κ α} {key : κ}
    {value : α} (h : (pairs.foldl (fun d pair => d.insert pair.1 pair.2) d).find? key = some value) :
    (key, value) ∈ pairs ∨ d.find? key = some value := by
  induction pairs generalizing d with
  | nil => exact .inr h
  | cons pair pairs ih =>
    rcases ih h with hmem | hinserted
    · exact .inl (List.mem_cons_of_mem pair hmem)
    · rw [find?_insert] at hinserted
      split at hinserted
      next hkey =>
        cases hinserted
        exact .inl (hkey ▸ List.mem_cons_self)
      next => exact .inr hinserted

/-- What the dictionary of a list has under a key is one of the pairs. -/
theorem mem_of_find?_ofList {pairs : List (κ × α)} {key : κ} {value : α}
    (h : (ofList pairs).find? key = some value) : (key, value) ∈ pairs := by
  rcases mem_of_find?_foldl_insert h with hmem | hempty
  · exact hmem
  · cases hempty

end Dictionary

namespace Binding

/-- A bound name is undeclared unless all bound names are inputs. -/
theorem undeclared?_eq_none {binding : Binding} {inputs : List String}
    (h : ∀ name ∈ binding.keys, name ∈ inputs) : binding.undeclared? inputs = none := by
  apply List.find?_eq_none.mpr
  intro name hname
  have hinput := h name (NameSet.mem_ofList.mp hname)
  simp only [List.contains_eq_mem, hinput, decide_true, Bool.not_true, Bool.false_eq_true,
    not_false_eq_true]

/-- A binding by position binds inputs only. -/
theorem mem_inputs_of_positional {inputs values : List String} {name : String}
    (h : name ∈ (positional inputs values).keys) : name ∈ inputs := by
  obtain ⟨pair, hpair, rfl⟩ := List.mem_map.mp (Dictionary.mem_keys_ofList.mp h)
  exact (List.of_mem_zip hpair).1

/-- The last input of a name is bound to the value at its place among the inputs. -/
theorem find?_positional {earlier later values : List String} {name value : String}
    (hlast : name ∉ later) (hvalue : values[earlier.length]? = some value) :
    (positional (earlier ++ name :: later) values).find? name = some value := by
  obtain ⟨hlength, hget⟩ := List.getElem?_eq_some_iff.mp hvalue
  have hvalues : values
      = values.take earlier.length ++ value :: values.drop (earlier.length + 1) := by
    rw [← hget, ← List.drop_eq_getElem_cons hlength, List.take_append_drop]
  have htake : earlier.length = (values.take earlier.length).length := by
    rw [List.length_take, Nat.min_eq_left (Nat.le_of_lt hlength)]
  rw [positional, hvalues, List.zip_append htake, List.zip_cons_cons]
  refine Dictionary.find?_ofList fun pair hpair heq => hlast ?_
  rw [← heq]
  exact (List.of_mem_zip hpair).1

end Binding

/-- Rows are expanded cell by cell if only inputs are bound. -/
theorem Expansion.expand_of_inputs {inputs : List String} {binding : Binding}
    (h : ∀ name ∈ binding.keys, name ∈ inputs) (rows : List (List String)) :
    expand rows inputs binding
      = .ok (rows.map fun cells => cells.map (substitute (pairsOf binding))) := by
  rw [expand, Binding.undeclared?_eq_none h]

/-- A cell without marks stays as it is. -/
theorem Expansion.substitute_of_not_mem {content : String} (h : '@' ∉ content.toList)
    (pairs : List (String × String)) : substitute pairs content = content := by
  have hchars : substituteChars pairs content.toList = content.toList := by
    unfold substituteChars
    induction pairs with
    | nil => rfl
    | cons pair pairs ih =>
      rw [List.foldl_cons, substituteOne, Text.replaceAll_of_not_mem h,
        Text.replaceAll_of_not_mem h]
      exact ih
  rw [substitute, hchars, String.ofList_toList]

/-- The rows that a positional call expands to always exist. -/
theorem Scenario.expand_bindPositional (scenario : Scenario) (values : List String) :
    ∃ rows, scenario.expand (scenario.bindPositional values) = .ok rows :=
  ⟨_, Expansion.expand_of_inputs (fun _ => Binding.mem_inputs_of_positional) scenario.rows⟩

end ScenarioTables
