import Mathlib.Data.Finset.Card
import ScenarioTables.Context
import ScenarioTables.Proofs.ReplacementOrder

/-!
# Registries with a history

A registry is a map and a list of names beside it. Registering keeps them in step
(`InStep.register`), and so the two together are a dictionary in order of first insertion
(`Represents.register`).

What is in a registry is what is left of the registrations made in it. Under each name it has the
scenario that was registered last, and its names stand in the order in which they were first used,
so the history tells which scenario a row invokes (`Registry.registered`). A redefinition changes
what a name stands for and nothing else, and that a scenario is registered under a name other than
its own makes no difference.
-/

set_option autoImplicit false

namespace ScenarioTables

namespace Dictionary

variable {κ α : Type}

/-- A dictionary has as many entries as keys. -/
theorem size_eq (d : Dictionary κ α) : d.size = d.keys.length :=
  (List.length_map _).symm

variable [DecidableEq κ]

/-- The values are those that are found under the keys. -/
theorem map_find?_keys (d : Dictionary κ α) : d.keys.map d.find? = d.values.map some := by
  rw [keys, values, List.map_map, List.map_map]
  exact List.map_congr_left fun entry hentry => find?_of_mem hentry

/-- Something is found under the keys and under nothing else. -/
theorem isSome_find?_iff {d : Dictionary κ α} {key : κ} :
    (d.find? key).isSome ↔ key ∈ d.keys := by
  constructor
  · intro hfound
    obtain ⟨value, hvalue⟩ := Option.isSome_iff_exists.mp hfound
    exact mem_keys_of_find? hvalue
  · intro hkey
    obtain ⟨⟨key, value⟩, hentry, rfl⟩ := List.mem_map.mp hkey
    rw [find?_of_mem hentry]
    rfl

end Dictionary

namespace Registry

variable {registry : Registry} {dictionary : Dictionary String Scenario}

/-! ## The map and the order -/

/-- **The map and the order are in step**: the names of the order are those with a scenario in the
map, none stands twice, and there are as many as entries. -/
structure InStep (registry : Registry) : Prop where
  mem_iff : ∀ name, name ∈ registry.order ↔ (registry.find? name).isSome
  nodup : registry.order.Nodup
  length : registry.order.length = registry.size

theorem inStep_empty : empty.InStep :=
  ⟨fun name => by simp [empty, find?], .nil, size_empty.symm⟩

/-- Registering keeps the map and the order in step: a name goes to the end of the order exactly
when it is new to the map. -/
theorem InStep.register (h : registry.InStep) (name : String) (scenario : Scenario) :
    (registry.register name scenario).2.InStep := by
  by_cases hused : (registry.find? name).isSome
  · have horder : (registry.register name scenario).2.order = registry.order := by
      rw [order_register, if_pos hused]
    refine ⟨fun other => ?_, horder ▸ h.nodup, ?_⟩
    · rw [horder, h.mem_iff, find?_register]
      split
      next hother => exact iff_of_true (hother ▸ hused) rfl
      next => rfl
    · rw [horder, size_register, if_pos hused, h.length]
  · have horder : (registry.register name scenario).2.order = registry.order ++ [name] := by
      rw [order_register, if_neg hused]
    have hnew : name ∉ registry.order := mt (h.mem_iff name).mp hused
    refine ⟨fun other => ?_, ?_, ?_⟩
    · rw [horder, List.mem_append, List.mem_singleton, h.mem_iff, find?_register]
      split
      next hother => exact iff_of_true (.inr hother.symm) rfl
      next hother => exact or_iff_left fun hsame => hother hsame.symm
    · rw [horder]
      exact h.nodup.append (List.nodup_singleton name)
        (List.disjoint_singleton.mpr hnew)
    · rw [horder, size_register, if_neg hused, List.length_append, h.length, List.length_singleton]

/-- Where they are in step no name of the order is skipped. -/
theorem InStep.map_all (h : registry.InStep) :
    registry.all.map some = registry.order.map registry.find? := by
  rw [all, List.map_filterMap_some_eq_filter_map_isSome, List.filter_eq_self]
  intro value? hvalue
  obtain ⟨name, hname, rfl⟩ := List.mem_map.mp hvalue
  exact (h.mem_iff name).mp hname

/-- A search through all scenarios is a search through the order. -/
theorem InStep.findSome?_all {β : Type} (h : registry.InStep) (search : Scenario → Option β) :
    registry.all.findSome? search
      = registry.order.findSome? fun name => (registry.find? name).bind search := by
  have hall := congrArg (List.findSome? fun value? => value?.bind search) h.map_all
  rw [List.findSome?_map, List.findSome?_map] at hall
  exact hall

/-! ## Registries as dictionaries -/

/-- **What a registry stands for**: a dictionary with the same scenario under each name and the
names in the same order. -/
structure Represents (registry : Registry) (dictionary : Dictionary String Scenario) : Prop where
  find? : ∀ name, registry.find? name = dictionary.find? name
  order : registry.order = dictionary.keys

theorem represents_empty : empty.Represents .empty :=
  ⟨find?_empty, rfl⟩

/-- Registering is inserting, and the scenario that it answers is the one found before. -/
theorem Represents.register (h : registry.Represents dictionary) (name : String)
    (scenario : Scenario) :
    (registry.register name scenario).1 = dictionary.find? name
      ∧ (registry.register name scenario).2.Represents (dictionary.insert name scenario) := by
  refine ⟨h.find? name, fun other => ?_, ?_⟩
  · rw [find?_register, Dictionary.find?_insert, h.find?]
  · have hused : (registry.find? name).isSome ↔ name ∈ dictionary.keys := by
      rw [h.find?, Dictionary.isSome_find?_iff]
    simp only [order_register, Dictionary.keys_insert, hused, h.order]

/-- The scenarios of a registry are the values of its dictionary. -/
theorem Represents.all_eq (h : registry.Represents dictionary) :
    registry.all = dictionary.values := by
  have hfind : registry.find? = dictionary.find? := funext h.find?
  have hvalues := congrArg (List.filterMap id) dictionary.map_find?_keys
  rw [List.filterMap_map, List.filterMap_map] at hvalues
  rw [all, h.order, hfind]
  exact hvalues.trans List.filterMap_some

/-- A registry that is in step has as many scenarios as its dictionary. -/
theorem Represents.size_eq (h : registry.Represents dictionary) (hstep : registry.InStep) :
    registry.size = dictionary.size := by
  rw [← hstep.length, h.order, Dictionary.size_eq]

/-! ## Histories -/

/-- A scenario with the name that it is registered under. -/
abbrev Registration := String × Scenario

/-- The scenario that was registered last under a name. -/
def latest? (history : List Registration) (name : String) : Option Scenario :=
  (history.reverse.find? fun registration => registration.1 = name).map Prod.snd

/-- The names of some registrations, each where it was used first. -/
def namesOf (history : List Registration) : List String :=
  (history.map Prod.fst).eraseDups

/-! ## One more registration -/

section OneMore

variable (history : List Registration) (name : String) (scenario : Scenario)

/-- The last registration is made in the registry of those before. -/
theorem ofList_snoc :
    ofList (history ++ [(name, scenario)]) = ((ofList history).register name scenario).2 := by
  rw [ofList, List.foldl_concat]
  rfl

/-- A registration is the last one under its name and changes nothing under the others. -/
theorem latest?_snoc (other : String) :
    latest? (history ++ [(name, scenario)]) other
      = if name = other then some scenario else latest? history other := by
  rw [latest?, List.reverse_concat, List.find?_cons]
  by_cases hname : name = other
  · rw [if_pos hname, decide_eq_true hname]
    rfl
  · rw [if_neg hname, decide_eq_false hname]
    rfl

/-- A registration adds its name behind the others if it is new. -/
theorem namesOf_snoc :
    namesOf (history ++ [(name, scenario)])
      = if name ∈ namesOf history then namesOf history else namesOf history ++ [name] := by
  have hused : name ∈ namesOf history ↔ name ∈ history.map Prod.fst := List.mem_eraseDups
  rw [namesOf, List.map_append, List.map_singleton, List.eraseDups_append, List.removeAll]
  by_cases hname : name ∈ history.map Prod.fst
  · rw [if_pos (hused.mpr hname), List.filter_cons_of_neg (by simpa using hname)]
    exact List.append_nil _
  · rw [if_neg (mt hused.mp hname), List.filter_cons_of_pos (by simpa using hname)]
    rfl

end OneMore

/-! ## The whole history -/

variable (history : List Registration)

/-- The map and the order are in step after every history. -/
theorem inStep_ofList : (ofList history).InStep := by
  induction history using List.reverseRecOn with
  | nil => exact inStep_empty
  | append_singleton history registration ih =>
    rw [ofList_snoc]
    exact ih.register registration.1 registration.2

/-- The registry of a list stands for the dictionary of the list. -/
theorem represents_ofList : (ofList history).Represents (.ofList history) := by
  induction history using List.reverseRecOn with
  | nil => exact represents_empty
  | append_singleton history registration ih =>
    rw [ofList_snoc, Dictionary.ofList, List.foldl_concat]
    exact (ih.register registration.1 registration.2).2

/-- Under each name stands the scenario registered last. -/
theorem find?_ofList (name : String) : (ofList history).find? name = latest? history name := by
  induction history using List.reverseRecOn with
  | nil => exact find?_empty name
  | append_singleton history registration ih => rw [ofList_snoc, find?_register, latest?_snoc, ih]

/-- The names stand in the order of their first registration. -/
theorem order_ofList : (ofList history).order = namesOf history := by
  induction history using List.reverseRecOn with
  | nil => rfl
  | append_singleton history registration ih =>
    have hused : ((ofList history).find? registration.1).isSome ↔ registration.1 ∈ namesOf history :=
      ih ▸ ((inStep_ofList history).mem_iff registration.1).symm
    rw [ofList_snoc, order_register, namesOf_snoc, ih]
    simp only [hused]

/-- There are as many entries as names. -/
theorem size_ofList : (ofList history).size = (history.map Prod.fst).toFinset.card := by
  have hsame : (namesOf history).toFinset = (history.map Prod.fst).toFinset := by
    ext name
    rw [List.mem_toFinset, List.mem_toFinset, namesOf, List.mem_eraseDups]
  have hstep := inStep_ofList history
  have hdistinct : (namesOf history).Nodup := order_ofList history ▸ hstep.nodup
  rw [← hstep.length, order_ofList, ← List.toFinset_card_of_nodup hdistinct, hsame]

/-- A context in which the registrations were made has their registry. -/
theorem scenarios_register : (history.foldl (fun context registration =>
    context.register registration.1 registration.2) Context.empty).scenarios = ofList history := by
  induction history using List.reverseRecOn with
  | nil => rfl
  | append_singleton history registration ih =>
    rw [List.foldl_concat, ofList_snoc, ← ih]
    rfl

/-- **What a row invokes after some registrations.** First comes the latest scenario under the name
that the row spells. Where there is none it is, in the order of the names, the first whose latest
scenario the row fits as a phrase; where there is none of these either, the row invokes nothing. -/
structure Resolves (cells : List String) (answer : Option (Scenario × List String)) : Prop where
  byName : ∀ scenario,
    latest? history (Identifier.className (Cells.spelledName cells)) = some scenario →
    answer = some (scenario, Cells.spelledArguments cells)
  byPhrase : latest? history (Identifier.className (Cells.spelledName cells)) = none →
    ∀ before name behind scenario arguments, namesOf history = before ++ name :: behind →
    latest? history name = some scenario →
    scenario.captures? (phraseOf cells) = some arguments →
    (∀ earlier ∈ before, ∀ other, latest? history earlier = some other →
      other.captures? (phraseOf cells) = none) →
    answer = some (scenario, arguments)
  nothing : latest? history (Identifier.className (Cells.spelledName cells)) = none →
    (∀ name scenario, latest? history name = some scenario →
      scenario.captures? (phraseOf cells) = none) →
    answer = none

/-- A phrase is tried on the latest scenarios in the order of the names. -/
theorem findPhrase?_ofList (phrase : String) :
    (ofList history).findPhrase? phrase = (namesOf history).findSome? fun name =>
      (latest? history name).bind fun scenario =>
        (scenario.captures? phrase).map fun arguments => (scenario, arguments) := by
  rw [findPhrase?, (inStep_ofList history).findSome?_all, order_ofList]
  simp only [find?_ofList]

/-- The registry of a history resolves rows as the history says. -/
theorem resolves_ofList (cells : List String) :
    Resolves history cells ((ofList history).resolve? cells) := by
  rw [resolve?, find?_ofList]
  constructor
  · intro scenario hscenario
    rw [hscenario]
  · intro hnone before name behind scenario arguments hnames hscenario hcaptures hbefore
    rw [hnone]
    dsimp only
    rw [findPhrase?_ofList, List.findSome?_eq_some_iff]
    refine ⟨before, name, behind, hnames, ?_, fun earlier hearlier => ?_⟩
    · rw [hscenario, Option.bind_some, hcaptures, Option.map_some]
    · refine Option.bind_eq_none_iff.mpr fun other hother => ?_
      rw [hbefore earlier hearlier other hother, Option.map_none]
  · intro hnone hunfit
    rw [hnone]
    dsimp only
    rw [findPhrase?_ofList, List.findSome?_eq_none_iff]
    intro name hname
    refine Option.bind_eq_none_iff.mpr fun scenario hscenario => ?_
    rw [hunfit name scenario hscenario, Option.map_none]

/-- **A registry follows from its history.** Whatever scenarios were registered under whatever names,
the map and the order are in step, and together they stand for the dictionary into which the same
was inserted. The latest scenario stands under each name, every name is in the order once and where
it was used first, all scenarios are listed in this order, there are as many entries as names, a
further registration answers the scenario that was the latest under its name, and rows invoke what
the history says. The registry of a context in which the same was registered is the same. -/
theorem registered :
    (ofList history).InStep ∧ (ofList history).Represents (.ofList history)
      ∧ (∀ name, (ofList history).find? name = latest? history name)
      ∧ (ofList history).order = namesOf history ∧ (namesOf history).Nodup
      ∧ (ofList history).all.map some = (namesOf history).map (latest? history)
      ∧ (ofList history).size = (history.map Prod.fst).toFinset.card
      ∧ (∀ name scenario, ((ofList history).register name scenario).1 = latest? history name)
      ∧ (∀ cells, Resolves history cells ((ofList history).resolve? cells))
      ∧ (history.foldl (fun context registration =>
          context.register registration.1 registration.2) Context.empty).scenarios
        = ofList history := by
  have hstep := inStep_ofList history
  have horder := order_ofList history
  refine ⟨hstep, represents_ofList history, find?_ofList history, horder, horder ▸ hstep.nodup, ?_,
    size_ofList history, fun name _ => find?_ofList history name, resolves_ofList history,
    scenarios_register history⟩
  rw [hstep.map_all, horder, funext (find?_ofList history)]

end Registry

end ScenarioTables
