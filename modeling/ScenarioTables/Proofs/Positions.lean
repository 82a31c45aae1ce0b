import Mathlib.Data.List.Induction
import Mathlib.Data.List.Nodup
import ScenarioTables.Proofs.FailedCalls
import ScenarioTables.Proofs.Undeclared

/-!
# Calls by position and by name

A call by position is the call by name with the map that it stands for: each input that has a value
is bound, and an input that is declared more than once has the value of its last place
(`Binding.LastAt`). Both go the same way and end the same way, on the same board
(`Scenario.callPositional_agrees`), and it makes no difference in which order the map lists its
entries.

All the names of such a map are inputs, so neither of the two checks refuses it. Where a call by
position stops, the factory or what it made has stopped it. Over a factory whose interpreters never
report an undeclared argument by themselves (`Factory.Declares`), as scripts never do, no call by
position ends with that fault, however deep the calls in its body go.
-/

set_option autoImplicit false

namespace ScenarioTables

/-! ## What a dictionary made from pairs has under a key -/

namespace Dictionary

variable {κ α : Type} {pairs : List (κ × α)} {key : κ} {value : α}

/-- A key and a value are a pair behind which no other pair has this key. -/
def LastPair (pairs : List (κ × α)) (key : κ) (value : α) : Prop :=
  ∃ place, pairs[place]? = some (key, value)
    ∧ ∀ (later : Nat) (pair : κ × α), place < later → pairs[later]? = some pair → pair.1 ≠ key

/-- A new pair is the last one with its key. -/
theorem lastPair_concat_self {last : α} :
    LastPair (pairs ++ [(key, last)]) key value ↔ last = value := by
  have hnew : (pairs ++ [(key, last)])[pairs.length]? = some (key, last) :=
    List.getElem?_concat_length
  have hplaces {place : Nat} {pair : κ × α} (h : (pairs ++ [(key, last)])[place]? = some pair) :
      place ≤ pairs.length := by
    have hlength := (List.getElem?_eq_some_iff.mp h).1
    rw [List.length_append, List.length_singleton] at hlength
    exact Nat.le_of_lt_succ hlength
  constructor
  · rintro ⟨place, hplace, hnone⟩
    -- A place in front of the new pair is not the last with its key.
    have hend : ¬ place < pairs.length := fun hbefore => hnone _ _ hbefore hnew rfl
    obtain rfl := Nat.le_antisymm (hplaces hplace) (Nat.le_of_not_lt hend)
    rw [hnew] at hplace
    exact congrArg Prod.snd (Option.some.inj hplace)
  · rintro rfl
    refine ⟨pairs.length, hnew, fun later pair hlater hpair => ?_⟩
    exact absurd (hplaces hpair) (Nat.not_le_of_lt hlater)

/-- A new pair with another key makes no difference. -/
theorem lastPair_concat_of_ne {other : κ} (h : other ≠ key) (last : α) :
    LastPair (pairs ++ [(other, last)]) key value ↔ LastPair pairs key value := by
  have hsame {place : Nat} {pair : κ × α} (hpair : pair.1 = key) :
      (pairs ++ [(other, last)])[place]? = some pair ↔ pairs[place]? = some pair := by
    rcases Nat.lt_or_ge place pairs.length with hbefore | hbehind
    · rw [List.getElem?_append_left hbefore]
    · rw [List.getElem?_append_right hbehind, List.getElem?_eq_none hbehind]
      refine iff_of_false (fun hnew => h ?_) nofun
      rw [← hpair, List.mem_singleton.mp (List.mem_of_getElem? hnew)]
  refine exists_congr fun place => and_congr (hsame rfl) ?_
  refine forall_congr' fun later => forall_congr' fun pair => forall_congr' fun _ => ?_
  exact ⟨fun hnone hpair hkey => hnone ((hsame hkey).mpr hpair) hkey,
    fun hnone hpair hkey => hnone ((hsame hkey).mp hpair) hkey⟩

variable [DecidableEq κ]

/-- Adding one more pair to a dictionary made from pairs puts its value under its key. -/
theorem ofList_concat (pairs : List (κ × α)) (key : κ) (value : α) :
    ofList (pairs ++ [(key, value)]) = (ofList pairs).insert key value := by
  rw [ofList, List.foldl_append]
  rfl

/-- The value under a key is that of the last pair with this key. -/
theorem find?_ofList_iff :
    (ofList pairs).find? key = some value ↔ LastPair pairs key value := by
  induction pairs using List.reverseRecOn with
  | nil => simp [ofList, LastPair]
  | append_singleton pairs pair ih =>
    obtain ⟨other, last⟩ := pair
    rw [ofList_concat, find?_insert]
    by_cases hother : other = key
    · rw [hother, if_pos rfl, lastPair_concat_self, Option.some.injEq]
    · rw [if_neg hother, ih, lastPair_concat_of_ne hother]

/-- The entries are the keys with what is found under them. -/
theorem mem_entries_iff {d : Dictionary κ α} {key : κ} {value : α} :
    (key, value) ∈ d.entries ↔ d.find? key = some value := by
  refine ⟨find?_of_mem, fun h => ?_⟩
  obtain ⟨entry, hentry, rfl⟩ := Option.map_eq_some_iff.mp h
  have hkey := List.find?_some hentry
  rw [decide_eq_true_eq] at hkey
  exact hkey ▸ List.mem_of_find?_eq_some hentry

/-- Dictionaries with the same values under the same keys have the same entries. -/
theorem perm_of_find? {d other : Dictionary κ α}
    (h : ∀ key value, other.find? key = some value ↔ d.find? key = some value) :
    other.entries.Perm d.entries := by
  refine (List.perm_ext_iff_of_nodup (List.Nodup.of_map Prod.fst other.distinct)
    (List.Nodup.of_map Prod.fst d.distinct)).mpr ?_
  rintro ⟨key, value⟩
  rw [mem_entries_iff, mem_entries_iff, h]

end Dictionary

/-! ## The map of a call by position -/

namespace Binding

variable {inputs values : List String}

/-- **The last value of an input**: the value at a place of the input, behind which no other value
stands at a place of the same input. -/
def LastAt (inputs values : List String) (name value : String) : Prop :=
  ∃ place, inputs[place]? = some name ∧ values[place]? = some value
    ∧ ∀ later, place < later → later < values.length → inputs[later]? ≠ some name

/-- A call by position binds each input to its last value. -/
theorem find?_positional_iff {name value : String} :
    (positional inputs values).find? name = some value ↔ LastAt inputs values name value := by
  rw [positional, Dictionary.find?_ofList_iff]
  refine exists_congr fun place => ?_
  rw [List.getElem?_zip_eq_some, and_assoc]
  refine and_congr_right fun _ => and_congr_right fun _ => ?_
  constructor
  · intro hnone later hlater hlength hname
    exact hnone later (name, values[later]) hlater
      (List.getElem?_zip_eq_some.mpr ⟨hname, List.getElem?_eq_getElem hlength⟩) rfl
  · intro hnone later pair hlater hpair hname
    obtain ⟨hinput, hvalue⟩ := List.getElem?_zip_eq_some.mp hpair
    exact hnone later hlater (List.getElem?_eq_some_iff.mp hvalue).1 (hname ▸ hinput)

/-- A call by position binds the first inputs, as many as there are values. -/
theorem mem_keys_positional {name : String} : name ∈ (positional inputs values).keys
    ↔ name ∈ inputs.take (min inputs.length values.length) := by
  rw [positional, Dictionary.mem_keys_ofList, List.zip_eq_zip_take_min, List.map_fst_zip]
  simp only [List.length_take]
  omega

end Binding

/-! ## Calls that no argument stops -/

/-- A step that never stops because of an undeclared argument. -/
def Build.Declares {α : Type} (step : Build α) : Prop :=
  ∀ board name, (step board).1 ≠ .error (.fault (.undeclaredArgument name))

/-- Calls by position are never refused because of an undeclared argument. -/
def Expander.Declares (expander : Expander) : Prop :=
  ∀ (scenario : Scenario) (values : List String) (site : CallSite),
    (expander.call scenario (scenario.bindPositional values) site).Declares

/-- An interpreter reports no undeclared argument by itself. -/
def Interpreter.Declares (interpreter : Interpreter) : Prop :=
  ∀ expander : Expander, expander.Declares → (interpreter.assertions expander).Declares

/-- Neither a constructor nor what it makes reports an undeclared argument by itself. -/
def Constructor.Declares (constructor : Constructor) : Prop :=
  ∀ assignment, (∀ name, constructor assignment ≠ .error (.undeclaredArgument name))
    ∧ ∀ interpreter, constructor assignment = .ok interpreter → interpreter.Declares

/-- Neither a factory nor what it makes reports an undeclared argument by itself. -/
def Factory.Declares (factory : Factory) : Prop :=
  Constructor.Declares factory.make

/-- A factory reports no undeclared argument if none of its constructors does. -/
theorem Factory.declares_ofList {pairs : List (String × Constructor)}
    (h : ∀ pair ∈ pairs, pair.2.Declares) : Factory.Declares (Dictionary.ofList pairs) := by
  intro assignment
  unfold Factory.make
  split
  next constructor hfound => exact h _ (Dictionary.mem_of_find?_ofList hfound) assignment
  next => exact ⟨nofun, nofun⟩

namespace Build

variable {α β : Type}

theorem Declares.pure (value : α) : (Pure.pure value : Build α).Declares :=
  nofun

theorem Declares.bind {step : Build α} {next : α → Build β} (hstep : step.Declares)
    (hnext : ∀ value, (next value).Declares) : (step >>= next).Declares := by
  intro board name
  rcases hreached : step board with ⟨answer, after⟩
  cases answer with
  | error stop =>
    rw [bind_error hreached]
    have hstop := hstep board name
    rw [hreached] at hstop
    rintro ⟨⟩
    exact hstop rfl
  | ok value =>
    rw [bind_ok hreached]
    exact hnext value after name

end Build

namespace Script

/-- Reading the rows of a script reports no undeclared argument but those of its calls. -/
theorem declares_assertionsFrom {expander : Expander} (hexpander : expander.Declares)
    (assignment : Assignment) (row number : Nat) (rows : List (List String)) :
    (assertionsFrom assignment expander row number rows).Declares := by
  induction rows generalizing row number with
  | nil => exact .pure []
  | cons cells rest ih =>
    cases hcells : Row.ofCells expander.scenarios cells with
    | note =>
      rw [assertionsFrom_note hcells]
      exact ih (row + 1) number
    | action judge parts =>
      rw [assertionsFrom_action hcells]
      exact (ih (row + 1) (number + 1)).bind fun _ => .pure _
    | call scenario arguments =>
      rw [assertionsFrom_call hcells]
      refine Build.Declares.bind (hexpander scenario arguments _) fun _ => ?_
      exact (ih (row + 1) number).bind fun _ => .pure _

/-- Neither the factory of scripts nor a script reports an undeclared argument by itself. -/
theorem declares_factory : factory.Declares := by
  refine Factory.declares_ofList fun pair hpair => ?_
  rw [List.mem_singleton.mp hpair]
  intro assignment
  refine ⟨nofun, ?_⟩
  rintro _ ⟨⟩ expander hexpander
  exact declares_assertionsFrom hexpander assignment 1 0 assignment.rows.tail

end Script

namespace Scenario

variable {setting : Setting} {scenario : Scenario} {site : CallSite}

/-- Over a factory that reports no undeclared argument calls by position are never refused for
one. -/
theorem declares_callPositional (hfactory : setting.factory.Declares) (depth : Nat)
    (scenario : Scenario) (values : List String) (site : CallSite) :
    (scenario.callPositional setting depth values site).Declares := by
  -- The body of a call may call any scenario by position, with one level less.
  induction depth generalizing scenario values site with
  | zero => exact nofun
  | succ depth ih =>
    intro board
    obtain ⟨rows, hexpand⟩ := scenario.expand_bindPositional values
    obtain ⟨hmakes, hmade⟩ := hfactory (scenario.bodyAssignment setting site rows board)
    rw [callPositional]
    cases hmake : setting.factory.make (scenario.bodyAssignment setting site rows board) with
    | error fault =>
      rw [call_of_make_error hexpand hmake]
      rintro name ⟨⟩
      exact hmakes name hmake
    | ok interpreter =>
      have hexpander : Expander.Declares ⟨setting.scenarios, Scenario.call setting depth⟩ :=
        fun scenario values site => ih scenario values site
      rw [call_of_made hexpand hmake]
      exact (hmade interpreter hmake _ hexpander).bind (fun _ => .pure _)
        (board.opened site interpreter.table)

/-- The assertions of a call follow from its expanded rows. -/
theorem call_congr {binding other : Binding}
    (h : scenario.expand other = scenario.expand binding) (depth : Nat) :
    scenario.call setting depth other site = scenario.call setting depth binding site := by
  cases depth with
  | zero => rfl
  | succ depth => rw [call, h, call]

/-- A call by position that stops has had its rows expanded: the factory refused to make an
interpreter, or the interpreter stopped. -/
theorem callPositional_stopped {depth : Nat} {values : List String} {board after : Board}
    {stop : Stop}
    (h : scenario.callPositional setting (depth + 1) values site board = (.error stop, after)) :
    ∃ rows, scenario.expand (scenario.bindPositional values) = .ok rows
      ∧ ((∃ fault, stop = .fault fault
            ∧ setting.factory.make (scenario.bodyAssignment setting site rows board)
              = .error fault)
        ∨ ∃ interpreter,
            setting.factory.make (scenario.bodyAssignment setting site rows board)
                = .ok interpreter
              ∧ interpreter.assertions ⟨setting.scenarios, Scenario.call setting depth⟩
                (board.opened site interpreter.table) = (.error stop, after)) := by
  obtain ⟨rows, hexpand⟩ := scenario.expand_bindPositional values
  refine ⟨rows, hexpand, ?_⟩
  rw [callPositional] at h
  cases hmake : setting.factory.make (scenario.bodyAssignment setting site rows board) with
  | error fault =>
    rw [call_of_make_error hexpand hmake] at h
    cases h
    exact .inl ⟨fault, rfl, rfl⟩
  | ok interpreter =>
    rw [call_of_made hexpand hmake] at h
    exact .inr ⟨interpreter, rfl, Build.error_of_return h⟩

/-- **A call by position is a call by name.** Its values bind exactly the names among the inputs
that have a value, each to the value at the last place of the name. A call by name with a map of
these names and values, listed in any order, has the same assertions or the same stop, and leaves
the same board. A call by position never stops at its arguments: the factory or an interpreter has
stopped it, and where these report no undeclared argument by themselves, no call by position ends
with one. -/
theorem callPositional_agrees (setting : Setting) (depth : Nat) (scenario : Scenario)
    (values : List String) (site : CallSite) :
    (∀ name value, (scenario.bindPositional values).find? name = some value
        ↔ Binding.LastAt scenario.header.inputs values name value)
      ∧ (∀ name, name ∈ (scenario.bindPositional values).keys
          ↔ name ∈ scenario.header.inputs.take (min scenario.header.inputs.length values.length))
      ∧ (∀ given : Dictionary String String,
          (∀ name value, given.find? name = some value
            ↔ Binding.LastAt scenario.header.inputs values name value) →
          scenario.callNamed setting depth given site
            = scenario.callPositional setting depth values site)
      ∧ (∀ inner board stop after, depth = inner + 1 →
          scenario.callPositional setting depth values site board = (.error stop, after) →
          ∃ rows, scenario.expand (scenario.bindPositional values) = .ok rows
            ∧ ((∃ fault, stop = .fault fault
                  ∧ setting.factory.make (scenario.bodyAssignment setting site rows board)
                    = .error fault)
              ∨ ∃ interpreter,
                  setting.factory.make (scenario.bodyAssignment setting site rows board)
                      = .ok interpreter
                    ∧ interpreter.assertions ⟨setting.scenarios, Scenario.call setting inner⟩
                      (board.opened site interpreter.table) = (.error stop, after)))
      ∧ (setting.factory.Declares → ∀ board name,
          (scenario.callPositional setting depth values site board).1
            ≠ .error (.fault (.undeclaredArgument name))) := by
  refine ⟨fun _ _ => Binding.find?_positional_iff, fun _ => Binding.mem_keys_positional, ?_, ?_,
    fun hfactory => declares_callPositional hfactory depth scenario values site⟩
  · intro given hgiven
    have hperm : given.entries.Perm (scenario.bindPositional values).entries :=
      Dictionary.perm_of_find? fun name value =>
        (hgiven name value).trans Binding.find?_positional_iff.symm
    have hdeclared : Binding.undeclared? given scenario.header.inputs = none := by
      rw [Binding.undeclared?_of_perm hperm]
      exact Binding.undeclared?_eq_none fun _ => Binding.mem_inputs_of_positional
    have hnamed : scenario.bindNamed given = .ok given := by
      rw [bindNamed, Binding.named, hdeclared]
    have hexpand : scenario.expand given = scenario.expand (scenario.bindPositional values) := by
      rw [expand, expand, Expansion.expand, Expansion.expand, Binding.undeclared?_of_perm hperm,
        Expansion.pairsOf_of_perm hperm]
    rw [callNamed, hnamed]
    exact call_congr hexpand depth
  · rintro inner board stop after rfl
    exact callPositional_stopped

/-- A scenario that declares an input twice, and one without a name in between. -/
def repeating : Scenario :=
  ⟨"table_0", [["scenario", "say", "x", "", "", "or", "x"], ["say", "@x"]],
    .ofAlternating ["say", "x", "", "", "or", "x"]⟩

/-- The row that calls `repeating`. -/
def repeatingSite : CallSite := ⟨⟨1, []⟩, "table_1", Script.kindName, 2, []⟩

/-- The later place of a repeated input gives its value, as in a map that lists the names in another
order, and a value too many is no undeclared argument. -/
theorem callPositional_agrees_repeatedInput :
    (repeating.bindPositional ["1", "2", "3", "4"]).find? "x" = some "3"
      ∧ repeating.callNamed (scriptSetting Script.kindName .empty) 1
          (.ofList [("", "2"), ("x", "3")]) repeatingSite
        = repeating.callPositional (scriptSetting Script.kindName .empty) 1
          ["1", "2", "3", "4"] repeatingSite
      ∧ ∀ board name, (repeating.callPositional (scriptSetting Script.kindName .empty) 1
          ["1", "2", "3", "4"] repeatingSite board).1
            ≠ .error (.fault (.undeclaredArgument name)) := by
  obtain ⟨hvalues, -, hnamed, -, hdeclares⟩ := callPositional_agrees
    (scriptSetting Script.kindName .empty) 1 repeating ["1", "2", "3", "4"] repeatingSite
  refine ⟨(hvalues "x" "3").mpr ⟨2, rfl, rfl, ?_⟩, hnamed _ ?_, hdeclares Script.declares_factory⟩
  · intro later hlater hlength
    obtain rfl : later = 3 := Nat.le_antisymm (Nat.le_of_lt_succ hlength) hlater
    exact nofun
  · intro name value
    have hperm : (Dictionary.ofList [("", "2"), ("x", "3")]).entries.Perm
        (repeating.bindPositional ["1", "2", "3", "4"]).entries := by decide
    rw [← hvalues, ← Dictionary.mem_entries_iff, ← Dictionary.mem_entries_iff]
    exact hperm.mem_iff

end Scenario

end ScenarioTables
