/-!
# Sets of names

A set of names is kept as the strictly ascending list of its members, in the order of their code
points; two sets with the same members are therefore the same value. `mem_insert` and `mem_ofList`
are the laws that later modules use.
-/

set_option autoImplicit false

namespace ScenarioTables

/-- Puts a name into an ascending list, unless it is there. -/
def insertName (name : String) : List String → List String
  | [] => [name]
  | other :: rest =>
    if name < other then name :: other :: rest
    else if name = other then other :: rest
    else other :: insertName name rest

/-- Inserting adds the name and takes none away. -/
theorem mem_insertName {name other : String} {names : List String} :
    other ∈ insertName name names ↔ other = name ∨ other ∈ names := by
  induction names with
  | nil => simp [insertName]
  | cons head rest ih =>
    unfold insertName
    split
    · simp
    · split
      · rename_i heq; subst heq; simp
      · simp only [List.mem_cons, ih]; exact or_left_comm

/-- The order survives an insertion, so a set never has to be sorted again. -/
theorem pairwise_insertName {name : String} {names : List String}
    (h : names.Pairwise (· < ·)) : (insertName name names).Pairwise (· < ·) := by
  induction names with
  | nil => simp [insertName]
  | cons head rest ih =>
    rw [List.pairwise_cons] at h
    unfold insertName
    split
    · rename_i hlt
      rw [List.pairwise_cons, List.pairwise_cons]
      refine ⟨fun other hother => ?_, h⟩
      rcases List.mem_cons.mp hother with rfl | hrest
      · exact hlt
      · exact String.lt_trans hlt (h.1 other hrest)
    · split
      · exact List.pairwise_cons.mpr h
      · rename_i hlt hne
        rw [List.pairwise_cons]
        refine ⟨fun other hother => ?_, ih h.2⟩
        rcases mem_insertName.mp hother with rfl | hrest
        · apply Classical.byContradiction
          intro hge
          exact hne (String.le_antisymm (String.not_lt.mp hge) (String.not_lt.mp hlt))
        · exact h.1 other hrest

/-- A finite set of names. -/
structure NameSet where
  /-- The members in ascending order. -/
  names : List String
  /-- The order is strict, so that no member stands twice. -/
  ascending : names.Pairwise (· < ·)

namespace NameSet

/-- The set without members. -/
def empty : NameSet := ⟨[], .nil⟩

instance : Inhabited NameSet := ⟨empty⟩

instance : Membership String NameSet := ⟨fun set name => name ∈ set.names⟩

/-- Adds a member. -/
def insert (set : NameSet) (name : String) : NameSet :=
  ⟨insertName name set.names, pairwise_insertName set.ascending⟩

/-- The set of the names in a list. -/
def ofList (names : List String) : NameSet :=
  names.foldl insert empty

/-- Whether there is no member. -/
def isEmpty (set : NameSet) : Bool :=
  set.names.isEmpty

/-- The members after an insertion. -/
theorem mem_insert {set : NameSet} {name other : String} :
    other ∈ set.insert name ↔ other = name ∨ other ∈ set :=
  mem_insertName

/-- What is in a set after some insertions was inserted or was there. -/
theorem mem_foldl_insert {names : List String} {set : NameSet} {name : String} :
    name ∈ names.foldl insert set ↔ name ∈ names ∨ name ∈ set := by
  induction names generalizing set with
  | nil => simp
  | cons head rest ih =>
    rw [List.foldl_cons, ih, mem_insert, List.mem_cons]
    exact or_left_comm.trans or_assoc.symm

/-- The members of the set of a list are the members of the list. -/
theorem mem_ofList {names : List String} {name : String} :
    name ∈ ofList names ↔ name ∈ names := by
  rw [ofList, mem_foldl_insert]
  exact or_iff_left (fun h => by cases h)

end NameSet

end ScenarioTables
