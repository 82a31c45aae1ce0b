import ScenarioTables.Expansion

/-!
# The order of replacement

Names are replaced in an order that is total, so it depends on the set of bound names and not on the
order in which they were bound (`pairsOf_eq`).
-/

set_option autoImplicit false

namespace ScenarioTables

namespace Dictionary

variable {κ α : Type} [DecidableEq κ]

/-- An entry is found under its key. -/
theorem find?_of_mem {d : Dictionary κ α} {key : κ} {value : α} (h : (key, value) ∈ d.entries) :
    d.find? key = some value := by
  obtain ⟨entries, hdistinct⟩ := d
  simp only [find?] at h ⊢
  induction entries with
  | nil => cases h
  | cons entry entries ih =>
    rw [List.map_cons, List.nodup_cons] at hdistinct
    rcases List.mem_cons.mp h with rfl | hrest
    · simp only [List.find?_cons, decide_true, Option.map_some]
    · have hother : entry.1 ≠ key := fun heq =>
        hdistinct.1 (heq ▸ List.mem_map.mpr ⟨(key, value), hrest, rfl⟩)
      simp only [List.find?_cons, decide_eq_false hother]
      exact ih hdistinct.2 hrest

/-- What is found under a key is one of the values. -/
theorem mem_values_of_find? {d : Dictionary κ α} {key : κ} {value : α}
    (h : d.find? key = some value) : value ∈ d.values := by
  obtain ⟨entry, hentry, rfl⟩ := Option.map_eq_some_iff.mp h
  exact List.mem_map_of_mem (List.mem_of_find?_eq_some hentry)

/-- A key under which something is found is one of the keys. -/
theorem mem_keys_of_find? {d : Dictionary κ α} {key : κ} {value : α}
    (h : d.find? key = some value) : key ∈ d.keys := by
  obtain ⟨entry, hentry, rfl⟩ := Option.map_eq_some_iff.mp h
  have hkey := List.find?_some hentry
  rw [decide_eq_true_eq] at hkey
  exact hkey ▸ List.mem_map_of_mem (List.mem_of_find?_eq_some hentry)

end Dictionary

/-- No member of a set stands twice. -/
theorem NameSet.nodup (set : NameSet) : set.names.Nodup :=
  set.ascending.imp String.ne_of_lt

/-- The value of a bound name; any other name has the empty text. -/
def Binding.valueOf (binding : Binding) (name : String) : String :=
  (binding.find? name).getD ""

/-- The names that a binding gives values to. -/
def Binding.names (binding : Binding) : NameSet :=
  NameSet.ofList binding.keys

namespace Expansion

/-- The order of replacement: longer names first, names of one length in ascending order. -/
theorem goesFirst_iff {name other : String} : goesFirst name other = true ↔
    byteLength other < byteLength name ∨ byteLength name = byteLength other ∧ name ≤ other := by
  simp only [goesFirst, Bool.or_eq_true, Bool.and_eq_true, decide_eq_true_eq, beq_iff_eq]

theorem goesFirst_antisymm {name other : String} (h : goesFirst name other = true)
    (h' : goesFirst other name = true) : name = other := by
  rw [goesFirst_iff] at h h'
  rcases h with hlonger | ⟨hsame, hle⟩
  · omega
  · rcases h' with hlonger' | ⟨-, hle'⟩
    · omega
    · exact String.le_antisymm hle hle'

theorem goesFirst_trans {name middle other : String} (h : goesFirst name middle = true)
    (h' : goesFirst middle other = true) : goesFirst name other = true := by
  rw [goesFirst_iff] at *
  rcases h with hlonger | ⟨hsame, hle⟩ <;> rcases h' with hlonger' | ⟨hsame', hle'⟩
  · left; omega
  · left; omega
  · left; omega
  · exact Or.inr ⟨hsame.trans hsame', String.le_trans hle hle'⟩

theorem goesFirst_total {name other : String} (h : goesFirst name other = false) :
    goesFirst other name = true := by
  have hnot : ¬ goesFirst name other = true := by rw [h]; exact Bool.false_ne_true
  rw [goesFirst_iff] at hnot ⊢
  simp only [not_or, not_and, Nat.not_lt] at hnot
  by_cases hsame : byteLength other = byteLength name
  · right
    exact ⟨hsame, (String.le_total name other).resolve_left (hnot.2 hsame.symm)⟩
  · left; omega

/-- Inserting a pair neither loses nor doubles one. -/
theorem perm_insertPair (pair : String × String) (pairs : List (String × String)) :
    (insertPair pair pairs).Perm (pair :: pairs) := by
  induction pairs with
  | nil => exact .refl _
  | cons other rest ih =>
    rw [insertPair]
    split
    next => exact .refl _
    next => exact (ih.cons other).trans (.swap pair other rest)

/-- A pair is inserted at its place in the order. -/
theorem pairwise_insertPair {pair : String × String} {pairs : List (String × String)}
    (h : pairs.Pairwise fun first second => goesFirst first.1 second.1 = true) :
    (insertPair pair pairs).Pairwise fun first second => goesFirst first.1 second.1 = true := by
  induction pairs with
  | nil => exact List.pairwise_singleton _ _
  | cons other rest ih =>
    obtain ⟨hother, hrest⟩ := List.pairwise_cons.mp h
    rw [insertPair]
    split
    next hfirst =>
      refine List.pairwise_cons.mpr ⟨fun later hlater => ?_, h⟩
      rcases List.mem_cons.mp hlater with rfl | hmem
      · exact hfirst
      · exact goesFirst_trans hfirst (hother later hmem)
    next hfirst =>
      refine List.pairwise_cons.mpr ⟨fun later hlater => ?_, ih hrest⟩
      rcases List.mem_cons.mp ((perm_insertPair pair rest).mem_iff.mp hlater) with rfl | hmem
      · exact goesFirst_total (eq_false_of_ne_true hfirst)
      · exact hother later hmem

/-- Ordering loses and doubles no pair. -/
theorem perm_inOrder (pairs : List (String × String)) : (inOrder pairs).Perm pairs := by
  induction pairs with
  | nil => exact .refl _
  | cons pair pairs ih => exact (perm_insertPair pair _).trans (ih.cons pair)

/-- The pairs stand in the order of replacement. -/
theorem pairwise_inOrder (pairs : List (String × String)) :
    (inOrder pairs).Pairwise fun first second => goesFirst first.1 second.1 = true := by
  induction pairs with
  | nil => exact .nil
  | cons pair pairs ih => exact pairwise_insertPair ih

/-- The names of a set that have a mark, in the order of replacement. -/
def replacementOrder (names : NameSet) : List String :=
  (inOrder ((names.names.filter (· ≠ "")).map fun name => (name, ""))).map Prod.fst

/-- All names but the empty one are replaced. -/
theorem mem_replacementOrder {names : NameSet} {name : String} :
    name ∈ replacementOrder names ↔ name ∈ names ∧ name ≠ "" := by
  have hnames (marked : List String) : (marked.map fun name => (name, "")).map Prod.fst = marked := by
    rw [List.map_map]
    exact List.map_id marked
  rw [replacementOrder, ((perm_inOrder _).map Prod.fst).mem_iff, hnames, List.mem_filter,
    decide_eq_true_eq]
  rfl

/-- Pairs are put in order by their names alone. -/
theorem map_fst_inOrder {pairs : List (String × String)} {names : List String}
    (h : (pairs.map Prod.fst).Perm names) :
    (inOrder pairs).map Prod.fst = (inOrder (names.map fun name => (name, ""))).map Prod.fst := by
  have hnames : ((names.map fun name => (name, "")).map Prod.fst) = names := by
    rw [List.map_map]
    exact List.map_id names
  have hperm : ((inOrder pairs).map Prod.fst).Perm
      ((inOrder (names.map fun name => (name, ""))).map Prod.fst) := by
    refine (((perm_inOrder pairs).map _).trans h).trans ?_
    have hback := (perm_inOrder (names.map fun name => (name, ""))).map Prod.fst
    rw [hnames] at hback
    exact hback.symm
  exact List.Perm.eq_of_pairwise (fun first second _ _ => goesFirst_antisymm)
    (List.pairwise_map.mpr (pairwise_inOrder pairs)) (List.pairwise_map.mpr (pairwise_inOrder _))
    hperm

/-- The bound names that have a mark are those of the set. -/
private theorem perm_marked (binding : Binding) :
    ((binding.entries.filter fun pair => pair.1 ≠ "").map Prod.fst).Perm
      (binding.names.names.filter (· ≠ "")) := by
  have hfilter : (binding.entries.filter fun pair => pair.1 ≠ "").map Prod.fst
      = binding.keys.filter (· ≠ "") := by
    rw [Dictionary.keys, List.filter_map]
    rfl
  have hperm : binding.keys.Perm binding.names.names :=
    (List.perm_ext_iff_of_nodup binding.distinct binding.names.nodup).mpr fun name => NameSet.mem_ofList.symm
  rw [hfilter]
  exact hperm.filter _

/-- The pairs of a binding follow from the set of its names and the values of these. -/
theorem pairsOf_eq (binding : Binding) :
    pairsOf binding
      = (replacementOrder binding.names).map fun name => (name, binding.valueOf name) := by
  have hvalue : ∀ pair ∈ pairsOf binding, pair = (pair.1, binding.valueOf pair.1) := by
    intro pair hpair
    have hentry := (List.mem_filter.mp ((perm_inOrder _).mem_iff.mp hpair)).1
    rw [Binding.valueOf, Dictionary.find?_of_mem hentry]
    rfl
  have horder := map_fst_inOrder (perm_marked binding)
  rw [replacementOrder, ← horder, List.map_map]
  exact (List.map_id _).symm.trans (List.map_congr_left hvalue)

end Expansion

end ScenarioTables
