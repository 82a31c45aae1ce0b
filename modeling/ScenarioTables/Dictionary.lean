/-!
# Dictionaries in order of first insertion

A dictionary maps each of its keys to one value. Putting a value under a key that is already there
replaces the value and keeps the key's place; a new key goes to the end. The keys are distinct by
construction. `find?_insert` and `keys_insert` say all that later modules use.
-/

set_option autoImplicit false

namespace ScenarioTables

/-- A finite map whose entries stand in the order in which their keys were first inserted. -/
structure Dictionary (κ α : Type) where
  /-- The keys with their current values. -/
  entries : List (κ × α)
  /-- No key stands twice. -/
  distinct : (entries.map Prod.fst).Nodup

namespace Dictionary

variable {κ α : Type}

/-- The dictionary without entries. -/
def empty : Dictionary κ α := ⟨[], .nil⟩

instance : Inhabited (Dictionary κ α) := ⟨empty⟩

/-- The keys in order of first insertion. -/
def keys (d : Dictionary κ α) : List κ :=
  d.entries.map Prod.fst

/-- The current values, in order of first insertion of their keys. -/
def values (d : Dictionary κ α) : List α :=
  d.entries.map Prod.snd

/-- The number of keys. -/
def size (d : Dictionary κ α) : Nat :=
  d.entries.length

variable [DecidableEq κ]

/-- The value under a key. -/
def find? (d : Dictionary κ α) (key : κ) : Option α :=
  (d.entries.find? fun entry => decide (entry.1 = key)).map Prod.snd

/-- Whether a key is there. -/
def contains (d : Dictionary κ α) (key : κ) : Bool :=
  decide (key ∈ d.keys)

/-- The entries with the value under one key replaced. -/
def replaceEntry (key : κ) (value : α) (entries : List (κ × α)) : List (κ × α) :=
  entries.map fun entry => if entry.1 = key then (entry.1, value) else entry

omit [DecidableEq κ] in
theorem map_fst_append (entries : List (κ × α)) (key : κ) (value : α) :
    (entries ++ [(key, value)]).map Prod.fst = entries.map Prod.fst ++ [key] := by
  simp

theorem map_fst_replaceEntry (key : κ) (value : α) (entries : List (κ × α)) :
    (replaceEntry key value entries).map Prod.fst = entries.map Prod.fst := by
  induction entries with
  | nil => rfl
  | cons entry entries ih =>
    by_cases h : entry.1 = key <;> simpa [replaceEntry, h] using ih

/-- Puts a value under a key, in place when the key is there and at the end when it is new. -/
def insert (d : Dictionary κ α) (key : κ) (value : α) : Dictionary κ α :=
  if h : key ∈ d.entries.map Prod.fst then
    ⟨replaceEntry key value d.entries, by rw [map_fst_replaceEntry]; exact d.distinct⟩
  else
    ⟨d.entries ++ [(key, value)], by
      rw [map_fst_append, List.nodup_append]
      refine ⟨d.distinct, by simp, ?_⟩
      intro a ha b hb hab
      rw [List.mem_singleton.mp hb] at hab
      exact h (hab ▸ ha)⟩

/-- The dictionary of a list of pairs; of two pairs with one key the later gives the value. -/
def ofList (pairs : List (κ × α)) : Dictionary κ α :=
  pairs.foldl (fun d pair => d.insert pair.1 pair.2) empty

omit [DecidableEq κ] in
@[simp] theorem keys_empty : (empty : Dictionary κ α).keys = [] := rfl

@[simp] theorem find?_empty (key : κ) : (empty : Dictionary κ α).find? key = none := rfl

/-- Inserting keeps the order of the keys and adds a new one at the end. -/
theorem keys_insert (d : Dictionary κ α) (key : κ) (value : α) :
    (d.insert key value).keys = if key ∈ d.keys then d.keys else d.keys ++ [key] := by
  unfold insert
  by_cases h : key ∈ d.entries.map Prod.fst
  · simp only [h, dite_true, keys, if_true]
    exact map_fst_replaceEntry key value d.entries
  · simp only [h, dite_false, keys, if_false]
    exact map_fst_append d.entries key value

/-- Under the replaced key the new value is found if the key is there at all; what is found under
the other keys stays. -/
theorem find?_replaceEntry (key other : κ) (value : α) (entries : List (κ × α)) :
    ((replaceEntry key value entries).find? fun entry => decide (entry.1 = other)).map Prod.snd
      = if key = other ∧ other ∈ entries.map Prod.fst then some value
        else (entries.find? fun entry => decide (entry.1 = other)).map Prod.snd := by
  induction entries with
  | nil => simp [replaceEntry]
  | cons entry entries ih =>
    by_cases hkey : entry.1 = key <;> by_cases hother : entry.1 = other <;>
      simp_all [replaceEntry]
    · intro h; exact absurd h.symm ‹_›
    · grind

/-- Reading after inserting gives the new value under its key and the old values elsewhere. -/
theorem find?_insert (d : Dictionary κ α) (key other : κ) (value : α) :
    (d.insert key value).find? other = if key = other then some value else d.find? other := by
  unfold insert find?
  by_cases h : key ∈ d.entries.map Prod.fst
  · simp only [h, dite_true]
    rw [find?_replaceEntry]
    by_cases hko : key = other
    · subst hko; simp only [true_and, h, if_true]
    · simp [hko]
  · simp only [h, dite_false]
    rw [List.find?_append]
    by_cases hko : key = other
    · subst hko
      have hnone : d.entries.find? (fun entry => decide (entry.1 = key)) = none := by
        rw [List.find?_eq_none]
        intro entry hentry
        simp only [decide_eq_true_eq]
        intro heq
        exact h (List.mem_map.mpr ⟨entry, hentry, heq⟩)
      simp [hnone]
    · simp [hko]

end Dictionary

end ScenarioTables
