/-!
# Replacing a pattern in a text

All occurrences of a pattern are replaced from left to right; occurrences do not overlap and the
text that is put in is not searched again. The pattern is given by its first character and the
rest, so it is never empty.
-/

set_option autoImplicit false

namespace ScenarioTables.Text

/-- Replaces in the text behind the next `skip` characters, which belong to an occurrence that has
been replaced already. -/
def replaceAfter (first : Char) (rest new : List Char) : Nat → List Char → List Char
  | _, [] => []
  | skip + 1, _ :: cs => replaceAfter first rest new skip cs
  | 0, c :: cs =>
    if c = first ∧ rest.isPrefixOf cs then
      new ++ replaceAfter first rest new rest.length cs
    else
      c :: replaceAfter first rest new 0 cs

/-- Replaces every occurrence of the pattern `first :: rest` by `new`. -/
def replaceAll (first : Char) (rest new cs : List Char) : List Char :=
  replaceAfter first rest new 0 cs

/-- Skipping is dropping. -/
theorem replaceAfter_eq_drop (first : Char) (rest new : List Char) (skip : Nat) (cs : List Char) :
    replaceAfter first rest new skip cs = replaceAll first rest new (cs.drop skip) := by
  induction cs generalizing skip with
  | nil => cases skip <;> simp [replaceAll, replaceAfter]
  | cons c cs ih =>
    cases skip with
    | zero => rfl
    | succ skip => simpa [replaceAfter] using ih skip

/-- A text without the pattern's first character is unchanged. -/
theorem replaceAll_of_not_mem {first : Char} {rest new cs : List Char} (h : first ∉ cs) :
    replaceAll first rest new cs = cs := by
  induction cs with
  | nil => rfl
  | cons c cs ih =>
    have hc : c ≠ first := fun hc => h (hc ▸ List.mem_cons_self)
    have hcs : first ∉ cs := fun hcs => h (List.mem_cons_of_mem _ hcs)
    have := ih hcs
    simp only [replaceAll] at this
    simp [replaceAll, replaceAfter, hc, this]

end ScenarioTables.Text
