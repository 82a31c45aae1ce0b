import ScenarioTables.Binding
import ScenarioTables.Table
import ScenarioTables.Text.Replace

/-!
# Expanding the body of a scenario

A call works on a copy of the scenario's rows in which `@name` and the same with the name in braces
are replaced by the value bound to the name, everywhere. Longer names go first, so that a name that
begins another does not spoil it; names of one length go in ascending order. A name is replaced in
the text that the names before it have left. The empty name has no mark.
-/

set_option autoImplicit false

namespace ScenarioTables.Expansion

/-- The length of a name in UTF-8 bytes. -/
def byteLength (name : String) : Nat :=
  name.toList.foldl (fun length c => length + c.utf8Size) 0

/-- Whether a name is replaced before another: it is longer, or as long and not greater. -/
def goesFirst (name other : String) : Bool :=
  byteLength other < byteLength name || (byteLength name == byteLength other && name ≤ other)

/-- Puts a pair into a list in the order of replacement. -/
def insertPair (pair : String × String) : List (String × String) → List (String × String)
  | [] => [pair]
  | other :: rest =>
    if goesFirst pair.1 other.1 then pair :: other :: rest else other :: insertPair pair rest

/-- The pairs in the order of replacement. -/
def inOrder (pairs : List (String × String)) : List (String × String) :=
  pairs.foldr insertPair []

/-- Replaces one name by its value, first where the name stands in braces. -/
def substituteOne (name value cs : List Char) : List Char :=
  Text.replaceAll '@' name value
    (Text.replaceAll '@' ('\x7b' :: name ++ ['\x7d']) value cs)

/-- Replaces the names of the given pairs, one after another. -/
def substituteChars (pairs : List (String × String)) (cs : List Char) : List Char :=
  pairs.foldl (fun text pair => substituteOne pair.1.toList pair.2.toList text) cs

/-- The content of a cell with the names of the given pairs replaced, in the order given. -/
def substitute (pairs : List (String × String)) (content : String) : String :=
  String.ofList (substituteChars pairs content.toList)

/-- The pairs of a binding that have a mark, in the order of replacement. -/
def pairsOf (binding : Binding) : List (String × String) :=
  inOrder (binding.entries.filter fun pair => pair.1 ≠ "")

/-- The rows with the values of a binding in place of the names; a bound name that is not an input
is refused. -/
def expand (rows : List (List String)) (inputs : List String) (binding : Binding) :
    Except Fault (List (List String)) :=
  match binding.undeclared? inputs with
  | some name => .error (.undeclaredArgument name)
  | none => .ok (rows.map fun cells => cells.map (substitute (pairsOf binding)))

/-- A copy of a table with the values of a binding in place of the names; a bound name that is not
an input is refused. -/
def expandTable (body : Table) (inputs : List String) (binding : Binding) : Except Fault Table :=
  match binding.undeclared? inputs with
  | some name => .error (.undeclaredArgument name)
  | none => body.mapCells fun content => .ok (substitute (pairsOf binding) content)

end ScenarioTables.Expansion
