/-
Uses: for each of a number of keys, the names of the stylesheets that use it, one name for each
use. Keys ascend by code point; under a key, names stand in the order in which they were added.
-/
import CssSurvey.Text.Basic

namespace CssSurvey

/-- Keys in ascending order, each with the names that use it. -/
abbrev Uses := List (Text × List Text)

namespace Uses

/-- Adds one use of a key. -/
def add (key name : Text) : Uses → Uses
  | [] => [(key, [name])]
  | (other, names) :: rest =>
    if key = other then (other, names ++ [name]) :: rest
    else if key < other then (key, [name]) :: (other, names) :: rest
    else (other, names) :: add key name rest

/-- The uses in a list of keys with the names that use them. -/
def ofList (uses : List (Text × Text)) : Uses :=
  uses.foldl (fun found (key, name) => found.add key name) []

/-- The keys that are used more than once. -/
def repeated (uses : Uses) : Uses := uses.filter fun (_, names) => 1 < names.length

/-- The same uses, the names under each key in ascending order. -/
def sortNames (uses : Uses) : Uses :=
  uses.map fun (key, names) => (key, names.mergeSort Text.le)

end Uses

end CssSurvey
