/-!
# Tables with several values to a key

A table knows of each of its keys the values that were added under it, in the order in which they
were added.  Its keys ascend, so a new key goes where it belongs.
-/
namespace OntoWrap

/-- Keys in ascending order, each with its values. -/
abbrev Table (κ ν : Type) := List (κ × List ν)

namespace Table

variable {κ ν : Type}

/-- Adds a value to those of a key. -/
def add [Ord κ] (key : κ) (value : ν) : Table κ ν → Table κ ν
  | [] => [(key, [value])]
  | (other, values) :: rest =>
    match compare key other with
    | .lt => (key, [value]) :: (other, values) :: rest
    | .eq => (other, values ++ [value]) :: rest
    | .gt => (other, values) :: add key value rest

/-- Adds values one after the other, each under its key. -/
def addAll [Ord κ] (table : Table κ ν) (entries : List (κ × ν)) : Table κ ν :=
  entries.foldl (fun table (key, value) => table.add key value) table

/-- The values of a key. -/
def valuesOf [BEq κ] (table : Table κ ν) (key : κ) : List ν := (table.lookup key).getD []

end Table

end OntoWrap
