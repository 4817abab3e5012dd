import AnomalyDetection.Files.System

namespace AnomalyDetection

open Files

-- All places that lie on the way to a path, and the one it leads to.
def Files.placesTo (here : Place) (path : String) : List Place :=
  go (if path.startsWith "/" then [] else here) (names path)
where
  go (p : Place) : List String → List Place
    | [] => []
    | name :: rest =>
      if name = "" ∨ name = "." then go p rest
      else if name = ".." then go p.dropLast rest
      else (p ++ [name]) :: go (p ++ [name]) rest

-- The path from the root to a place.
def Files.pathOf (p : Place) : String :=
  "/" ++ "/".intercalate p

-- The entries that are new in a later file system or differ in it, outermost first.
def FileSystem.changes (before after : FileSystem) : List (Place × Entry) :=
  (after.entries.filter fun (p, e) => before.entry? p ≠ some e).mergeSort
    fun a b => a.1.length ≤ b.1.length

end AnomalyDetection
