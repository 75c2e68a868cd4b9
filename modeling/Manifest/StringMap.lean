import Manifest.Fields

/-!
# Maps from texts to texts

Labels, annotations and the data of a configuration map are maps from texts to
texts.  A map keeps its entries in the order of their keys, so that two maps
with the same entries are equal.
-/

namespace Manifest

/-- A finite map from texts to texts. -/
structure StringMap where
  entries : List (String × String) := []
  ascending : Fields.Ascending entries := by exact List.Pairwise.nil

namespace StringMap

/-- The map without entries. -/
def empty : StringMap := {}

instance : Inhabited StringMap := ⟨empty⟩

theorem ext
    {left right : StringMap}
    (sameEntries : left.entries = right.entries) :
    left = right := by
  cases left
  cases right
  simp_all

instance : DecidableEq StringMap := fun left right =>
  if same : left.entries = right.entries then isTrue (ext same)
  else isFalse fun equal => same (equal ▸ rfl)

/-- The text at a key. -/
def get? (map : StringMap) (key : String) : Option String :=
  Fields.get? key map.entries

/-- The map with one entry set. -/
def insert (map : StringMap) (key text : String) : StringMap where
  entries := Fields.insert key text map.entries
  ascending := map.ascending.insert key text

/-- The entries whose keys satisfy a condition. -/
def filterKeys (map : StringMap) (keep : String → Bool) : StringMap where
  entries := map.entries.filter fun entry => keep entry.1
  ascending := map.ascending.filter _

/-- The map with the entries of another one set in it. -/
def insertAll (map other : StringMap) : StringMap :=
  other.entries.foldl (fun result entry => result.insert entry.1 entry.2) map

/-- The map of a list of pairs; a later pair overwrites an earlier one. -/
def ofPairs (pairs : List (String × String)) : StringMap where
  entries := Fields.sortedOfPairs pairs
  ascending := Fields.ascending_sortedOfPairs pairs

/-- Whether there is no entry. -/
def isEmpty (map : StringMap) : Bool :=
  map.entries.isEmpty

/-- The number of entries. -/
def size (map : StringMap) : Nat :=
  map.entries.length

end StringMap

end Manifest
