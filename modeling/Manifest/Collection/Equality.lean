import Manifest.Collection.Basic

/-!
# Equality of collections

Collections are compared by the contents of their resources, in order or paired
by current id.  Build annotations do not count.
-/

namespace Manifest.Collection

/-- The differences between two resources. -/
def compareResources (left right : Resource) : Except CollectionError Comparison := do
  let leftNode ← left.comparableNode.mapError .document
  let rightNode ← right.comparableNode.mapError .document
  return .ofNodes leftNode rightNode

/-- Fails unless two collections have the same size. -/
def requireSameSize (left right : Collection) : Except CollectionError Unit :=
  if left.size = right.size then .ok ()
  else .error (.notEqual (.sizes left.size right.size))

/-- The counterpart of a resource in another collection. -/
def counterpart (other : Collection) (position : Nat) (id : ResourceId) :
    Except CollectionError Resource :=
  match other.matchingCurrent (· == id) with
  | [resource] => .ok resource
  | found => .error (.notEqual (.counterparts position id found.length))

/-- Fails unless each resource of a list has an equal counterpart in a collection. -/
def requireCounterparts (other : Collection) : Nat → List Resource →
    Except CollectionError Unit
  | _, [] => .ok ()
  | position, resource :: rest => do
      let partner ← counterpart other position resource.currentId
      let comparison ← compareResources resource partner
      if comparison.isSame then requireCounterparts other (position + 1) rest
      else throw (.notEqual (.content resource.currentId comparison))

/-- Fails unless two collections have equal resources, in any order. -/
def requireEqualSets (left right : Collection) : Except CollectionError Unit := do
  requireSameSize left right
  requireCounterparts right 0 left.resources

/-- Fails unless two lists have equal resources as far as both go. -/
def requireEqualPairs : Nat → List Resource → List Resource → Except CollectionError Unit
  | position, left :: leftRest, right :: rightRest => do
      let comparison ← compareResources left right
      if comparison.isSame then requireEqualPairs (position + 1) leftRest rightRest
      else
        throw (.notEqual (.position position left.currentId right.currentId comparison))
  | _, _, _ => .ok ()

/-- Fails unless two collections have equal resources in the same order. -/
def requireEqualLists (left right : Collection) : Except CollectionError Unit := do
  requireSameSize left right
  requireEqualPairs 0 left.resources right.resources

end Manifest.Collection
