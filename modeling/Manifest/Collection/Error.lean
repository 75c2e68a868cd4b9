import Manifest.Patch.Comparison
import Manifest.Patch.Directive
import Manifest.Resource.Basic

/-!
# Errors of collections
-/

namespace Manifest

/-- Why two collections are not equal. -/
inductive Inequality where
  | sizes (left right : Nat)
  /-- The resource at a position has not exactly one counterpart but `count` many. -/
  | counterparts (position : Nat) (id : ResourceId) (count : Nat)
  | content (id : ResourceId) (comparison : Comparison)
  | position (position : Nat) (left right : ResourceId) (comparison : Comparison)

/-- Why an operation on a collection fails. -/
inductive CollectionError where
  | collision (id : ResourceId)
  | notFound (id : ResourceId)
  | ambiguous (id : ResourceId) (count : Nat)
  /-- The behavior of an incoming resource does not fit what is there. -/
  | behaviorMismatch (id : ResourceId) (behavior : Behavior)
  | notEqual (cause : Inequality)
  | document (error : DocumentError)
  | patch (error : PatchError)
  | selector (error : Selector.SelectorError)

namespace CollectionError

/-- The error of finding another number of resources than one. -/
def ofCount (id : ResourceId) (count : Nat) : CollectionError :=
  if count = 0 then notFound id else ambiguous id count

/-- What messages say when no resource has an id. -/
def notFoundMessage (id : ResourceId) : String :=
  "no resource matches id " ++ id.text

/-- What messages say when several resources have an id. -/
def ambiguousMessage (id : ResourceId) (count : Nat) : String :=
  toString count ++ " resources match id " ++ id.text ++ "; expected exactly one"

/-- What messages say about a number of resources with an id. -/
def countMessage (id : ResourceId) (count : Nat) : String :=
  if count = 0 then notFoundMessage id else ambiguousMessage id count

/-- Why a behavior does not fit. -/
def mismatchReason (behavior : Behavior) : String :=
  if behavior.needsExisting then "there is no existing resource to merge or replace"
  else "a resource with this id already exists; use merge or replace"

/-- The inequality of two collections in words. -/
def inequalityMessage : Inequality → String
  | .sizes left right =>
      toString left ++ " resources != " ++ toString right ++ " resources"
  | .counterparts position id count =>
      "resource " ++ toString position ++ " (" ++ id.text ++ "): " ++ countMessage id count
  | .content id comparison =>
      "resource " ++ id.text ++ " differs:\n" ++ comparison.text
  | .position position left right comparison =>
      "resource " ++ toString position ++ " (" ++ left.text ++ " vs " ++ right.text ++
        ") differs:\n" ++ comparison.text

/-- The error in words. -/
def message : CollectionError → String
  | collision id => "may not add resource with an already registered id: " ++ id.text
  | notFound id => notFoundMessage id
  | ambiguous id count => ambiguousMessage id count
  | behaviorMismatch id behavior =>
      "id " ++ id.text ++ ": behavior " ++ behavior.text ++ " not allowed, " ++
        mismatchReason behavior
  | notEqual cause => inequalityMessage cause
  | document error => error.message
  | patch error => error.message
  | selector error => error.message

end CollectionError

end Manifest
