import Manifest.Node.Basic
import Manifest.Path

/-!
# Differences of documents

Two documents are compared field by field: mappings per name, sequences per
position.  A path is removed if only the left document has it, added if only
the right one has it, and modified if both have different nodes there that are
not both mappings or both sequences.
-/

namespace Manifest

/-- A difference between two documents. -/
inductive Difference where
  | removed (path : Path)
  | modified (path : Path)
  | added (path : Path)
deriving DecidableEq, Repr

namespace Difference

/-- The items of a longer left sequence from a position on. -/
def removedItems (path : Path) (position : Nat) : List Node → List Difference
  | [] => []
  | _ :: rest =>
      removed (path.push (.index position)) :: removedItems path (position + 1) rest

/-- The fields on the left that the right fields lack. -/
def removedFields (path : Path) (right : List (String × Node)) :
    List (String × Node) → List Difference
  | [] => []
  | (name, _) :: rest =>
      if Fields.contains name right then removedFields path right rest
      else removed (path.push (.field name)) :: removedFields path right rest

/-- A path that is modified unless the nodes at it are the same. -/
def unlessSame (path : Path) (left right : Node) : List Difference :=
  if left.same right then [] else [modified path]

mutual

/-- The differences between a content node and a node, at a path. -/
def between (path : Path) (left : Node) : Node → List Difference
  | .document inner => between path left inner
  | .reference _ target => between path left target
  | .mapping right =>
      match left with
      | .mapping fields => removedFields path right fields ++ betweenFields path fields right
      | other => unlessSame path other (.mapping right)
  | .sequence right =>
      match left with
      | .sequence items => betweenItems path 0 items right
      | other => unlessSame path other (.sequence right)
  | .scalar leaf => unlessSame path left (.scalar leaf)

/-- The differences at the fields on the right. -/
def betweenFields (path : Path) (left : List (String × Node)) :
    List (String × Node) → List Difference
  | [] => []
  | (name, node) :: rest =>
      (match Fields.get? name left with
        | some other => between (path.push (.field name)) other.content node
        | none => [added (path.push (.field name))]) ++ betweenFields path left rest

/-- The differences of two sequences from a position on. -/
def betweenItems (path : Path) (position : Nat) (left : List Node) :
    List Node → List Difference
  | [] => removedItems path position left
  | node :: rest =>
      match left with
      | [] => added (path.push (.index position)) ::
          betweenItems path (position + 1) [] rest
      | other :: others =>
          between (path.push (.index position)) other.content node ++
            betweenItems path (position + 1) others rest

end

end Difference

namespace Path

/-- Adds a path to an ascending list of paths, unless it is there. -/
def insertSorted (path : Path) : List Path → List Path
  | [] => [path]
  | other :: rest =>
      match path.compare other with
      | .lt => path :: other :: rest
      | .eq => other :: rest
      | .gt => other :: insertSorted path rest

/-- The paths of a list in ascending order, each once. -/
def sorted (paths : List Path) : List Path :=
  paths.foldr insertSorted []

end Path

/-- The differences of two documents, as ascending lists of paths. -/
structure Comparison where
  removed : List Path := []
  modified : List Path := []
  added : List Path := []
deriving DecidableEq, Repr

namespace Comparison

/-- The path of a removal. -/
def removedPath? : Difference → Option Path
  | .removed path => some path
  | _ => none

/-- The path of a modification. -/
def modifiedPath? : Difference → Option Path
  | .modified path => some path
  | _ => none

/-- The path of an addition. -/
def addedPath? : Difference → Option Path
  | .added path => some path
  | _ => none

/-- The comparison that a list of differences makes up. -/
def ofDifferences (differences : List Difference) : Comparison where
  removed := Path.sorted (differences.filterMap removedPath?)
  modified := Path.sorted (differences.filterMap modifiedPath?)
  added := Path.sorted (differences.filterMap addedPath?)

/-- The comparison of two documents. -/
def ofNodes (left right : Node) : Comparison :=
  ofDifferences (Difference.between [] left.content right)

/-- Whether there is no difference. -/
def isSame (comparison : Comparison) : Bool :=
  comparison.removed.isEmpty && comparison.modified.isEmpty && comparison.added.isEmpty

/-- A titled list of paths; nothing for an empty list. -/
def sectionText (title : String) (paths : List Path) : List String :=
  if paths.isEmpty then []
  else ["- " ++ title ++ ":" ++ String.join (paths.map fun path => "\n  " ++ path.text)]

/-- The differences in words: modifications, additions, removals. -/
def text (comparison : Comparison) : String :=
  "\n".intercalate
    (sectionText "Modified Fields" comparison.modified ++
      sectionText "Added Fields" comparison.added ++
      sectionText "Removed Fields" comparison.removed)

end Comparison

end Manifest
