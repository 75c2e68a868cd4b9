import Manifest.Node.Basic
import Manifest.Path
import Manifest.Text.Quoted

/-!
# Patch directives

A mapping of a patch can hold a directive under the key `$patch`: to delete what
it is applied to, to replace it, or to merge with it, which is also what
happens without a directive.  Some further keys speak about the patch and not
about the document.  None of these keys reaches a patched document.
-/

namespace Manifest

/-- What a mapping of a patch asks for. -/
inductive Directive where
  | delete
  | replace
  | merge
deriving DecidableEq, Repr

/-- Why a patch cannot be applied. -/
inductive PatchError where
  | unknownDirective (path : Path) (text : String)
  /-- A patch that is no mapping, for a target that is one. -/
  | notAMapping (kind : NodeKind)
deriving DecidableEq, Repr

namespace PatchError

/-- The error in words. -/
def message : PatchError → String
  | unknownDirective path text =>
      path.text ++ ": unknown patch directive " ++ Text.quoted text
  | notAMapping kind => ": patch is a " ++ kind.text ++ ", but the target is a mapping"

end PatchError

namespace Directive

/-- The key of directives. -/
def key : String := "$patch"

/-- The directive that a text names. -/
def ofText? (text : String) : Option Directive :=
  if text = "delete" then some delete
  else if text = "replace" then some replace
  else if text = "merge" then some merge
  else none

/-- Whether a key speaks about the patch and not about the document. -/
def isKey (name : String) : Bool :=
  name == key || name == "$retainKeys" || "$setElementOrder/".toList.isPrefixOf name.toList

/-- The text under the key of directives, if there is a scalar. -/
def text? (fields : List (String × Node)) : Option String :=
  ((Fields.get? key fields).bind Node.scalar?).map Scalar.text

/-- The directive of a mapping of a patch. -/
def read (fields : List (String × Node)) (path : Path) :
    Except PatchError (Option Directive) :=
  match Fields.get? key fields with
  | none => .ok none
  | some node =>
      match node.scalar? with
      | none => .error (.unknownDirective path node.kind.text)
      | some leaf =>
          match ofText? leaf.text with
          | some directive => .ok (some directive)
          | none => .error (.unknownDirective path leaf.text)

/-- Whether the fields of a mapping ask for its deletion. -/
def deletes (fields : List (String × Node)) : Bool :=
  text? fields == some "delete"

/-- Whether a node is a mapping that holds nothing but the directive to replace. -/
def isReplaceMarker (node : Node) : Bool :=
  match node.mapping? with
  | some fields => fields.length == 1 && text? fields == some "replace"
  | none => false

mutual

/--
New content without directive keys.  A mapping that asks for its own deletion
disappears, and so do markers of replacement in sequences.
-/
def strip : Node → Option Node
  | .document inner => strip inner
  | .reference _ target => strip target
  | .mapping fields =>
      if deletes fields then none else some (.mapping (stripFields fields))
  | .sequence items => some (.sequence (stripItems items))
  | .scalar leaf => some (.scalar leaf)

/-- Items without directive keys. -/
def stripItems : List Node → List Node
  | [] => []
  | item :: rest =>
      if isReplaceMarker item then stripItems rest
      else
        match strip item with
        | some stripped => stripped :: stripItems rest
        | none => stripItems rest

/-- Fields without directive keys. -/
def stripFields : List (String × Node) → List (String × Node)
  | [] => []
  | (name, node) :: rest =>
      if isKey name then stripFields rest
      else
        match strip node with
        | some stripped => (name, stripped) :: stripFields rest
        | none => stripFields rest

end

/-- A mapping without directive keys, unless it asks for its own deletion. -/
def stripMapping (fields : List (String × Node)) : Option (List (String × Node)) :=
  if deletes fields then none else some (stripFields fields)

end Directive

end Manifest
