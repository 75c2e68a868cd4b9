import Manifest.Resource.Basic

/-!
# Resources of a stream

The documents of a stream are resources.  Documents that say nothing are
skipped, and a document of the kind `List` stands for its items, which can be
lists again.
-/

namespace Manifest.Node

/-- Whether a document is of the kind `List`. -/
def isList (node : Node) : Bool :=
  ((node.field? "kind").bind Node.scalar?).any fun leaf => leaf.text == "List"

/-- The documents that a document stands for, `items` being those of its items. -/
def expansion (node : Node) (items : Except DocumentError (List Node)) :
    Except DocumentError (List Node) :=
  if node.isNull then .ok []
  else if node.isList then items
  else .ok [node]

mutual

/-- The documents that the items of a node stand for. -/
def expandContent : Node → Except DocumentError (List Node)
  | document inner => expandContent inner
  | reference _ target => expandContent target
  | mapping fields => expandItemsField fields
  | _ => .ok []

/-- The documents that the field of items stands for. -/
def expandItemsField : List (String × Node) → Except DocumentError (List Node)
  | [] => .ok []
  | (name, node) :: rest =>
      if name = "items" then expandItems node else expandItemsField rest

/-- The documents that a node of items stands for. -/
def expandItems : Node → Except DocumentError (List Node)
  | document inner => expandItems inner
  | reference _ target => expandItems target
  | sequence items => expandAll items
  | scalar leaf =>
      if leaf.isNull then .ok []
      else .error (.typeMismatch "items" "sequence" NodeKind.scalar.text)
  | mapping _ => .error (.typeMismatch "items" "sequence" NodeKind.mapping.text)

/-- The documents that some documents stand for. -/
def expandAll : List Node → Except DocumentError (List Node)
  | [] => .ok []
  | node :: rest => do
      let first ← expansion node (expandContent node)
      let others ← expandAll rest
      return first ++ others

end

/-- The documents that a document stands for. -/
def expandList (node : Node) : Except DocumentError (List Node) :=
  expansion node node.expandContent

end Manifest.Node

namespace Manifest.Resource

/-- The resources of a list of documents. -/
def ofNodes (nodes : List Node) : Except DocumentError (List Resource) := do
  (← Node.expandAll nodes).mapM ofNode

/-- The resources of a YAML text given as bytes of UTF-8. -/
def ofYamlStream (bytes : ByteArray) : Except DocumentError (List Resource) := do
  ofNodes (← Node.ofYamlStream bytes)

end Manifest.Resource
