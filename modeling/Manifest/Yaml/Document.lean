import Manifest.Node.Error
import Manifest.Text.Blank
import Manifest.Yaml.Expansion
import Manifest.Yaml.Printer

/-!
# Documents in YAML

A YAML text denotes a document, or several in a row, and a document is printed
as a YAML text.  Scalars keep the spelling they are read with, except under a
tag.  A key that is no text becomes one; no mapping may repeat a key.

A decoded value is read more strictly: its keys are texts and it has no tags of
its own, but of several values at one key the last one counts.
-/

namespace Manifest

namespace Yaml.Tree

/-- The text of a key; a collection is its own printed text, or no text if it has none. -/
def keyText : Tree → String
  | scalar atom _ => atom.content
  | other =>
      match other.render? with
      | some lines => String.ofList (Text.trimEnd lines.toList)
      | none => ""

/-- A scalar with its spelling, if spellings are kept. -/
def leaf (keepSpelling : Bool) (atom : Atom) (spelling : String) : Scalar :=
  if keepSpelling then Scalar.spelled atom.toScalarValue spelling
  else ⟨atom.toScalarValue, none⟩

mutual

/-- The document node of a tree. -/
def toNode (keepSpelling : Bool) : Tree → Node
  | scalar atom spelling => .scalar (leaf keepSpelling atom spelling)
  | sequence items => .sequence (itemNodes keepSpelling items)
  | mapping entries => .mapping (Fields.ofPairs (entryNodes keepSpelling entries))
  | tagged _ inner => inner.toNode false

/-- The nodes of items. -/
def itemNodes (keepSpelling : Bool) : List Tree → List Node
  | [] => []
  | item :: rest => item.toNode keepSpelling :: itemNodes keepSpelling rest

/-- The names and nodes of entries. -/
def entryNodes (keepSpelling : Bool) : List (Tree × Tree) → List (String × Node)
  | [] => []
  | (key, value) :: rest =>
      (key.keyText, value.toNode keepSpelling) :: entryNodes keepSpelling rest

end

/-- The text that a tree stands for, if it is a text. -/
def text? : Tree → Option String
  | scalar (.text content) _ => some content
  | _ => none

mutual

/-- The decoded value of a tree. -/
def toValue? : Tree → Option Value
  | scalar atom _ => some atom.toScalarValue.toValue
  | sequence items => (itemValues? items).map .list
  | mapping entries =>
      (entryValues? entries).map fun pairs => .map (Fields.sortedOfPairs pairs)
  | tagged _ _ => none

/-- The values of items. -/
def itemValues? : List Tree → Option (List Value)
  | [] => some []
  | item :: rest =>
      match item.toValue?, itemValues? rest with
      | some value, some values => some (value :: values)
      | _, _ => none

/-- The names and values of entries. -/
def entryValues? : List (Tree × Tree) → Option (List (String × Value))
  | [] => some []
  | (key, value) :: rest =>
      match key.text?, value.toValue?, entryValues? rest with
      | some name, some value, some pairs => some ((name, value) :: pairs)
      | _, _, _ => none

end

end Yaml.Tree

namespace Yaml.SkeletonDocument

/-- The document node of a document whose mappings repeat no key. -/
def toNode? (document : SkeletonDocument) : Option Node :=
  match document.expand? with
  | some tree =>
      if tree.isDistinct then some (if tree.isNull then .null else tree.toNode true) else none
  | none => none

end Yaml.SkeletonDocument

namespace Node

/-- The only document of a YAML text. -/
def ofYaml (source : String) : Except DocumentError Node :=
  match (Yaml.onlyDocument? source).bind Yaml.SkeletonDocument.toNode? with
  | some node => .ok node
  | none => .error .yaml

/-- The documents of a YAML text given as bytes of UTF-8. -/
def ofYamlStream (bytes : ByteArray) : Except DocumentError (List Node) :=
  let nodes? := do
    let source ← String.fromUTF8? bytes
    let documents ← Yaml.documents? source
    documents.mapM Yaml.SkeletonDocument.toNode?
  match nodes? with
  | some nodes => .ok nodes
  | none => .error .yaml

/-- The text of a document. -/
def toYaml (node : Node) : String :=
  node.toTree.render

end Node

namespace Value

/-- The decoded value of a YAML text. -/
def ofYaml? (source : String) : Option Value :=
  (Yaml.onlyDocument? source).bind fun document =>
    document.expand?.bind Yaml.Tree.toValue?

/-- The text of a value. -/
def toYaml (value : Value) : String :=
  (Node.ofValue value).toYaml

end Value

end Manifest
