import Manifest.Identity.ResourceId
import Manifest.Pattern.Matching
import Manifest.Pattern.OfText
import Manifest.Selector.LabelSelector

/-!
# Selectors

A selector picks resources by patterns on the parts of their ids and by
expressions on their labels and annotations.  An empty pattern matches
everything; any other pattern is put between marks for the start and the end of
the text.
-/

namespace Manifest

/-- Patterns on the parts of an id, and expressions on labels and annotations. -/
structure Selector where
  group : String := ""
  version : String := ""
  kind : String := ""
  name : String := ""
  namespaceName : String := ""
  labels : String := ""
  annotations : String := ""
deriving DecidableEq, Repr, Inhabited

namespace Selector

/-- A selector whose patterns and expressions have been read. -/
structure Compiled where
  group : Option Pattern := none
  version : Option Pattern := none
  kind : Option Pattern := none
  name : Option Pattern := none
  namespaceName : Option Pattern := none
  labels : LabelSelector := {}
  annotations : LabelSelector := {}

/-- A pattern between marks for the start and the end of the text. -/
def anchored (pattern : String) : String :=
  "^(?:" ++ pattern ++ ")$"

/-- The pattern of a field; none for the empty text. -/
def compilePattern (field pattern : String) : Except SelectorError (Option Pattern) :=
  if pattern = "" then .ok none
  else
    match Pattern.ofText? (anchored pattern) with
    | some found => .ok (some found)
    | none => .error (.badPattern field pattern)

/-- Reads the patterns and expressions of a selector. -/
def compile (selector : Selector) : Except SelectorError Compiled := do
  let group ← compilePattern "group" selector.group
  let version ← compilePattern "version" selector.version
  let kind ← compilePattern "kind" selector.kind
  let name ← compilePattern "name" selector.name
  let namespaceName ← compilePattern "namespace" selector.namespaceName
  let labels ← LabelSelector.parse selector.labels
  let annotations ← LabelSelector.parse selector.annotations
  return { group, version, kind, name, namespaceName, labels, annotations }

namespace Compiled

/-- Whether a text satisfies an optional pattern. -/
def satisfies (pattern : Option Pattern) (text : String) : Bool :=
  pattern.all fun found => found.occursIn text

/-- Whether a type satisfies the patterns on its parts. -/
def matchesGvk (selector : Compiled) (gvk : Gvk) : Bool :=
  satisfies selector.group gvk.group && satisfies selector.version gvk.version &&
    satisfies selector.kind gvk.kind

/-- Whether a name satisfies its pattern. -/
def matchesName (selector : Compiled) (name : String) : Bool :=
  satisfies selector.name name

/-- Whether a namespace satisfies its pattern. -/
def matchesNamespace (selector : Compiled) (namespaceName : String) : Bool :=
  satisfies selector.namespaceName namespaceName

/-- Whether the name of an id or of another id of the same resource satisfies its pattern. -/
def matchesNames (selector : Compiled) (initial current : ResourceId) : Bool :=
  selector.matchesName initial.name || selector.matchesName current.name

/-- Whether one of two effective namespaces satisfies its pattern. -/
def matchesNamespaces (selector : Compiled) (initial current : ResourceId) : Bool :=
  selector.matchesNamespace initial.effectiveNamespace ||
    selector.matchesNamespace current.effectiveNamespace

/-- Whether the ids of a resource satisfy the patterns. -/
def matchesIds (selector : Compiled) (initial current : ResourceId) : Bool :=
  selector.matchesGvk current.gvk && selector.matchesNames initial current &&
    selector.matchesNamespaces initial current

end Compiled

end Selector

end Manifest
