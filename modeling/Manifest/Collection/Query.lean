import Manifest.Collection.Basic
import Manifest.Node.Lookup
import Manifest.Selector.Basic

/-!
# Groups, selections and references

Resources are grouped by the effective namespace of an id.  A selector selects
resources by either id and by their labels and annotations.  A resource can
refer to the resources of its own namespace, to those outside every namespace,
and, if it is a role binding, to those in the namespaces of its subjects.
-/

namespace Manifest.Collection

/-- Adds a resource at the end of the group of a namespace. -/
def addToGroup (namespaceName : String) (resource : Resource)
    (groups : List (String × List Resource)) : List (String × List Resource) :=
  Fields.insert namespaceName
    ((Fields.get? namespaceName groups).getD [] ++ [resource]) groups

/-- The namespaceable resources by the effective namespace of an id, in the order of namespaces. -/
def groupedBy (idOf : Resource → ResourceId) (resources : List Resource) :
    List (String × List Resource) :=
  resources.foldl
    (fun groups resource =>
      if (idOf resource).isClusterScoped then groups
      else addToGroup (idOf resource).effectiveNamespace resource groups)
    []

/-- The namespaceable resources by current namespace. -/
def groupedByCurrentNamespace (collection : Collection) : List (String × List Resource) :=
  groupedBy Resource.currentId collection.resources

/-- The namespaceable resources by initial namespace. -/
def groupedByInitialNamespace (collection : Collection) : List (String × List Resource) :=
  groupedBy Resource.initialId collection.resources

/-- The resources outside every namespace. -/
def nonNamespaceable (collection : Collection) : List Resource :=
  collection.matchingCurrent ResourceId.isClusterScoped

/-- Whether a resource satisfies a selector. -/
def isSelected (selector : Selector.Compiled) (resource : Resource) :
    Except CollectionError Bool := do
  if !selector.matchesIds resource.initialId resource.currentId then return false
  if !(← (resource.node.matchesLabels selector.labels).mapError .document) then return false
  (resource.node.matchesAnnotations selector.annotations).mapError .document

/-- The resources that satisfy a selector. -/
def selectAll (selector : Selector.Compiled) : List Resource →
    Except CollectionError (List Resource)
  | [] => .ok []
  | resource :: rest => do
      let isIn ← isSelected selector resource
      let others ← selectAll selector rest
      return if isIn then resource :: others else others

/-- The resources that a selector selects. -/
def select (collection : Collection) (selector : Selector) :
    Except CollectionError (List Resource) := do
  let compiled ← selector.compile.mapError .selector
  selectAll compiled collection.resources

/-- The kind of resources that bind roles to subjects. -/
def roleBindingKind : String := "RoleBinding"

/-- The namespace that an entry of the list of subjects names. -/
def subjectNamespace? (subject : Value) : Option String :=
  ((subject.map?.bind (Fields.get? "namespace")).bind Value.text?).filter (· ≠ "")

/-- The namespaces of the subjects of a document. -/
def subjectNamespaces (node : Node) : Except DocumentError (List String) :=
  match node.getList "subjects" with
  | .ok subjects => .ok (subjects.filterMap subjectNamespace?)
  | .error error => if error.isNoField then .ok [] else .error error

/-- The namespaces that a resource can refer to besides its own. -/
def furtherNamespaces (referrer : Resource) : Except DocumentError (List String) :=
  if referrer.currentId.gvk.kind = roleBindingKind then subjectNamespaces referrer.node
  else .ok []

/-- Whether a resource can refer to one with an id. -/
def canReferTo (referrer : ResourceId) (namespaces : List String) (id : ResourceId) : Bool :=
  referrer.isClusterScoped || id.isClusterScoped || id.sharesNamespace referrer ||
    namespaces.contains id.effectiveNamespace

/-- The ids that a resource can refer to, as a condition. -/
def reference (referrer : Resource) : Except CollectionError (ResourceId → Bool) :=
  if referrer.currentId.isClusterScoped then .ok fun _ => true
  else
    ((furtherNamespaces referrer).mapError .document).map fun namespaces =>
      canReferTo referrer.currentId namespaces

/-- The resources that a resource can refer to. -/
def referencedBy (collection : Collection) (referrer : Resource) :
    Except CollectionError Collection :=
  (reference referrer).map fun holds => { resources := collection.matchingCurrent holds }

end Manifest.Collection
