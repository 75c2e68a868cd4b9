import Manifest.Node.Basic
import Manifest.Resource.Behavior
import Manifest.Selector.Error

/-!
# Errors of documents

Reading a field, the metadata or the text of a document can fail for the causes
listed here, and so can writing a field.
-/

namespace Manifest

/-- Why the metadata of a document cannot be read. -/
inductive MetadataFault where
  | documentShape (kind : NodeKind)
  | sectionShape (kind : NodeKind)
  | fieldNotScalar (field : String) (kind : NodeKind)
  | fieldNotMapping (field : String) (kind : NodeKind)
  /-- An entry of a map of texts is no scalar. -/
  | entryNotScalar (field key : String) (kind : NodeKind)
  /-- The behavior that a build note asks for does not exist. -/
  | unknownBehavior (key text : String)
deriving DecidableEq, Repr

namespace MetadataFault

/-- The fault in words. -/
def message : MetadataFault → String
  | documentShape kind => "document is a " ++ kind.text ++ ", not a mapping"
  | sectionShape kind => "metadata is a " ++ kind.text ++ ", not a mapping"
  | fieldNotScalar field kind => field ++ " is a " ++ kind.text ++ ", not a scalar"
  | fieldNotMapping field kind => field ++ " is a " ++ kind.text ++ ", not a mapping"
  | entryNotScalar field key kind =>
      field ++ "." ++ key ++ " is a " ++ kind.text ++ ", not a scalar"
  | unknownBehavior key text =>
      key ++ ": " ++ Behavior.unknownMessage text

end MetadataFault

/-- Why an access to a document fails. -/
inductive DocumentError where
  | noField (path : String)
  /-- A path meets a node that it does not fit. -/
  | typeMismatch (path expected actual : String)
  /-- The document has none of the fields that identify a resource. -/
  | missingMetadata
  | invalidMetadata (fault : MetadataFault)
  /-- A field cannot be written because a node on its path is no mapping. -/
  | setField (path : List String) (kind : NodeKind)
  | selector (error : Selector.SelectorError)
  | yaml
  | json
deriving DecidableEq, Repr

namespace DocumentError

/-- The error in words. -/
def message : DocumentError → String
  | noField path => "no field named '" ++ path ++ "'"
  | typeMismatch path expected actual =>
      path ++ ": expected " ++ expected ++ ", got " ++ actual
  | missingMetadata =>
      "missing resource metadata: document has no apiVersion, kind or metadata"
  | invalidMetadata fault => "invalid resource metadata: " ++ fault.message
  | setField path kind =>
      "failed to set field " ++ ".".intercalate path ++ ": expected mapping, got " ++ kind.text
  | selector error => error.message
  | yaml => "YAML error"
  | json => "JSON error"

/-- Whether the error says that a field is absent. -/
def isNoField : DocumentError → Bool
  | noField _ => true
  | _ => false

end DocumentError

end Manifest
