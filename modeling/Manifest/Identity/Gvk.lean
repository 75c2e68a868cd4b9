import Manifest.Identity.Kind
import Manifest.Text.Pieces

/-!
# Resource types

The type of a resource is its API group, version and kind.  Documents write
group and version together in the field `apiVersion`, as `group/version`, or
as the version alone for the core group.
-/

namespace Manifest

/-- Group, version and kind of a resource. -/
structure Gvk where
  group : String := ""
  version : String := ""
  kind : String := ""
deriving DecidableEq, Repr, Inhabited

namespace Gvk

/-- The type with a kind only. -/
def ofKind (kind : String) : Gvk where
  kind := kind

/-- Group and version of an `apiVersion`, which is split at its first slash. -/
def splitApiVersion (apiVersion : String) : String × String :=
  match Text.splitFirst? '/' apiVersion.toList with
  | some (group, version) => (String.ofList group, String.ofList version)
  | none => ("", apiVersion)

/-- The type that an `apiVersion` and a kind denote. -/
def ofApiVersion (apiVersion kind : String) : Gvk where
  group := (splitApiVersion apiVersion).1
  version := (splitApiVersion apiVersion).2
  kind := kind

/-- The `apiVersion` of a type. -/
def apiVersion (gvk : Gvk) : String :=
  if gvk.group = "" then gvk.version else gvk.group ++ "/" ++ gvk.version

/-- Whether resources of the type live outside every namespace. -/
def isClusterScoped (gvk : Gvk) : Bool :=
  Kind.isClusterScoped gvk.kind

/-- Whether resources of the type live in a namespace. -/
def isNamespaceable (gvk : Gvk) : Bool :=
  !gvk.isClusterScoped

/-- A text, or what stands for it when it is empty. -/
def orElse (text placeholder : String) : String :=
  if text = "" then placeholder else text

/-- The type as messages show it, its kind first. -/
def text (gvk : Gvk) : String :=
  orElse gvk.kind "[noKind]" ++ "." ++ orElse gvk.version "[noVer]" ++ "." ++
    orElse gvk.group "[noGrp]"

/-- Types are ordered by group, then version, then kind. -/
def compare (left right : Gvk) : Ordering :=
  (Ord.compare left.group right.group).then
    ((Ord.compare left.version right.version).then (Ord.compare left.kind right.kind))

example : (ofApiVersion "apps/v1" "Deployment").text = "Deployment.v1.apps" := by decide

end Gvk

end Manifest
