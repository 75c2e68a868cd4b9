import Manifest.Patch.Directive

/-!
# Strategic merge patches

A patch is a document of the same shape as its target.  Mappings merge field by
field: a field that is nothing in the patch is deleted, other fields are merged
or replaced, and directives change what happens to the mapping that holds them.

A few lists are merged element by element.  Their elements are told apart by
the first listed field that an element of the patch carries; elements without
a counterpart go last.  All other lists are replaced.
-/

namespace Manifest.StrategicPatch

/-- The fields by which the elements of a merged list are told apart. -/
def mergeKeys : String → Option (List String)
  | "containers" => some ["name"]
  | "initContainers" => some ["name"]
  | "ephemeralContainers" => some ["name"]
  | "env" => some ["name"]
  | "volumes" => some ["name"]
  | "volumeMounts" => some ["mountPath"]
  | "volumeDevices" => some ["devicePath"]
  | "ports" => some ["containerPort", "port"]
  | "imagePullSecrets" => some ["name"]
  | "hostAliases" => some ["ip"]
  | "topologySpreadConstraints" => some ["topologyKey"]
  | "conditions" => some ["type"]
  | _ => none

/-- The first merge key that an element carries, with its node. -/
def elementKey? (keys : List String) (fields : List (String × Node)) :
    Option (String × Node) :=
  keys.findSome? fun key => (Fields.get? key fields).map fun node => (key, node)

/-- Whether an element carries a node at a merge key. -/
def carries (key : String) (value element : Node) : Bool :=
  match element.mapping?.bind (Fields.get? key) with
  | some node => node.content.same value.content
  | none => false

/-- The position of the element that an element of a patch belongs to. -/
def position? (keys : List String) (fields : List (String × Node)) (elements : List Node) :
    Option Nat :=
  match elementKey? keys fields with
  | some (key, value) => elements.findIdx? (carries key value)
  | none => none

/-- What the directive of a mapping makes of its merge with a target mapping. -/
def byDirective
    (patch : List (String × Node))
    (path : Path)
    (merged : Except PatchError (List (String × Node))) :
    Except PatchError (Option (List (String × Node))) :=
  match Directive.read patch path with
  | .error error => .error error
  | .ok (some .delete) => .ok none
  | .ok (some .replace) => .ok (Directive.stripMapping patch)
  | .ok _ => merged.map some

/-- What the directive of a mapping makes of it where there is no target mapping. -/
def withoutTarget (patch : List (String × Node)) (path : Path) :
    Except PatchError (Option (List (String × Node))) :=
  match Directive.read patch path with
  | .error error => .error error
  | .ok (some .delete) => .ok none
  | .ok _ => .ok (Directive.stripMapping patch)

/-- Sets a field to what a merge gave, or removes it if the merge asks for that. -/
def putField (name : String) (fields : List (String × Node)) :
    Option Node → List (String × Node)
  | some node => Fields.set name node fields
  | none => Fields.remove name fields

/-- Puts what a merge gave in the place of an element, or removes the element. -/
def putElement (position : Nat) (elements : List Node) :
    Option (List (String × Node)) → List Node
  | some fields => elements.set position (.mapping fields)
  | none => elements.eraseIdx position

/-- Adds an element at the end, if there is one. -/
def addElement (elements : List Node) : Option (List (String × Node)) → List Node
  | some fields => elements ++ [.mapping fields]
  | none => elements

/-- How the elements of a list of a patch are applied. -/
inductive ListMode where
  /-- The list of the patch takes the place of the target. -/
  | replace
  | byKeys (keys : List String)

/-- How a list of a patch is applied at a field. -/
def listMode (field : String) (patch : List Node) : ListMode :=
  if patch.any Directive.isReplaceMarker then .replace
  else
    match mergeKeys field with
    | some keys => if patch.all (·.mapping?.isSome) then .byKeys keys else .replace
    | none => .replace

mutual

/-- The merge of a field; `existing` is the content of the target's field. -/
def mergeNode (field : String) (existing : Option Node) (path : Path) :
    Node → Except PatchError (Option Node)
  | .document inner => mergeNode field existing path inner
  | .reference _ target => mergeNode field existing path target
  | .mapping patch =>
      match existing with
      | some (.mapping target) =>
          (byDirective patch path (mergeFields target path target patch)).map
            (Option.map .mapping)
      | _ => (withoutTarget patch path).map (Option.map .mapping)
  | .sequence patch =>
      match existing with
      | some (.sequence target) =>
          match listMode field patch with
          | .replace => .ok (some (.sequence (Directive.stripItems patch)))
          | .byKeys keys =>
              (mergeElements keys path 0 target patch).map fun merged =>
                some (.sequence merged)
      | _ => .ok (some (.sequence (Directive.stripItems patch)))
  | .scalar leaf => .ok (some (.scalar leaf))
termination_by structural patch => patch

/-- The merge of the fields of a patch into `merged`, which starts as the target. -/
def mergeFields (target : List (String × Node)) (path : Path)
    (merged : List (String × Node)) :
    List (String × Node) → Except PatchError (List (String × Node))
  | [] => .ok merged
  | (name, node) :: rest =>
      if Directive.isKey name then mergeFields target path merged rest
      else if node.isNull then mergeFields target path (Fields.remove name merged) rest
      else
        match mergeNode name ((Fields.get? name target).map Node.content)
            (path.push (.field name)) node with
        | .error error => .error error
        | .ok result => mergeFields target path (putField name merged result) rest
termination_by structural patch => patch

/-- The merge of the elements of a list, `position` counting those of the patch. -/
def mergeElements (keys : List String) (path : Path) (position : Nat)
    (elements : List Node) : List Node → Except PatchError (List Node)
  | [] => .ok elements
  | item :: rest =>
      match mergeElement keys (path.push (.index position)) elements item with
      | .error error => .error error
      | .ok merged => mergeElements keys path (position + 1) merged rest
termination_by structural patch => patch

/-- The merge of one element of a patch into a list. -/
def mergeElement (keys : List String) (path : Path) (elements : List Node) :
    Node → Except PatchError (List Node)
  | .document inner => mergeElement keys path elements inner
  | .reference _ target => mergeElement keys path elements target
  | .mapping patch =>
      match position? keys patch elements with
      | some position =>
          let target := (elements[position]?.bind Node.mapping?).getD []
          (byDirective patch path (mergeFields target path target patch)).map
            (putElement position elements)
      | none => (withoutTarget patch path).map (addElement elements)
  | _ => .ok elements
termination_by structural patch => patch

end

/-- The merge of a patch mapping into a target mapping; none if it asks for deletion. -/
def mergeMapping (target : List (String × Node)) (patch : List (String × Node))
    (path : Path) : Except PatchError (Option (List (String × Node))) :=
  byDirective patch path (mergeFields target path target patch)

/-- The merge of a list of a patch into a list at a field. -/
def mergeList (field : String) (target patch : List Node) (path : Path) :
    Except PatchError (List Node) :=
  match listMode field patch with
  | .replace => .ok (Directive.stripItems patch)
  | .byKeys keys => mergeElements keys path 0 target patch

/--
The patched document; none if the patch deletes it.  A patch that is nothing
changes nothing, and a patch that is no mapping replaces what is no mapping.
-/
def apply (target patch : Node) : Except PatchError (Option Node) :=
  match target.content, patch.content with
  | .mapping fields, .mapping patchFields =>
      (mergeMapping fields patchFields []).map (Option.map .mapping)
  | _, .mapping patchFields => (withoutTarget patchFields []).map (Option.map .mapping)
  | .mapping _, other =>
      if other.isNull then .ok (some target) else .error (.notAMapping other.kind)
  | _, other => .ok (if other.isNull then some target else Directive.strip patch)

end Manifest.StrategicPatch
