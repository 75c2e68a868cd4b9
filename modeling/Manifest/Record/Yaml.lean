import Manifest.Record.Source
import Manifest.Yaml.Document

/-!
# Records in YAML

A record is a mapping; a document without content and an empty plain scalar are
records without fields.  The text of a scalar is taken as it is written, and
values at unknown keys are not looked at.  A choice is a scalar with its name,
or its name as a tag on nothing.
-/

namespace Manifest

namespace Yaml

/-- A part of a document; none where there is no content. -/
abbrev Part := Option Skeleton

namespace SkeletonDocument

/-- A part, or what it refers to. -/
def dereference (document : SkeletonDocument) : Part → Part
  | some (.reference number) => document.target? number
  | part => part

/-- The text of a scalar. -/
def scalarText? (document : SkeletonDocument) (part : Part) : Option String :=
  match document.dereference part with
  | some (.scalar _ _ content) => some content
  | _ => none

/-- The values at the known keys of a mapping; none of the keys may be repeated. -/
def knownEntries? (document : SkeletonDocument) (names : List String) :
    List (Skeleton × Skeleton) → Option (List (String × Part))
  | [] => some []
  | (key, value) :: rest =>
      match document.scalarText? (some key), document.knownEntries? names rest with
      | some name, some found =>
          if !names.contains name then some found
          else if Fields.contains name found then none
          else some ((name, some value) :: found)
      | _, _ => none

/-- The fields of a record. -/
def recordFields? (document : SkeletonDocument) (names : List String) (part : Part) :
    Option (List (String × Part)) :=
  match document.dereference part with
  | some (.mapping _ entries) => document.knownEntries? names entries
  | some (.scalar _ .plain "") => some []
  | none => some []
  | _ => none

/-- Whether a plain scalar with a tag is nothing; none if it contradicts its tag. -/
def isNothing? (tag : Option Tag) (content : String) : Option Bool :=
  match tag with
  | none => some (content = "" || Atom.nullWords.contains content)
  | some name =>
      if name = Tag.standard "null" then
        if Atom.nullWords.contains content then some true else none
      else some false

/-- A part unless it is nothing. -/
def optionalPart? (document : SkeletonDocument) (part : Part) : Option (Option Part) :=
  match document.dereference part with
  | none => some none
  | some (.scalar tag .plain content) =>
      (isNothing? tag content).map fun nothing =>
        if nothing then none else some (document.dereference part)
  | present => some (some present)

/-- The name of a choice. -/
def choiceName? (document : SkeletonDocument) (part : Part) : Option String :=
  match document.dereference part with
  | some (.scalar tag style content) =>
      match tag.bind Tag.ownName? with
      | none => some content
      | some name =>
          if style = .plain && (content = "" || Atom.nullWords.contains content) then some name
          else none
  | _ => none

/-- Records in a document. -/
def records (document : SkeletonDocument) : RecordSource Part where
  fields? := document.recordFields?
  text? := document.scalarText?
  optional? := document.optionalPart?
  choice? := document.choiceName?

end SkeletonDocument

end Yaml

namespace Record

variable {α : Type}

/-- The value that a YAML text denotes. -/
def ofYaml? (record : Record α) (source : String) : Option α :=
  (Yaml.onlyDocument? source).bind fun document =>
    record.read? document.records document.root

/-- The YAML text of a value. -/
def toYaml (record : Record α) (value : α) : String :=
  (record.toNode value).toYaml

end Record

end Manifest
