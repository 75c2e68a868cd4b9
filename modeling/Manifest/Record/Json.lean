import Manifest.Json.Printer
import Manifest.Json.Reader
import Manifest.Record.Source

/-!
# Records in JSON

A record is an object, or an array of its fields in their order, of which the
last ones may be missing.  A choice is its name, or an object with that name
and nothing at it.  Members with unknown names are not looked at.
-/

namespace Manifest

namespace Json.Outline

/-- The text of a quoted text. -/
def text? : Outline → Option String
  | text parts => textOfParts? parts
  | _ => none

/-- The known members of an object; none of them may be repeated. -/
def knownMembers? (names : List String) :
    List (List TextPart × Outline) → Option (List (String × Outline))
  | [] => some []
  | (parts, member) :: rest =>
      match textOfParts? parts, knownMembers? names rest with
      | some name, some found =>
          if !names.contains name then some found
          else if Fields.contains name found then none
          else some ((name, member) :: found)
      | _, _ => none

/-- Records in JSON. -/
def records : RecordSource Outline where
  fields? names
    | object members => knownMembers? names members
    | array elements =>
        if elements.length ≤ names.length then some (names.zip elements) else none
    | _ => none
  text? := text?
  optional?
    | null => some none
    | other => some (some other)
  choice?
    | text parts => textOfParts? parts
    | object [(parts, null)] => textOfParts? parts
    | _ => none

end Json.Outline

namespace Record

variable {α : Type}

/-- The value that a JSON text denotes. -/
def ofJson? (record : Record α) (source : String) : Option α :=
  (Json.outline? source).bind (record.read? Json.Outline.records)

/-- The JSON text of a value. -/
def toJson (record : Record α) (value : α) : String :=
  (record.toNode value).toJson.render

end Record

end Manifest
