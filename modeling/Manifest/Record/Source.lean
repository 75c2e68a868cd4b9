import Manifest.Json.Basic

/-!
# Records in a text format

A record is a value with named fields, such as the settings of a transformer.
A format says how it presents the parts of a record; a record is read by means
of that, whatever the format, and is written as a document without its empty
fields.
-/

namespace Manifest

/-- How a format presents the parts of records. -/
structure RecordSource (σ : Type) where
  /-- The known fields that are present; none if this is no record or repeats a known field. -/
  fields? : List String → σ → Option (List (String × σ))
  text? : σ → Option String
  /-- What this is unless it is nothing; none if it is neither. -/
  optional? : σ → Option (Option σ)
  choice? : σ → Option String

/-- How the values of a type are read and written. -/
structure Record (α : Type) where
  read? : {σ : Type} → RecordSource σ → σ → Option α
  toNode : α → Node

namespace RecordSource

variable {σ : Type}

/-- The text of a field; an absent field is the empty text. -/
def textField? (source : RecordSource σ) (fields : List (String × σ)) (name : String) :
    Option String :=
  match Fields.get? name fields with
  | none => some ""
  | some part => source.text? part

/-- A field that may be absent or nothing. -/
def optionalField? {α : Type} (source : RecordSource σ) (fields : List (String × σ))
    (name : String) (read? : σ → Option α) : Option (Option α) :=
  match Fields.get? name fields with
  | none => some none
  | some part =>
      match source.optional? part with
      | none => none
      | some none => some none
      | some (some present) => (read? present).map some

end RecordSource

namespace Record

/-- The fields of texts that are not empty. -/
def textFields (fields : List (String × String)) : List (String × Node) :=
  (fields.filter fun field => field.2 ≠ "").map fun field => (field.1, .ofText field.2)

end Record

end Manifest
