import Manifest.Number.FloatText

/-!
# Scalars

A scalar is a leaf of a document: its value, and the spelling it was read with
where its value is no text.  The literal of a scalar is that spelling, or a
canonical one for a scalar that was built in memory.
-/

namespace Manifest

/-- The value of a scalar. -/
inductive ScalarValue where
  | null
  | bool (truth : Bool)
  | int (number : Int64)
  | float (number : Binary64)
  | text (content : String)
deriving DecidableEq, Repr, Inhabited

/-- A leaf of a document. -/
structure Scalar where
  value : ScalarValue
  /-- How it was written, if it was read from a text. -/
  spelling : Option String := none
deriving DecidableEq, Repr, Inhabited

namespace ScalarValue

/-- Equality of values, with the equality of floating point numbers. -/
def same : ScalarValue → ScalarValue → Bool
  | null, null => true
  | bool left, bool right => left == right
  | int left, int right => left == right
  | float left, float right => left.same right
  | text left, text right => left == right
  | _, _ => false

/-- The spelling of a value that was not read from a text. -/
def literal : ScalarValue → String
  | null => "null"
  | bool truth => if truth then "true" else "false"
  | int number => toString number.toInt
  | float number => FloatText.literal number
  | text content => content

/-- An integer as a scalar: one outside 64 bits becomes a floating point number. -/
def ofInt (number : Int) : ScalarValue :=
  if -0x8000000000000000 ≤ number && number < 0x8000000000000000 then int (Int64.ofInt number)
  else float (Binary64.ofInt number)

end ScalarValue

namespace Scalar

/-- The scalar of nothing. -/
def null : Scalar := ⟨.null, none⟩

/-- The scalar of a text. -/
def ofText (content : String) : Scalar := ⟨.text content, none⟩

/-- The scalar of a value with its spelling; a text is its own spelling. -/
def spelled (value : ScalarValue) (spelling : String) : Scalar :=
  match value with
  | .text content => ofText content
  | other => ⟨other, some spelling⟩

/-- Whether the scalar stands for nothing. -/
def isNull (scalar : Scalar) : Bool :=
  match scalar.value with
  | .null => true
  | _ => false

/-- The scalar as it was written, or in canonical form. -/
def literal (scalar : Scalar) : String :=
  scalar.spelling.getD scalar.value.literal

/-- The literal, except that nothing reads as the empty text. -/
def text (scalar : Scalar) : String :=
  if scalar.isNull then "" else scalar.literal

/-- Scalars are the same when their values are; spelling does not count. -/
def same (left right : Scalar) : Bool :=
  left.value.same right.value

end Scalar

end Manifest
