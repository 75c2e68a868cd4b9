import Manifest.Node.Scalar
import Manifest.Yaml.Token.Basic

/-!
# What YAML scalars stand for

A scalar without quotes and without a tag is nothing, a truth value, an
integer, a floating point number or a text, in this order of preference.  A tag
of the standard can force one of these.

An integer has 64 bits, with or without a sign.  A plain scalar that is an
integer of 128 but not of 64 bits is refused, and a larger one is a floating
point number.
-/

namespace Manifest.Yaml

/-- What a scalar stands for. -/
inductive Atom where
  | null
  | bool (truth : Bool)
  /-- An integer between `-2 ^ 63` and `2 ^ 64 - 1`. -/
  | int (number : Int)
  | float (number : Binary64)
  | text (content : String)
deriving DecidableEq, Repr, Inhabited

namespace Atom

/-- The words for nothing. -/
def nullWords : List String := ["null", "Null", "NULL", "~"]

/-- The words for the two truth values. -/
def bool? (content : String) : Option Bool :=
  if content ∈ ["true", "True", "TRUE"] then some true
  else if content ∈ ["false", "False", "FALSE"] then some false
  else none

/-- A list of characters without a sign in front. -/
def unsigned : List Char → List Char
  | '-' :: rest => rest
  | '+' :: rest => rest
  | chars => chars

/-- Several digits of which the first one is zero, with an optional sign. -/
def hasLeadingZero (chars : List Char) : Bool :=
  match unsigned chars with
  | '0' :: second :: rest => (second :: rest).all Char.isDigit
  | _ => false

/-- A natural number in base ten, or in base sixteen, eight or two behind a mark. -/
def natural? : List Char → Option Nat
  | '0' :: 'x' :: digits => Text.radix? 16 digits
  | '0' :: 'o' :: digits => Text.radix? 8 digits
  | '0' :: 'b' :: digits => Text.radix? 2 digits
  | chars => if hasLeadingZero chars then none else Text.decimal? chars

/-- An integer with an optional sign. -/
def integer? : List Char → Option Int
  | '-' :: rest => (natural? rest).map fun value => -Int.ofNat value
  | '+' :: rest => (natural? rest).map Int.ofNat
  | chars => (natural? chars).map Int.ofNat

/-- Integers of 64 bits, with or without a sign. -/
def isWord (number : Int) : Bool :=
  -0x8000000000000000 ≤ number && number < 0x10000000000000000

/-- Integers of 128 bits, with or without a sign. -/
def isDoubleWord (number : Int) : Bool :=
  -0x80000000000000000000000000000000 ≤ number && number < 0x100000000000000000000000000000000

/-- A finite constant with an optional sign. -/
def finite? (chars : List Char) : Option Binary64 :=
  ((Decimal.ofChars? chars).map Decimal.toBinary64).filter fun number => !number.isInfinite

/-- A floating point number: a finite constant, an infinity or the value that is no number. -/
def float? (content : String) : Option Binary64 :=
  if content ∈ [".inf", ".Inf", ".INF", "+.inf", "+.Inf", "+.INF"] then
    some (Binary64.infinity false)
  else if content ∈ ["-.inf", "-.Inf", "-.INF"] then some (Binary64.infinity true)
  else if content ∈ [".nan", ".NaN", ".NAN"] then some Binary64.nan
  else finite? content.toList

/-- What a number that is no integer of 128 bits or another word stands for. -/
def ofWord (content : String) : Atom :=
  if hasLeadingZero content.toList then text content
  else
    match float? content with
    | some number => float number
    | none => text content

/-- What a scalar without quotes and without a tag stands for. -/
def ofPlain? (content : String) : Option Atom :=
  if content.isEmpty || content ∈ nullWords then some null
  else
    match bool? content with
    | some truth => some (bool truth)
    | none =>
        match integer? content.toList with
        | some number =>
            if isWord number then some (int number)
            else if isDoubleWord number then none
            else some (ofWord content)
        | none => some (ofWord content)

/-- What an untagged scalar of a style stands for; between quotes it is a text. -/
def ofStyled? (style : ScalarStyle) (content : String) : Option Atom :=
  if style = .plain then ofPlain? content else some (text content)

/-- A scalar that a tag says to be an integer. -/
def ofIntegerText? (content : String) : Option Atom :=
  match integer? content.toList with
  | some number => if isWord number then some (int number) else none
  | none => none

/-- What a scalar with a tag stands for, if the tag does not start with a mark. -/
def ofTagged? (tag : Tag) (content : String) : Option Atom :=
  if tag = Tag.standard "bool" then (bool? content).map bool
  else if tag = Tag.standard "int" then ofIntegerText? content
  else if tag = Tag.standard "float" then (float? content).map float
  else if tag = Tag.standard "null" then
    if content ∈ nullWords then some null else none
  else some (text content)

/-- Equality of atoms; the value that is no number equals itself, and zeros are equal. -/
def same : Atom → Atom → Bool
  | null, null => true
  | bool left, bool right => left == right
  | int left, int right => left == right
  | float left, float right => (left.isNaN && right.isNaN) || left.same right
  | text left, text right => left == right
  | _, _ => false

/-- An atom as the value of a scalar. -/
def toScalarValue : Atom → ScalarValue
  | null => .null
  | bool truth => .bool truth
  | int number => .ofInt number
  | float number => .float number
  | text content => .text content

end Atom

end Manifest.Yaml
