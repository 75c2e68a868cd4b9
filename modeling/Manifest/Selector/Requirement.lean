import Manifest.StringMap
import Manifest.Text.Numeral

/-!
# Requirements on labels

A requirement constrains the text at one key of a map of labels or
annotations.
-/

namespace Manifest.Selector

/-- How a requirement constrains its key. -/
inductive Operator where
  | equals
  | notEquals
  | isIn
  /-- The text is absent or none of the given ones. -/
  | notIn
  | exists
  | doesNotExist
  | greaterThan
  | lessThan
deriving DecidableEq, Repr

/-- A constraint on the text at one key. -/
structure Requirement where
  key : String
  operator : Operator
  values : List String
deriving DecidableEq, Repr

namespace Requirement

/-- Whether the integers of two texts exist and stand in a relation. -/
def comparesIntegers
    (relation : Int → Int → Bool)
    (label bound : Option String) :
    Bool :=
  match label.bind Text.integer?, bound.bind Text.integer? with
  | some value, some limit => relation value limit
  | _, _ => false

/-- Whether a map of labels satisfies the requirement. -/
def holds (requirement : Requirement) (labels : StringMap) : Bool :=
  let label := labels.get? requirement.key
  match requirement.operator with
  | .equals | .isIn => label.any requirement.values.contains
  | .notEquals | .notIn => !label.any requirement.values.contains
  | .exists => label.isSome
  | .doesNotExist => label.isNone
  | .greaterThan =>
      comparesIntegers (fun value bound => bound < value) label requirement.values.head?
  | .lessThan =>
      comparesIntegers (fun value bound => value < bound) label requirement.values.head?

/-- The requirement as an expression. -/
def text (requirement : Requirement) : String :=
  match requirement.operator with
  | .exists => requirement.key
  | .doesNotExist => "!" ++ requirement.key
  | .equals => requirement.key ++ "=" ++ String.join requirement.values
  | .notEquals => requirement.key ++ "!=" ++ String.join requirement.values
  | .isIn => requirement.key ++ " in (" ++ ",".intercalate requirement.values ++ ")"
  | .notIn => requirement.key ++ " notin (" ++ ",".intercalate requirement.values ++ ")"
  | .greaterThan => requirement.key ++ ">" ++ String.join requirement.values
  | .lessThan => requirement.key ++ "<" ++ String.join requirement.values

end Requirement

end Manifest.Selector
