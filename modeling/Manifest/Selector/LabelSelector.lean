import Manifest.Selector.Error
import Manifest.Selector.Requirement

/-!
# Label selectors

A label selector is a conjunction of requirements.  Its text lists them with
commas between:

- `key` and `!key`;
- `key=value`, `key==value`, `key!=value`, where a missing value is empty;
- `key in (a,b)` and `key notin (a,b)`;
- `key>n` and `key<n` for an integer `n`.

The selector without requirements accepts everything.
-/

namespace Manifest.Selector

/-- A conjunction of requirements. -/
structure LabelSelector where
  requirements : List Requirement := []
deriving DecidableEq, Repr, Inhabited

namespace LabelSelector

/-- What the reading of a part of an expression gives: the part and the tokens after it. -/
abbrev Reading (α : Type) := Except ExpressionFault (α × List Token)

/-- A key, which must come first. -/
def readKey : List Token → Reading String
  | .word key :: rest => .ok (key, rest)
  | tokens => .error (.expectedKey tokens.head?)

/-- The value after an operator; it may be missing before a comma and at the end. -/
def readValue : List Token → Reading String
  | [] => .ok ("", [])
  | .comma :: rest => .ok ("", .comma :: rest)
  | .word value :: rest => .ok (value, rest)
  | found :: _ => .error (.expectedValue found)

/-- The members of a value set up to its closing parenthesis. -/
def readMembers (isFirst : Bool) : List Token → Reading (List String)
  | .word value :: .comma :: rest =>
      (readMembers false rest).map fun reading => (value :: reading.1, reading.2)
  | .word value :: .closeParen :: rest => .ok ([value], rest)
  | .word _ :: rest => .error (.expectedDelimiter rest.head?)
  | .closeParen :: _ =>
      .error (if isFirst then .emptySet else .expectedMember (some .closeParen))
  | tokens => .error (.expectedMember tokens.head?)

/-- A value set in parentheses. -/
def readSet : List Token → Reading (List String)
  | .openParen :: rest => readMembers true rest
  | _ => .error .expectedOpen

/-- A requirement whose operator is followed by one value. -/
def readSingle (key : String) (operator : Operator) (tokens : List Token) :
    Reading Requirement :=
  (readValue tokens).map fun reading => (⟨key, operator, [reading.1]⟩, reading.2)

/-- A requirement whose operator is followed by an integer. -/
def readBound (key : String) (operator : Operator) (tokens : List Token) :
    Reading Requirement :=
  match readValue tokens with
  | .error fault => .error fault
  | .ok (value, rest) =>
      if (Text.integer? value).isSome then .ok (⟨key, operator, [value]⟩, rest)
      else .error (.notInteger value key)

/-- A requirement whose operator is followed by a value set. -/
def readChoice (key : String) (operator : Operator) (tokens : List Token) :
    Reading Requirement :=
  (readSet tokens).map fun reading => (⟨key, operator, reading.1⟩, reading.2)

/-- The part of a requirement after its key. -/
def readOperation (key : String) : List Token → Reading Requirement
  | [] => .ok (⟨key, .exists, []⟩, [])
  | .comma :: rest => .ok (⟨key, .exists, []⟩, .comma :: rest)
  | .equals :: rest => readSingle key .equals rest
  | .notEquals :: rest => readSingle key .notEquals rest
  | .greaterThan :: rest => readBound key .greaterThan rest
  | .lessThan :: rest => readBound key .lessThan rest
  | .word word :: rest =>
      if word = "in" then readChoice key .isIn rest
      else if word = "notin" then readChoice key .notIn rest
      else .error (.afterKey (.word word) key)
  | found :: _ => .error (.afterKey found key)

/-- One requirement. -/
def readRequirement : List Token → Reading Requirement
  | .not :: rest =>
      (readKey rest).map fun reading => (⟨reading.1, .doesNotExist, []⟩, reading.2)
  | tokens =>
      match readKey tokens with
      | .error fault => .error fault
      | .ok (key, rest) => readOperation key rest

/--
The requirements of a non-empty list of tokens, with a comma between
neighbours.  Each requirement takes a token, so that the number of tokens
bounds the number of requirements.
-/
def readRequirements : Nat → List Token → Except ExpressionFault (List Requirement)
  | 0, _ => .ok []
  | fuel + 1, tokens =>
      match readRequirement tokens with
      | .error fault => .error fault
      | .ok (requirement, []) => .ok [requirement]
      | .ok (requirement, .comma :: next :: rest) =>
          (readRequirements fuel (next :: rest)).map (requirement :: ·)
      | .ok (_, found :: _) => .error (.unexpected found)

/-- The selector that a list of tokens denotes. -/
def ofTokens (tokens : List Token) : Except ExpressionFault LabelSelector :=
  match tokens with
  | [] => .ok {}
  | _ => (readRequirements tokens.length tokens).map LabelSelector.mk

/-- The selector that an expression denotes. -/
def parse (expression : String) : Except SelectorError LabelSelector :=
  (ofTokens (Token.scan expression)).mapError (.expression expression)

/-- The selector that accepts everything. -/
def everything : LabelSelector := {}

/-- Whether there is no requirement. -/
def isEmpty (selector : LabelSelector) : Bool :=
  selector.requirements.isEmpty

/-- Whether a map of labels satisfies every requirement. -/
def accepts (selector : LabelSelector) (labels : StringMap) : Bool :=
  selector.requirements.all fun requirement => requirement.holds labels

/-- The selector as an expression. -/
def text (selector : LabelSelector) : String :=
  ",".intercalate (selector.requirements.map Requirement.text)

end LabelSelector

end Manifest.Selector
