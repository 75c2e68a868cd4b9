import Manifest.Selector.Token

/-!
# Why a selector is refused

A label expression can deviate from its grammar in the ways listed by
`ExpressionFault`; a pattern on an identity field can be no pattern at all.
-/

namespace Manifest.Selector

/-- A deviation from the grammar of label expressions. -/
inductive ExpressionFault where
  /-- A requirement is followed by something else than a comma and a requirement. -/
  | unexpected (token : Token)
  | expectedKey (found : Option Token)
  | afterKey (found : Token) (key : String)
  | notInteger (value key : String)
  | expectedValue (found : Token)
  | expectedOpen
  | expectedMember (found : Option Token)
  /-- Neither a comma nor a parenthesis after a member of a value set. -/
  | expectedDelimiter (found : Option Token)
  | emptySet
deriving DecidableEq, Repr

namespace ExpressionFault

/-- The fault in words. -/
def message : ExpressionFault → String
  | unexpected token => "unexpected " ++ token.text
  | expectedKey found => "expected a key, found " ++ Token.foundText found
  | afterKey found key => "unexpected " ++ found.text ++ " after key " ++ Text.quoted key
  | notInteger value key =>
      "value " ++ Text.quoted value ++ " for key " ++ Text.quoted key ++ " must be an integer"
  | expectedValue found => "expected a value, found " ++ found.text
  | expectedOpen => "expected '(' to open a value set"
  | expectedMember found => "expected a value, found " ++ Token.foundText found
  | expectedDelimiter found => "expected ',' or ')', found " ++ Token.foundText found
  | emptySet => "value set must not be empty"

end ExpressionFault

/-- Why a selector is refused. -/
inductive SelectorError where
  | expression (text : String) (fault : ExpressionFault)
  | badPattern (field pattern : String)
deriving DecidableEq, Repr

namespace SelectorError

/-- The error in words. -/
def message : SelectorError → String
  | expression text fault =>
      "unable to parse selector " ++ Text.quoted text ++ ": " ++ fault.message
  | badPattern field pattern => "invalid " ++ field ++ " pattern " ++ Text.quoted pattern

end SelectorError

end Manifest.Selector
