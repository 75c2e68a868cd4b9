import Manifest.Text.Blank
import Manifest.Text.Quoted

/-!
# Words of label expressions

A label expression is a list of tokens: punctuation, and words between blanks
and punctuation.  A doubled equals sign is one token, and so is the mark of
inequality.
-/

namespace Manifest.Selector

/-- A token of a label expression. -/
inductive Token where
  /-- A key, a value, or one of the words `in` and `notin`. -/
  | word (text : String)
  | comma
  | openParen
  | closeParen
  | equals
  | notEquals
  | not
  | greaterThan
  | lessThan
deriving DecidableEq, Repr

namespace Token

/-- The token as messages show it. -/
def text : Token → String
  | word text => "Identifier(" ++ Text.quoted text ++ ")"
  | comma => "Comma"
  | openParen => "OpenParen"
  | closeParen => "CloseParen"
  | equals => "Equals"
  | notEquals => "NotEquals"
  | not => "Not"
  | greaterThan => "GreaterThan"
  | lessThan => "LessThan"

/-- What was found in a place, as messages show it. -/
def foundText : Option Token → String
  | some token => "Some(" ++ token.text ++ ")"
  | none => "None"

/-- A pending word before the tokens that follow it. -/
def endWord (reversed : List Char) (tokens : List Token) : List Token :=
  if reversed.isEmpty then tokens else word (String.ofList reversed.reverse) :: tokens

/-- The tokens of a text, the characters of a pending word given in reverse. -/
def scanFrom (pending : List Char) : List Char → List Token
  | [] => endWord pending []
  | '=' :: '=' :: rest => endWord pending (equals :: scanFrom [] rest)
  | '=' :: rest => endWord pending (equals :: scanFrom [] rest)
  | '!' :: '=' :: rest => endWord pending (notEquals :: scanFrom [] rest)
  | '!' :: rest => endWord pending (not :: scanFrom [] rest)
  | ',' :: rest => endWord pending (comma :: scanFrom [] rest)
  | '(' :: rest => endWord pending (openParen :: scanFrom [] rest)
  | ')' :: rest => endWord pending (closeParen :: scanFrom [] rest)
  | '<' :: rest => endWord pending (lessThan :: scanFrom [] rest)
  | '>' :: rest => endWord pending (greaterThan :: scanFrom [] rest)
  | char :: rest =>
      if Text.isBlank char then endWord pending (scanFrom [] rest)
      else scanFrom (char :: pending) rest

/-- The tokens of a label expression. -/
def scan (expression : String) : List Token :=
  scanFrom [] expression.toList

example : scan "a==b, !c" = [word "a", equals, word "b", comma, not, word "c"] := by decide

end Token

end Manifest.Selector
