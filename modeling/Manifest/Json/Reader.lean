import Manifest.Json.Outline
import Manifest.Node.Error

/-!
# Reading JSON

A text is one value between blanks.  Control characters do not occur inside
texts.  The reader goes through the text once; what it knows of the arrays and
objects that are still open is a list of frames, the innermost one first.
-/

namespace Manifest.Json

/-- The rest of a text after its leading blanks. -/
def skipBlanks (chars : List Char) : List Char :=
  chars.dropWhile fun char => char = ' ' || char = '\n' || char = '\t' || char = '\r'

/-- The number of four digits of base sixteen. -/
def hexFour? (first second third fourth : Char) : Option Nat :=
  match Text.digitValue? 16 first, Text.digitValue? 16 second, Text.digitValue? 16 third,
      Text.digitValue? 16 fourth with
  | some a, some b, some c, some d => some (((a * 16 + b) * 16 + c) * 16 + d)
  | _, _, _, _ => none

/-- The character of a short escape. -/
def shortEscape? (char : Char) : Option Char :=
  if char = '"' || char = '\\' || char = '/' then some char
  else if char = 'b' then some '\x08'
  else if char = 'f' then some '\x0c'
  else if char = 'n' then some '\n'
  else if char = 'r' then some '\r'
  else if char = 't' then some '\t'
  else none

/-- The parts of a text up to its closing quote, behind others in reverse, and what follows. -/
def parts? (reversed : List TextPart) : List Char → Option (List TextPart × List Char)
  | [] => none
  | '"' :: rest => some (reversed.reverse, rest)
  | '\\' :: 'u' :: a :: b :: c :: d :: rest =>
      match hexFour? a b c d with
      | some code => parts? (.unit code :: reversed) rest
      | none => none
  | '\\' :: char :: rest =>
      match shortEscape? char with
      | some escaped => parts? (.char escaped :: reversed) rest
      | none => none
  | char :: rest =>
      if char = '\\' || char.toNat < 0x20 then none
      else parts? (.char char :: reversed) rest

/-- What follows a word at the start of a text. -/
def afterWord? (word : String) (chars : List Char) : Option (List Char) :=
  if word.toList.isPrefixOf chars then some (chars.drop word.length) else none

/-- The value at the start of a text that is neither array nor object, and what follows it. -/
def leaf? : List Char → Option (Outline × List Char)
  | '"' :: rest => (parts? [] rest).map fun found => (.text found.1, found.2)
  | 'n' :: rest => (afterWord? "ull" rest).map fun after => (.null, after)
  | 't' :: rest => (afterWord? "rue" rest).map fun after => (.bool true, after)
  | 'f' :: rest => (afterWord? "alse" rest).map fun after => (.bool false, after)
  | others => (numeral? others).map fun found => (.number found.1, found.2)

/-- An array or an object that is still open. -/
inductive Frame where
  /-- An array with the elements so far, the last one first. -/
  | array (reversed : List Outline)
  /-- An object with the members so far, the last one first, and the name of the next one. -/
  | object (reversed : List (List TextPart × Outline)) (name : List TextPart)

/-- How far a text is read. -/
inductive Progress where
  | done (value : Outline) (rest : List Char)
  | inside (frames : List Frame) (rest : List Char)

/-- An object that goes on with the name of another member. -/
def nextMember? (frames : List Frame) (reversed : List (List TextPart × Outline))
    (chars : List Char) : Option Progress :=
  match skipBlanks chars with
  | '"' :: start =>
      match parts? [] start with
      | none => none
      | some (name, after) =>
          match skipBlanks after with
          | ':' :: rest => some (.inside (.object reversed name :: frames) rest)
          | _ => none
  | _ => none

/-- The progress once a value is read inside some frames. -/
def finish? : List Frame → Outline → List Char → Option Progress
  | [], value, rest => some (.done value rest)
  | .array reversed :: frames, value, rest =>
      match skipBlanks rest with
      | ',' :: more => some (.inside (.array (value :: reversed) :: frames) more)
      | ']' :: more => finish? frames (.array (value :: reversed).reverse) more
      | _ => none
  | .object reversed name :: frames, value, rest =>
      match skipBlanks rest with
      | ',' :: more => nextMember? frames ((name, value) :: reversed) more
      | '\x7d' :: more => finish? frames (.object ((name, value) :: reversed).reverse) more
      | _ => none

/-- The progress once the start of a value is read inside some frames. -/
def step? (frames : List Frame) (chars : List Char) : Option Progress :=
  match skipBlanks chars with
  | '[' :: rest =>
      match skipBlanks rest with
      | ']' :: after => finish? frames (.array []) after
      | inside => some (.inside (.array [] :: frames) inside)
  | '\x7b' :: rest =>
      match skipBlanks rest with
      | '\x7d' :: after => finish? frames (.object []) after
      | inside => nextMember? frames [] inside
  | others =>
      match leaf? others with
      | some (value, after) => finish? frames value after
      | none => none

/-- The whole value that starts inside some frames, and what follows it. -/
def outlineInside? : Nat → List Frame → List Char → Option (Outline × List Char)
  | 0, _, _ => none
  | fuel + 1, frames, chars =>
      match step? frames chars with
      | some (.done value rest) => some (value, rest)
      | some (.inside inner rest) => outlineInside? fuel inner rest
      | none => none

/-- The outline of a JSON text. -/
def outline? (source : String) : Option Outline :=
  match outlineInside? (source.length + 1) [] source.toList with
  | some (value, rest) => if (skipBlanks rest).isEmpty then some value else none
  | none => none

/-- The tree of a JSON text. -/
def parse? (source : String) : Option Json :=
  (outline? source).bind (Outline.toTree? nestingBound)

/-- The tree of a JSON text given as bytes of UTF-8. -/
def parseBytes? (bytes : ByteArray) : Option Json :=
  (String.fromUTF8? bytes).bind parse?

end Manifest.Json

namespace Manifest

/-- The document that a JSON text denotes. -/
def Node.ofJson (bytes : ByteArray) : Except DocumentError Node :=
  match (Json.parseBytes? bytes).bind Json.toNode? with
  | some node => .ok node
  | none => .error .json

/-- The decoded value that a JSON text denotes. -/
def Value.ofJson? (source : String) : Option Value :=
  (Json.parse? source).map Json.toValue

end Manifest
