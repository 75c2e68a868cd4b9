import Manifest.Yaml.Character
import Manifest.Yaml.Tree

/-!
# Printing YAML

Collections are printed as blocks, and as a pair of brackets or braces when
they are empty.  A mapping is indented by two more than what it stands in; a
sequence that is the value of a key is not.  Lines are never folded.

A text is printed without quotes if it reads as that text, in a literal block
if it has lines, else between single quotes, and between double quotes if it
has characters that only escapes can show.
-/

namespace Manifest.Yaml

/-- Floating point numbers show no sign of a positive exponent. -/
def floatText : FloatText := ⟨"", ".nan", ".inf", "-.inf"⟩

/-- Characters that show without an escape. -/
def isPrintable (char : Char) : Bool :=
  let code := char.toNat
  code = 0x0A || (0x20 ≤ code && code ≤ 0x7E) || (0xA0 ≤ code && code ≤ 0xD7FF) ||
    (0xE000 ≤ code && code ≤ 0xFFFD && code != 0xFEFF) || 0x10000 ≤ code

/-- Characters that cannot start a text without quotes. -/
def startIndicators : List Char :=
  ['#', ',', '[', ']', '\x7b', '\x7d', '&', '*', '!', '|', '>', '\x27', '"', '%', '@', '\x60']

/-- Whether a text starts as something else than a plain scalar. -/
def startsAsIndicator : List Char → Bool
  | '-' :: '-' :: '-' :: _ => true
  | '.' :: '.' :: '.' :: _ => true
  | first :: rest =>
      first ∈ startIndicators ||
        ((first = '?' || first = ':' || first = '-') && atBlank rest)
  | [] => false

/-- Whether a colon ends a word or a comment starts behind a first character. -/
def hasInnerIndicator : Char → List Char → Bool
  | before, char :: rest =>
      (char = ':' && atBlank rest) || (char = '#' && isBlankOrBreak before) ||
        hasInnerIndicator char rest
  | _, [] => false

/-- Whether two characters in a row satisfy one condition each. -/
def hasPair (first second : Char → Bool) : List Char → Bool
  | left :: right :: rest =>
      (first left && second right) || hasPair first second (right :: rest)
  | _ => false

/-- A space or a break. -/
def isSpaceOrBreak (char : Char) : Bool :=
  char = ' ' || isBreak char

/-- Whether a space stands before a break. -/
def hasSpaceBeforeBreak (chars : List Char) : Bool :=
  hasPair (· = ' ') isBreak chars

/-- Whether a text needs escapes. -/
def needsEscapes (chars : List Char) : Bool :=
  hasSpaceBeforeBreak chars || !chars.all isPrintable

/-- Whether a text can stand without quotes. -/
def allowsPlain (chars : List Char) : Bool :=
  match chars with
  | [] => true
  | first :: rest =>
      !needsEscapes chars && !chars.any isBreak && first != ' ' &&
        chars.getLast? != some ' ' && !startsAsIndicator chars && !hasInnerIndicator first rest

/-- Whether a text can stand between single quotes. -/
def allowsSingleQuotes (chars : List Char) : Bool :=
  !needsEscapes chars && !hasPair isBreak (· = ' ') chars

/-- Whether a text can stand in a literal block. -/
def allowsLiteral (chars : List Char) : Bool :=
  !chars.isEmpty && !needsEscapes chars && chars.getLast? != some ' '

namespace Atom

/-- Whether a text without quotes reads as that text. -/
def readsAsText (content : String) : Bool :=
  match ofPlain? content with
  | some (text _) => !hasLeadingZero content.toList
  | _ => false

/-- The characters of an atom. -/
def content : Atom → String
  | null => "null"
  | bool truth => if truth then "true" else "false"
  | int number => toString number
  | float number => floatText.render number
  | text content => content

/-- The style that suits what an atom stands for. -/
def wantedStyle : Atom → ScalarStyle
  | text content =>
      if content.toList.contains '\n' then .literal
      else if readsAsText content then .plain
      else .singleQuoted
  | _ => .plain

/-- The style in which an atom is printed, as a key on one line or anywhere else. -/
def style (asKey : Bool) (atom : Atom) : ScalarStyle :=
  let chars := atom.content.toList
  let quoted : ScalarStyle := if allowsSingleQuotes chars then .singleQuoted else .doubleQuoted
  match atom.wantedStyle with
  | .plain => if allowsPlain chars && !(asKey && chars.isEmpty) then .plain else quoted
  | .singleQuoted => quoted
  | _ => if allowsLiteral chars && !asKey then .literal else .doubleQuoted

end Atom

/-- As many spaces as asked for. -/
def spaces (count : Nat) : List Char :=
  List.replicate count ' '

/-- The characters of a text, with an indentation in front of each line that holds any. -/
def indented (indent : Nat) : Bool → List Char → List Char
  | _, [] => []
  | atStart, char :: rest =>
      if isBreak char then char :: indented indent true rest
      else (if atStart then spaces indent else []) ++ char :: indented indent false rest

/-- Whether a text ends with a break. -/
def endsWithBreak (chars : List Char) : Bool :=
  chars.getLast?.any isBreak

/-- A text between single quotes; a quote inside is written twice. -/
def singleQuoted (indent : Nat) (chars : List Char) : List Char :=
  let doubled := chars.flatMap fun char => if char = '\x27' then [char, char] else [char]
  let closing := if endsWithBreak chars then spaces indent else []
  '\x27' :: indented indent false doubled ++ closing ++ ['\x27']

/-- The characters that have a short escape, with its letter. -/
def shortEscapes : List (Nat × Char) :=
  [(0x00, '0'), (0x07, 'a'), (0x08, 'b'), (0x09, 't'), (0x0A, 'n'), (0x0B, 'v'), (0x0C, 'f'),
    (0x0D, 'r'), (0x1B, 'e'), (0x22, '"'), (0x5C, '\\'), (0x85, 'N'), (0xA0, '_'),
    (0x2028, 'L'), (0x2029, 'P')]

/-- Upper-case digits of base sixteen, filled up with zeros. -/
def hexDigits (width number : Nat) : List Char :=
  let digits := (Nat.toDigits 16 number).map Char.toUpper
  List.replicate (width - digits.length) '0' ++ digits

/-- The escape of a character. -/
def escape (char : Char) : List Char :=
  let code := char.toNat
  match shortEscapes.lookup code with
  | some letter => ['\\', letter]
  | none =>
      if code ≤ 0xFF then '\\' :: 'x' :: hexDigits 2 code
      else if code ≤ 0xFFFF then '\\' :: 'u' :: hexDigits 4 code
      else '\\' :: 'U' :: hexDigits 8 code

/-- A text between double quotes. -/
def doubleQuoted (chars : List Char) : List Char :=
  let escaped := chars.flatMap fun char =>
    if !isPrintable char || isBreak char || char = '"' || char = '\\' then escape char
    else [char]
  '"' :: escaped ++ ['"']

/-- The sign that says what becomes of the breaks at the end of a literal block. -/
def chompingSign (chars : List Char) : List Char :=
  match chars.reverse with
  | [] => ['-']
  | last :: before =>
      if !isBreak last then ['-']
      else
        match before with
        | [] => ['+']
        | previous :: _ => if isBreak previous then ['+'] else []

/-- The head of a literal block; the indentation is stated if the first line would hide it. -/
def literalHead (chars : List Char) : List Char :=
  let digit := if chars.head?.any isSpaceOrBreak then ['2'] else []
  '|' :: digit ++ chompingSign chars

/-- A literal block with the break at its end. -/
def literalBlock (indent : Nat) (chars : List Char) : List Char :=
  literalHead chars ++ '\n' :: indented indent true chars ++
    if endsWithBreak chars then [] else ['\n']

/-- A scalar on one line, as it stands in a key. -/
def keyScalar (atom : Atom) : String :=
  let chars := atom.content.toList
  String.ofList <|
    match atom.style true with
    | .plain => chars
    | .singleQuoted => singleQuoted 0 chars
    | _ => doubleQuoted chars

/-- A scalar with the break behind it. -/
def scalarLines (indent : Nat) (atom : Atom) : String :=
  let chars := atom.content.toList
  String.ofList <|
    match atom.style false with
    | .plain => chars ++ ['\n']
    | .singleQuoted => singleQuoted indent chars ++ ['\n']
    | .doubleQuoted => doubleQuoted chars ++ ['\n']
    | _ => literalBlock indent chars

/-- Characters that stand for themselves in a tag. -/
def isTagText (char : Char) : Bool :=
  isWordChar char || char ∈ ";/?:@&=+$,.~*\x27()[]".toList

/-- A tag with its mark. -/
def markedTag (tag : String) : String :=
  if startsWith '!' tag.toList then tag else "!" ++ tag

/-- A tag as it is printed; a mark alone stands between angle brackets. -/
def tagText (tag : String) : String :=
  if markedTag tag = "!" then "!<%21>"
  else
    "!" ++ String.ofList ((markedTag tag).toList.drop 1 |>.flatMap fun char =>
      if isTagText char then [char]
      else (String.ofList [char]).toUTF8.toList.flatMap fun byte =>
        '%' :: hexDigits 2 byte.toNat)

/-- The longest key that stands on one line, in bytes. -/
def keyBound : Nat := 128

/-- The size of a tree that fits on one line, if it does. -/
def keySize? : Tree → Option Nat
  | .scalar atom _ =>
      if atom.content.toList.any isBreak then none else some atom.content.utf8ByteSize
  | .sequence items => if items.isEmpty then some 0 else none
  | .mapping entries => if entries.isEmpty then some 0 else none
  | .tagged tag inner => (keySize? inner).map ((markedTag tag).utf8ByteSize + ·)

/-- Whether a key stands on one line in front of its colon. -/
def isSimpleKey (tree : Tree) : Bool :=
  (keySize? tree).any (· ≤ keyBound)

/-- A key that stands on one line. -/
def simpleKey : Tree → String
  | .scalar atom _ => keyScalar atom
  | .sequence _ => "[]"
  | .mapping _ => "\x7b\x7d"
  | .tagged tag inner => tagText tag ++ " " ++ simpleKey inner

/-- Where a tree is printed. -/
structure Position where
  /-- The indentation of the collection around it; none around a whole document. -/
  outer : Option Nat := none
  inMapping : Bool := false
  isOpen : Bool := true

namespace Position

/-- What separates a tree from the text before it on the line. -/
def lead (position : Position) : String :=
  if position.outer.isNone && position.isOpen then "" else " "

/-- The indentation of a mapping. -/
def mappingIndent (position : Position) : Nat :=
  match position.outer with
  | none => 0
  | some indent => indent + 2

/-- The indentation of a sequence. -/
def sequenceIndent (position : Position) : Nat :=
  match position.outer with
  | none => 0
  | some indent => if position.inMapping && !position.isOpen then indent else indent + 2

/-- The indentation of the lines of a scalar. -/
def scalarIndent (position : Position) : Nat :=
  match position.outer with
  | none => 2
  | some indent => indent + 2

/-- What stands before the first line of a block. -/
def blockLead (position : Position) (indent : Nat) : String :=
  if position.isOpen then position.lead else "\n" ++ String.ofList (spaces indent)

end Position

namespace Tree

mutual

/-- The lines of a tree, from its place on the current line to the break behind it. -/
def lines (position : Position) : Tree → String
  | scalar atom _ => position.lead ++ scalarLines position.scalarIndent atom
  | sequence items =>
      if items.isEmpty then position.lead ++ "[]\n"
      else
        let indent := position.sequenceIndent
        position.blockLead indent ++
          (String.ofList (spaces indent)).intercalate (itemLines indent items)
  | mapping entries =>
      if entries.isEmpty then position.lead ++ "\x7b\x7d\n"
      else
        let indent := position.mappingIndent
        position.blockLead indent ++
          (String.ofList (spaces indent)).intercalate (entryLines indent entries)
  | tagged tag inner =>
      position.lead ++ tagText tag ++ inner.lines { position with isOpen := false }

/-- The lines of items, each from its dash on. -/
def itemLines (indent : Nat) : List Tree → List String
  | [] => []
  | item :: rest =>
      ("-" ++ item.lines { outer := some indent }) :: itemLines indent rest

/-- The lines of entries, each from its key on. -/
def entryLines (indent : Nat) : List (Tree × Tree) → List String
  | [] => []
  | (key, value) :: rest =>
      let entry :=
        if isSimpleKey key then
          simpleKey key ++ ":" ++
            value.lines { outer := some indent, inMapping := true, isOpen := false }
        else
          "?" ++ key.lines { outer := some indent, inMapping := true } ++
            String.ofList (spaces indent) ++ ":" ++
              value.lines { outer := some indent, inMapping := true }
      entry :: entryLines indent rest

end

/-- The text of a tree. -/
def render (tree : Tree) : String :=
  tree.lines {}

/-- Whether some entries are a single one whose key is a tag or a single entry itself. -/
def hidesKey : List (Tree × Tree) → Bool
  | [(tagged _ _, _)] => true
  | [(mapping [_], _)] => true
  | _ => false

mutual

/--
Whether a tree has a text.  A tag in front of a tree counts as a mapping with
that tree as its single entry, so that where a single entry hides its key there
is none, except right behind a tag.
-/
def hasText (isTagged : Bool) : Tree → Bool
  | scalar _ _ => true
  | sequence items => itemsHaveText items
  | mapping entries => (isTagged || !hidesKey entries) && entriesHaveText entries
  | tagged _ inner => inner.hasText true

/-- Whether items have a text. -/
def itemsHaveText : List Tree → Bool
  | [] => true
  | item :: rest => item.hasText false && itemsHaveText rest

/-- Whether keys and values have a text. -/
def entriesHaveText : List (Tree × Tree) → Bool
  | [] => true
  | (key, value) :: rest =>
      key.hasText false && value.hasText false && entriesHaveText rest

end

/-- The text of a tree, if it has one. -/
def render? (tree : Tree) : Option String :=
  if tree.hasText false then some tree.render else none

end Tree

end Manifest.Yaml
