import Manifest.Pattern.Notation
import Manifest.Text.Blank
import Manifest.Text.Letter
import Manifest.Text.Numeral

/-!
# Reading patterns

The notation of patterns: alternatives, groups, repetitions, classes in
brackets with set operations, escapes, conditions and flags.  There is no
looking around and no reference to an earlier group.

Where blanks and comments do not count, they may stand between any two signs,
also inside braces and between the digits of a number.
-/

namespace Manifest.Pattern

/-- What is known while a pattern is read. -/
structure ReadState where
  rest : List Char
  isVerbose : Bool := false
  groups : Nat := 0
  names : List String := []

/-- A step of reading, which can fail. -/
abbrev Read (α : Type) := StateT ReadState Option α

/-- What an escape stands for. -/
inductive Primitive where
  | literal (literal : Literal)
  | mark (mark : Mark)
  | shorthand (kind : Shorthand) (isNegated : Bool)
  | property (name : List Char) (isNegated : Bool)

namespace Primitive

/-- An escape as a part of a pattern. -/
def toNotation : Primitive → Notation
  | literal char => .literal char
  | mark sign => .mark sign
  | shorthand kind isNegated => .oneOf (.shorthand kind isNegated)
  | property name isNegated => .oneOf (.property name isNegated)

/-- An escape as an item of brackets, where conditions cannot stand. -/
def toClass? : Primitive → Option ClassNotation
  | literal char => some (.literal char)
  | mark _ => none
  | shorthand kind isNegated => some (.shorthand kind isNegated)
  | property name isNegated => some (.property name isNegated)

/-- The character that an escape stands for. -/
def literal? : Primitive → Option Literal
  | literal char => some char
  | _ => none

end Primitive

namespace Read

/-- The next character, if there is one. -/
def peek? : Read (Option Char) := do
  return (← get).rest.head?

/-- The next character, which must exist. -/
def peek : Read Char := do
  match (← get).rest with
  | char :: _ => return char
  | [] => failure

/-- Leaves some characters behind. -/
def drop (count : Nat) : Read Unit :=
  modify fun state => { state with rest := state.rest.drop count }

/-- Reads the next character. -/
def next : Read Char := do
  let char ← peek
  drop 1
  return char

/-- Leaves a text behind if it comes next, and says whether it did. -/
def take (text : String) : Read Bool := do
  if text.toList.isPrefixOf (← get).rest then
    drop text.length
    return true
  else return false

/-- Leaves behind the first of some texts that comes next, and says whether there was one. -/
def takeAny (texts : List String) : Read Bool := do
  let rest := (← get).rest
  match texts.find? fun text => text.toList.isPrefixOf rest with
  | some text => take text
  | none => return false

/-- The rest of a text behind its leading blanks and comments. -/
def behindSpace : Bool → List Char → List Char
  | _, [] => []
  | true, char :: rest => behindSpace (char != '\n') rest
  | false, char :: rest =>
      if Text.isBlank char then behindSpace false rest
      else if char = '#' then behindSpace true rest
      else char :: rest

/-- Leaves blanks and comments behind where they do not count. -/
def skipSpace : Read Unit :=
  modify fun state =>
    if state.isVerbose then { state with rest := behindSpace false state.rest } else state

/-- Reads the next character and the blanks and comments behind it. -/
def nextSpaced : Read Char := do
  let char ← next
  skipSpace
  return char

/-- The longest stretch of characters that satisfy a condition. -/
def takeWhile (condition : Char → Bool) : Read (List Char) := do
  let taken := (← get).rest.takeWhile condition
  drop taken.length
  return taken

/-- The characters up to the first that does not satisfy a condition, and the rest. Behind each of
them blanks and comments are left out where they do not count; `isBehind` tells that there was one,
`inComment` that the text starts inside a comment. -/
def spanSpaced (condition : Char → Bool) (isVerbose : Bool) :
    (isBehind inComment : Bool) → List Char → List Char × List Char
  | _, _, [] => ([], [])
  | isBehind, true, char :: rest => spanSpaced condition isVerbose isBehind (char != '\n') rest
  | isBehind, false, char :: rest =>
      if isVerbose && isBehind && Text.isBlank char then
        spanSpaced condition isVerbose true false rest
      else if isVerbose && isBehind && char = '#' then
        spanSpaced condition isVerbose true true rest
      else if condition char then
        let (others, behind) := spanSpaced condition isVerbose true false rest
        (char :: others, behind)
      else ([], char :: rest)

/-- All characters in a row that satisfy a condition, with blanks and comments between and behind
them. -/
def takeSpaced (condition : Char → Bool) : Read (List Char) := do
  let state ← get
  let (taken, behind) := spanSpaced condition state.isVerbose false false state.rest
  set { state with rest := behind }
  return taken

/-- Some characters that satisfy a condition, with blanks and comments behind each of them. -/
def takeExactly (condition : Char → Bool) : Nat → Read (List Char)
  | 0 => return []
  | count + 1 => do
      let char ← nextSpaced
      if !condition char then failure
      let others ← takeExactly condition count
      return char :: others

/-- A closing brace. -/
def closeBrace : Read Unit := do
  if (← next) != '\x7d' then failure

/-- The character with a code point in base sixteen. -/
def hexChar (digits : List Char) : Read Char :=
  match Text.radix? 16 digits with
  | some code => if code.isValidChar then return Char.ofNat code else failure
  | none => failure

/-- Whether a character is a digit of base sixteen. -/
def isHexDigit (char : Char) : Bool :=
  char.isDigit || ('a' ≤ char && char ≤ 'f') || ('A' ≤ char && char ≤ 'F')

/-- A code point in base sixteen: in braces, or with a fixed number of digits. -/
def codePoint (width : Nat) : Read Literal := do
  skipSpace
  if (← peek) = '\x7b' then
    let _ ← nextSpaced
    let digits ← takeSpaced isHexDigit
    closeBrace
    skipSpace
    return { char := ← hexChar digits }
  else
    let digits ← takeExactly isHexDigit width
    return { char := ← hexChar digits, isByte := width = 2 }

/-- The name of a property: one letter, or a text in braces. -/
def propertyName : Read (List Char) := do
  skipSpace
  if (← peek) = '\x7b' then
    let _ ← nextSpaced
    let name ← takeSpaced (· != '\x7d')
    closeBrace
    return name
  else
    let char ← next
    if char = '\\' then failure
    return [char]

/-- Characters that have a meaning of their own. -/
def isMeta (char : Char) : Bool :=
  char ∈ "\\.+*?()|[]\x7b\x7d^$#&-~".toList

/-- Characters that may be escaped without need. -/
def isEscapable (char : Char) : Bool :=
  isMeta char || (char.toNat < 0x80 && !char.isAlphanum && char != '<' && char != '>')

/-- Whether a character can stand in the name of a boundary. -/
def isBoundaryChar (char : Char) : Bool :=
  char.isAlpha || char = '-'

/-- A boundary of words, which may have a name in braces; other braces repeat it. -/
def wordBoundary : Read Mark := do
  let place ← get
  if ← take "\x7b" then
    skipSpace
    if !isBoundaryChar (← peek) then
      set place
      return .boundary
    let name ← takeSpaced isBoundaryChar
    closeBrace
    match String.ofList name with
    | "start" => return .wordStart
    | "end" => return .wordEnd
    | "start-half" => return .noWordBefore
    | "end-half" => return .noWordAfter
    | _ => failure
  else return .boundary

/-- What an escape stands for, from the character behind the backslash on. -/
def escape : Read Primitive := do
  let char ← next
  match char with
  | 'x' => return .literal (← codePoint 2)
  | 'u' => return .literal (← codePoint 4)
  | 'U' => return .literal (← codePoint 8)
  | 'd' => return .shorthand .digit false
  | 'D' => return .shorthand .digit true
  | 's' => return .shorthand .blank false
  | 'S' => return .shorthand .blank true
  | 'w' => return .shorthand .word false
  | 'W' => return .shorthand .word true
  | 'p' => return .property (← propertyName) false
  | 'P' => return .property (← propertyName) true
  | 'a' => return .literal { char := '\x07' }
  | 'f' => return .literal { char := '\x0c' }
  | 't' => return .literal { char := '\t' }
  | 'n' => return .literal { char := '\n' }
  | 'r' => return .literal { char := '\r' }
  | 'v' => return .literal { char := '\x0b' }
  | 'A' => return .mark .textStart
  | 'z' => return .mark .textEnd
  | 'b' => return .mark (← wordBoundary)
  | 'B' => return .mark .noBoundary
  | '<' => return .mark .wordStart
  | '>' => return .mark .wordEnd
  | other => if isEscapable other then return .literal { char := other } else failure

/-- A character or an escape inside brackets. -/
def classItem : Read Primitive := do
  let char ← next
  if char = '\\' then escape else return .literal { char }

/-- The character behind the next one as far as a dash looks ahead, where blanks do not count: the
first character that is no blank, where the first number sign counts as a blank too. If there is
no such character, the next one is taken. -/
def lookAhead (isVerbose : Bool) (rest : List Char) : Option Char :=
  if isVerbose then
    let visible := rest.filter fun char => !Text.isBlank char
    match visible with
    | '#' :: second :: _ => some second
    | '#' :: [] => rest.head?
    | first :: _ => some first
    | [] => rest.head?
  else rest.head?

/-- Whether the next character is a dash that belongs to a range. -/
def atRangeDash : Read Bool := do
  let state ← get
  match state.rest with
  | '-' :: rest =>
      let ahead := lookAhead state.isVerbose rest
      return ahead != some ']' && ahead != some '-'
  | _ => return false

/-- The value of an option, which must exist. -/
def ofOption {α : Type} : Option α → Read α
  | some value => return value
  | none => failure

/-- An item or a range inside brackets. -/
def classRange : Read ClassNotation := do
  let first ← classItem
  skipSpace
  let _ ← peek
  if ← atRangeDash then
    let _ ← nextSpaced
    let last ← classItem
    let low ← ofOption first.literal?
    let high ← ofOption last.literal?
    if low.char ≤ high.char then return .range low high else failure
  else ofOption first.toClass?

/-- The class of ASCII with a name. -/
def asciiClass? : String → Option AsciiClass
  | "alnum" => some .alnum
  | "alpha" => some .alpha
  | "ascii" => some .ascii
  | "blank" => some .blank
  | "cntrl" => some .cntrl
  | "digit" => some .digit
  | "graph" => some .graph
  | "lower" => some .lower
  | "print" => some .print
  | "punct" => some .punct
  | "space" => some .space
  | "upper" => some .upper
  | "word" => some .word
  | "xdigit" => some .xdigit
  | _ => none

/-- A class with a name inside brackets, if there is one at this place. -/
def namedClass? : Read (Option ClassNotation) := do
  let place ← get
  if !(← take "[:") then return none
  let isNegated ← take "^"
  let name ← takeWhile (· != ':')
  match asciiClass? (String.ofList name), ← take ":]" with
  | some kind, true => return some (.named kind isNegated)
  | _, _ =>
      set place
      return none

/-- The operation at this place, if there is one. -/
def classOperation? : Read (Option ClassOperation) := do
  if ← take "&&" then return some .intersection
  else if ← take "--" then return some .difference
  else if ← take "~~" then return some .symmetricDifference
  else return none

/-- The class of the items since the last operation, `left` being what stands before it. -/
def withLeft (left : Option (ClassOperation × ClassNotation)) (items : List ClassNotation) :
    ClassNotation :=
  let right := ClassNotation.ofItems items.reverse
  match left with
  | none => right
  | some (kind, before) => .operation kind before right

/-- The start of brackets: whether they are negated, and the signs there that stand for
themselves, which are dashes or a closing bracket. -/
def classStart : Read (Bool × List ClassNotation) := do
  let isNegated := (← peek) = '^'
  if isNegated then
    let _ ← nextSpaced
  let dashes ← takeSpaced (· = '-')
  let first ← peek
  if dashes.isEmpty && first = ']' then
    let _ ← nextSpaced
    let _ ← peek
    return (isNegated, [.literal { char := ']' }])
  else return (isNegated, dashes.map fun dash => .literal { char := dash })

/-- The inside of brackets up to the closing one; `items` are those since the last operation, the
last one first. There are less characters to read than `bound`, also inside nested brackets. -/
def classBody (nested : Nat → Read ClassNotation) (bound : Nat) (items : List ClassNotation)
    (left : Option (ClassOperation × ClassNotation)) : Read ClassNotation :=
  match bound with
  | 0 => failure
  | bound + 1 => do
      skipSpace
      match ← peek with
      | '[' =>
          match ← namedClass? with
          | some named => classBody nested bound (named :: items) left
          | none =>
              let inner ← nested bound
              classBody nested bound (inner :: items) left
      | ']' =>
          drop 1
          return withLeft left items
      | _ =>
          match ← classOperation? with
          | some kind => classBody nested bound [] (some (kind, withLeft left items))
          | none =>
              let item ← classRange
              classBody nested bound (item :: items) left

/-- A class in brackets, at the opening one; `depth` is the number of levels that it may have. -/
def bracketed : (depth bound : Nat) → Read ClassNotation
  | 0, _ => failure
  | depth + 1, bound => do
      let _ ← nextSpaced
      let (isNegated, items) ← classStart
      let inner ← classBody (bracketed depth) bound items none
      return .bracketed inner isNegated

/-- A number in braces, with blanks around it. -/
def count : Read Nat := do
  let _ ← takeWhile Text.isBlank
  let digits ← takeSpaced Char.isDigit
  let _ ← takeSpaced Text.isBlank
  match Text.decimal? digits with
  | some value => if value < 0x100000000 then return value else failure
  | none => failure

/-- The bounds of a counted repetition, from behind the opening brace on. -/
def bounds : Read (Nat × Option Nat) := do
  skipSpace
  let least ← count
  if ← take "," then
    skipSpace
    if (← peek) = '\x7d' then
      drop 1
      return (least, none)
    let most ← count
    closeBrace
    if most < least then failure
    return (least, some most)
  closeBrace
  return (least, some least)

/-- The flag that a letter stands for. -/
def flag? : Char → Option Flag
  | 'i' => some .ignoreCase
  | 'm' => some .multiLine
  | 's' => some .dotMatchesBreak
  | 'U' => some .swapGreed
  | 'u' => some .allScripts
  | 'R' => some .withReturns
  | 'x' => some .verbose
  | _ => none

/-- The flags that a text of distinct letters stands for; those behind a dash are switched off. -/
def flagChanges? (isOn : Bool) : List Char → Option (List FlagChange)
  | [] => some []
  | '-' :: rest => if isOn && !rest.isEmpty then flagChanges? false rest else none
  | letter :: rest =>
      if rest.contains letter then none
      else
        match flag? letter, flagChanges? isOn rest with
        | some flag, some changes => some ({ flag, isOn } :: changes)
        | _, _ => none

/-- Whether a character can stand in the name of a group. -/
def isNameChar (isFirst : Bool) (char : Char) : Bool :=
  char = '_' ||
    (if isFirst then Text.isAlphabetic char
      else char = '.' || char = '[' || char = ']' || Text.isAlphanumeric char)

/-- The name of a group, up to the closing angle bracket; no other group has it. -/
def groupName : Read Unit := do
  let name ← takeWhile (· != '>')
  let _ ← next
  match name with
  | [] => failure
  | first :: others =>
      if !isNameChar true first || !others.all (isNameChar false) then failure
      let text := String.ofList name
      if (← get).names.contains text then failure
      modify fun state => { state with names := text :: state.names }

/-- What a parenthesis opens. -/
inductive Opening where
  | group (kind : GroupKind)
  | flags (changes : List FlagChange)

/-- A group with the next number. -/
def numbered : Read Opening := do
  modify fun state => { state with groups := state.groups + 1 }
  return .group (.numbered (← get).groups)

/-- Whether blanks and comments do not count behind some changes of flags. -/
def verboseAfter (changes : List FlagChange) (isVerbose : Bool) : Bool :=
  match changes.find? (·.flag = .verbose) with
  | some change => change.isOn
  | none => isVerbose

/-- The start of a group, from behind its parenthesis on. -/
def opening : Read Opening := do
  skipSpace
  if ← takeAny ["?=", "?!", "?<=", "?<!"] then failure
  if ← takeAny ["?P<", "?<"] then
    groupName
    numbered
  else if ← take "?" then
    let letters ← takeWhile fun char => char != ':' && char != ')'
    let changes ← ofOption (flagChanges? true letters)
    if (← next) = ':' then return .group (.flagged changes)
    else if letters.isEmpty then failure
    else return .flags changes
  else numbered

/-- Puts a repetition around the last of some parts, which come in reverse order. -/
def repeatLast (parts : List Notation) (least : Nat) (most : Option Nat) (isLazy : Bool) :
    Read (List Notation) :=
  match parts with
  | last :: before =>
      if last.isRepeatable then return .repeated last least most isLazy :: before else failure
  | [] => failure

/-- Puts the repetition that one sign stands for around the last of some parts. -/
def repeatBySign (parts : List Notation) (least : Nat) (most : Option Nat) :
    Read (List Notation) := do
  drop 1
  let isLazy ← take "?"
  repeatLast parts least most isLazy

/-- Puts the repetition in braces around the last of some parts. -/
def repeatByCount (parts : List Notation) : Read (List Notation) := do
  drop 1
  let (least, most) ← bounds
  skipSpace
  let isLazy ← take "?"
  repeatLast parts least most isLazy

/-- A group or flags, at the opening parenthesis. -/
def parenthesis (nested : Read Notation) : Read Notation := do
  drop 1
  let outer := (← get).isVerbose
  match ← opening with
  | .flags changes =>
      modify fun state => { state with isVerbose := verboseAfter changes state.isVerbose }
      return .flags changes
  | .group kind =>
      if let .flagged changes := kind then
        modify fun state => { state with isVerbose := verboseAfter changes state.isVerbose }
      let inner ← nested
      if !(← take ")") then failure
      modify fun state => { state with isVerbose := outer }
      return .group kind inner

/-- The parts up to the end of the group or the next alternative, the last one first, behind
those in `parts`. There are less characters to read than `bound`, also inside groups. -/
def sequence (nested : Nat → Read Notation) (bound : Nat) (parts : List Notation) :
    Read (List Notation) :=
  match bound with
  | 0 => failure
  | bound + 1 => do
      skipSpace
      match ← peek? with
      | none => return parts
      | some ')' => return parts
      | some '|' => return parts
      | some '(' =>
          let found ← parenthesis (nested bound)
          sequence nested bound (found :: parts)
      | some '[' =>
          let found ← bracketed Notation.depthLimit bound
          sequence nested bound (.oneOf found :: parts)
      | some '*' => sequence nested bound (← repeatBySign parts 0 none)
      | some '+' => sequence nested bound (← repeatBySign parts 1 none)
      | some '?' => sequence nested bound (← repeatBySign parts 0 (some 1))
      | some '\x7b' => sequence nested bound (← repeatByCount parts)
      | some '\\' =>
          drop 1
          let found ← escape
          sequence nested bound (found.toNotation :: parts)
      | some '.' =>
          drop 1
          sequence nested bound (.dot :: parts)
      | some '^' =>
          drop 1
          sequence nested bound (.mark .caret :: parts)
      | some '$' =>
          drop 1
          sequence nested bound (.mark .dollar :: parts)
      | some char =>
          drop 1
          sequence nested bound (.literal { char } :: parts)

/-- Alternatives up to the end of the group, the last one first, behind those in `found`. There are
less characters to read than `bound`. -/
def alternatives (nested : Nat → Read Notation) (bound : Nat) (found : List Notation) :
    Read (List Notation) :=
  match bound with
  | 0 => failure
  | bound + 1 => do
      let parts ← sequence nested (bound + 1) []
      let found := Notation.ofParts parts.reverse :: found
      if ← take "|" then alternatives nested bound found else return found

/-- The inside of a group; `depth` is the number of levels that it may have. -/
def groupBody : (depth bound : Nat) → Read Notation
  | 0, _ => failure
  | depth + 1, bound => do
      let found ← alternatives (groupBody depth) bound []
      return Notation.ofBranches found.reverse

end Read

/-- The notation that a text is written in, if it has no more levels than it may have. -/
def Notation.ofText? (text : String) : Option Notation :=
  match
    (Read.groupBody (Notation.depthLimit + 1) (text.length + 1)).run { rest := text.toList } with
  | some (found, state) =>
      if state.rest.isEmpty && found.depth ≤ Notation.depthLimit then some found else none
  | none => none

end Manifest.Pattern
