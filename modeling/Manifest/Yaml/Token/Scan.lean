import Manifest.Yaml.Token.Mark
import Manifest.Yaml.Token.Scalar

/-!
# From YAML text to tokens

The text is scanned from its start to its end.  The scanner knows the
indentation of the open block collections, how many brackets are open, and for
each of them a place that may still turn out to be the start of a key.  Such a
place is lost at the end of its line and after 1024 bytes; if a key must start
there, losing it is an error.
-/

namespace Manifest.Yaml

/-- A place where a key may start. -/
structure KeyPlace where
  required : Bool
  tokenCount : Nat
  cursor : Cursor

/-- The state of the scanner. -/
structure Scanner where
  cursor : Cursor
  tokens : Array Token := #[]
  /-- The column of the innermost block collection, or one less than the first column. -/
  indent : Int := -1
  outerIndents : List Int := []
  keyAllowed : Bool := true
  /-- The place where a key may have started outside of the innermost brackets. -/
  keyPlace : Option KeyPlace := none
  /-- The same for the brackets around, of which there are as many as entries. -/
  outerPlaces : List (Option KeyPlace) := []

namespace Scanner

/-- How many bytes back a key may have started. -/
def keyReach : Nat := 1024

/-- Whether brackets are open. -/
def inFlow (scanner : Scanner) : Bool :=
  !scanner.outerPlaces.isEmpty

/-- The scanner with one more token. -/
def push (scanner : Scanner) (token : Token) : Scanner :=
  { scanner with tokens := scanner.tokens.push token }

/-- The scanner with a token put in front of later ones. -/
def insert (scanner : Scanner) (position : Nat) (token : Token) : Scanner :=
  { scanner with
    tokens := (scanner.tokens.extract 0 position).push token ++
      scanner.tokens.extract position scanner.tokens.size }

/-- The scanner behind some characters of its line, with one more token. -/
def take (scanner : Scanner) (count : Nat) (token : Token) : Scanner :=
  { scanner with
    cursor := scanner.cursor.skip count
    tokens := scanner.tokens.push token }

/-- A place that is not lost yet; none of a lost place, unless a key must start there. -/
def refreshPlace? (cursor : Cursor) : Option KeyPlace → Option (Option KeyPlace)
  | none => some none
  | some place =>
      if place.cursor.line < cursor.line || place.cursor.index + keyReach < cursor.index then
        if place.required then none else some none
      else some (some place)

/-- The scanner without the places that are lost. -/
def refresh? (scanner : Scanner) : Option Scanner :=
  match refreshPlace? scanner.cursor scanner.keyPlace,
      scanner.outerPlaces.mapM (refreshPlace? scanner.cursor) with
  | some place, some outer => some { scanner with keyPlace := place, outerPlaces := outer }
  | _, _ => none

/-- The scanner without its place for a key, where none must start. -/
def dropPlace? (scanner : Scanner) : Option Scanner :=
  if scanner.keyPlace.any KeyPlace.required then none
  else some { scanner with keyPlace := none }

/-- The scanner with the cursor as its place for a key, if one is allowed here. -/
def savePlace? (scanner : Scanner) : Option Scanner :=
  if scanner.keyAllowed then
    (dropPlace? scanner).map fun dropped =>
      { dropped with
        keyPlace := some
          { required := !scanner.inFlow && scanner.indent = Int.ofNat scanner.cursor.column
            tokenCount := scanner.tokens.size
            cursor := scanner.cursor } }
  else some scanner

/-- Opens a block collection at a column to the right of the innermost one. -/
def openBlock (scanner : Scanner) (column position : Nat) (token : Token) : Scanner :=
  if scanner.inFlow || Int.ofNat column ≤ scanner.indent then scanner
  else
    { scanner.insert position token with
      indent := Int.ofNat column
      outerIndents := scanner.indent :: scanner.outerIndents }

/-- Closes block collections to the right of a column. -/
def closeBlocksTo (column : Int) : Int → List Int → Array Token → Int × List Int × Array Token
  | indent, [], tokens => (indent, [], tokens)
  | indent, outer :: rest, tokens =>
      if column < indent then closeBlocksTo column outer rest (tokens.push .blockEnd)
      else (indent, outer :: rest, tokens)

/-- Closes the block collections to the right of a column, outside of brackets. -/
def closeBlocks (scanner : Scanner) (column : Int) : Scanner :=
  if scanner.inFlow then scanner
  else
    match closeBlocksTo column scanner.indent scanner.outerIndents scanner.tokens with
    | (indent, outer, tokens) =>
        { scanner with indent := indent, outerIndents := outer, tokens := tokens }

/-- Behind the blanks, comments and breaks before the next token. -/
def skipToToken : Nat → Scanner → Scanner
  | 0, scanner => scanner
  | fuel + 1, scanner =>
      let cursor := scanner.cursor
      let marked :=
        if cursor.column = 0 && startsWith byteOrderMark cursor.rest then cursor.skip 1
        else cursor
      let blank : Char → Bool := fun char =>
        char = ' ' || ((scanner.inFlow || !scanner.keyAllowed) && char = '\t')
      let finish := (marked.skipWhile blank).skipComment
      if finish.rest.head?.any isBreak then
        skipToToken fuel
          { scanner with
            cursor := finish.skipBreak
            keyAllowed := scanner.keyAllowed || !scanner.inFlow }
      else { scanner with cursor := finish }

/-- The end of the text. -/
def endStream? (scanner : Scanner) : Option Scanner :=
  (scanner.closeBlocks (-1)).dropPlace?.map fun closed => closed.push .streamEnd

/-- A directive. -/
def directive? (scanner : Scanner) : Option Scanner :=
  match (scanner.closeBlocks (-1)).dropPlace?, scanDirective? scanner.cursor with
  | some closed, some (token, cursor) =>
      some { closed.push token with cursor := cursor, keyAllowed := false }
  | _, _ => none

/-- A mark between documents. -/
def documentMark? (scanner : Scanner) (token : Token) : Option Scanner :=
  (scanner.closeBlocks (-1)).dropPlace?.map fun closed =>
    { closed.take 3 token with keyAllowed := false }

/-- An opening bracket. -/
def openFlow? (scanner : Scanner) (token : Token) : Option Scanner :=
  scanner.savePlace?.map fun saved =>
    { saved.take 1 token with
      keyAllowed := true
      keyPlace := none
      outerPlaces := saved.keyPlace :: saved.outerPlaces }

/-- A closing bracket. -/
def closeFlow? (scanner : Scanner) (token : Token) : Option Scanner :=
  scanner.dropPlace?.map fun dropped =>
    match dropped.outerPlaces with
    | place :: outer =>
        { dropped.take 1 token with
          keyAllowed := false
          keyPlace := place
          outerPlaces := outer }
    | [] => { dropped.take 1 token with keyAllowed := false }

/-- A comma between entries. -/
def flowEntry? (scanner : Scanner) : Option Scanner :=
  scanner.dropPlace?.map fun dropped => { dropped.take 1 .flowEntry with keyAllowed := true }

/-- A dash before an item. -/
def blockEntry? (scanner : Scanner) : Option Scanner :=
  if !scanner.inFlow && !scanner.keyAllowed then none
  else
    (scanner.openBlock scanner.cursor.column scanner.tokens.size
        .blockSequenceStart).dropPlace?.map fun dropped =>
      { dropped.take 1 .blockEntry with keyAllowed := true }

/-- A question mark before a key. -/
def key? (scanner : Scanner) : Option Scanner :=
  if !scanner.inFlow && !scanner.keyAllowed then none
  else
    (scanner.openBlock scanner.cursor.column scanner.tokens.size
        .blockMappingStart).dropPlace?.map fun dropped =>
      { dropped.take 1 .key with keyAllowed := !scanner.inFlow }

/-- A colon before a value; a pending place becomes the start of its key. -/
def value? (scanner : Scanner) : Option Scanner :=
  match scanner.keyPlace with
  | some place =>
      let opened :=
        (scanner.insert place.tokenCount .key).openBlock place.cursor.column place.tokenCount
          .blockMappingStart
      some { opened.take 1 .value with keyAllowed := false, keyPlace := none }
  | none =>
      if !scanner.inFlow && !scanner.keyAllowed then none
      else
        let opened :=
          scanner.openBlock scanner.cursor.column scanner.tokens.size .blockMappingStart
        some { opened.take 1 .value with keyAllowed := !scanner.inFlow }

/-- A token that may start a key, read by itself. -/
def atom? (scanner : Scanner) (read : Option (Token × Cursor)) : Option Scanner :=
  match scanner.savePlace?, read with
  | some saved, some (token, cursor) =>
      some { saved.push token with cursor := cursor, keyAllowed := false }
  | _, _ => none

/-- A plain scalar; behind a break a key is allowed again. -/
def plain? (scanner : Scanner) : Option Scanner :=
  match scanner.savePlace?, scanPlain? scanner.inFlow scanner.indent scanner.cursor with
  | some saved, some (token, broken, cursor) =>
      some { saved.push token with cursor := cursor, keyAllowed := broken }
  | _, _ => none

/-- A block scalar. -/
def block? (scanner : Scanner) (isLiteral : Bool) : Option Scanner :=
  match scanner.dropPlace?, scanBlock? isLiteral scanner.indent scanner.cursor with
  | some dropped, some (token, cursor) =>
      some { dropped.push token with cursor := cursor, keyAllowed := true }
  | _, _ => none

/-- Characters that start something else than a plain scalar. -/
def indicators : List Char :=
  "-?:,[]\x7b\x7d#&*!|>'\"%@`".toList

/-- Whether a plain scalar starts at a text. -/
def startsPlain (inFlow : Bool) : List Char → Bool
  | [] => false
  | char :: rest =>
      (!isBlankOrBreak char && !indicators.contains char) ||
        (char = '-' && !rest.head?.any isSpaceOrTab) ||
        (!inFlow && (char = '?' || char = ':') && !atBlank rest)

/-- The token at the cursor. -/
def token? (scanner : Scanner) : Option Scanner :=
  let rest := scanner.cursor.rest
  let atMargin := scanner.cursor.column = 0
  if atMargin && startsWith '%' rest then scanner.directive?
  else if atMargin && atDocumentMark rest then
    scanner.documentMark? (if startsWith '-' rest then .documentStart else .documentEnd)
  else if startsWith '[' rest then scanner.openFlow? .flowSequenceStart
  else if startsWith '\x7b' rest then scanner.openFlow? .flowMappingStart
  else if startsWith ']' rest then scanner.closeFlow? .flowSequenceEnd
  else if startsWith '\x7d' rest then scanner.closeFlow? .flowMappingEnd
  else if startsWith ',' rest then scanner.flowEntry?
  else if startsWord '-' rest then scanner.blockEntry?
  else if startsWith '?' rest && (scanner.inFlow || startsWord '?' rest) then scanner.key?
  else if startsWith ':' rest && (scanner.inFlow || startsWord ':' rest) then scanner.value?
  else if startsWith '*' rest then
    scanner.atom? ((scanAnchorName? scanner.cursor).map fun found => (.reference found.1, found.2))
  else if startsWith '&' rest then
    scanner.atom? ((scanAnchorName? scanner.cursor).map fun found => (.anchor found.1, found.2))
  else if startsWith '!' rest then scanner.atom? (scanTag? scanner.inFlow scanner.cursor)
  else if startsWith '|' rest && !scanner.inFlow then scanner.block? true
  else if startsWith '>' rest && !scanner.inFlow then scanner.block? false
  else if startsWith '\x27' rest then scanner.atom? (scanQuoted? true scanner.cursor)
  else if startsWith '"' rest then scanner.atom? (scanQuoted? false scanner.cursor)
  else if startsPlain scanner.inFlow rest then scanner.plain?
  else none

/-- The tokens up to the end of the text; every token takes a character. -/
def run? : Nat → Scanner → Option (List Token)
  | 0, _ => none
  | fuel + 1, scanner =>
      match (skipToToken (scanner.cursor.rest.length + 1) scanner).refresh? with
      | none => none
      | some ready =>
          let closed := ready.closeBlocks ready.cursor.column
          if closed.cursor.rest.isEmpty then
            closed.endStream?.map fun finish => finish.tokens.toList
          else
            match closed.token? with
            | some next => run? fuel next
            | none => none

end Scanner

/-- The tokens of a text. -/
def Token.scan? (source : String) : Option (List Token) :=
  if source.toList.all isAllowed then
    Scanner.run? (source.length + 2) { cursor := { rest := source.toList } }
  else none

end Manifest.Yaml
