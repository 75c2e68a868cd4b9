import Manifest.Pattern.Basic
import Manifest.Pattern.ByteRange
import Std.Data.HashMap

/-!
# The size of automata

A pattern that takes too much memory is refused.  The memory is that of the two
automata that look for it byte by byte, one from the start of a text to its end
and one from the end to the start.  The states of an automaton are counted as
they would be built, one part of the pattern after the other; a repetition is
written out.

A set of characters of several bytes is built from ranges of bytes.  Equal
states are shared as long as they are remembered, in a table that keeps one state
for each remainder of a hash value.
-/

namespace Manifest.Pattern

/-- The way in which an automaton reads a text. -/
inductive Direction where
  /-- From the start to the end. Numbered matches have states of their own. -/
  | forward
  | backward
deriving DecidableEq, Repr, Inhabited

/-- The states of an automaton so far. -/
structure Automaton where
  states : Nat := 0
  /-- The memory of what the states hold besides themselves, in bytes. -/
  contents : Nat := 0
  /-- Whether the last part that was built ends in a branching, which then has to hold one more
  state to go on with. -/
  endsInBranching : Bool := false
deriving DecidableEq, Repr, Inhabited

namespace Automaton

/-- The memory of one state. -/
def stateSize : Nat := 32

/-- The memory of one state that a branching holds. -/
def branchSize : Nat := 4

/-- The memory of one range of bytes that a state holds. -/
def rangeSize : Nat := 8

/-- The memory that an automaton must not exceed. -/
def memoryLimit : Nat := 0xA00000

/-- The memory of an automaton in bytes. -/
def memory (automaton : Automaton) : Nat :=
  stateSize * automaton.states + automaton.contents

/-- Whether an automaton takes too much memory. -/
def isTooLarge (automaton : Automaton) : Bool :=
  memoryLimit < automaton.memory

/-- Adds states without contents. -/
def addStates (automaton : Automaton) (count : Nat) : Automaton :=
  { automaton with states := automaton.states + count }

/-- Adds a state with some ranges of bytes. -/
def addRanges (automaton : Automaton) (count : Nat) : Automaton :=
  { automaton with
    states := automaton.states + 1
    contents := automaton.contents + rangeSize * count }

/-- Adds states to go on with to branchings. -/
def addBranches (automaton : Automaton) (count : Nat) : Automaton :=
  { automaton with contents := automaton.contents + branchSize * count }

/-- Connects the end of the last part with what follows. -/
def connect (automaton : Automaton) : Automaton :=
  if automaton.endsInBranching then
    { automaton.addBranches 1 with endsInBranching := false }
  else automaton

/-- Sets whether the last part ends in a branching. -/
def ending (automaton : Automaton) (inBranching : Bool) : Automaton :=
  { automaton with endsInBranching := inBranching }

/-- Does a step several times, unless the automaton has become too large. -/
def iterate (step : Automaton → Automaton) : Nat → Automaton → Automaton
  | 0, automaton => automaton
  | count + 1, automaton =>
      if automaton.isTooLarge then automaton else iterate step count (step automaton)

/-- A range of bytes with the state behind it. -/
structure Transition where
  range : ByteRange
  target : Nat
deriving DecidableEq, Repr, Inhabited

/-- A hash value with one more number. -/
def mix (hash : UInt64) (number : Nat) : UInt64 :=
  (hash ^^^ number.toUInt64) * 1099511628211

/-- The hash value of no numbers. -/
def hashStart : UInt64 := 14695981039346656037

/-- The hash value of some numbers. -/
def hashOf (numbers : List Nat) : UInt64 :=
  numbers.foldl mix hashStart

/-- States that are remembered by what they hold, one for each remainder of a hash value. -/
structure Memory (α : Type) where
  slots : UInt64
  /-- The states by the remainders, each with what it holds. -/
  known : Std.HashMap UInt64 (α × Nat) := {}

namespace Memory

/-- The state that holds something, if it is still remembered. -/
def find? {α : Type} [DecidableEq α] (memory : Memory α) (hash : UInt64) (content : α) :
    Option Nat :=
  match memory.known[hash % memory.slots]? with
  | some (found, state) => if found = content then some state else none
  | none => none

/-- Remembers a state. -/
def insert {α : Type} (memory : Memory α) (hash : UInt64) (content : α) (state : Nat) :
    Memory α :=
  { memory with known := memory.known.insert (hash % memory.slots) (content, state) }

end Memory

/-- An automaton with the states of a set of characters that are remembered. -/
structure SetBuilder (α : Type) where
  automaton : Automaton
  memory : Memory α

namespace SetBuilder

/-- The number of the state with some transitions, which is added unless it is remembered. -/
def stateOf (builder : SetBuilder (List Transition)) (transitions : List Transition) :
    SetBuilder (List Transition) × Nat :=
  let hash := hashOf (transitions.flatMap fun transition =>
    [transition.range.first, transition.range.last, transition.target])
  match builder.memory.find? hash transitions with
  | some state => (builder, state)
  | none =>
      let state := builder.automaton.states
      (⟨builder.automaton.addRanges transitions.length,
        builder.memory.insert hash transitions state⟩, state)

/-- The number of the state before a range that leads to a state, which is added unless it is
remembered. -/
def stateBefore (builder : SetBuilder (Nat × ByteRange)) (target : Nat) (range : ByteRange) :
    SetBuilder (Nat × ByteRange) × Nat :=
  let hash := hashOf [target, range.first, range.last]
  match builder.memory.find? hash (target, range) with
  | some state => (builder, state)
  | none =>
      let state := builder.automaton.states
      (⟨builder.automaton.addStates 1, builder.memory.insert hash (target, range) state⟩, state)

/-- The states before some sequences that lead to a state. A branching holds the last one of each
sequence. -/
def backward (builder : SetBuilder (Nat × ByteRange)) (target : Nat) :
    List (List ByteRange) → SetBuilder (Nat × ByteRange)
  | [] => builder
  | sequence :: rest =>
      let (built, _) := sequence.foldl (fun (builder, state) range =>
        builder.stateBefore state range) (builder, target)
      backward { built with automaton := built.automaton.addBranches 1 } target rest

/-- Sequences by their first range: what stands behind it in the sequences that follow each other
and start with the same range. -/
def byFirst : List (List ByteRange) → List (ByteRange × List (List ByteRange))
  | [] => []
  | [] :: rest => byFirst rest
  | (first :: behind) :: rest =>
      match byFirst rest with
      | (range, others) :: groups =>
          if range = first then (range, (behind :: others)) :: groups
          else (first, [behind]) :: (range, others) :: groups
      | [] => [(first, [behind])]

/-- The state from which some sequences lead to a state; the sequences have at most as many ranges
as `bound`. -/
def forward (target : Nat) : (bound : Nat) → SetBuilder (List Transition) →
    List (List ByteRange) → SetBuilder (List Transition) × Nat
  | 0, builder, _ => (builder, target)
  | bound + 1, builder, sequences =>
      match byFirst sequences with
      | [] => (builder, target)
      | groups =>
          let (built, transitions) := groups.foldl (fun (builder, transitions) (range, behind) =>
            let (built, state) := forward target bound builder behind
            (built, { range, target := state } :: transitions)) (builder, [])
          built.stateOf transitions.reverse

end SetBuilder

/-- The number of states that are remembered on the way from the start to the end. -/
def forwardSlots : UInt64 := 10000

/-- The number of states that are remembered on the way from the end to the start. -/
def backwardSlots : UInt64 := 1000

/-- The greatest number of bytes of a character. -/
def encodedBound : Nat := 4

/-- Adds the states for one character of a set. -/
def addSet (direction : Direction) (set : Text.CodeSet) (automaton : Automaton) : Automaton :=
  let ranges := set.ranges
  if ranges.all (·.2 < 0x80) then (automaton.addStates 1).addRanges ranges.length
  else
    match direction with
    | .forward =>
        let target := automaton.states
        (SetBuilder.forward target encodedBound ⟨automaton.addStates 1, { slots := forwardSlots }⟩
          (ByteRange.ofSet set)).1.automaton
    | .backward =>
        let target := automaton.states + 1
        (SetBuilder.backward ⟨automaton.addStates 2, { slots := backwardSlots }⟩ target
          (ByteRange.ofSet set)).automaton

/-- Texts by their first byte, each byte with what stands behind it, where `[]` are the texts that
end. Bytes come in the order in which they are met, the last one first. -/
def byFirstByte (texts : List (List Nat)) : List (Nat × List (List Nat)) :=
  texts.foldl (fun groups text =>
    match text with
    | [] => groups
    | first :: behind =>
        if groups.any fun (byte, _) => byte = first then
          groups.map fun (byte, others) =>
            if byte = first then (byte, behind :: others) else (byte, others)
        else (first, [behind]) :: groups) []

/-- Texts cut into pieces where one of them is empty. -/
def piecesOf (texts : List (List Nat)) : List (List (List Nat)) :=
  texts.foldr (fun text pieces =>
    match text, pieces with
    | [], pieces => [] :: pieces
    | text, piece :: others => (text :: piece) :: others
    | text, [] => [[text]]) [[]]

/-- Adds the states of some texts of bytes, which share what they start with as far as no text
between them ends there; the texts have less bytes than `bound`. -/
def addTexts : (bound : Nat) → List (List Nat) → Automaton → Automaton
  | 0, _, automaton => automaton
  | bound + 1, texts, automaton =>
      let behindEnds := texts.dropWhile List.isEmpty
      let pieces := piecesOf behindEnds
      let groups := (pieces.map byFirstByte).filter fun group => !group.isEmpty
      let built := groups.foldl (fun automaton group =>
        let inner := group.foldl (fun automaton (_, behind) =>
          if behind.all List.isEmpty then automaton
          else addTexts bound behind.reverse automaton) automaton
        if group.length = 1 then inner.addStates 1 else inner.addRanges group.length) automaton
      let ends := pieces.length - 1 + (if texts.length = behindEnds.length then 0 else 1)
      (built.addStates 1).addBranches (groups.length + ends)

/-- The bytes of a text in the order in which they are read. -/
def bytesOf (direction : Direction) (chars : List Char) : List Nat :=
  let bytes := chars.flatMap fun char => ByteRange.encode char.toNat
  match direction with
  | .forward => bytes
  | .backward => bytes.reverse

/-- The text that a pattern consists of. -/
def text? : Pattern → Option (List Char)
  | .literal chars => some chars
  | _ => none

/-- The texts that alternatives consist of. -/
def textsOf? (branches : List Pattern) : Option (List (List Char)) :=
  branches.mapM text?

/-- Adds the states of alternatives that are texts. -/
def addAlternativeTexts (direction : Direction) (texts : List (List Char))
    (automaton : Automaton) : Automaton :=
  let bytes := texts.map (bytesOf direction)
  addTexts (bytes.foldl (fun bound text => max bound text.length) 0 + 1) bytes
    (automaton.addStates 1)

/-- Adds the states of a repetition, where `step` adds those of what is repeated. -/
def addRepeated (step : Automaton → Automaton) (isNeverEmpty : Bool) (least : Nat)
    (most : Option Nat) (automaton : Automaton) : Automaton :=
  let next := fun (automaton : Automaton) => step automaton.connect
  match least, most with
  | 0, some 1 => ((step (automaton.addStates 1)).connect.addStates 1).addBranches 2
  | 0, none =>
      if isNeverEmpty then
        ((step (automaton.addStates 1)).connect.addBranches 1).ending true
      else ((step automaton).connect.addStates 3).addBranches 4
  | least, none => (((iterate next least automaton).connect.addStates 1).addBranches 1).ending true
  | least, some most =>
      let needed := if least = 0 then automaton.addStates 1 else iterate next least automaton
      if least = most then needed
      else
        let optional := fun (automaton : Automaton) =>
          (step (automaton.connect.addStates 1)).addBranches 2
        (iterate optional (most - least) (needed.addStates 1)).connect

mutual

/-- Adds the states of a pattern behind a part that is connected. -/
def add (direction : Direction) : Pattern → Automaton → Automaton
  | .empty, automaton => automaton.addStates 1
  | .literal chars, automaton => automaton.addStates (bytesOf direction chars).length
  | .one set, automaton => automaton.addSet direction set
  | .assertion _, automaton => automaton.addStates 1
  | .repeated inner least most _, automaton =>
      addRepeated (add direction inner) inner.isNeverEmpty least most automaton
  | .capture _ inner, automaton =>
      match direction with
      | .forward => (add direction inner (automaton.addStates 1)).connect.addStates 1
      | .backward => add direction inner automaton
  | .concat parts, automaton =>
      match direction with
      | .forward => addForward parts automaton
      | .backward => addBackward parts automaton
  | .alternate branches, automaton =>
      match textsOf? branches with
      | some texts => addAlternativeTexts direction texts automaton
      | none => addAny direction 0 branches automaton

/-- Adds the states of some patterns from the first to the last. -/
def addForward : List Pattern → Automaton → Automaton
  | [], automaton => automaton
  | first :: rest, automaton => addForward rest (add .forward first automaton.connect)

/-- Adds the states of some patterns from the last to the first. -/
def addBackward : List Pattern → Automaton → Automaton
  | [], automaton => automaton
  | first :: rest, automaton => add .backward first (addBackward rest automaton).connect

/-- Adds the states of alternatives, `count` of which have been added before. The branching to all
of them and the state in which they meet are added behind the first two. -/
def addAny (direction : Direction) (count : Nat) : List Pattern → Automaton → Automaton
  | [], automaton => automaton
  | first :: rest, automaton =>
      let built := (add direction first automaton).connect.addBranches 1
      addAny direction (count + 1) rest (if count = 1 then built.addStates 2 else built)

end

/-- The automaton of a pattern. Unless all matches start at the end of the text where the reading
starts, a loop over all bytes stands before it. -/
def ofPattern (direction : Direction) (pattern : Pattern) : Automaton :=
  let isAnchored :=
    match direction with
    | .forward => pattern.startsWith .textStart
    | .backward => pattern.endsWith .textEnd
  let start : Automaton := {}
  let start :=
    if isAnchored then start.addStates 1 else ((start.addStates 2).addRanges 1).addBranches 2
  (add direction (.capture 0 pattern) start).connect.addStates 1

end Automaton

/-- Whether a pattern takes too much memory. -/
def isTooLarge (pattern : Pattern) : Bool :=
  (Automaton.ofPattern .forward pattern).isTooLarge ||
    (Automaton.ofPattern .backward pattern).isTooLarge

end Manifest.Pattern
