import Manifest.Text.CodeSet

/-!
# Ranges of bytes

The characters of a range, encoded as bytes, are described by sequences of
ranges of bytes: a sequence stands for all texts with one byte of each of its
ranges.  A range of characters is split where the number of bytes changes, and
where a byte takes all its values before an earlier one changes.
-/

namespace Manifest.Pattern

/-- All bytes between two. -/
structure ByteRange where
  first : Nat
  last : Nat
deriving DecidableEq, Repr, Inhabited

namespace ByteRange

/-- The bytes of the encoded form of a code point. -/
def encode (code : Nat) : List Nat :=
  if code < 0x80 then [code]
  else if code < 0x800 then [0xC0 + code / 0x40, 0x80 + code % 0x40]
  else if code < 0x10000 then
    [0xE0 + code / 0x1000, 0x80 + code / 0x40 % 0x40, 0x80 + code % 0x40]
  else
    [0xF0 + code / 0x40000, 0x80 + code / 0x1000 % 0x40, 0x80 + code / 0x40 % 0x40,
      0x80 + code % 0x40]

/-- The last code point of the first part of a range that is split at a change of the number of
bytes. -/
def lengthSplit? (first last : Nat) : Option Nat :=
  [0x7F, 0x7FF, 0xFFFF].find? fun bound => first ≤ bound && bound < last

/-- The last code point of the first part of a range that is split since one of its blocks of some
size, at its start or at its end, is not complete. -/
def blockSplit? (first last size : Nat) : Option Nat :=
  if first / size = last / size then none
  else if first % size != 0 then some (first / size * size + (size - 1))
  else if last % size != size - 1 then some (last / size * size - 1)
  else none

/-- The last code point of the first part of a range that has to be split. -/
def split? (first last : Nat) : Option Nat :=
  match lengthSplit? first last with
  | some bound => some bound
  | none =>
      if last < 0x80 then none
      else [0x40, 0x1000, 0x40000].findSome? (blockSplit? first last)

/-- The sequences of a range, which is split a number of times at most. -/
def sequencesWithin : Nat → Nat → Nat → List (List ByteRange)
  | 0, _, _ => []
  | bound + 1, first, last =>
      match split? first last with
      | some middle =>
          sequencesWithin bound first middle ++ sequencesWithin bound (middle + 1) last
      | none => [List.zipWith ByteRange.mk (encode first) (encode last)]

/-- The greatest number of times that a part of a range is split. -/
def splitBound : Nat := 16

/-- The sequences of a range of characters in ascending order. -/
def sequences (first last : Nat) : List (List ByteRange) :=
  sequencesWithin splitBound first last

/-- The sequences of a set of characters in ascending order. -/
def ofSet (set : Text.CodeSet) : List (List ByteRange) :=
  set.ranges.flatMap fun (first, last) => sequences first last

example : sequences 0xE9 0x101 = [[⟨0xC3, 0xC3⟩, ⟨0xA9, 0xBF⟩], [⟨0xC4, 0xC4⟩, ⟨0x80, 0x81⟩]] := by
  decide

end ByteRange

end Manifest.Pattern
