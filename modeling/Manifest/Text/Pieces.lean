/-!
# Pieces of a text

Splitting at every occurrence of a separator, and at the first one.  A text
without the separator is one piece; joining the pieces with the separator gives
the text back.
-/

namespace Manifest.Text

/-- The pieces between the occurrences of a separator; never an empty list. -/
def pieces (separator : Char) : List Char → List (List Char)
  | [] => [[]]
  | char :: rest =>
      if char = separator then [] :: pieces separator rest
      else
        match pieces separator rest with
        | [] => [[char]]
        | piece :: others => (char :: piece) :: others

/-- The pieces of a text, as texts. -/
def split (separator : Char) (text : String) : List String :=
  (pieces separator text.toList).map String.ofList

/-- The parts before and after the first occurrence of a separator. -/
def splitFirst? (separator : Char) : List Char → Option (List Char × List Char)
  | [] => none
  | char :: rest =>
      if char = separator then some ([], rest)
      else (splitFirst? separator rest).map fun parts => (char :: parts.1, parts.2)

theorem pieces_ne_nil
    (separator : Char)
    (chars : List Char) :
    pieces separator chars ≠ [] := by
  cases chars with
  | nil => simp [pieces]
  | cons char rest =>
    rw [pieces]
    split
    · simp
    · split <;> simp

theorem pieces_of_not_mem
    {separator : Char}
    {chars : List Char}
    (absent : separator ∉ chars) :
    pieces separator chars = [chars] := by
  induction chars with
  | nil => rfl
  | cons char rest inductionHypothesis =>
    simp only [List.mem_cons, not_or] at absent
    rw [pieces, if_neg (Ne.symm absent.1), inductionHypothesis absent.2]

/-- Texts one after the other with a text between neighbours. -/
def join (between : String) : List String → String
  | [] => ""
  | [text] => text
  | text :: rest => text ++ between ++ join between rest

end Manifest.Text
