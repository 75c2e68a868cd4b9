/-!
# Runs of code points

The tables of the Unicode character database are lists of runs: code points at
a fixed distance from each other, which is one or, where letters of both cases
take turns, two.
-/

namespace Manifest.Text

/-- Every `step`-th code point from `first` to `last`. -/
structure CodeRun where
  first : Nat
  last : Nat
  step : Nat
deriving Repr, DecidableEq, Inhabited

/-- The code points of a run in ascending order. -/
def CodeRun.codes (run : CodeRun) : List Nat :=
  (List.range ((run.last - run.first) / run.step + 1)).map fun index =>
    run.first + index * run.step

end Manifest.Text
