import Manifest.Patch.Comparison
import Mathlib.Data.List.Sort

/-!
# The order of paths

Paths are ordered step by step, and this order is a linear one.  So an ascending
list of paths is determined by its members: the paths of a comparison are a set,
and neither the order in which they were found nor a repetition is left in it.
-/

namespace Manifest

namespace Step

instance : Std.OrientedCmp Step.compare where
  eq_swap := by
    intro left right
    cases left with
    | field name =>
        cases right with
        | field other => exact Std.OrientedOrd.eq_swap
        | index position => rfl
    | index position =>
        cases right with
        | field name => rfl
        | index other => exact Std.OrientedOrd.eq_swap

instance : Std.TransCmp Step.compare where
  isLE_trans := by
    intro first second third below above
    cases first with
    | field name =>
        cases third with
        | field last =>
            cases second with
            | field middle => exact Std.TransOrd.isLE_trans below above
            | index position => cases above
        | index position => rfl
    | index position =>
        cases second with
        | field name => cases below
        | index middle =>
            cases third with
            | field name => cases above
            | index last => exact Std.TransOrd.isLE_trans below above

instance : Std.LawfulEqCmp Step.compare where
  compare_self := Std.ReflCmp.compare_self
  eq_of_compare := by
    intro left right same
    cases left with
    | field name =>
        cases right with
        | field other => exact congrArg field (Std.LawfulEqOrd.eq_of_compare same)
        | index position => cases same
    | index position =>
        cases right with
        | field name => cases same
        | index other => exact congrArg index (Std.LawfulEqOrd.eq_of_compare same)

end Step

namespace Path

instance : Std.TransCmp Path.compare :=
  inferInstanceAs (Std.TransCmp (List.compareLex Step.compare))

instance : Std.LawfulEqCmp Path.compare :=
  inferInstanceAs (Std.LawfulEqCmp (List.compareLex Step.compare))

/-- One path comes before another one. -/
def Below (left right : Path) : Prop :=
  left.compare right = .lt

instance : Std.Irrefl Below where
  irrefl := by
    intro path below
    have same : path.compare path = .eq := Std.ReflCmp.compare_self
    rw [Below, same] at below
    cases below

instance : Std.Antisymm Below where
  antisymm := by
    intro left right below above
    have cycle : left.Below left := Std.TransCmp.lt_trans below above
    exact absurd cycle (Std.Irrefl.irrefl left)

/-- The paths ascend strictly. -/
def Ascending (paths : List Path) : Prop :=
  paths.Pairwise Below

@[simp]
theorem mem_insertSorted
    {path other : Path}
    {paths : List Path} :
    other ∈ insertSorted path paths ↔ other = path ∨ other ∈ paths := by
  induction paths with
  | nil => simp [insertSorted]
  | cons head rest inductionHypothesis =>
      rw [insertSorted]
      split
      · simp
      · rename_i same
        rw [Std.LawfulEqCmp.eq_of_compare same]
        simp
      · simp only [List.mem_cons, inductionHypothesis]
        exact or_left_comm

@[simp]
theorem mem_sorted
    {path : Path}
    {paths : List Path} :
    path ∈ sorted paths ↔ path ∈ paths := by
  induction paths with
  | nil => simp [sorted]
  | cons head rest inductionHypothesis =>
      change path ∈ insertSorted head (sorted rest) ↔ path ∈ head :: rest
      simp [inductionHypothesis]

theorem sorted_eq_nil
    {paths : List Path} :
    sorted paths = [] ↔ paths = [] := by
  simp only [List.eq_nil_iff_forall_not_mem, mem_sorted]

theorem Ascending.insertSorted
    {paths : List Path}
    (ascending : Ascending paths)
    (path : Path) :
    Ascending (Path.insertSorted path paths) := by
  unfold Ascending at ascending ⊢
  induction paths with
  | nil => simp [Path.insertSorted]
  | cons head rest inductionHypothesis =>
      rcases List.pairwise_cons.1 ascending with ⟨headBelow, restAscending⟩
      rw [Path.insertSorted]
      split
      · rename_i below
        refine List.pairwise_cons.2 ⟨?_, ascending⟩
        intro other member
        rcases List.mem_cons.1 member with rfl | inRest
        · exact below
        · exact Std.TransCmp.lt_trans below (headBelow other inRest)
      · exact ascending
      · rename_i above
        refine List.pairwise_cons.2 ⟨?_, inductionHypothesis restAscending⟩
        intro other member
        rcases mem_insertSorted.1 member with rfl | inRest
        · exact Std.OrientedCmp.gt_iff_lt.1 above
        · exact headBelow other inRest

theorem ascending_sorted (paths : List Path) :
    Ascending (sorted paths) := by
  induction paths with
  | nil => exact List.Pairwise.nil
  | cons head rest inductionHypothesis => exact inductionHypothesis.insertSorted head

end Path

end Manifest
