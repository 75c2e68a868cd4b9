import Manifest.Pattern.Matching

/-!
# Members of sets of positions

A set of positions is told by its members.  Every operation on sets is a condition on
the members of its result, and a set without members is the empty one.
-/

namespace Manifest.Positions

@[simp]
theorem has_none (position : Nat) :
    none.has position = false :=
  Nat.zero_testBit position

theorem eq_none_iff {set : Positions} :
    set = none ↔ ∀ position, set.has position = false := by
  constructor
  · rintro rfl position
    exact has_none position
  · intro noMember
    apply Nat.eq_of_testBit_eq
    intro position
    exact (noMember position).trans (has_none position).symm

@[simp]
theorem has_single (member position : Nat) :
    (single member).has position = decide (member = position) := by
  rw [has, single, Nat.one_shiftLeft, Nat.testBit_two_pow]

@[simp]
theorem has_union (left right : Positions) (position : Nat) :
    (left.union right).has position = (left.has position || right.has position) :=
  Nat.testBit_or left right position

@[simp]
theorem has_intersection (left right : Positions) (position : Nat) :
    (left.intersection right).has position = (left.has position && right.has position) :=
  Nat.testBit_and left right position

@[simp]
theorem has_difference (left right : Positions) (position : Nat) :
    (left.difference right).has position = (left.has position && !right.has position) := by
  rw [difference, has, Nat.testBit_xor, Nat.testBit_and, has, has]
  cases left.testBit position <;> cases right.testBit position <;> rfl

@[simp]
theorem has_next_zero (set : Positions) :
    set.next.has 0 = false := by
  rw [next, has, Nat.testBit_shiftLeft]
  rfl

@[simp]
theorem has_next_succ (set : Positions) (position : Nat) :
    set.next.has (position + 1) = set.has position := by
  rw [next, has, Nat.testBit_shiftLeft]
  simp [has]

theorem has_next {set : Positions} {position : Nat} :
    set.next.has position = true ↔ ∃ before, set.has before = true ∧ position = before + 1 := by
  cases position with
  | zero => simp
  | succ before => simp

/-- The members of a set that is told by a list are where the list says so. -/
theorem has_ofFlags {flags : List Bool} {position : Nat} :
    (ofFlags flags).has position = true ↔ flags[position]? = some true := by
  induction flags generalizing position with
  | nil => simp [ofFlags, has]
  | cons flag rest inductionHypothesis =>
      rw [ofFlags, has, Nat.testBit_or, Nat.testBit_shiftLeft, Nat.testBit_bool_toNat]
      cases position with
      | zero => simp
      | succ before =>
          have shifted : Nat.testBit (ofFlags rest) before = (ofFlags rest).has before := rfl
          simp [shifted, inductionHypothesis]

/-- A selection has the members of the sets that stand at the members. -/
theorem has_select
    {sets : List Positions}
    {members : Positions}
    {position : Nat} :
    (select members sets).has position = true ↔
      ∃ member set, members.has member = true ∧ sets[member]? = some set ∧
        set.has position = true := by
  induction sets generalizing members with
  | nil => simp [select, has]
  | cons first rest inductionHypothesis =>
      have shifted (member : Nat) :
          (members >>> 1 : Positions).has member = members.has (member + 1) := by
        rw [has, Nat.testBit_shiftRight, Nat.add_comm, has]
      have others : (select (members >>> 1) rest).has position = true ↔
          ∃ member set, members.has (member + 1) = true ∧ rest[member]? = some set ∧
            set.has position = true := by
        simp only [inductionHypothesis, shifted]
      have split : (select members (first :: rest)).has position = true ↔
          (members.has 0 = true ∧ first.has position = true) ∨
            (select (members >>> 1) rest).has position = true := by
        rw [select]
        cases isMember : members.testBit 0 with
        | false => simp [has, isMember]
        | true =>
            have member : members.has 0 = true := isMember
            simp [member]
      rw [split, others]
      constructor
      · rintro (⟨isMember, inFirst⟩ | ⟨member, set, isMember, found, inSet⟩)
        · exact ⟨0, first, isMember, rfl, inFirst⟩
        · exact ⟨member + 1, set, isMember, found, inSet⟩
      · rintro ⟨member, set, isMember, found, inSet⟩
        cases member with
        | zero =>
            cases found
            exact Or.inl ⟨isMember, inSet⟩
        | succ member => exact Or.inr ⟨member, set, isMember, found, inSet⟩

end Manifest.Positions
