import Manifest.Pattern.Reader

/-!
# Reading in front of a closing sign

What reads the inside of a group looks at one text, whether the text ends where the
group ends or goes on with the sign that closes the group.  Reading is framed if
it does the same in both cases: what it reads off a text it reads off the text that
goes on, and leaves what follows the text alone.

There are two ways out.  A comment at the end of the text goes on behind it: it
swallows the closing sign.  And reading may look at the next character: if there has to
be one, the closing sign is one, while there is none at the end of the text.  Reading
that does so is framed as long as it leaves a part of the text behind.
-/

namespace Manifest.Pattern

variable {α β : Type}

/-- A state whose text goes on with another one. -/
def ReadState.followedBy (state : ReadState) (tail : List Char) : ReadState :=
  { state with rest := state.rest ++ tail }

@[simp]
theorem ReadState.rest_followedBy (state : ReadState) (tail : List Char) :
    (state.followedBy tail).rest = state.rest ++ tail :=
  rfl

@[simp]
theorem ReadState.isVerbose_followedBy (state : ReadState) (tail : List Char) :
    (state.followedBy tail).isVerbose = state.isVerbose :=
  rfl

namespace Read

/-- A text that starts with the sign that closes a group. -/
def Closes (tail : List Char) : Prop :=
  ∃ behind, tail = ')' :: behind

/-- Reading leaves a text that goes on alone. -/
def Continues (reader : Read α) (state : ReadState) (value : α) (final : ReadState) : Prop :=
  ∀ tail, Closes tail → reader.run (state.followedBy tail) = some (value, final.followedBy tail)

/-- Reading ends in a comment, which goes on behind the text up to the end of a line. -/
structure Swallows (reader : Read α) (state : ReadState) (value : α) (final : ReadState) :
    Prop where
  atEnd : final.rest = []
  sameEnd :
    ∀ tail, Closes tail → '\n' ∉ tail → reader.run (state.followedBy tail) = some (value, final)
  shorter :
    ∀ tail other last, Closes tail →
      reader.run (state.followedBy tail) = some (other, last) →
      last.rest.length < tail.length

/-- Reading that leaves what follows a text alone, if the text has at least `least` characters and
at least `slack` of them are left. -/
structure Framed (least slack : Nat) (reader : Read α) : Prop where
  /-- What is left is an end of the text. -/
  suffix : ∀ {state value final}, reader.run state = some (value, final) →
    final.rest <:+ state.rest
  /-- What is read at the end of a text is read in front of a closing sign. -/
  forward : ∀ {state value final}, least ≤ state.rest.length → slack ≤ final.rest.length →
    reader.run state = some (value, final) →
    Continues reader state value final ∨ Swallows reader state value final
  /-- What is read in front of a closing sign is read at the end of a text. -/
  backward : ∀ {state tail value final}, Closes tail → least ≤ state.rest.length →
    tail.length + slack ≤ final.rest.length →
    reader.run (state.followedBy tail) = some (value, final) →
    ∃ before, final = before.followedBy tail ∧ reader.run state = some (value, before)

/-- Reading that takes at least `count` characters off a text of at least `least`. -/
structure Takes (least count : Nat) (reader : Read α) : Prop where
  length_add_le : ∀ {state value final}, least ≤ state.rest.length →
    reader.run state = some (value, final) → final.rest.length + count ≤ state.rest.length

/-! ## One step after the other -/

theorem run_get_bind
    (continuation : ReadState → Read β)
    (state : ReadState) :
    (get >>= continuation).run state = (continuation state).run state :=
  rfl

theorem run_bind_of_eq
    {reader : Read α}
    {state middle : ReadState}
    {value : α}
    (run : reader.run state = some (value, middle))
    (continuation : α → Read β) :
    (reader >>= continuation).run state = (continuation value).run middle := by
  rw [StateT.run_bind, run]
  rfl

theorem run_bind_congr
    {first second : Read α}
    {firstState secondState : ReadState}
    (same : first.run firstState = second.run secondState)
    (continuation : α → Read β) :
    (first >>= continuation).run firstState = (second >>= continuation).run secondState := by
  rw [StateT.run_bind, StateT.run_bind, same]

theorem run_bind_of_none
    {reader : Read α}
    {state : ReadState}
    (run : reader.run state = none)
    (continuation : α → Read β) :
    (reader >>= continuation).run state = none := by
  rw [StateT.run_bind, run]
  rfl

theorem run_bind_fails
    {continuation : α → Read β}
    (fails : ∀ value state, (continuation value).run state = none)
    (reader : Read α)
    (state : ReadState) :
    (reader >>= continuation).run state = none := by
  cases run : reader.run state with
  | none => exact run_bind_of_none run continuation
  | some found => rw [run_bind_of_eq run, fails]

theorem run_bind_eq_some
    {reader : Read α}
    {continuation : α → Read β}
    {state final : ReadState}
    {value : β} :
    (reader >>= continuation).run state = some (value, final) ↔
      ∃ found middle, reader.run state = some (found, middle) ∧
        (continuation found).run middle = some (value, final) := by
  rw [StateT.run_bind]
  constructor
  · intro succeeds
    rcases Option.bind_eq_some_iff.1 succeeds with ⟨⟨found, middle⟩, first, second⟩
    exact ⟨found, middle, first, second⟩
  · rintro ⟨found, middle, first, second⟩
    exact Option.bind_eq_some_iff.2 ⟨(found, middle), first, second⟩

namespace Framed

theorem length_le
    {least slack : Nat}
    {reader : Read α}
    {state final : ReadState}
    {value : α}
    (framed : Framed least slack reader)
    (run : reader.run state = some (value, final)) :
    final.rest.length ≤ state.rest.length :=
  (framed.suffix run).length_le

theorem takes_zero
    {least slack : Nat}
    {reader : Read α}
    (framed : Framed least slack reader)
    (least' : Nat) :
    Takes least' 0 reader :=
  ⟨fun _ run => framed.length_le run⟩

/-- Longer texts, and more that is left of them, are cases of a frame. -/
theorem mono
    {least least' slack slack' : Nat}
    {reader : Read α}
    (framed : Framed least slack reader)
    (leastLe : least ≤ least')
    (slackLe : slack ≤ slack') :
    Framed least' slack' reader where
  suffix := framed.suffix
  forward := fun enough left =>
    framed.forward (Nat.le_trans leastLe enough) (Nat.le_trans slackLe left)
  backward := fun closes enough left =>
    framed.backward closes (Nat.le_trans leastLe enough) (by omega)

theorem weaken
    {least slack : Nat}
    {reader : Read α}
    (framed : Framed 0 0 reader) :
    Framed least slack reader :=
  framed.mono (Nat.zero_le least) (Nat.zero_le slack)

end Framed

section

variable {reader : Read α} {continuation : α → Read β}
variable {state middle final : ReadState} {found : α} {value : β}

theorem Continues.bind
    (continues : Continues reader state found middle)
    (goesOn : Continues (continuation found) middle value final) :
    Continues (reader >>= continuation) state value final := by
  intro tail closes
  exact run_bind_eq_some.2 ⟨found, _, continues tail closes, goesOn tail closes⟩

theorem Continues.bind_swallows
    (continues : Continues reader state found middle)
    (swallows : Swallows (continuation found) middle value final) :
    Swallows (reader >>= continuation) state value final where
  atEnd := swallows.atEnd
  sameEnd := by
    intro tail closes inLine
    exact run_bind_eq_some.2
      ⟨found, _, continues tail closes, swallows.sameEnd tail closes inLine⟩
  shorter := by
    intro tail other last closes run
    rcases run_bind_eq_some.1 run with ⟨found', middle', runFirst, runSecond⟩
    rw [continues tail closes] at runFirst
    cases runFirst
    exact swallows.shorter tail other last closes runSecond

/-- A comment at the end of the text leaves nothing to the second step. -/
theorem Swallows.bind
    {slack : Nat}
    (swallows : Swallows reader state found middle)
    (framed : ∀ value, Framed 0 slack (continuation value))
    (run : (continuation found).run middle = some (value, final)) :
    Swallows (reader >>= continuation) state value final where
  atEnd := by
    have short := (framed found).suffix run
    rw [swallows.atEnd] at short
    exact List.suffix_nil.1 short
  sameEnd := by
    intro tail closes inLine
    exact run_bind_eq_some.2 ⟨found, _, swallows.sameEnd tail closes inLine, run⟩
  shorter := by
    intro tail other last closes runTail
    rcases run_bind_eq_some.1 runTail with ⟨found', middle', runFirst, runSecond⟩
    exact Nat.lt_of_le_of_lt ((framed found').length_le runSecond)
      (swallows.shorter tail found' middle' closes runFirst)

end

namespace Framed

/-- If the second step takes characters of the text, the first step leaves these behind. -/
theorem bind_of_takes
    {least before slack taken : Nat}
    {reader : Read α}
    {continuation : α → Read β}
    (first : Framed least before reader)
    (second : ∀ value, Framed 0 slack (continuation value))
    (takes : ∀ value, Takes 0 taken (continuation value))
    (enough : before ≤ slack + taken) :
    Framed least slack (reader >>= continuation) where
  suffix := by
    intro state value final run
    rcases run_bind_eq_some.1 run with ⟨found, middle, runFirst, runSecond⟩
    exact ((second found).suffix runSecond).trans (first.suffix runFirst)
  forward := by
    intro state value final longEnough left run
    rcases run_bind_eq_some.1 run with ⟨found, middle, runFirst, runSecond⟩
    have leftFirst : before ≤ middle.rest.length := by
      have := (takes found).length_add_le (Nat.zero_le _) runSecond
      omega
    rcases first.forward longEnough leftFirst runFirst with continues | swallows
    · rcases (second found).forward (Nat.zero_le _) left runSecond with goesOn | swallows
      · exact Or.inl (continues.bind goesOn)
      · exact Or.inr (continues.bind_swallows swallows)
    · exact Or.inr (swallows.bind second runSecond)
  backward := by
    intro state tail value final closes longEnough left run
    rcases run_bind_eq_some.1 run with ⟨found, middle, runFirst, runSecond⟩
    have leftFirst : tail.length + before ≤ middle.rest.length := by
      have := (takes found).length_add_le (Nat.zero_le _) runSecond
      omega
    rcases first.backward closes longEnough leftFirst runFirst with ⟨alone, rfl, runAlone⟩
    rcases (second found).backward closes (Nat.zero_le _) left runSecond with
      ⟨last, rfl, runLast⟩
    exact ⟨last, rfl, run_bind_eq_some.2 ⟨found, alone, runAlone, runLast⟩⟩

theorem bind
    {least slack : Nat}
    {reader : Read α}
    {continuation : α → Read β}
    (first : Framed least slack reader)
    (second : ∀ value, Framed 0 slack (continuation value)) :
    Framed least slack (reader >>= continuation) :=
  first.bind_of_takes second (fun value => (second value).takes_zero 0) (Nat.le_refl slack)

/-- Reading that does not touch the state. -/
theorem of_run_eq
    {least slack : Nat}
    {reader : Read α}
    (result : Option α)
    (run_eq : ∀ state, reader.run state = result.map fun value => (value, state)) :
    Framed least slack reader where
  suffix := by
    intro state value final run
    rw [run_eq] at run
    rcases Option.map_eq_some_iff.1 run with ⟨_, _, same⟩
    cases same
    exact List.suffix_rfl
  forward := by
    intro state value final _ _ run
    rw [run_eq] at run
    rcases Option.map_eq_some_iff.1 run with ⟨_, found, same⟩
    cases same
    refine Or.inl fun tail _ => ?_
    rw [run_eq, found]
    rfl
  backward := by
    intro state tail value final _ _ _ run
    rw [run_eq] at run
    rcases Option.map_eq_some_iff.1 run with ⟨_, found, same⟩
    cases same
    refine ⟨state, rfl, ?_⟩
    rw [run_eq, found]
    rfl

theorem pure {least slack : Nat} (value : α) :
    Framed least slack (Pure.pure value : Read α) :=
  of_run_eq (some value) fun _ => rfl

theorem failure {least slack : Nat} :
    Framed least slack (Alternative.failure : Read α) :=
  of_run_eq none fun _ => rfl

theorem ofOption {least slack : Nat} (value : Option α) :
    Framed least slack (Read.ofOption value) := by
  cases value with
  | none => exact failure
  | some value => exact pure value

/-- What depends on the state, but not on its text. -/
theorem get_bind
    {least slack : Nat}
    {continuation : ReadState → Read β}
    (apart : ∀ state tail, Closes tail →
      continuation (state.followedBy tail) = continuation state)
    (framed : ∀ state, Framed least slack (continuation state)) :
    Framed least slack (get >>= continuation) where
  suffix := fun run => (framed _).suffix run
  forward := by
    intro state value final enough left run
    rcases (framed state).forward enough left run with continues | swallows
    · refine Or.inl fun tail closes => ?_
      rw [run_get_bind, apart state tail closes]
      exact continues tail closes
    · refine Or.inr ⟨swallows.atEnd, fun tail closes inLine => ?_,
        fun tail other last closes runTail => ?_⟩
      · rw [run_get_bind, apart state tail closes]
        exact swallows.sameEnd tail closes inLine
      · rw [run_get_bind, apart state tail closes] at runTail
        exact swallows.shorter tail other last closes runTail
  backward := by
    intro state tail value final closes enough left run
    rw [run_get_bind, apart state tail closes] at run
    exact (framed state).backward closes enough left run

/-- What changes the state, but not its text. -/
theorem modify
    {least slack : Nat}
    {change : ReadState → ReadState}
    (sameText : ∀ state, (change state).rest = state.rest)
    (apart : ∀ state tail, change (state.followedBy tail) = (change state).followedBy tail) :
    Framed least slack (modify change : Read Unit) where
  suffix := by
    intro state value final run
    cases run
    simp only [sameText, List.suffix_rfl]
  forward := by
    intro state value final _ _ run
    cases run
    refine Or.inl fun tail _ => ?_
    rw [← apart]
    rfl
  backward := by
    intro state tail value final _ _ _ run
    cases run
    exact ⟨change state, apart state tail, rfl⟩

end Framed

/-! ## What a step takes -/

namespace Takes

theorem mono
    {least least' count count' : Nat}
    {reader : Read α}
    (takes : Takes least count reader)
    (leastLe : least ≤ least')
    (countLe : count' ≤ count) :
    Takes least' count' reader where
  length_add_le := by
    intro state value final enough run
    have := takes.length_add_le (Nat.le_trans leastLe enough) run
    omega

theorem failure {least count : Nat} :
    Takes least count (Alternative.failure : Read α) where
  length_add_le := by
    intro state value final _ run
    cases run

theorem pure {least : Nat} (value : α) :
    Takes least 0 (Pure.pure value : Read α) where
  length_add_le := by
    intro state value final _ run
    cases run
    exact Nat.le_refl _

/-- What two steps take together. -/
theorem bind
    {least first second : Nat}
    {reader : Read α}
    {continuation : α → Read β}
    (takesFirst : Takes least first reader)
    (takesSecond : ∀ value, Takes 0 second (continuation value)) :
    Takes least (first + second) (reader >>= continuation) where
  length_add_le := by
    intro state value final enough run
    rcases run_bind_eq_some.1 run with ⟨found, middle, runFirst, runSecond⟩
    have := takesFirst.length_add_le enough runFirst
    have := (takesSecond found).length_add_le (Nat.zero_le _) runSecond
    omega

/-- What the first of two steps takes. -/
theorem bind_left
    {least count : Nat}
    {reader : Read α}
    {continuation : α → Read β}
    (takes : Takes least count reader)
    (kept : ∀ value, Takes 0 0 (continuation value)) :
    Takes least count (reader >>= continuation) :=
  takes.bind kept

theorem bind_framed
    {least count : Nat}
    {reader : Read α}
    {continuation : α → Read β}
    (takes : Takes least count reader)
    (slack : Nat)
    (framed : ∀ value, Framed 0 slack (continuation value)) :
    Takes least count (reader >>= continuation) :=
  takes.bind_left fun value => (framed value).takes_zero 0

/-- What the second of two steps takes. -/
theorem framed_bind
    {least least' count slack : Nat}
    {reader : Read α}
    {continuation : α → Read β}
    (framed : Framed least slack reader)
    (takes : ∀ value, Takes 0 count (continuation value)) :
    Takes least' count (reader >>= continuation) := by
  have together := (framed.takes_zero least').bind takes
  rwa [Nat.zero_add] at together

end Takes

end Read

end Manifest.Pattern
