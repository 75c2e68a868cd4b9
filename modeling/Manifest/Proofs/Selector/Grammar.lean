import Manifest.Proofs.Result
import Manifest.Selector.LabelSelector
import Mathlib.Data.Set.Subsingleton

/-!
# The grammar of label expressions

The relations of this module say which tokens spell a value, the members of a value
set, a requirement and a whole expression.  They do not say how tokens are read: a
requirement is a list of tokens of its own, and commas join such lists.

Reading a part takes the tokens that spell it off the front of a list.  Whether a
value is missing shows only at what follows it, so a requirement is read off in
front of a comma and at the end, and nowhere else.  From this, reading an expression
accepts what the grammar derives and gives what it derives, and no tokens spell two
expressions.
-/

namespace Manifest.Selector

/-! ## What tokens spell -/

/-- A value is a word; the missing value is empty. -/
inductive DerivesValue : List Token → String → Prop where
  | missing : DerivesValue [] ""
  | word (value : String) : DerivesValue [.word value] value

/-- The members of a value set are words with a comma between neighbours. -/
inductive DerivesMembers : List Token → List String → Prop where
  | last (value : String) : DerivesMembers [.word value] [value]
  | cons
      (value : String)
      {tokens : List Token}
      {values : List String}
      (others : DerivesMembers tokens values) :
      DerivesMembers (.word value :: .comma :: tokens) (value :: values)

/-- The requirements that tokens spell, each in one way for each operator. -/
inductive DerivesRequirement : List Token → Requirement → Prop where
  | exists (key : String) :
      DerivesRequirement [.word key] ⟨key, .exists, []⟩
  | doesNotExist (key : String) :
      DerivesRequirement [.not, .word key] ⟨key, .doesNotExist, []⟩
  | equals
      (key : String)
      {tokens : List Token}
      {value : String}
      (hasValue : DerivesValue tokens value) :
      DerivesRequirement (.word key :: .equals :: tokens) ⟨key, .equals, [value]⟩
  | notEquals
      (key : String)
      {tokens : List Token}
      {value : String}
      (hasValue : DerivesValue tokens value) :
      DerivesRequirement (.word key :: .notEquals :: tokens) ⟨key, .notEquals, [value]⟩
  /-- A bound is an integer of sixty-four bits, and cannot be missing. -/
  | greaterThan
      (key : String)
      {bound : String}
      (isInteger : (Text.integer? bound).isSome) :
      DerivesRequirement [.word key, .greaterThan, .word bound] ⟨key, .greaterThan, [bound]⟩
  | lessThan
      (key : String)
      {bound : String}
      (isInteger : (Text.integer? bound).isSome) :
      DerivesRequirement [.word key, .lessThan, .word bound] ⟨key, .lessThan, [bound]⟩
  | isIn
      (key : String)
      {tokens : List Token}
      {values : List String}
      (members : DerivesMembers tokens values) :
      DerivesRequirement (.word key :: .word "in" :: .openParen :: (tokens ++ [.closeParen]))
        ⟨key, .isIn, values⟩
  | notIn
      (key : String)
      {tokens : List Token}
      {values : List String}
      (members : DerivesMembers tokens values) :
      DerivesRequirement (.word key :: .word "notin" :: .openParen :: (tokens ++ [.closeParen]))
        ⟨key, .notIn, values⟩

/-- Requirements have a comma between neighbours, and none behind the last one. -/
inductive DerivesRequirements : List Token → List Requirement → Prop where
  | last
      {tokens : List Token}
      {requirement : Requirement}
      (only : DerivesRequirement tokens requirement) :
      DerivesRequirements tokens [requirement]
  | cons
      {tokens rest : List Token}
      {requirement : Requirement}
      {requirements : List Requirement}
      (first : DerivesRequirement tokens requirement)
      (others : DerivesRequirements rest requirements) :
      DerivesRequirements (tokens ++ .comma :: rest) (requirement :: requirements)

/-- An expression is empty, or it lists requirements. -/
inductive DerivesExpression : List Token → List Requirement → Prop where
  | everything : DerivesExpression [] []
  | requirements
      {tokens : List Token}
      {requirements : List Requirement}
      (listed : DerivesRequirements tokens requirements) :
      DerivesExpression tokens requirements

theorem DerivesRequirement.ne_nil
    {tokens : List Token}
    {requirement : Requirement}
    (derives : DerivesRequirement tokens requirement) :
    tokens ≠ [] := by
  cases derives <;> simp

theorem DerivesRequirements.ne_nil
    {tokens : List Token}
    {requirements : List Requirement}
    (derives : DerivesRequirements tokens requirements) :
    tokens ≠ [] := by
  cases derives with
  | last only => exact only.ne_nil
  | cons first others => simp

/-- The places at which a requirement may end: before a comma, and behind all tokens. -/
inductive EndsRequirement : List Token → Prop where
  | atEnd : EndsRequirement []
  | atComma (rest : List Token) : EndsRequirement (.comma :: rest)

namespace LabelSelector

/-! ## Parts of requirements -/

/-- A value that was read is spelled by the tokens taken for it. -/
theorem derives_of_readValue
    {tokens rest : List Token}
    {value : String}
    (reads : readValue tokens = .ok (value, rest)) :
    ∃ front, DerivesValue front value ∧ tokens = front ++ rest := by
  rw [readValue.eq_def] at reads
  split at reads
  · cases reads
    exact ⟨[], .missing, rfl⟩
  · cases reads
    exact ⟨[], .missing, rfl⟩
  · cases reads
    exact ⟨[.word value], .word value, rfl⟩
  · cases reads

theorem readValue_of_derives
    {tokens rest : List Token}
    {value : String}
    (derives : DerivesValue tokens value)
    (ends : EndsRequirement rest) :
    readValue (tokens ++ rest) = .ok (value, rest) := by
  cases derives with
  | word => rfl
  | missing =>
      cases ends with
      | atEnd => rfl
      | atComma rest => rfl

/-- The members up to the closing parenthesis are read exactly if tokens spell them. -/
theorem readMembers_eq_ok
    {isFirst : Bool}
    {tokens rest : List Token}
    {values : List String} :
    readMembers isFirst tokens = .ok (values, rest) ↔
      ∃ front, DerivesMembers front values ∧ tokens = front ++ .closeParen :: rest := by
  constructor
  · intro reads
    induction isFirst, tokens using readMembers.induct generalizing values rest with
    | case1 isFirst value tokens inductionHypothesis =>
        rw [readMembers, Result.map_eq_ok] at reads
        rcases reads with ⟨⟨others, after⟩, readsOthers, same⟩
        cases same
        rcases inductionHypothesis readsOthers with ⟨front, derives, rfl⟩
        exact ⟨_, .cons value derives, rfl⟩
    | case2 isFirst value tokens =>
        cases reads
        exact ⟨_, .last value, rfl⟩
    | case3 => simp_all [readMembers]
    | case4 => simp_all [readMembers]
    | case5 => simp_all [readMembers]
  · rintro ⟨front, derives, rfl⟩
    induction derives generalizing isFirst with
    | last value => rfl
    | cons value others inductionHypothesis =>
        rw [List.cons_append, List.cons_append, readMembers, inductionHypothesis]
        rfl

theorem readSet_eq_ok
    {tokens rest : List Token}
    {values : List String} :
    readSet tokens = .ok (values, rest) ↔
      ∃ front,
        DerivesMembers front values ∧ tokens = .openParen :: (front ++ .closeParen :: rest) := by
  rw [readSet.eq_def]
  split
  · rw [readMembers_eq_ok]
    simp
  · rename_i notOpen
    constructor
    · intro reads
      cases reads
    · rintro ⟨front, _, rfl⟩
      exact (notOpen _ rfl).elim

theorem readKey_eq_ok
    {tokens rest : List Token}
    {key : String} :
    readKey tokens = .ok (key, rest) ↔ tokens = .word key :: rest := by
  rw [readKey.eq_def]
  split
  · simp
  · rename_i notWord
    constructor
    · intro reads
      cases reads
    · rintro rfl
      exact (notWord key rest rfl).elim

/-! ## Requirements -/

theorem derives_of_readSingle
    {key : String}
    {operator : Operator}
    {tokens rest : List Token}
    {requirement : Requirement}
    (reads : readSingle key operator tokens = .ok (requirement, rest)) :
    ∃ front value,
      DerivesValue front value ∧ requirement = ⟨key, operator, [value]⟩ ∧
        tokens = front ++ rest := by
  rcases Result.map_eq_ok.1 reads with ⟨⟨value, after⟩, readsValue, same⟩
  cases same
  rcases derives_of_readValue readsValue with ⟨front, derives, isFront⟩
  exact ⟨front, value, derives, rfl, isFront⟩

theorem readSingle_of_derives
    {tokens rest : List Token}
    {value : String}
    (derives : DerivesValue tokens value)
    (ends : EndsRequirement rest)
    (key : String)
    (operator : Operator) :
    readSingle key operator (tokens ++ rest) = .ok (⟨key, operator, [value]⟩, rest) := by
  rw [readSingle, readValue_of_derives derives ends]
  rfl

/-- The missing value is no integer, so a bound is a word. -/
theorem readBound_eq_ok
    {key : String}
    {operator : Operator}
    {tokens rest : List Token}
    {requirement : Requirement} :
    readBound key operator tokens = .ok (requirement, rest) ↔
      ∃ bound,
        (Text.integer? bound).isSome ∧ requirement = ⟨key, operator, [bound]⟩ ∧
          tokens = .word bound :: rest := by
  constructor
  · intro reads
    rw [readBound] at reads
    split at reads
    · cases reads
    · rename_i value after readsValue
      split at reads
      · rename_i isInteger
        cases reads
        rcases derives_of_readValue readsValue with ⟨front, derives, rfl⟩
        cases derives with
        | missing => cases isInteger
        | word => exact ⟨value, isInteger, rfl, rfl⟩
      · cases reads
  · rintro ⟨bound, isInteger, rfl, rfl⟩
    simp [readBound, readValue, isInteger]

theorem readChoice_eq_ok
    {key : String}
    {operator : Operator}
    {tokens rest : List Token}
    {requirement : Requirement} :
    readChoice key operator tokens = .ok (requirement, rest) ↔
      ∃ front values,
        DerivesMembers front values ∧ requirement = ⟨key, operator, values⟩ ∧
          tokens = .openParen :: (front ++ .closeParen :: rest) := by
  rw [readChoice, Result.map_eq_ok]
  constructor
  · rintro ⟨⟨values, after⟩, readsSet, same⟩
    cases same
    rcases readSet_eq_ok.1 readsSet with ⟨front, derives, isFront⟩
    exact ⟨front, values, derives, rfl, isFront⟩
  · rintro ⟨front, values, derives, rfl, isFront⟩
    exact ⟨(values, rest), readSet_eq_ok.2 ⟨front, derives, isFront⟩, rfl⟩

/-- What was read behind a key makes a requirement of the key. -/
theorem derives_of_readOperation
    {key : String}
    {tokens rest : List Token}
    {requirement : Requirement}
    (reads : readOperation key tokens = .ok (requirement, rest)) :
    ∃ front,
      DerivesRequirement (.word key :: front) requirement ∧ tokens = front ++ rest := by
  rw [readOperation.eq_def] at reads
  split at reads
  · cases reads
    exact ⟨[], .exists key, rfl⟩
  · cases reads
    exact ⟨[], .exists key, rfl⟩
  · rcases derives_of_readSingle reads with ⟨front, value, hasValue, rfl, rfl⟩
    exact ⟨_, .equals key hasValue, rfl⟩
  · rcases derives_of_readSingle reads with ⟨front, value, hasValue, rfl, rfl⟩
    exact ⟨_, .notEquals key hasValue, rfl⟩
  · rcases readBound_eq_ok.1 reads with ⟨bound, isInteger, rfl, rfl⟩
    exact ⟨_, .greaterThan key isInteger, rfl⟩
  · rcases readBound_eq_ok.1 reads with ⟨bound, isInteger, rfl, rfl⟩
    exact ⟨_, .lessThan key isInteger, rfl⟩
  · split at reads
    · rename_i isIn
      rcases readChoice_eq_ok.1 reads with ⟨front, values, members, rfl, rfl⟩
      exact ⟨_, .isIn key members, by simp [isIn]⟩
    · split at reads
      · rename_i notIn
        rcases readChoice_eq_ok.1 reads with ⟨front, values, members, rfl, rfl⟩
        exact ⟨_, .notIn key members, by simp [notIn]⟩
      · cases reads
  · cases reads

/-- A requirement that was read is spelled by the tokens taken for it. -/
theorem derives_of_readRequirement
    {tokens rest : List Token}
    {requirement : Requirement}
    (reads : readRequirement tokens = .ok (requirement, rest)) :
    ∃ front, DerivesRequirement front requirement ∧ tokens = front ++ rest := by
  rw [readRequirement.eq_def] at reads
  split at reads
  · rcases Result.map_eq_ok.1 reads with ⟨⟨key, after⟩, readsKey, same⟩
    cases same
    cases readKey_eq_ok.1 readsKey
    exact ⟨_, .doesNotExist key, rfl⟩
  · split at reads
    · cases reads
    · rename_i key after readsKey
      cases readKey_eq_ok.1 readsKey
      rcases derives_of_readOperation reads with ⟨front, derives, rfl⟩
      exact ⟨_, derives, rfl⟩

/-- The tokens of a requirement are read as it where a requirement may end. -/
theorem readRequirement_of_derives
    {tokens rest : List Token}
    {requirement : Requirement}
    (derives : DerivesRequirement tokens requirement)
    (ends : EndsRequirement rest) :
    readRequirement (tokens ++ rest) = .ok (requirement, rest) := by
  have readsAfterKey :
      ∀ (key : String) (others : List Token),
        readRequirement (.word key :: others) = readOperation key others := by
    intro key others
    rfl
  cases derives with
  | «exists» key =>
      rw [List.singleton_append, readsAfterKey]
      cases ends with
      | atEnd => rfl
      | atComma rest => rfl
  | doesNotExist key => rfl
  | equals key hasValue =>
      rw [List.cons_append, readsAfterKey]
      exact readSingle_of_derives hasValue ends key .equals
  | notEquals key hasValue =>
      rw [List.cons_append, readsAfterKey]
      exact readSingle_of_derives hasValue ends key .notEquals
  | greaterThan key isInteger =>
      rw [List.cons_append, readsAfterKey]
      exact readBound_eq_ok.2 ⟨_, isInteger, rfl, rfl⟩
  | lessThan key isInteger =>
      rw [List.cons_append, readsAfterKey]
      exact readBound_eq_ok.2 ⟨_, isInteger, rfl, rfl⟩
  | isIn key members =>
      rw [List.cons_append, readsAfterKey]
      exact readChoice_eq_ok.2 ⟨_, _, members, rfl, by simp⟩
  | notIn key members =>
      rw [List.cons_append, readsAfterKey]
      exact readChoice_eq_ok.2 ⟨_, _, members, rfl, by simp⟩

/-! ## Expressions -/

/-- Every requirement takes a token, so a bound on the tokens is one on the requirements. -/
theorem readRequirements_eq_ok
    {fuel : Nat}
    {tokens : List Token}
    {requirements : List Requirement}
    (notEmpty : tokens ≠ [])
    (enough : tokens.length ≤ fuel) :
    readRequirements fuel tokens = .ok requirements ↔ DerivesRequirements tokens requirements := by
  constructor
  · intro reads
    induction fuel generalizing tokens requirements with
    | zero => exact absurd (List.length_eq_zero_iff.1 (Nat.le_zero.1 enough)) notEmpty
    | succ fuel inductionHypothesis =>
        rw [readRequirements] at reads
        split at reads
        · cases reads
        · rename_i requirement readsFirst
          cases reads
          rcases derives_of_readRequirement readsFirst with ⟨front, derives, rfl⟩
          rw [List.append_nil]
          exact .last derives
        · rename_i requirement next rest readsFirst
          rcases Result.map_eq_ok.1 reads with ⟨others, readsOthers, rfl⟩
          rcases derives_of_readRequirement readsFirst with ⟨front, derives, rfl⟩
          have enoughLeft : (next :: rest).length ≤ fuel := by
            simp only [List.length_append, List.length_cons] at enough ⊢
            omega
          exact .cons derives
            (inductionHypothesis (List.cons_ne_nil next rest) enoughLeft readsOthers)
        · cases reads
  · intro derives
    induction derives generalizing fuel with
    | @last tokens requirement only =>
        cases fuel with
        | zero => exact absurd (List.length_eq_zero_iff.1 (Nat.le_zero.1 enough)) notEmpty
        | succ fuel =>
            have readsOnly := readRequirement_of_derives only .atEnd
            rw [List.append_nil] at readsOnly
            rw [readRequirements, readsOnly]
    | @cons tokens rest requirement requirements first others inductionHypothesis =>
        cases fuel with
        | zero => exact absurd (List.length_eq_zero_iff.1 (Nat.le_zero.1 enough)) notEmpty
        | succ fuel =>
            have enoughLeft : rest.length ≤ fuel := by
              simp only [List.length_append, List.length_cons] at enough
              omega
            have readsOthers := inductionHypothesis others.ne_nil enoughLeft
            rcases List.exists_cons_of_ne_nil others.ne_nil with ⟨next, after, rfl⟩
            rw [readRequirements, readRequirement_of_derives first (.atComma _)]
            dsimp only
            rw [readsOthers]
            rfl

/-- Tokens are read as an expression exactly if they spell it. -/
theorem ofTokens_eq_ok
    {tokens : List Token}
    {requirements : List Requirement} :
    ofTokens tokens = .ok { requirements } ↔ DerivesExpression tokens requirements := by
  cases tokens with
  | nil =>
      constructor
      · intro reads
        cases reads
        exact .everything
      · intro derives
        cases derives with
        | everything => rfl
        | requirements listed => exact absurd rfl listed.ne_nil
  | cons token rest =>
      have decided :=
        @readRequirements_eq_ok (token :: rest).length (token :: rest) requirements
          (List.cons_ne_nil token rest) (Nat.le_refl _)
      constructor
      · intro reads
        rcases Result.map_eq_ok.1 reads with ⟨found, readsAll, same⟩
        cases same
        exact .requirements (decided.1 readsAll)
      · intro derives
        cases derives with
        | requirements listed => exact Result.map_eq_ok.2 ⟨requirements, decided.2 listed, rfl⟩

/-- No tokens spell two expressions. -/
theorem DerivesExpression.unique
    (tokens : List Token) :
    {requirements | DerivesExpression tokens requirements}.Subsingleton := by
  intro first derivesFirst second derivesSecond
  have same := (ofTokens_eq_ok.2 derivesFirst).symm.trans (ofTokens_eq_ok.2 derivesSecond)
  cases same
  rfl

/--
An expression is read as a list of requirements exactly if the grammar derives it
from the tokens of the expression, and the grammar derives no other one from them.
-/
theorem parse_eq_ok_iff_derives
    (expression : String)
    (requirements : List Requirement) :
    (parse expression = .ok { requirements } ↔
      DerivesExpression (Token.scan expression) requirements) ∧
    {others | DerivesExpression (Token.scan expression) others}.Subsingleton := by
  constructor
  · rw [parse, Result.mapError_eq_ok]
    exact ofTokens_eq_ok
  · exact DerivesExpression.unique (Token.scan expression)

/-- The words of operators are also keys and values. -/
example :
    parse "in in (in, notin), notin=" =
      .ok
        { requirements :=
            [⟨"in", .isIn, ["in", "notin"]⟩, ⟨"notin", .equals, [""]⟩] } := by
  decide

end LabelSelector

end Manifest.Selector
