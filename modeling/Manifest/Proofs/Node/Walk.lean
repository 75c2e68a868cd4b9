import Manifest.Proofs.Node.Fields
import Manifest.Proofs.Node.Lookup

/-!
# Where walks end

At each node of a walk the next step is taken, or it misses, or it is rejected.  A step
misses at nothing, and where a mapping or a sequence has no such entry; it is rejected by
any other scalar, and by a sequence if it is a name that is no position.  These three are
told apart by the node and the step alone, whatever path has led to the node.

So a walk that does not find a node has come to a last one, at the end of the longest part
of the path that leads to a node.  It ends there in the same way on every longer path, and
wherever it has begun.
-/

namespace Manifest

namespace Step

/-- The name under which a step looks in a mapping. -/
def key : Step → String
  | field name => name
  | index position => toString position

/-- The position at which a step looks in a sequence, if it has one. -/
def position? : Step → Option Nat
  | field name => Text.position? name
  | index position => some position

/-- The kind of node that a step names when it is rejected. -/
def expected : Step → NodeKind
  | field _ => .mapping
  | index _ => .sequence

end Step

namespace Node

/-! ## One step -/

/-- A step is taken from a node to a child of it. -/
inductive Offers : Step → Node → Node → Prop where
  | field
      {next : Step}
      {fields : List (String × Node)}
      {child : Node}
      (found : Fields.get? next.key fields = some child) :
      Offers next (.mapping fields) child
  | item
      {next : Step}
      {items : List Node}
      {position : Nat}
      {child : Node}
      (isPosition : next.position? = some position)
      (found : items[position]? = some child) :
      Offers next (.sequence items) child

/-- A step finds nothing at a node. -/
inductive Misses : Step → Node → Prop where
  | null
      {next : Step}
      {leaf : Scalar}
      (isNull : leaf.isNull = true) :
      Misses next (.scalar leaf)
  | field
      {next : Step}
      {fields : List (String × Node)}
      (absent : Fields.get? next.key fields = none) :
      Misses next (.mapping fields)
  | item
      {next : Step}
      {items : List Node}
      {position : Nat}
      (isPosition : next.position? = some position)
      (absent : items[position]? = none) :
      Misses next (.sequence items)

/-- A step cannot be taken from a node, whatever the node holds. -/
inductive Rejects : Step → Node → Prop where
  | scalar
      {next : Step}
      {leaf : Scalar}
      (notNull : leaf.isNull = false) :
      Rejects next (.scalar leaf)
  | sequence
      {name : String}
      {items : List Node}
      (noPosition : Text.position? name = none) :
      Rejects (.field name) (.sequence items)

/-- The error of a step that is rejected by a node, to which a path has led. -/
def mismatch (before : Path) (next : Step) (met : Node) : DocumentError :=
  .typeMismatch before.text next.expected.text met.kind.text

theorem step_mapping
    (next : Step)
    (fields : List (String × Node)) :
    step next (.mapping fields) = .ofOption (Fields.get? next.key fields) := by
  cases next <;> rfl

theorem step_sequence
    {next : Step}
    {position : Nat}
    (isPosition : next.position? = some position)
    (items : List Node) :
    step next (.sequence items) = .ofOption items[position]? := by
  cases next with
  | field name =>
      have isNumeral : Text.position? name = some position := isPosition
      rw [step, isNumeral]
  | index other =>
      cases isPosition
      rfl

/-- From a content, a step is taken, or it misses, or it is rejected. -/
theorem step_cases
    (next : Step)
    (node : Node) :
    (∃ child, Offers next node.content child) ∨
      Misses next node.content ∨ Rejects next node.content := by
  rcases content_cases node with ⟨fields, isMapping⟩ | ⟨items, isSequence⟩ | ⟨leaf, isScalar⟩
  · rw [isMapping]
    cases found : Fields.get? next.key fields with
    | some child => exact Or.inl ⟨child, .field found⟩
    | none => exact Or.inr (Or.inl (.field found))
  · rw [isSequence]
    cases isPosition : next.position? with
    | some position =>
        cases found : items[position]? with
        | some child => exact Or.inl ⟨child, .item isPosition found⟩
        | none => exact Or.inr (Or.inl (.item isPosition found))
    | none =>
        cases next with
        | field name => exact Or.inr (Or.inr (.sequence isPosition))
        | index position => cases isPosition
  · rw [isScalar]
    cases isNull : leaf.isNull with
    | true => exact Or.inr (Or.inl (.null isNull))
    | false => exact Or.inr (Or.inr (.scalar isNull))

section

variable
  {next : Step}
  {current child : Node}

theorem walk_of_offers
    (offers : Offers next current child)
    (walked rest : Path) :
    walk walked current (next :: rest) = walk (walked.push next) child.content rest := by
  cases offers with
  | field found =>
      rw [walk, step_mapping, found]
      rfl
  | item isPosition found =>
      rw [walk, step_sequence isPosition, found]
      rfl

theorem walk_of_misses
    (misses : Misses next current)
    (walked rest : Path) :
    walk walked current (next :: rest) = .ok none := by
  cases misses with
  | null isNull =>
      rw [walk, if_pos]
      exact isNull
  | field absent =>
      rw [walk, step_mapping, absent]
      rfl
  | item isPosition absent =>
      rw [walk, step_sequence isPosition, absent]
      rfl

theorem walk_of_rejects
    (rejects : Rejects next current)
    (walked rest : Path) :
    walk walked current (next :: rest) = .error (mismatch walked next current) := by
  cases rejects with
  | @scalar _ leaf notNull =>
      rw [walk, if_neg (by simp [Node.isNull, content, notNull])]
      cases next <;> rfl
  | sequence noPosition =>
      rw [walk, step, noPosition]
      rfl

end

/-! ## Walks -/

/-- A path leads from a content to another one, step by step. -/
inductive Leads : Node → Path → Node → Prop where
  | here
      (node : Node) :
      Leads node [] node
  | further
      {node child found : Node}
      {next : Step}
      {rest : Path}
      (offers : Offers next node child)
      (leads : Leads child.content rest found) :
      Leads node (next :: rest) found

theorem Leads.content
    {node found : Node}
    {path : Path}
    (leads : Leads node path found) :
    node.content = node → found.content = found := by
  induction leads with
  | here node => exact id
  | further _ _ inductionHypothesis =>
      intro _
      exact inductionHypothesis (content_content _)

/-- A walk takes a path that leads to a node, and goes on from there. -/
theorem walk_of_leads
    {node found : Node}
    {path : Path}
    (leads : Leads node path found)
    (rest : Path) :
    ∀ walked, walk walked node (path ++ rest) = walk (walked ++ path) found rest := by
  induction leads with
  | here node =>
      intro walked
      rw [List.nil_append, List.append_nil]
  | further offers _ inductionHypothesis =>
      intro walked
      rw [List.cons_append, walk_of_offers offers, inductionHypothesis, Path.push,
        List.append_assoc, List.singleton_append]

/-- A path leads to a node, or there is a node on it from which its next step is not taken. -/
theorem leads_cases
    (path : Path) :
    ∀ node : Node,
      (∃ found, Leads node.content path found) ∨
        ∃ before next after met,
          path = before ++ next :: after ∧
            Leads node.content before met ∧ (Misses next met ∨ Rejects next met) := by
  induction path with
  | nil => exact fun node => Or.inl ⟨node.content, .here _⟩
  | cons next rest inductionHypothesis =>
      intro node
      rcases step_cases next node with ⟨child, offers⟩ | misses | rejects
      · rcases inductionHypothesis child with
          ⟨found, leads⟩ | ⟨before, last, after, met, rfl, leads, ends⟩
        · exact Or.inl ⟨found, .further offers leads⟩
        · exact Or.inr ⟨next :: before, last, after, met, rfl, .further offers leads, ends⟩
      · exact Or.inr ⟨[], next, rest, _, rfl, .here _, Or.inl misses⟩
      · exact Or.inr ⟨[], next, rest, _, rfl, .here _, Or.inr rejects⟩

/-! ## Look-ups -/

/-- A look-up finds the node to which the path leads. -/
theorem lookup_eq_some
    {root met : Node}
    {path : Path} :
    root.lookup path = .ok (some met) ↔ Leads root.content path met := by
  constructor
  · intro finds
    rcases leads_cases path root with
      ⟨found, leads⟩ | ⟨before, next, after, last, rfl, leads, misses | rejects⟩
    · have reaches := walk_of_leads leads [] []
      rw [List.append_nil, ← lookup, finds] at reaches
      cases reaches
      exact leads
    · rw [lookup, walk_of_leads leads, walk_of_misses misses] at finds
      cases finds
    · rw [lookup, walk_of_leads leads, walk_of_rejects rejects] at finds
      cases finds
  · intro leads
    have reaches := walk_of_leads leads [] []
    rw [List.append_nil] at reaches
    exact reaches

theorem content_of_lookup
    {root met : Node}
    {path : Path}
    (finds : root.lookup path = .ok (some met)) :
    met.content = met :=
  (lookup_eq_some.1 finds).content (content_content root)

/--
A walk along a path comes to a node from which it does not take the next step: the part of
the path before this step is the longest one that leads to a node.
-/
structure StopsAt (root : Node) (path before : Path) (next : Step) (met : Node) : Prop where
  isPart : before.push next <+: path
  leads : root.lookup before = .ok (some met)
  longest : ∀ other, other <+: path → root.Has other → other <+: before

section

variable
  {root met : Node}
  {path before : Path}
  {next : Step}

/-- Where a step is not taken, no longer part of the path leads to a node. -/
theorem stopsAt_of_leads
    {after : Path}
    (leads : Leads root.content before met)
    (ends : Misses next met ∨ Rejects next met) :
    root.StopsAt (before ++ next :: after) before next met where
  isPart := ⟨after, by rw [Path.push, List.append_assoc, List.singleton_append]⟩
  leads := lookup_eq_some.2 leads
  longest := by
    rintro other isPart ⟨found, finds⟩
    have comparable : other <+: before ∨ before <+: other :=
      List.prefix_or_prefix_of_prefix isPart (List.prefix_append before _)
    rcases comparable with isBefore | ⟨more, rfl⟩
    · exact isBefore
    · rw [List.prefix_append_right_inj] at isPart
      cases more with
      | nil => simp
      | cons step more =>
          -- A longer part would begin with the step that is not taken.
          rcases List.cons_prefix_cons.1 isPart with ⟨rfl, _⟩
          rw [lookup, walk_of_leads leads] at finds
          rcases ends with misses | rejects
          · rw [walk_of_misses misses] at finds
            cases finds
          · rw [walk_of_rejects rejects] at finds
            cases finds

/-- A walk that stops comes to the step that it does not take, wherever it has begun. -/
theorem StopsAt.walk_eq
    (stops : root.StopsAt path before next met) :
    ∃ after,
      ∀ walked, walk walked root.content path = walk (walked ++ before) met (next :: after) := by
  rcases stops.isPart with ⟨after, rfl⟩
  refine ⟨after, fun walked => ?_⟩
  rw [Path.push, List.append_assoc, List.singleton_append,
    walk_of_leads (lookup_eq_some.1 stops.leads)]

/-- Nothing is found exactly where a step misses. -/
theorem lookup_eq_none :
    root.lookup path = .ok none ↔
      ∃ before next met, root.StopsAt path before next met ∧ Misses next met := by
  constructor
  · intro absent
    rcases leads_cases path root with
      ⟨found, leads⟩ | ⟨before, next, after, met, rfl, leads, misses | rejects⟩
    · rw [lookup_eq_some.2 leads] at absent
      cases absent
    · exact ⟨before, next, met, stopsAt_of_leads leads (Or.inl misses), misses⟩
    · rw [lookup, walk_of_leads leads, walk_of_rejects rejects] at absent
      cases absent
  · rintro ⟨before, next, met, stops, misses⟩
    rcases stops.walk_eq with ⟨after, walks⟩
    rw [lookup, walks, walk_of_misses misses]

/-- A look-up fails exactly where a step is rejected, and tells the path up to there. -/
theorem lookup_eq_error
    {error : DocumentError} :
    root.lookup path = .error error ↔
      ∃ before next met,
        root.StopsAt path before next met ∧
          Rejects next met ∧ error = mismatch before next met := by
  constructor
  · intro fails
    rcases leads_cases path root with
      ⟨found, leads⟩ | ⟨before, next, after, met, rfl, leads, misses | rejects⟩
    · rw [lookup_eq_some.2 leads] at fails
      cases fails
    · rw [lookup, walk_of_leads leads, walk_of_misses misses] at fails
      cases fails
    · refine ⟨before, next, met, stopsAt_of_leads leads (Or.inr rejects), rejects, ?_⟩
      rw [lookup, walk_of_leads leads, walk_of_rejects rejects] at fails
      exact (Except.error.inj fails).symm
  · rintro ⟨before, next, met, stops, rejects, rfl⟩
    rcases stops.walk_eq with ⟨after, walks⟩
    rw [lookup, walks, walk_of_rejects rejects, List.nil_append]

/-- What a walk finds does not depend on where it has begun. -/
theorem walk_eq_ok
    {result : Option Node}
    (finds : root.lookup path = .ok result)
    (walked : Path) :
    walk walked root.content path = .ok result := by
  cases result with
  | some found =>
      have reaches := walk_of_leads (lookup_eq_some.1 finds) [] walked
      rw [List.append_nil] at reaches
      exact reaches
  | none =>
      rcases lookup_eq_none.1 finds with ⟨before, next, met, stops, misses⟩
      rcases stops.walk_eq with ⟨after, walks⟩
      rw [walks, walk_of_misses misses]

/-- What stops a walk along a path stops it on every longer path. -/
theorem StopsAt.append
    (stops : root.StopsAt path before next met)
    (ends : Misses next met ∨ Rejects next met)
    (rest : Path) :
    root.StopsAt (path ++ rest) before next met := by
  rcases stops.isPart with ⟨after, rfl⟩
  rw [Path.push, List.append_assoc, List.append_assoc, List.singleton_append]
  exact stopsAt_of_leads (lookup_eq_some.1 stops.leads) ends

end

/-- The nodes on the way to the value at a list of names are found by look-ups. -/
theorem lookup_of_getIn?
    {names : List String} :
    ∀ {root : Node} {value : Value},
      root.WellFormed →
      root.toValue.getIn? names = some value →
      ∃ found, root.lookup (names.map .field) = .ok (some found) ∧ found.toValue = value := by
  induction names with
  | nil =>
      intro root value _ isValue
      cases isValue
      exact ⟨root.content, rfl, toValue_content root⟩
  | cons name rest inductionHypothesis =>
      intro root value wellFormed isValue
      rw [Value.getIn?_cons, field?_toValue wellFormed] at isValue
      rcases Option.bind_eq_some_iff.1 isValue with ⟨_, isChild, isBelow⟩
      rcases Option.map_eq_some_iff.1 isChild with ⟨child, found, rfl⟩
      rcases child?_eq_some.1 found with ⟨fields, isMapping, inFields⟩
      have childWellFormed : child.WellFormed :=
        (wellFormed_mapping.1 (isMapping ▸ wellFormed.content)).get? inFields
      rcases inductionHypothesis childWellFormed isBelow with ⟨last, finds, sameValue⟩
      refine ⟨last, lookup_eq_some.2 ?_, sameValue⟩
      rw [isMapping]
      exact .further (.field inFields) (lookup_eq_some.1 finds)

/-- Look-ups from a node are made in parts, and say where they end. -/
structure FollowsPaths (root : Node) : Prop where
  /-- A look-up that fails, fails alike on every longer path. -/
  failed :
    ∀ path rest error,
      root.lookup path = .error error → root.lookup (path ++ rest) = .error error
  /-- A look-up that finds nothing, finds nothing on every longer path. -/
  missed : ∀ path rest, root.lookup path = .ok none → root.lookup (path ++ rest) = .ok none
  /-- From a node that is found, a look-up goes on as from any other node. -/
  resumed :
    ∀ path rest node result,
      root.lookup path = .ok (some node) →
      node.lookup rest = .ok result →
      root.lookup (path ++ rest) = .ok result
  /-- If it fails there, the path to the node comes before the path that it tells. -/
  resumedFailed :
    ∀ path rest node error,
      root.lookup path = .ok (some node) →
      node.lookup rest = .error error →
      ∃ before next met,
        node.StopsAt rest before next met ∧
          error = mismatch before next met ∧
            root.lookup (path ++ rest) = .error (mismatch (path ++ before) next met)
  /-- A failure tells the longest part of the path to a node, which rejects the next step. -/
  fails_iff :
    ∀ path error,
      root.lookup path = .error error ↔
        ∃ before next met,
          root.StopsAt path before next met ∧
            Rejects next met ∧ error = mismatch before next met
  /-- Nothing is found where the next step misses at the node of such a part. -/
  misses_iff :
    ∀ path,
      root.lookup path = .ok none ↔
        ∃ before next met, root.StopsAt path before next met ∧ Misses next met
  /-- What the value of the document holds at a list of names is found by a look-up. -/
  finds :
    root.WellFormed →
    ∀ names value,
      root.toValue.getIn? names = some value →
      ∃ found, root.lookup (names.map .field) = .ok (some found) ∧ found.toValue = value

theorem followsPaths (root : Node) : root.FollowsPaths where
  failed := by
    intro path rest error fails
    rcases lookup_eq_error.1 fails with ⟨before, next, met, stops, rejects, same⟩
    exact lookup_eq_error.2
      ⟨before, next, met, stops.append (Or.inr rejects) rest, rejects, same⟩
  missed := by
    intro path rest absent
    rcases lookup_eq_none.1 absent with ⟨before, next, met, stops, misses⟩
    exact lookup_eq_none.2 ⟨before, next, met, stops.append (Or.inl misses) rest, misses⟩
  resumed := by
    intro path rest node result finds goesOn
    have goesOnBelow := walk_eq_ok goesOn path
    rw [content_of_lookup finds] at goesOnBelow
    rw [lookup, walk_of_leads (lookup_eq_some.1 finds), List.nil_append, goesOnBelow]
  resumedFailed := by
    intro path rest node error finds fails
    rcases lookup_eq_error.1 fails with ⟨before, next, met, stops, rejects, same⟩
    rcases stops.walk_eq with ⟨after, walks⟩
    refine ⟨before, next, met, stops, same, ?_⟩
    rw [lookup, walk_of_leads (lookup_eq_some.1 finds), ← content_of_lookup finds, walks,
      walk_of_rejects rejects, List.nil_append]
  fails_iff := fun _ _ => lookup_eq_error
  misses_iff := fun _ => lookup_eq_none
  finds := fun wellFormed _ _ isValue => lookup_of_getIn? wellFormed isValue

/-- A name and a label. -/
def labelled : Node :=
  .mapping [("name", .ofText "web"), ("labels", .mapping [("app", .ofText "shop")])]

/-- A document in which a name and a label stand behind an alias. -/
def referring : Node :=
  .document (.mapping [("kind", .ofText "Pod"), ("metadata", .reference "web" labelled)])

/--
A label is found behind the alias, from the root and from there on.  Nothing is found below a
label that is absent, and a look-up below the text of one fails.
-/
theorem referring_followsPaths :
    referring.WellFormed ∧
      referring.toValue.getIn? ["metadata", "labels", "app"] = some (.text "shop") ∧
      (∃ found,
        referring.lookup (["metadata", "labels", "app"].map .field) = .ok (some found) ∧
          found.toValue = .text "shop") ∧
      referring.lookup [.field "metadata"] = .ok (some labelled) ∧
      referring.lookup ([.field "metadata"] ++ [.field "labels", .field "app"]) =
        .ok (some (.ofText "shop")) ∧
      referring.lookup (["metadata", "labels", "tier"].map .field ++ [.index 0]) = .ok none ∧
      referring.lookup (["metadata", "labels", "app", "name"].map .field ++ [.index 0]) =
        .error (.typeMismatch "metadata.labels.app" "mapping" "scalar") ∧
      ∃ before next met,
        labelled.StopsAt [.field "labels", .field "app", .field "name"] before next met ∧
          referring.lookup ([.field "metadata"] ++ [.field "labels", .field "app", .field "name"]) =
            .error (mismatch ([.field "metadata"] ++ before) next met) := by
  have follows := followsPaths referring
  have wellFormed : referring.WellFormed := by
    have behind : labelled.WellFormed := by
      simp [labelled, Fields.names]
    refine .document ?_
    simp [WellFormed.reference behind, Fields.names]
  have isThere :
      referring.toValue.getIn? ["metadata", "labels", "app"] = some (.text "shop") := rfl
  have behindAlias : referring.lookup [.field "metadata"] = .ok (some labelled) := rfl
  rcases follows.resumedFailed [.field "metadata"] [.field "labels", .field "app", .field "name"]
      labelled _ behindAlias rfl with
    ⟨before, next, met, stops, -, fails⟩
  exact
    ⟨wellFormed, isThere, follows.finds wellFormed _ _ isThere, behindAlias,
      follows.resumed _ _ labelled _ behindAlias rfl, follows.missed _ _ rfl,
      follows.failed _ _ _ rfl, before, next, met, stops, fails⟩

/-- A numeral is a name in a mapping, a position in a list, and rejected by a text. -/
example :
    (mapping [("items", sequence [mapping [("0", ofText "web")]])]).lookup
        [.field "items", .field "0", .index 0, .index 0, .field "name"] =
      .error (.typeMismatch "items.0[0]" "sequence" "scalar") := by
  rfl

end Node

end Manifest
