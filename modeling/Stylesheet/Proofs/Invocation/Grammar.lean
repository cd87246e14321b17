import Stylesheet.Proofs.Invocation.Bracket

/-!
The grammar of invocations. Behind the marker and the name there may be a list, behind it a block,
behind it a semicolon, and blanks before the list and the block. Where the text ends without a
block, the blanks before its end belong to the invocation too. The reader finds an invocation,
misses one or complains about an open bracket exactly where the grammar says so.
-/

namespace Stylesheet

namespace Invocation

/-- Nothing but blanks. -/
def IsGap (text : Text) : Prop := ∀ c ∈ text, isGapChar c = true

/-- The first character that is no blank is the bracket. -/
def Opens (bracket : Char) (text : Text) : Prop :=
  ∃ gap more, IsGap gap ∧ text = gap ++ bracket :: more

/-- What an invocation takes for its list, the arguments in it, and the text behind. -/
inductive ListPart : (taken : Text) → (arguments : List Text) → (rest : Text) → Prop where
  | list {gap rest : Text} {parts : List Text} (blank : IsGap gap) (filled : parts ≠ [])
      (fits : ∀ part ∈ parts, part.IsArgument) :
      ListPart (gap ++ '(' :: List.intercalate [','] parts ++ [')']) (dropBlank parts) rest
  | none {rest : Text} (noList : ¬Opens '(' rest) : ListPart [] [] rest

/-- What an invocation takes for its block or, without one, of the blanks that end the text. -/
inductive BlockPart : (taken : Text) → (arguments : List Text) → (rest : Text) → Prop where
  | block {gap block rest : Text} (blank : IsGap gap) (balanced : Balanced '{' '}' block) :
      BlockPart (gap ++ '{' :: block ++ ['}']) [block] rest
  | gap {gap : Text} (blank : IsGap gap) : BlockPart gap [] []
  | none {rest : Text} (visible : ¬IsGap rest) (noBlock : ¬Opens '{' rest) : BlockPart [] [] rest

/-- A semicolon is taken wherever it stands next. -/
inductive EndPart : (taken : Text) → (terminated : Bool) → (rest : Text) → Prop where
  | semicolon {rest : Text} : EndPart [';'] true rest
  | none {rest : Text} (noSemicolon : rest.head? ≠ some ';') : EndPart [] false rest

/-- What an invocation takes behind its name. -/
inductive Spelled : (taken : Text) → (arguments : List Text) → (terminated : Bool) → (rest : Text) →
    Prop where
  | intro {list block ending rest : Text} {first second : List Text} {terminated : Bool}
      (listed : ListPart list first (block ++ ending ++ rest))
      (blocked : BlockPart block second (ending ++ rest)) (ended : EndPart ending terminated rest) :
      Spelled (list ++ block ++ ending) (first ++ second) terminated rest

/-- A bracket that is never closed in the text `tail`, which stands behind `front`: that of the
list, or that of the block where the list is closed or there is none. -/
inductive Unclosed (front tail : Text) : OpenError → Prop where
  | list {gap more : Text} (blank : IsGap gap) (whole : tail = gap ++ '(' :: more)
      (unclosed : ∀ inner rest, more = inner ++ ')' :: rest → ¬inner.ClosesList) :
      Unclosed front tail (.list (front ++ gap).length)
  | block {list gap more : Text} {arguments : List Text}
      (listed : ListPart list arguments (gap ++ '{' :: more)) (blank : IsGap gap)
      (whole : tail = list ++ (gap ++ '{' :: more))
      (unclosed : ∀ block rest, more = block ++ '}' :: rest → ¬Balanced '{' '}' block) :
      Unclosed front tail (.block (front ++ list ++ gap).length)

/-! Blanks -/

section Gaps

variable {text gap more : Text} {c : Char}

theorem exists_gap (text : Text) : ∃ gap, IsGap gap ∧ text = gap ++ text.dropWhile isGapChar :=
  ⟨text.takeWhile isGapChar, List.all_eq_true.mp List.all_takeWhile,
    List.takeWhile_append_dropWhile.symm⟩

theorem dropWhile_gap (blank : IsGap gap) (visible : isGapChar c = false) :
    (gap ++ c :: more).dropWhile isGapChar = c :: more := by
  rw [List.dropWhile_append_of_pos blank]
  simp [visible]

theorem opens_iff (visible : isGapChar c = false) :
    Opens c text ↔ (text.dropWhile isGapChar).head? = some c := by
  constructor
  · rintro ⟨gap, more, blank, rfl⟩
    rw [dropWhile_gap blank visible]
    rfl
  · intro first
    obtain ⟨more, shape⟩ := List.head?_eq_some_iff.mp first
    obtain ⟨gap, blank, whole⟩ := exists_gap text
    exact ⟨gap, more, blank, shape ▸ whole⟩

theorem isGap_iff : IsGap text ↔ text.dropWhile isGapChar = [] := by
  simp [IsGap, List.dropWhile_eq_nil_iff]

end Gaps

section Parts

variable {text rest : Text} {position : Nat} {arguments : List Text} {error : OpenError}

/-! The list -/

theorem listTail_eq_ok_iff :
    listTail position text = .ok ⟨arguments, rest⟩ ↔
      ∃ taken, text = taken ++ rest ∧ ListPart taken arguments rest := by
  constructor
  · intro read
    obtain ⟨gap, blank, whole⟩ := exists_gap text
    cases listAhead text with
    | closed opens listed =>
        rw [listTail_of_list? opens listed] at read
        obtain ⟨rfl, rfl⟩ := Tail.mk.inj (Except.ok.inj read)
        obtain ⟨parts, filled, fits, rfl, rfl⟩ := list?_eq_some_iff.mp listed
        rw [opens] at whole
        exact ⟨_, by simp [whole], .list blank filled fits⟩
    | unclosed opens unclosed =>
        rw [listTail_of_unclosed opens unclosed] at read
        cases read
    | none noList =>
        rw [listTail_of_none noList] at read
        obtain ⟨rfl, rfl⟩ := Tail.mk.inj (Except.ok.inj read)
        exact ⟨[], rfl, .none fun opens => noList ((opens_iff rfl).mp opens)⟩
  · rintro ⟨taken, rfl, part⟩
    cases part with
    | @list gap _ parts blank filled fits =>
        have listed : list? ('(' :: (List.intercalate [','] parts ++ ')' :: rest)) =
            some (dropBlank parts, rest) :=
          list?_eq_some_iff.mpr ⟨parts, filled, fits, rfl, rfl⟩
        apply listTail_of_list? _ listed
        rw [List.append_assoc, List.append_assoc]
        exact dropWhile_gap blank rfl
    | none noList => exact listTail_of_none fun first => noList ((opens_iff rfl).mpr first)

theorem listTail_eq_error_iff :
    listTail position text = .error error ↔
      ∃ gap more, IsGap gap ∧ text = gap ++ '(' :: more ∧
        (∀ inner rest : Text, more = inner ++ ')' :: rest → ¬inner.ClosesList) ∧
        error = .list (position + gap.length) := by
  constructor
  · intro read
    obtain ⟨gap, blank, whole⟩ := exists_gap text
    cases listAhead text with
    | closed opens listed =>
        rw [listTail_of_list? opens listed] at read
        cases read
    | @unclosed more opens unclosed =>
        rw [listTail_of_unclosed opens unclosed] at read
        rw [opens] at whole
        refine ⟨gap, more, blank, whole, list?_eq_none_iff.mp unclosed, ?_⟩
        rw [← Except.error.inj read, whole]
        simp
    | none noList =>
        rw [listTail_of_none noList] at read
        cases read
  · rintro ⟨gap, more, blank, rfl, unclosed, rfl⟩
    rw [listTail_of_unclosed (dropWhile_gap blank rfl) (list?_eq_none_iff.mpr unclosed)]
    simp

/-! The block -/

theorem exists_blockPart (read : blockTail position text = .ok ⟨arguments, rest⟩) :
    ∃ taken, text = taken ++ rest ∧ BlockPart taken arguments rest := by
  obtain ⟨gap, blank, whole⟩ := exists_gap text
  cases blockAhead text with
  | closed opens closed =>
      rw [blockTail_of_block? opens closed] at read
      obtain ⟨rfl, rfl⟩ := Tail.mk.inj (Except.ok.inj read)
      obtain ⟨rfl, balanced⟩ := block?_eq_some_iff.mp closed
      rw [opens] at whole
      exact ⟨_, by simp [whole], .block blank balanced⟩
  | unclosed opens unclosed =>
      rw [blockTail_of_unclosed opens unclosed] at read
      cases read
  | gaps gaps =>
      rw [blockTail_of_gaps gaps] at read
      obtain ⟨rfl, rfl⟩ := Tail.mk.inj (Except.ok.inj read)
      exact ⟨text, (List.append_nil text).symm, .gap (isGap_iff.mpr gaps)⟩
  | none visible noBlock =>
      rw [blockTail_of_none visible noBlock] at read
      obtain ⟨rfl, rfl⟩ := Tail.mk.inj (Except.ok.inj read)
      refine ⟨[], rfl, .none ?_ ?_⟩
      · rw [isGap_iff, visible]
        exact List.cons_ne_nil _ _
      · rw [opens_iff rfl, visible]
        exact fun first => noBlock (Option.some.inj first)

theorem blockTail_of_blockPart {taken : Text} (part : BlockPart taken arguments rest) :
    blockTail position (taken ++ rest) = .ok ⟨arguments, rest⟩ := by
  cases part with
  | @block gap block _ blank balanced =>
      have closed : block? ('{' :: (block ++ '}' :: rest)) = some (block, rest) :=
        block?_eq_some_iff.mpr ⟨rfl, balanced⟩
      apply blockTail_of_block? _ closed
      rw [List.append_assoc, List.append_assoc]
      exact dropWhile_gap blank rfl
  | gap blank =>
      rw [List.append_nil]
      exact blockTail_of_gaps (isGap_iff.mp blank)
  | none visible noBlock =>
      cases shape : rest.dropWhile isGapChar with
      | nil => exact absurd (isGap_iff.mpr shape) visible
      | cons c more =>
          apply blockTail_of_none shape
          rintro rfl
          exact noBlock ((opens_iff rfl).mpr (congrArg List.head? shape))

theorem blockTail_eq_ok_iff :
    blockTail position text = .ok ⟨arguments, rest⟩ ↔
      ∃ taken, text = taken ++ rest ∧ BlockPart taken arguments rest := by
  constructor
  · exact exists_blockPart
  · rintro ⟨taken, rfl, part⟩
    exact blockTail_of_blockPart part

theorem blockTail_eq_error_iff :
    blockTail position text = .error error ↔
      ∃ gap more, IsGap gap ∧ text = gap ++ '{' :: more ∧
        (∀ block rest, more = block ++ '}' :: rest → ¬Balanced '{' '}' block) ∧
        error = .block (position + gap.length) := by
  constructor
  · intro read
    obtain ⟨gap, blank, whole⟩ := exists_gap text
    cases blockAhead text with
    | closed opens closed =>
        rw [blockTail_of_block? opens closed] at read
        cases read
    | @unclosed more opens unclosed =>
        rw [blockTail_of_unclosed opens unclosed] at read
        rw [opens] at whole
        refine ⟨gap, more, blank, whole, block?_eq_none_iff.mp unclosed, ?_⟩
        rw [← Except.error.inj read, whole]
        simp
    | gaps gaps =>
        rw [blockTail_of_gaps gaps] at read
        cases read
    | none visible noBlock =>
        rw [blockTail_of_none visible noBlock] at read
        cases read
  · rintro ⟨gap, more, blank, rfl, unclosed, rfl⟩
    rw [blockTail_of_unclosed (dropWhile_gap blank rfl) (block?_eq_none_iff.mpr unclosed)]
    simp

/-! The semicolon -/

theorem ended_eq_iff {name : Text} {invocation : Invocation} :
    ended name arguments text = (invocation, rest) ↔
      invocation.name = name ∧ invocation.arguments = arguments ∧
        ∃ taken, text = taken ++ rest ∧ EndPart taken invocation.terminated rest := by
  obtain ⟨found, given, terminated⟩ := invocation
  constructor
  · intro ends
    unfold ended at ends
    split at ends
    · obtain ⟨same, rfl⟩ := Prod.mk.inj ends
      obtain ⟨rfl, rfl, rfl⟩ := Invocation.mk.inj same
      exact ⟨rfl, rfl, [';'], rfl, .semicolon⟩
    · next noSemicolon =>
      obtain ⟨same, rfl⟩ := Prod.mk.inj ends
      obtain ⟨rfl, rfl, rfl⟩ := Invocation.mk.inj same
      refine ⟨rfl, rfl, [], rfl, .none ?_⟩
      intro first
      obtain ⟨more, shape⟩ := List.head?_eq_some_iff.mp first
      exact noSemicolon more shape
  · rintro ⟨rfl, rfl, taken, rfl, part⟩
    cases part with
    | semicolon => rfl
    | none noSemicolon =>
        rw [List.nil_append]
        unfold ended
        split
        · exact absurd rfl noSemicolon
        · rfl

end Parts

/-! The whole invocation -/

section Whole

variable {text rest : Text} {position : Nat} {error : OpenError} {list block : Tail}

theorem read_of_openList (named : text.takeWhile isNameChar ≠ [])
    (unclosed : listTail (position + (text.takeWhile isNameChar).length)
      (text.dropWhile isNameChar) = .error error) :
    read position text = .error error := by
  rw [read_of_named named, unclosed]
  rfl

theorem read_of_openBlock (named : text.takeWhile isNameChar ≠ [])
    (listed : listTail (position + (text.takeWhile isNameChar).length)
      (text.dropWhile isNameChar) = .ok list)
    (unclosed : blockTail (position + (text.length - list.rest.length)) list.rest = .error error) :
    read position text = .error error := by
  rw [read_of_named named, listed]
  change (blockTail _ _ >>= _) = _
  rw [unclosed]
  rfl

theorem read_of_tails (named : text.takeWhile isNameChar ≠ [])
    (listed : listTail (position + (text.takeWhile isNameChar).length)
      (text.dropWhile isNameChar) = .ok list)
    (blocked : blockTail (position + (text.length - list.rest.length)) list.rest = .ok block) :
    read position text = .ok (some
      (ended (text.takeWhile isNameChar) (list.arguments ++ block.arguments) block.rest)) := by
  rw [read_of_named named, listed]
  change (blockTail _ _ >>= _) = _
  rw [blocked]
  rfl

theorem read_eq_none_iff :
    read position text = .ok none ↔ text.takeWhile isNameChar = [] := by
  constructor
  · intro missed
    by_contra named
    cases listed : listTail (position + (text.takeWhile isNameChar).length)
        (text.dropWhile isNameChar) with
    | error error => cases missed.symm.trans (read_of_openList named listed)
    | ok list =>
        cases blocked : blockTail (position + (text.length - list.rest.length)) list.rest with
        | error error => cases missed.symm.trans (read_of_openBlock named listed blocked)
        | ok block => cases missed.symm.trans (read_of_tails named listed blocked)
  · exact read_of_unnamed

theorem read_eq_some_iff {invocation : Invocation} (named : text.takeWhile isNameChar ≠ []) :
    read position text = .ok (some (invocation, rest)) ↔
      invocation.name = text.takeWhile isNameChar ∧
        ∃ taken, text.dropWhile isNameChar = taken ++ rest ∧
          Spelled taken invocation.arguments invocation.terminated rest := by
  constructor
  · intro found
    obtain ⟨_, list, block, listed, blocked, ends⟩ := exists_tails_of_read found
    obtain ⟨listText, listWhole, listPart⟩ := listTail_eq_ok_iff.mp listed
    obtain ⟨blockText, blockWhole, blockPart⟩ := blockTail_eq_ok_iff.mp blocked
    obtain ⟨same, given, ending, endWhole, endPart⟩ := ended_eq_iff.mp ends
    rw [endWhole] at blockWhole blockPart
    rw [blockWhole, ← List.append_assoc] at listWhole listPart
    refine ⟨same, listText ++ blockText ++ ending, ?_, ?_⟩
    · simp [listWhole]
    · rw [given]
      exact .intro listPart blockPart endPart
  · obtain ⟨name, arguments, terminated⟩ := invocation
    rintro ⟨rfl, taken, whole, parts⟩
    cases parts with
    | @intro list block ending _ first second _ listed blocked ends =>
        have listedTail : listTail (position + (text.takeWhile isNameChar).length)
            (text.dropWhile isNameChar) = .ok ⟨first, block ++ ending ++ rest⟩ :=
          listTail_eq_ok_iff.mpr ⟨list, by simp [whole], listed⟩
        rw [read_of_tails named listedTail
          (blockTail_eq_ok_iff.mpr ⟨block, List.append_assoc .., blocked⟩)]
        exact congrArg (Except.ok ∘ some) (ended_eq_iff.mpr ⟨rfl, rfl, ending, rfl, ends⟩)

-- Where the rest of a list stands.
theorem position_behind_list {taken : Text} (whole : text.dropWhile isNameChar = taken ++ rest) :
    position + (text.length - rest.length) =
      position + (text.takeWhile isNameChar).length + taken.length := by
  have lengths := congrArg List.length (List.takeWhile_append_dropWhile (p := isNameChar) (l := text))
  rw [List.length_append, whole, List.length_append] at lengths
  omega

theorem read_eq_error_iff (named : text.takeWhile isNameChar ≠ []) {front : Text}
    (stands : front.length = position + (text.takeWhile isNameChar).length) :
    read position text = .error error ↔ Unclosed front (text.dropWhile isNameChar) error := by
  constructor
  · intro failed
    cases listed : listTail (position + (text.takeWhile isNameChar).length)
        (text.dropWhile isNameChar) with
    | error first =>
        obtain rfl := Except.error.inj (failed.symm.trans (read_of_openList named listed))
        obtain ⟨gap, more, blank, whole, unclosed, rfl⟩ := listTail_eq_error_iff.mp listed
        rw [← stands, ← List.length_append]
        exact .list blank whole unclosed
    | ok list =>
        obtain ⟨taken, whole, part⟩ := listTail_eq_ok_iff.mp listed
        cases blocked : blockTail (position + (text.length - list.rest.length)) list.rest with
        | error second =>
            obtain rfl := Except.error.inj (failed.symm.trans (read_of_openBlock named listed blocked))
            obtain ⟨gap, more, blank, behind, unclosed, rfl⟩ := blockTail_eq_error_iff.mp blocked
            rw [position_behind_list whole, ← stands, ← List.length_append, ← List.length_append]
            rw [behind] at whole part
            exact .block part blank whole unclosed
        | ok block => cases failed.symm.trans (read_of_tails named listed blocked)
  · intro unclosed
    cases unclosed with
    | @list gap more blank whole unclosed =>
        apply read_of_openList named
        rw [listTail_eq_error_iff]
        exact ⟨gap, more, blank, whole, unclosed, by rw [List.length_append, stands]⟩
    | @block taken gap more arguments part blank whole unclosed =>
        have listed : listTail (position + (text.takeWhile isNameChar).length)
            (text.dropWhile isNameChar) = .ok ⟨arguments, gap ++ '{' :: more⟩ :=
          listTail_eq_ok_iff.mpr ⟨taken, whole, part⟩
        apply read_of_openBlock named listed
        rw [blockTail_eq_error_iff, position_behind_list whole]
        exact ⟨gap, more, blank, rfl, unclosed, by simp only [List.length_append, stands]⟩

end Whole

/-! The invocation at a position of a source -/

/-- The invocation takes the span from `start` on: the marker, its name, and what the grammar says
behind it. -/
structure Spans (source marker name : Text) (start : Nat) (located : Located) : Prop where
  start_eq : located.start = start
  name_eq : located.invocation.name = name
  start_lt : located.start < located.stop
  stop_le : located.stop ≤ source.length
  parts : ∃ taken,
    (source.drop located.start).take (located.stop - located.start) = marker ++ name ++ taken ∧
      Spelled taken located.invocation.arguments located.invocation.terminated
        (source.drop located.stop)

section Source

variable {source marker : Text} {start : Nat}

theorem readAt_of_none
    (missed : read (start + marker.length) (source.drop (start + marker.length)) = .ok none) :
    readAt marker start source = .ok none := by
  simp only [readAt, missed]
  rfl

theorem readAt_of_error {error : OpenError}
    (failed : read (start + marker.length) (source.drop (start + marker.length)) = .error error) :
    readAt marker start source = .error error := by
  simp only [readAt, failed]
  rfl

theorem readAt_of_some {invocation : Invocation} {rest : Text}
    (found : read (start + marker.length) (source.drop (start + marker.length)) =
      .ok (some (invocation, rest))) :
    readAt marker start source = .ok (some ⟨invocation, start, source.length - rest.length⟩) := by
  simp only [readAt, found]
  rfl

theorem drop_marker (occurs : marker <+: source.drop start) :
    source.drop start = marker ++ source.drop (start + marker.length) := by
  obtain ⟨behind, whole⟩ := occurs
  rw [← List.drop_drop, ← whole, List.drop_left]

theorem drop_takeWhile (text : Text) :
    text.drop (text.takeWhile isNameChar).length = text.dropWhile isNameChar := by
  have whole := List.takeWhile_append_dropWhile (p := isNameChar) (l := text)
  calc text.drop (text.takeWhile isNameChar).length
      = (text.takeWhile isNameChar ++ text.dropWhile isNameChar).drop
          (text.takeWhile isNameChar).length := by rw [whole]
    _ = text.dropWhile isNameChar := List.drop_left

theorem readAt_eq_none_iff :
    readAt marker start source = .ok none ↔
      (source.drop (start + marker.length)).takeWhile isNameChar = [] := by
  constructor
  · intro missed
    cases outcome : read (start + marker.length) (source.drop (start + marker.length)) with
    | error error => cases missed.symm.trans (readAt_of_error outcome)
    | ok found =>
        cases found with
        | none => exact read_eq_none_iff.mp outcome
        | some found => cases missed.symm.trans (readAt_of_some outcome)
  · exact fun unnamed => readAt_of_none (read_eq_none_iff.mpr unnamed)

-- The name stands in the source, so what is taken up to its end has that length.
theorem length_front
    (named : (source.drop (start + marker.length)).takeWhile isNameChar ≠ []) :
    (source.take (start + marker.length +
      ((source.drop (start + marker.length)).takeWhile isNameChar).length)).length =
      start + marker.length + ((source.drop (start + marker.length)).takeWhile isNameChar).length := by
  have positive := List.length_pos_iff.mpr named
  have bounded := (List.takeWhile_sublist isNameChar
    (l := source.drop (start + marker.length))).length_le
  rw [List.length_drop] at bounded
  rw [List.length_take]
  omega

theorem readAt_eq_error_iff_read {error : OpenError} :
    readAt marker start source = .error error ↔
      read (start + marker.length) (source.drop (start + marker.length)) = .error error := by
  constructor
  · intro failed
    cases outcome : read (start + marker.length) (source.drop (start + marker.length)) with
    | error other =>
        obtain rfl := Except.error.inj (failed.symm.trans (readAt_of_error outcome))
        rfl
    | ok found =>
        cases found with
        | none => cases failed.symm.trans (readAt_of_none outcome)
        | some found => cases failed.symm.trans (readAt_of_some outcome)
  · exact readAt_of_error

theorem readAt_eq_error_iff {error : OpenError} :
    readAt marker start source = .error error ↔
      (source.drop (start + marker.length)).takeWhile isNameChar ≠ [] ∧
        Unclosed
          (source.take (start + marker.length +
            ((source.drop (start + marker.length)).takeWhile isNameChar).length))
          (source.drop (start + marker.length +
            ((source.drop (start + marker.length)).takeWhile isNameChar).length)) error := by
  have tail : source.drop (start + marker.length +
      ((source.drop (start + marker.length)).takeWhile isNameChar).length) =
      (source.drop (start + marker.length)).dropWhile isNameChar := by
    rw [← drop_takeWhile, List.drop_drop]
  rw [tail]
  constructor
  · intro failed
    have named : (source.drop (start + marker.length)).takeWhile isNameChar ≠ [] := by
      intro unnamed
      cases failed.symm.trans (readAt_eq_none_iff.mpr unnamed)
    have unread := readAt_eq_error_iff_read.mp failed
    exact ⟨named, (read_eq_error_iff named (length_front named)).mp unread⟩
  · rintro ⟨named, unclosed⟩
    have unread := (read_eq_error_iff named (length_front named)).mpr unclosed
    exact readAt_eq_error_iff_read.mpr unread

-- What is read behind a marker, told by its span in the source.
theorem spans_of_read {invocation : Invocation} {rest : Text}
    (occurs : marker <+: source.drop start)
    (named : (source.drop (start + marker.length)).takeWhile isNameChar ≠ [])
    (found : read (start + marker.length) (source.drop (start + marker.length)) =
      .ok (some (invocation, rest))) :
    Spans source marker ((source.drop (start + marker.length)).takeWhile isNameChar) start
      ⟨invocation, start, source.length - rest.length⟩ := by
  obtain ⟨same, taken, whole, parts⟩ := (read_eq_some_iff named).mp found
  have behind := List.takeWhile_append_dropWhile (p := isNameChar)
    (l := source.drop (start + marker.length))
  have span : source.drop start =
      marker ++ (source.drop (start + marker.length)).takeWhile isNameChar ++ taken ++ rest := by
    rw [drop_marker occurs, List.append_assoc, List.append_assoc, ← whole, behind]
  have positive := List.length_pos_iff.mpr named
  have lengths := congrArg List.length span
  rw [List.length_drop, List.length_append] at lengths
  have size : source.length - rest.length - start =
      (marker ++ (source.drop (start + marker.length)).takeWhile isNameChar ++ taken).length := by
    omega
  simp only [List.length_append] at lengths
  have ends : rest <:+ source := by
    have last : rest <:+ source.drop start := span ▸ List.suffix_append _ _
    exact last.trans (List.drop_suffix start source)
  refine ⟨rfl, same, ?_, Nat.sub_le _ _, taken, ?_, ?_⟩
  · change start < source.length - rest.length
    omega
  · change (source.drop start).take (source.length - rest.length - start) = _
    rw [size, span, List.take_left]
  · rw [← List.suffix_iff_eq_drop.mp ends]
    exact parts

theorem readAt_of_spans {located : Located} (occurs : marker <+: source.drop start)
    (named : (source.drop (start + marker.length)).takeWhile isNameChar ≠ [])
    (spans : Spans source marker ((source.drop (start + marker.length)).takeWhile isNameChar) start
      located) :
    readAt marker start source = .ok (some located) := by
  obtain ⟨invocation, first, stop⟩ := located
  obtain ⟨rfl, same, lower, upper, taken, span, parts⟩ := spans
  simp only at same lower upper span parts
  have reached : first + (stop - first) = stop := by omega
  have joined := List.take_append_drop (stop - first) (source.drop first)
  rw [span, List.drop_drop, reached, drop_marker occurs, List.append_assoc, List.append_assoc]
    at joined
  have behind := List.takeWhile_append_dropWhile (p := isNameChar)
    (l := source.drop (first + marker.length))
  have tail : (source.drop (first + marker.length)).dropWhile isNameChar =
      taken ++ source.drop stop :=
    List.append_cancel_left (behind.trans (List.append_cancel_left joined).symm)
  have ends : source.length - (source.drop stop).length = stop := by
    rw [List.length_drop]
    omega
  rw [readAt_of_some ((read_eq_some_iff named).mpr ⟨same, taken, tail, parts⟩), ends]

theorem readAt_eq_some_iff {located : Located} (occurs : marker <+: source.drop start) :
    readAt marker start source = .ok (some located) ↔
      (source.drop (start + marker.length)).takeWhile isNameChar ≠ [] ∧
        Spans source marker ((source.drop (start + marker.length)).takeWhile isNameChar) start
          located := by
  constructor
  · intro found
    have named : (source.drop (start + marker.length)).takeWhile isNameChar ≠ [] := by
      intro unnamed
      cases found.symm.trans (readAt_eq_none_iff.mpr unnamed)
    refine ⟨named, ?_⟩
    cases outcome : read (start + marker.length) (source.drop (start + marker.length)) with
    | error error => cases found.symm.trans (readAt_of_error outcome)
    | ok reading =>
        cases reading with
        | none => cases found.symm.trans (readAt_of_none outcome)
        | some parts =>
            obtain rfl := Option.some.inj (Except.ok.inj (found.symm.trans (readAt_of_some outcome)))
            exact spans_of_read occurs named outcome
  · rintro ⟨named, spans⟩
    exact readAt_of_spans occurs named spans

/-- What reading at a marker comes to, by the grammar: nothing where no name follows, an error with
its position where a bracket is never closed, and else an invocation with its span. -/
theorem readAt_grammar (source marker : Text) (start : Nat)
    (occurs : marker <+: source.drop start) :
    let name := (source.drop (start + marker.length)).takeWhile isNameChar
    let front := source.take (start + marker.length + name.length)
    let tail := source.drop (start + marker.length + name.length)
    (readAt marker start source = .ok none ↔ name = []) ∧
      (∀ error, readAt marker start source = .error error ↔
        name ≠ [] ∧ Unclosed front tail error) ∧
      (name ≠ [] → (∀ error, ¬Unclosed front tail error) →
        ∃ located, readAt marker start source = .ok (some located)) ∧
      ∀ located, readAt marker start source = .ok (some located) ↔
        name ≠ [] ∧ Spans source marker name start located := by
  intro name front tail
  refine ⟨readAt_eq_none_iff, fun error => readAt_eq_error_iff, ?_,
    fun located => readAt_eq_some_iff occurs⟩
  intro named closed
  cases outcome : readAt marker start source with
  | error error => exact absurd (readAt_eq_error_iff.mp outcome).2 (closed error)
  | ok found =>
      cases found with
      | none => exact absurd (readAt_eq_none_iff.mp outcome) named
      | some located => exact ⟨located, rfl⟩

/-- A list with a quoted parenthesis, a block and a semicolon, behind a marker of two characters. -/
def listAndBlock : Text := "a $$m (')', b)\x7bc\x7d; d".toList

/-- The same without the end of the block. -/
def listAndOpenBlock : Text := "a $$m (')', b)\x7bc".toList

theorem readAt_grammar_listAndBlock :
    Spans listAndBlock ['$', '$'] ['m'] 2
        ⟨⟨['m'], ["')'".toList, " b".toList, ['c']], true⟩, 2, 18⟩ ∧
      Unclosed "a $$m".toList " (')', b)\x7bc".toList (.block 14) := by
  have found : readAt ['$', '$'] 2 listAndBlock =
      .ok (some ⟨⟨['m'], ["')'".toList, " b".toList, ['c']], true⟩, 2, 18⟩) := rfl
  have failed : readAt ['$', '$'] 2 listAndOpenBlock = .error (.block 14) := rfl
  obtain ⟨_, _, _, spans⟩ := readAt_grammar listAndBlock ['$', '$'] 2 ⟨_, rfl⟩
  obtain ⟨_, unclosed, _, _⟩ := readAt_grammar listAndOpenBlock ['$', '$'] 2 ⟨_, rfl⟩
  exact ⟨((spans _).mp found).2, ((unclosed _).mp failed).2⟩

end Source

end Invocation

end Stylesheet
