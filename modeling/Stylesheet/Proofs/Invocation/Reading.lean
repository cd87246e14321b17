import Stylesheet.Invocation

/-!
What reading an invocation can come to, part by part: a list or none, a block or none, a semicolon
or none. What is read does not depend on where the text stands; only the position of an error does.
-/

namespace Stylesheet

/-- The same error in a text that stands `offset` further on. -/
def OpenError.moved (offset : Nat) : OpenError → OpenError
  | list position => list (position + offset)
  | block position => block (position + offset)

namespace Invocation

variable {text : Text} {position : Nat}

/-! The list of arguments -/

theorem listTail_of_list? {more rest : Text} {arguments : List Text}
    (opens : text.dropWhile isGapChar = '(' :: more)
    (listed : list? ('(' :: more) = some (arguments, rest)) :
    listTail position text = .ok ⟨arguments, rest⟩ := by
  simp only [listTail, opens, listed]

theorem listTail_of_unclosed {more : Text} (opens : text.dropWhile isGapChar = '(' :: more)
    (unclosed : list? ('(' :: more) = none) :
    listTail position text = .error (.list (position + (text.length - (more.length + 1)))) := by
  simp only [listTail, opens, unclosed]

theorem listTail_of_none (noList : (text.dropWhile isGapChar).head? ≠ some '(') :
    listTail position text = .ok ⟨[], text⟩ := by
  unfold listTail
  split
  · next more opens => exact absurd (congrArg List.head? opens) noList
  · rfl

/-- What stands where a list can stand. -/
inductive ListAhead (text : Text) : Prop where
  | closed {more rest : Text} {arguments : List Text}
      (opens : text.dropWhile isGapChar = '(' :: more)
      (listed : list? ('(' :: more) = some (arguments, rest))
  | unclosed {more : Text} (opens : text.dropWhile isGapChar = '(' :: more)
      (unclosed : list? ('(' :: more) = none)
  | none (noList : (text.dropWhile isGapChar).head? ≠ some '(')

theorem listAhead (text : Text) : ListAhead text := by
  by_cases opens : (text.dropWhile isGapChar).head? = some '('
  · obtain ⟨more, shape⟩ := List.head?_eq_some_iff.mp opens
    cases listed : list? ('(' :: more) with
    | none => exact .unclosed shape listed
    | some parts => exact .closed shape listed
  · exact .none opens

/-! The block -/

theorem blockTail_of_block? {more block rest : Text}
    (opens : text.dropWhile isGapChar = '{' :: more)
    (closed : block? ('{' :: more) = some (block, rest)) :
    blockTail position text = .ok ⟨[block], rest⟩ := by
  simp only [blockTail, opens, closed]

theorem blockTail_of_unclosed {more : Text} (opens : text.dropWhile isGapChar = '{' :: more)
    (unclosed : block? ('{' :: more) = none) :
    blockTail position text = .error (.block (position + (text.length - (more.length + 1)))) := by
  simp only [blockTail, opens, unclosed]

theorem blockTail_of_gaps (gaps : text.dropWhile isGapChar = []) :
    blockTail position text = .ok ⟨[], []⟩ := by
  simp only [blockTail, gaps]

theorem blockTail_of_none {c : Char} {rest : Text} (visible : text.dropWhile isGapChar = c :: rest)
    (noBlock : c ≠ '{') : blockTail position text = .ok ⟨[], text⟩ := by
  unfold blockTail
  rw [visible]
  split
  · next same => exact absurd (List.cons.inj same).1 noBlock
  · next same => cases same
  · rfl

/-- What stands where a block can stand. -/
inductive BlockAhead (text : Text) : Prop where
  | closed {more block rest : Text} (opens : text.dropWhile isGapChar = '{' :: more)
      (closed : block? ('{' :: more) = some (block, rest))
  | unclosed {more : Text} (opens : text.dropWhile isGapChar = '{' :: more)
      (unclosed : block? ('{' :: more) = none)
  | gaps (gaps : text.dropWhile isGapChar = [])
  | none {c : Char} {rest : Text} (visible : text.dropWhile isGapChar = c :: rest)
      (noBlock : c ≠ '{')

theorem blockAhead (text : Text) : BlockAhead text := by
  cases shape : text.dropWhile isGapChar with
  | nil => exact .gaps shape
  | cons c more =>
      by_cases opens : c = '{'
      · subst opens
        cases closed : block? ('{' :: more) with
        | none => exact .unclosed shape closed
        | some parts => exact .closed shape closed
      · exact .none shape opens

/-! The semicolon -/

/-- The invocation with its semicolon, if one follows, and the text behind it. -/
def ended (name : Text) (arguments : List Text) : Text → Invocation × Text
  | ';' :: rest => (⟨name, arguments, true⟩, rest)
  | rest => (⟨name, arguments, false⟩, rest)

/-! The whole invocation -/

theorem read_of_unnamed (unnamed : text.takeWhile isNameChar = []) :
    read position text = .ok none := by
  simp [read, unnamed]

theorem read_of_named (named : text.takeWhile isNameChar ≠ []) :
    read position text = do
      let list ← listTail (position + (text.takeWhile isNameChar).length)
        (text.dropWhile isNameChar)
      let block ← blockTail (position + (text.length - list.rest.length)) list.rest
      return some
        (ended (text.takeWhile isNameChar) (list.arguments ++ block.arguments) block.rest) := by
  simp only [read, List.isEmpty_iff, named, if_false]
  congr 1
  funext list
  congr 1
  funext block
  obtain ⟨arguments, rest⟩ := block
  cases rest with
  | nil => rfl
  | cons c rest =>
      by_cases semicolon : c = ';'
      · subst semicolon
        rfl
      · simp [ended, semicolon, pure, Except.pure]

/-! Parts of the text -/

theorem suffix_of_run {State : Type} (scanner : Scanner State) {state : State} {text rest : Text}
    {c stopped : Char} (found : (scanner.run state text).rest = stopped :: rest) :
    rest <:+ c :: text := by
  have behind : stopped :: rest <:+ text := found ▸ ⟨_, scanner.before_append_rest state text⟩
  exact ((List.suffix_cons stopped rest).trans behind).trans (List.suffix_cons c text)

theorem suffix_list? {rest : Text} {arguments : List Text}
    (read : list? text = some (arguments, rest)) : rest <:+ text := by
  cases text with
  | nil => cases read
  | cons c text =>
      simp only [list?] at read
      split at read
      · cases read
      · next found =>
        obtain ⟨_, rfl⟩ := Prod.mk.inj (Option.some.inj read)
        exact suffix_of_run listScanner found

theorem suffix_block? {block rest : Text} (read : block? text = some (block, rest)) :
    rest <:+ text := by
  cases text with
  | nil => cases read
  | cons c text =>
      simp only [block?] at read
      split at read
      · cases read
      · next found =>
        obtain ⟨_, rfl⟩ := Prod.mk.inj (Option.some.inj read)
        exact suffix_of_run blockScanner found

theorem suffix_listTail {tail : Tail} (read : listTail position text = .ok tail) :
    tail.rest <:+ text := by
  have dropped := List.dropWhile_suffix isGapChar (l := text)
  cases listAhead text with
  | closed opens listed =>
      rw [listTail_of_list? opens listed] at read
      obtain rfl := Except.ok.inj read
      exact (suffix_list? listed).trans (opens ▸ dropped)
  | unclosed opens unclosed =>
      rw [listTail_of_unclosed opens unclosed] at read
      cases read
  | none noList =>
      rw [listTail_of_none noList] at read
      obtain rfl := Except.ok.inj read
      exact List.suffix_refl text

theorem suffix_blockTail {tail : Tail} (read : blockTail position text = .ok tail) :
    tail.rest <:+ text := by
  have dropped := List.dropWhile_suffix isGapChar (l := text)
  cases blockAhead text with
  | closed opens closed =>
      rw [blockTail_of_block? opens closed] at read
      obtain rfl := Except.ok.inj read
      exact (suffix_block? closed).trans (opens ▸ dropped)
  | unclosed opens unclosed =>
      rw [blockTail_of_unclosed opens unclosed] at read
      cases read
  | gaps gaps =>
      rw [blockTail_of_gaps gaps] at read
      obtain rfl := Except.ok.inj read
      exact List.nil_suffix
  | none visible noBlock =>
      rw [blockTail_of_none visible noBlock] at read
      obtain rfl := Except.ok.inj read
      exact List.suffix_refl text

theorem suffix_ended (name : Text) (arguments : List Text) (text : Text) :
    (ended name arguments text).2 <:+ text := by
  unfold ended
  split
  · exact List.suffix_cons _ _
  · exact List.suffix_refl _

/-- What a reading that finds an invocation is made of. -/
theorem exists_tails_of_read {rest : Text} {invocation : Invocation}
    (found : read position text = .ok (some (invocation, rest))) :
    text.takeWhile isNameChar ≠ [] ∧ ∃ list block,
      listTail (position + (text.takeWhile isNameChar).length) (text.dropWhile isNameChar) =
        .ok list ∧
      blockTail (position + (text.length - list.rest.length)) list.rest = .ok block ∧
      ended (text.takeWhile isNameChar) (list.arguments ++ block.arguments) block.rest =
        (invocation, rest) := by
  by_cases named : text.takeWhile isNameChar = []
  · rw [read_of_unnamed named] at found
    cases found
  · refine ⟨named, ?_⟩
    rw [read_of_named named] at found
    simp only [bind, Except.bind] at found
    split at found
    · cases found
    · next list listed =>
      split at found
      · cases found
      · next block blocked =>
        exact ⟨list, block, listed, blocked, Option.some.inj (Except.ok.inj found)⟩

theorem suffix_read {rest : Text} {invocation : Invocation}
    (found : read position text = .ok (some (invocation, rest))) : rest <:+ text := by
  obtain ⟨_, list, block, listed, blocked, ends⟩ := exists_tails_of_read found
  have last := suffix_ended (text.takeWhile isNameChar) (list.arguments ++ block.arguments) block.rest
  rw [ends] at last
  exact ((last.trans (suffix_blockTail blocked)).trans (suffix_listTail listed)).trans
    (List.dropWhile_suffix isNameChar)

/-! Positions -/

theorem listTail_moved (position offset : Nat) (text : Text) :
    listTail (position + offset) text =
      (listTail position text).mapError (OpenError.moved offset) := by
  cases listAhead text with
  | closed opens listed => rw [listTail_of_list? opens listed, listTail_of_list? opens listed]; rfl
  | unclosed opens unclosed =>
      rw [listTail_of_unclosed opens unclosed, listTail_of_unclosed opens unclosed,
        Nat.add_right_comm]
      rfl
  | none noList => rw [listTail_of_none noList, listTail_of_none noList]; rfl

theorem blockTail_moved (position offset : Nat) (text : Text) :
    blockTail (position + offset) text =
      (blockTail position text).mapError (OpenError.moved offset) := by
  cases blockAhead text with
  | closed opens closed =>
      rw [blockTail_of_block? opens closed, blockTail_of_block? opens closed]; rfl
  | unclosed opens unclosed =>
      rw [blockTail_of_unclosed opens unclosed, blockTail_of_unclosed opens unclosed,
        Nat.add_right_comm]
      rfl
  | gaps gaps => rw [blockTail_of_gaps gaps, blockTail_of_gaps gaps]; rfl
  | none visible noBlock =>
      rw [blockTail_of_none visible noBlock, blockTail_of_none visible noBlock]; rfl

-- Errors can be moved step by step.
theorem bind_mapError {α β : Type} {move : OpenError → OpenError} {first : Except OpenError α}
    {next moved : α → Except OpenError β} (each : ∀ value, moved value = (next value).mapError move) :
    first.mapError move >>= moved = (first >>= next).mapError move := by
  cases first with
  | error error => rfl
  | ok value => exact each value

/-- Where a text stands decides only where its errors are. -/
theorem read_moved (position offset : Nat) (text : Text) :
    read (position + offset) text = (read position text).mapError (OpenError.moved offset) := by
  by_cases named : text.takeWhile isNameChar = []
  · rw [read_of_unnamed named, read_of_unnamed named]
    rfl
  · rw [read_of_named named, read_of_named named, Nat.add_right_comm, listTail_moved]
    apply bind_mapError
    intro list
    rw [Nat.add_right_comm, blockTail_moved]
    apply bind_mapError
    intro block
    rfl

end Invocation

end Stylesheet
