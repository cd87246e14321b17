import Stylesheet.Expander.Invoke

/-!
Clean texts: every marker in them has a name behind it. Text that is cut out of a clean text stays
clean as long as no cut goes between a marker and its name, and an invocation is cut only at
brackets, commas, quotes, blanks and semicolons, none of which a name can start with.
-/

namespace Stylesheet

/-- Every occurrence of the marker is followed at once by a character of a name. -/
def Text.Clean (text : Text) : Prop :=
  ∀ before after, text = before ++ Marker.standard.text ++ after →
    ∃ c rest, after = c :: rest ∧ isNameChar c = true

namespace Text

theorem clean_nil : Clean [] := by
  intro before after same
  simp [Marker.standard] at same

theorem clean_cons_iff (c : Char) (text : Text) :
    Clean (c :: text) ↔
      (c = '¤' → ∃ d rest, text = d :: rest ∧ isNameChar d = true) ∧ Clean text := by
  constructor
  · intro clean
    constructor
    · intro marked
      exact clean [] text (by simp [marked, Marker.standard])
    · intro before after same
      exact clean (c :: before) after (by simp [same])
  · rintro ⟨named, clean⟩ before after same
    cases before with
    | nil =>
        simp only [Marker.standard, List.nil_append, List.cons_append, List.cons.injEq] at same
        exact same.2 ▸ named same.1
    | cons d before =>
        simp only [List.cons_append, List.cons.injEq] at same
        exact clean before after same.2

def isClean : Text → Bool
  | [] => true
  | c :: text => (c != '¤' || text.head?.any isNameChar) && isClean text

theorem isClean_iff (text : Text) : isClean text = true ↔ Clean text := by
  induction text with
  | nil => simp [isClean, clean_nil]
  | cons c text ih =>
      rw [clean_cons_iff, ← ih]
      cases text with
      | nil => simp [isClean]
      | cons d text => by_cases marked : c = '¤' <;> simp [isClean, marked]

instance (text : Text) : Decidable (Clean text) := decidable_of_iff _ (isClean_iff text)

theorem clean_append {left right : Text} (first : Clean left) (second : Clean right) :
    Clean (left ++ right) := by
  induction left with
  | nil => exact second
  | cons c left ih =>
      obtain ⟨named, clean⟩ := (clean_cons_iff c left).mp first
      apply (clean_cons_iff c (left ++ right)).mpr
      refine ⟨fun marked => ?_, ih clean⟩
      obtain ⟨d, rest, same, isName⟩ := named marked
      exact ⟨d, rest ++ right, by simp [same], isName⟩

theorem clean_of_append {left right : Text} (clean : Clean (left ++ right)) : Clean right := by
  induction left with
  | nil => exact clean
  | cons c left ih => exact ih ((clean_cons_iff c (left ++ right)).mp clean).2

theorem clean_of_suffix {text whole : Text} (suffix : text <:+ whole) (clean : Clean whole) :
    Clean text := by
  obtain ⟨left, rfl⟩ := suffix
  exact clean_of_append clean

/-- A cut is safe in front of any character that no name can start with. -/
theorem clean_before {left right : Text} {c : Char} (clean : Clean (left ++ c :: right))
    (apart : isNameChar c = false) : Clean left := by
  induction left with
  | nil => exact clean_nil
  | cons d left ih =>
      obtain ⟨named, later⟩ := (clean_cons_iff d (left ++ c :: right)).mp clean
      refine (clean_cons_iff d left).mpr ⟨fun marked => ?_, ih later⟩
      obtain ⟨e, rest, same, isName⟩ := named marked
      cases left with
      | nil =>
          obtain ⟨rfl, -⟩ := List.cons.inj same
          simp [apart] at isName
      | cons f left =>
          obtain ⟨rfl, -⟩ := List.cons.inj same
          exact ⟨f, left, rfl, isName⟩

theorem clean_of_unmarked {text : Text} (unmarked : '¤' ∉ text) : Clean text := by
  rintro before after rfl
  simp [Marker.standard] at unmarked

theorem clean_flatten {texts : List Text} (clean : ∀ text ∈ texts, Clean text) :
    Clean texts.flatten := by
  induction texts with
  | nil => exact clean_nil
  | cons text texts ih =>
      exact clean_append (clean text List.mem_cons_self)
        (ih fun other member => clean other (List.mem_cons_of_mem text member))

theorem clean_intercalate {separator : Text} {texts : List Text} (between : Clean separator)
    (clean : ∀ text ∈ texts, Clean text) : Clean (List.intercalate separator texts) :=
  intercalate_closed clean_nil (fun _ _ => clean_append) between clean

/-! Blanks -/

theorem not_isNameChar_of_isBlank {c : Char} (blank : isBlank c = true) : isNameChar c = false := by
  have spelled : isNameChar c =
      (decide (c.val ≥ 'A'.val ∧ c.val ≤ 'Z'.val) || decide (c.val ≥ 'a'.val) &&
        decide (c.val ≤ 'z'.val) || decide (c.val ≥ '0'.val) && decide (c.val ≤ '9'.val) ||
          c == '_') := rfl
  simp only [isBlank, blankRanges, CharRanges.contains, List.any_cons, List.any_nil, Bool.or_false,
    Bool.or_eq_true, Bool.and_eq_true, decide_eq_true_eq] at blank
  simp only [spelled, Bool.or_eq_false_iff, Bool.and_eq_false_iff, decide_eq_false_iff_not,
    ge_iff_le, UInt32.le_iff_toNat_le, beq_eq_false_iff_ne]
  refine ⟨⟨⟨?_, ?_⟩, ?_⟩, ?_⟩
  · simp
    omega
  · simp
    omega
  · simp
    omega
  · rintro rfl
    simp at blank

theorem clean_trimEnd {text : Text} (clean : Clean text) : Clean text.trimEnd := by
  obtain ⟨blanks, whole, allBlank⟩ := exists_trimEnd_append text
  rw [← whole] at clean
  cases blanks with
  | nil => simpa using clean
  | cons c blanks =>
      exact clean_before clean (not_isNameChar_of_isBlank (allBlank c List.mem_cons_self))

theorem clean_trim {text : Text} (clean : Clean text) : Clean text.trim :=
  clean_trimEnd (clean_of_suffix (List.dropWhile_suffix isBlank) clean)

end Text

theorem clean_bareArgument {argument : Text} (clean : argument.Clean) :
    (bareArgument argument).Clean := by
  have trimmed := Text.clean_trim clean
  unfold bareArgument
  cases shape : argument.trim with
  | nil => exact Text.clean_nil
  | cons c rest =>
      rw [shape] at trimmed
      by_cases quoted : (isArgumentQuote c && rest.getLast? == some c) = true
      · simp only [quoted, if_true]
        simp only [Bool.and_eq_true, beq_iff_eq] at quoted
        have apart : isNameChar c = false := by
          have isQuote := quoted.1
          simp only [isArgumentQuote, Bool.or_eq_true, beq_iff_eq] at isQuote
          rcases isQuote with (rfl | rfl) | rfl <;> decide
        have inner := ((Text.clean_cons_iff c rest).mp trimmed).2
        obtain ⟨front, rfl⟩ := List.getLast?_eq_some_iff.mp quoted.2
        rw [List.dropLast_concat]
        exact Text.clean_before inner apart
      · simp only [quoted]
        exact trimmed

namespace Invocation

/-- The pieces of a clean text are clean when the scanner stops only in front of characters that no
name can start with. -/
theorem clean_pieces {State : Type} (scanner : Scanner State)
    (apart : ∀ state c, scanner.stop state c = true → isNameChar c = false) (state : State)
    (text : Text) (clean : text.Clean) : ∀ piece ∈ scanner.pieces state text, piece.Clean := by
  induction size : text.length using Nat.strongRecOn generalizing state text with
  | ind n ih =>
      intro piece member
      have whole := scanner.before_append_rest state text
      rw [scanner.pieces_eq_run] at member
      cases found : (scanner.run state text).rest with
      | nil =>
          rw [found, List.append_nil] at whole
          simp only [found, List.mem_singleton] at member
          rwa [member, whole]
      | cons c rest =>
          rw [found] at whole
          rw [← whole] at clean
          simp only [found, List.mem_cons] at member
          rcases member with rfl | later
          · exact Text.clean_before clean (apart _ c (scanner.stop_of_rest found))
          · have shorter : rest.length < n := by
              rw [← size, ← whole, List.length_append, List.length_cons]
              omega
            have behind := ((Text.clean_cons_iff c rest).mp (Text.clean_of_append clean)).2
            exact ih rest.length shorter _ rest behind rfl piece later

theorem mem_of_mem_dropBlank {arguments : List Text} {argument : Text}
    (member : argument ∈ dropBlank arguments) : argument ∈ arguments := by
  unfold dropBlank at member
  split at member
  · split at member
    · exact absurd member List.not_mem_nil
    · exact member
  · exact member

/-- What is read from a clean text: clean arguments, and a clean text behind them. -/
structure Parts (arguments : List Text) (rest : Text) : Prop where
  arguments : ∀ argument ∈ arguments, argument.Clean
  rest : rest.Clean

/-- What a scan passes and what follows the character that stops it are both clean. -/
theorem clean_run {State : Type} (scanner : Scanner State)
    (apart : ∀ state c, scanner.stop state c = true → isNameChar c = false) {state : State}
    {text rest : Text} {c : Char} (clean : text.Clean)
    (found : (scanner.run state text).rest = c :: rest) :
    (scanner.run state text).before.Clean ∧ rest.Clean := by
  have whole := scanner.before_append_rest state text
  rw [found] at whole
  rw [← whole] at clean
  exact ⟨Text.clean_before clean (apart _ c (scanner.stop_of_rest found)),
    ((Text.clean_cons_iff c rest).mp (Text.clean_of_append clean)).2⟩

theorem listScanner_apart (state : ListState) (c : Char) (stops : listScanner.stop state c = true) :
    isNameChar c = false := by
  simp only [listScanner, Bool.and_eq_true, beq_iff_eq] at stops
  rw [stops.2]
  decide

theorem argumentScanner_apart (state : ListState) (c : Char)
    (stops : argumentScanner.stop state c = true) : isNameChar c = false := by
  simp only [argumentScanner, Bool.and_eq_true, beq_iff_eq] at stops
  rw [stops.2]
  decide

theorem blockScanner_apart (depth : Int) (c : Char) (stops : blockScanner.stop depth c = true) :
    isNameChar c = false := by
  simp only [blockScanner, Bool.and_eq_true, beq_iff_eq] at stops
  rw [stops.2]
  decide

theorem parts_list? {text rest : Text} {arguments : List Text} (clean : text.Clean)
    (read : list? text = some (arguments, rest)) : Parts arguments rest := by
  cases text with
  | nil => simp [list?] at read
  | cons c text =>
      have inner := ((Text.clean_cons_iff c text).mp clean).2
      simp only [list?] at read
      split at read
      · simp at read
      · next stopped remaining found =>
        simp only [Option.some.injEq, Prod.mk.injEq] at read
        obtain ⟨rfl, rfl⟩ := read
        obtain ⟨passed, behind⟩ := clean_run listScanner listScanner_apart inner found
        refine ⟨fun argument member => ?_, behind⟩
        exact clean_pieces argumentScanner argumentScanner_apart _ _ passed argument
          (mem_of_mem_dropBlank member)

theorem parts_block? {text block rest : Text} (clean : text.Clean)
    (read : block? text = some (block, rest)) : Parts [block] rest := by
  cases text with
  | nil => simp [block?] at read
  | cons c text =>
      have inner := ((Text.clean_cons_iff c text).mp clean).2
      simp only [block?] at read
      split at read
      · simp at read
      · next stopped remaining found =>
        simp only [Option.some.injEq, Prod.mk.injEq] at read
        obtain ⟨rfl, rfl⟩ := read
        obtain ⟨passed, behind⟩ := clean_run blockScanner blockScanner_apart inner found
        exact ⟨fun argument member => List.mem_singleton.mp member ▸ passed, behind⟩

theorem parts_none {text : Text} (clean : text.Clean) : Parts [] text :=
  ⟨fun _ member => absurd member List.not_mem_nil, clean⟩

theorem parts_listTail {position : Nat} {text : Text} {tail : Tail} (clean : text.Clean)
    (read : listTail position text = .ok tail) : Parts tail.arguments tail.rest := by
  have dropped := Text.clean_of_suffix (List.dropWhile_suffix isGapChar) clean
  unfold listTail at read
  split at read
  · next more opens =>
    rw [opens] at dropped
    split at read
    · next arguments rest listed =>
      obtain rfl := Except.ok.inj read
      exact parts_list? dropped listed
    · cases read
  · obtain rfl := Except.ok.inj read
    exact parts_none clean

theorem parts_blockTail {position : Nat} {text : Text} {tail : Tail} (clean : text.Clean)
    (read : blockTail position text = .ok tail) : Parts tail.arguments tail.rest := by
  have dropped := Text.clean_of_suffix (List.dropWhile_suffix isGapChar) clean
  unfold blockTail at read
  split at read
  · next more opens =>
    rw [opens] at dropped
    split at read
    · next block rest listed =>
      obtain rfl := Except.ok.inj read
      exact parts_block? dropped listed
    · cases read
  · obtain rfl := Except.ok.inj read
    exact parts_none Text.clean_nil
  · obtain rfl := Except.ok.inj read
    exact parts_none clean

/-- An invocation that is read from a clean text has clean arguments and leaves a clean text. -/
theorem parts_read {position : Nat} {text rest : Text} {invocation : Invocation}
    (clean : text.Clean) (found : read position text = .ok (some (invocation, rest))) :
    Parts invocation.arguments rest := by
  have named := Text.clean_of_suffix (List.dropWhile_suffix isNameChar) clean
  simp only [read] at found
  split at found
  · simp at found
  · simp only [bind, Except.bind] at found
    split at found
    · cases found
    · next list listed =>
      have first := parts_listTail named listed
      split at found
      · cases found
      · next block blocked =>
        have second := parts_blockTail first.rest blocked
        have arguments : ∀ argument ∈ list.arguments ++ block.arguments, argument.Clean := by
          intro argument member
          rcases List.mem_append.mp member with early | late
          · exact first.arguments argument early
          · exact second.arguments argument late
        split at found
        · next behind ended =>
          obtain ⟨rfl, rfl⟩ := Prod.mk.inj (Option.some.inj (Except.ok.inj found))
          have last := second.rest
          rw [ended] at last
          exact ⟨arguments, ((Text.clean_cons_iff _ _).mp last).2⟩
        · obtain ⟨rfl, rfl⟩ := Prod.mk.inj (Option.some.inj (Except.ok.inj found))
          exact ⟨arguments, second.rest⟩

theorem behind?_standard (c : Char) (text : Text) :
    behind? Marker.standard.text none (c :: text) = if c = '¤' then some text else none := by
  by_cases same : c = '¤'
  · simp [behind?, Marker.standard, Text.after?, isNamed, same]
  · simp [behind?, Marker.standard, Text.after?, same, Ne.symm same]

theorem unmarked_of_find?_none {text : Text}
    (absent : find? Marker.standard.text none text = none) : '¤' ∉ text := by
  induction text with
  | nil => exact List.not_mem_nil
  | cons c text ih =>
      rw [find?, behind?_standard] at absent
      by_cases same : c = '¤'
      · simp [same] at absent
      · simp only [same, if_false, Option.map_eq_none_iff] at absent
        simp [Ne.symm same, ih absent]

theorem find?_none_of_unmarked {text : Text} (unmarked : '¤' ∉ text) (name : Option Text) :
    find? Marker.standard.text name text = none := by
  cases found : find? Marker.standard.text name text with
  | none => rfl
  | some parts =>
      rw [eq_of_find? found] at unmarked
      simp [Marker.standard] at unmarked

-- Nothing that is searched for starts in a front without a marker, whatever name is wanted.
theorem behind?_of_unmarked {front : Text} {name : Option Text} (unmarked : '¤' ∉ front)
    (rest : Text) :
    ∀ i < front.length, behind? Marker.standard.text name ((front ++ rest).drop i) = none := by
  intro i bounded
  have other : '¤' ≠ front[i] := fun same => unmarked (same ▸ List.getElem_mem bounded)
  rw [List.drop_append_of_le_length (Nat.le_of_lt bounded), List.drop_eq_getElem_cons bounded,
    List.cons_append]
  simp [behind?, Marker.standard, Text.after?, other]

theorem unmarked_before_find? {text before behind : Text}
    (found : find? Marker.standard.text none text = some (before, behind)) : '¤' ∉ before := by
  induction text generalizing before with
  | nil => simp [find?, behind?, Marker.standard, Text.after?] at found
  | cons c text ih =>
      rw [find?, behind?_standard] at found
      by_cases same : c = '¤'
      · simp only [same, if_true, Option.some.injEq, Prod.mk.injEq] at found
        simp [← found.1]
      · simp only [same, if_false, Option.map_eq_some_iff] at found
        obtain ⟨⟨first, second⟩, later, equal⟩ := found
        obtain ⟨rfl, rfl⟩ := Prod.mk.inj equal
        simp [Ne.symm same, ih later]

/-- Behind a character of a name there is always an invocation to read. -/
theorem read_ne_none {position : Nat} {c : Char} {text : Text} (isName : isNameChar c = true) :
    read position (c :: text) ≠ .ok none := by
  intro plain
  have named : ((c :: text).takeWhile isNameChar).isEmpty = false := by simp [isName]
  simp only [read, named, Bool.false_eq_true, if_false, bind, Except.bind] at plain
  split at plain
  · cases plain
  · split at plain
    · cases plain
    · split at plain <;> cases plain

end Invocation

end Stylesheet
