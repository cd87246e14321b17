import Stylesheet.Proofs.Invocation.Bracket

/-!
Splitting undoes joining. A list between parentheses is its parts with commas between them, where
each part closes its quotes and its parentheses and has no comma outside both. No text is such a
list in two ways, and in a source no two such lists open at the same place. So the reader has no
choice: it returns the parts of the list that opens at a position, or an error with that position if
none does.
-/

namespace Stylesheet

/-- The parts of a text between its commas outside quotes and parentheses. -/
structure Text.SplitsInto (text : Text) (parts : List Text) : Prop where
  filled : parts ≠ []
  fits : ∀ part ∈ parts, part.IsArgument
  joined : text = List.intercalate [','] parts

namespace Invocation

/-! One text -/

section Texts

variable {text : Text} {parts others : List Text}

theorem pieces_of_splitsInto (splits : text.SplitsInto parts) :
    argumentScanner.pieces .opened text = parts := by
  obtain ⟨part, parts, rfl⟩ := List.exists_cons_of_ne_nil splits.filled
  rw [splits.joined]
  exact pieces_joined splits.fits

theorem splitsInto_unique (first : text.SplitsInto parts) (second : text.SplitsInto others) :
    parts = others :=
  (pieces_of_splitsInto first).symm.trans (pieces_of_splitsInto second)

/-- What has parts is what can stand between parentheses. -/
theorem exists_splitsInto_iff : (∃ parts, text.SplitsInto parts) ↔ text.ClosesList := by
  constructor
  · rintro ⟨parts, filled, fits, rfl⟩
    obtain ⟨part, parts, rfl⟩ := List.exists_cons_of_ne_nil filled
    obtain ⟨escaped, crosses⟩ := crosses_list_of_joined fits
    exact closesList_of_crosses crosses rfl
  · intro closes
    exact ⟨argumentScanner.pieces .opened text, pieces_filled _ _, isArgument_pieces closes,
      (intercalate_pieces _ _).symm⟩

end Texts

/-! The list at a position of a source -/

/-- A list with these parts opens at `start` and ends right before `stop`. -/
structure ListSpan (source : Text) (start stop : Nat) (parts : List Text) : Prop where
  stop_le : stop ≤ source.length
  span : ∃ inner : Text, (source.drop start).take (stop - start) = '(' :: inner ++ [')'] ∧
    inner.SplitsInto parts

/-- The arguments in a list with these parts: none if there is nothing in it but blanks. -/
inductive Gives : (parts arguments : List Text) → Prop where
  | nothing {part : Text} (blank : ∀ c ∈ part, isBlank c = true) : Gives [part] []
  | parts {parts : List Text}
      (visible : ∀ part, parts = [part] → ∃ c ∈ part, isBlank c = false) : Gives parts parts

section Source

variable {source : Text} {start stop : Nat} {parts arguments : List Text}

theorem gives_iff : Gives parts arguments ↔ arguments = dropBlank parts := by
  have blank_iff : ∀ part : Text, part.isBlankText = true ↔ ∀ c ∈ part, isBlank c = true :=
    fun part => List.all_eq_true
  constructor
  · rintro (blank | visible)
    · exact (if_pos ((blank_iff _).mpr blank)).symm
    · unfold dropBlank
      split
      · next part =>
        obtain ⟨c, member, shown⟩ := visible part rfl
        refine (if_neg fun blank => ?_).symm
        exact absurd ((blank_iff part).mp blank c member) (Bool.eq_false_iff.mp shown)
      · rfl
  · rintro rfl
    unfold dropBlank
    split
    · next part =>
      split
      · next blank => exact .nothing ((blank_iff part).mp blank)
      · next shown =>
        refine .parts fun other same => ?_
        obtain rfl := (List.cons.inj same).1
        rw [blank_iff] at shown
        push Not at shown
        simpa using shown
    · next several => exact .parts fun part same => absurd same (several part)

theorem drop_of_listSpan (listed : ListSpan source start stop parts) :
    ∃ inner : Text, source.drop start = '(' :: (inner ++ ')' :: source.drop stop) ∧
      inner.SplitsInto parts := by
  obtain ⟨inner, span, splits⟩ := listed.span
  have long := congrArg List.length span
  rw [List.length_take, List.length_append, List.length_cons] at long
  have reached : start + (stop - start) = stop := by omega
  have whole := List.take_append_drop (stop - start) (source.drop start)
  rw [span, List.drop_drop, reached] at whole
  exact ⟨inner, by simp [← whole], splits⟩

theorem list?_of_listSpan (listed : ListSpan source start stop parts) :
    list? (source.drop start) = some (dropBlank parts, source.drop stop) := by
  obtain ⟨inner, whole, splits⟩ := drop_of_listSpan listed
  rw [whole, list?_eq_some_iff]
  exact ⟨parts, splits.filled, splits.fits, by rw [splits.joined], rfl⟩

theorem listAt_of_listSpan (listed : ListSpan source start stop parts) :
    listAt start source = .ok (dropBlank parts, stop) := by
  have bounded := listed.stop_le
  have ends : source.length - (source.drop stop).length = stop := by
    rw [List.length_drop]
    omega
  simp only [listAt, list?_of_listSpan listed, ends]

theorem exists_listSpan (opens : source[start]? = some '(')
    (read : listAt start source = .ok (arguments, stop)) :
    ∃ parts, ListSpan source start stop parts ∧ arguments = dropBlank parts := by
  obtain ⟨bounded, first⟩ := List.getElem?_eq_some_iff.mp opens
  have whole : source.drop start = '(' :: source.drop (start + 1) := by
    rw [List.drop_eq_getElem_cons bounded, first]
  cases listed : list? (source.drop start) with
  | none =>
      simp only [listAt, listed] at read
      cases read
  | some found =>
      obtain ⟨given, rest⟩ := found
      simp only [listAt, listed, Except.ok.injEq, Prod.mk.injEq] at read
      obtain ⟨rfl, rfl⟩ := read
      rw [whole, list?_eq_some_iff] at listed
      obtain ⟨parts, filled, fits, behind, rfl⟩ := listed
      refine ⟨parts, ⟨Nat.sub_le _ _, List.intercalate [','] parts, ?_, filled, fits, rfl⟩, rfl⟩
      have span : source.drop start = ('(' :: List.intercalate [','] parts ++ [')']) ++ rest := by
        simp [whole, behind]
      have lengths := congrArg List.length span
      rw [List.length_drop, List.length_append] at lengths
      have size : source.length - rest.length - start =
          ('(' :: List.intercalate [','] parts ++ [')']).length := by
        omega
      rw [size, span, List.take_left]

theorem listSpan_unique {other : Nat} {others : List Text}
    (first : ListSpan source start stop parts) (second : ListSpan source start other others) :
    stop = other ∧ parts = others := by
  have ends := (listAt_of_listSpan first).symm.trans (listAt_of_listSpan second)
  obtain ⟨_, rfl⟩ := Prod.mk.inj (Except.ok.inj ends)
  refine ⟨rfl, ?_⟩
  obtain ⟨inner, whole, splits⟩ := drop_of_listSpan first
  obtain ⟨same, again, splitsAgain⟩ := drop_of_listSpan second
  have equal := (List.cons.inj (whole.symm.trans again)).2
  obtain rfl := List.append_cancel_right equal
  exact splitsInto_unique splits splitsAgain

end Source

/-- Reading a list from its opening parenthesis gives the parts that were joined to write it. The
list and its parts are the only ones that open there, and where there is none the reader fails with
the position of the parenthesis. -/
theorem listAt_joined (source : Text) (start : Nat) (opens : source[start]? = some '(') :
    (∀ arguments stop, listAt start source = .ok (arguments, stop) ↔
        ∃ parts, ListSpan source start stop parts ∧ Gives parts arguments) ∧
      (∀ first second parts others, ListSpan source start first parts →
        ListSpan source start second others → first = second ∧ parts = others) ∧
      ((∀ stop parts, ¬ListSpan source start stop parts) →
        listAt start source = .error (.list start)) := by
  refine ⟨?_, fun _ _ _ _ => listSpan_unique, ?_⟩
  · intro arguments stop
    simp only [gives_iff]
    constructor
    · exact exists_listSpan opens
    · rintro ⟨parts, listed, rfl⟩
      exact listAt_of_listSpan listed
  · intro never
    cases read : listAt start source with
    | ok found =>
        obtain ⟨parts, listed, _⟩ := exists_listSpan opens read
        exact absurd listed (never _ parts)
    | error error =>
        simp only [listAt] at read
        split at read
        · cases read
        · exact congrArg _ (Except.error.inj read).symm

/-- A comma and a parenthesis in quotes, a list in the list, and a quote behind a backslash. -/
def crowdedList : Text := "f(',)', (a, b) \\\", c) d".toList

def quotedEnd : Text := "f(a, ')".toList

theorem listAt_joined_crowdedList :
    (∃ parts, ListSpan crowdedList 1 21 parts ∧
        Gives parts ["',)'".toList, " (a, b) \\\"".toList, " c".toList]) ∧
      ∀ stop parts, ¬ListSpan quotedEnd 1 stop parts := by
  have read : listAt 1 crowdedList =
      .ok (["',)'".toList, " (a, b) \\\"".toList, " c".toList], 21) := rfl
  have failed : listAt 1 quotedEnd = .error (.list 1) := rfl
  refine ⟨((listAt_joined crowdedList 1 rfl).1 _ _).mp read, ?_⟩
  intro stop parts listed
  have returned := ((listAt_joined quotedEnd 1 rfl).1 _ stop).mpr ⟨parts, listed, gives_iff.mpr rfl⟩
  cases failed.symm.trans returned

end Invocation

end Stylesheet
