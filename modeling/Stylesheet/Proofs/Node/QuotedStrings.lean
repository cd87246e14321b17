import Stylesheet.Proofs.Node.BareText

/-!
The quoted strings of a text, quotes included. A text that closes its quotes adds its strings to
those of the text behind it, and blanks around it add none. Moving a text in by a tab moves each
line of its strings in, and changes nothing else about them.
-/

namespace Stylesheet

namespace Quoting

/-- Puts a character at the head of the first string. -/
def extend (c : Char) : List Text → List Text
  | [] => [[c]]
  | first :: later => (c :: first) :: later

/-- The quoted strings of a text that starts in this state. Inside quotes the first of them is what
is left of the string that is open, and the last one may lack its end. -/
def strings : Quoting → Text → List Text
  | _, [] => []
  | state, c :: text =>
    if state.next c ≠ .outside then extend c (strings (state.next c) text)
    else if state = .outside then strings .outside text
    else [c] :: strings .outside text

section Strings

variable {state : Quoting} {c : Char} {text : Text}

theorem strings_cons_inside (inner : state.next c ≠ .outside) :
    state.strings (c :: text) = extend c ((state.next c).strings text) := by
  simp [strings, inner]

theorem strings_cons_outside (stays : outside.next c = .outside) :
    outside.strings (c :: text) = outside.strings text := by
  simp [strings, stays]

theorem strings_cons_end (inside : state ≠ .outside) (closes : state.next c = .outside) :
    state.strings (c :: text) = [c] :: outside.strings text := by
  simp [strings, closes, inside]

theorem extend_filled (c : Char) (texts : List Text) : extend c texts ≠ [] := by
  cases texts <;> simp [extend]

theorem strings_filled (inside : state ≠ .outside) (closes : state.after text = .outside) :
    state.strings text ≠ [] := by
  cases text with
  | nil => exact absurd closes inside
  | cons c text =>
      by_cases ended : state.next c = .outside
      · rw [strings_cons_end inside ended]
        exact List.cons_ne_nil _ _
      · rw [strings_cons_inside ended]
        exact extend_filled c _

theorem strings_append {left : Text} (closes : state.after left = .outside) (right : Text) :
    state.strings (left ++ right) = state.strings left ++ outside.strings right := by
  induction left generalizing state with
  | nil =>
      obtain rfl : state = .outside := closes
      rfl
  | cons c left ih =>
      have later := ih closes
      rw [List.cons_append]
      by_cases outer : state.next c = .outside
      · rw [outer] at later
        by_cases before : state = .outside
        · subst before
          rw [strings_cons_outside outer, strings_cons_outside outer, later]
        · rw [strings_cons_end before outer, strings_cons_end before outer, later, List.cons_append]
      · -- the string that is open here ends on the left
        obtain ⟨first, others, found⟩ := List.exists_cons_of_ne_nil (strings_filled outer closes)
        rw [strings_cons_inside outer, strings_cons_inside outer, later, found]
        rfl

theorem strings_of_plain (plain : ∀ c ∈ text, isQuote c = false) : outside.strings text = [] := by
  induction text with
  | nil => rfl
  | cons c text ih =>
      have stays : outside.next c = .outside := by simp [next, plain c List.mem_cons_self]
      rw [strings_cons_outside stays]
      exact ih fun d member => plain d (List.mem_cons_of_mem c member)

end Strings

end Quoting

namespace Text

/-- The quoted strings of a text from left to right. -/
def strings (text : Text) : List Text := Quoting.outside.strings text

theorem strings_append {left : Text} (closes : Quoting.outside.after left = .outside)
    (right : Text) : strings (left ++ right) = left.strings ++ right.strings :=
  Quoting.strings_append closes right

/-- Moves every line but the first in by a tab. -/
def moveIn (text : Text) : Text := text.replaceChar '\n' ['\n', '\t']

theorem moveIn_feed (text : Text) : moveIn ('\n' :: text) = '\n' :: '\t' :: moveIn text := rfl

theorem moveIn_cons {c : Char} (other : c ≠ '\n') (text : Text) :
    moveIn (c :: text) = c :: moveIn text := by
  simp [moveIn, replaceChar_cons, other]

end Text

namespace Quoting

open Text

variable {state : Quoting}

-- The tab behind a line feed is like a line feed that nothing protects.
theorem next_feed_tab (opened : state.Opened) : (state.next '\n').next '\t' = state.next '\n' := by
  cases state with
  | outside => rfl
  | inside quote escaped =>
      have feed : '\n' ≠ quote := by
        rintro rfl
        cases opened
      have tab : '\t' ≠ quote := by
        rintro rfl
        cases opened
      cases escaped <;> simp [next, feed, tab]

theorem after_moveIn (opened : state.Opened) (text : Text) :
    state.after text.moveIn = state.after text := by
  induction text generalizing state with
  | nil => rfl
  | cons c text ih =>
      have later := ih (opened_next opened c)
      by_cases feed : c = '\n'
      · subst feed
        rw [moveIn_feed, after_cons, after_cons, next_feed_tab opened, later, after_cons]
      · rw [moveIn_cons feed, after_cons, later, after_cons]

theorem map_moveIn_extend {c : Char} (other : c ≠ '\n') (texts : List Text) :
    (extend c texts).map moveIn = extend c (texts.map moveIn) := by
  cases texts with
  | nil => simp [extend, moveIn, replaceChar, other]
  | cons first later => simp [extend, moveIn_cons other]

theorem map_moveIn_extend_feed (texts : List Text) :
    (extend '\n' texts).map moveIn = extend '\n' (extend '\t' (texts.map moveIn)) := by
  cases texts <;> rfl

theorem strings_moveIn (opened : state.Opened) (text : Text) :
    state.strings text.moveIn = (state.strings text).map moveIn := by
  induction text generalizing state with
  | nil => rfl
  | cons c text ih =>
      have later := ih (opened_next opened c)
      by_cases feed : c = '\n'
      · subst feed
        have stays := next_feed_tab opened
        rw [moveIn_feed]
        by_cases outer : state.next '\n' = .outside
        · obtain rfl := outside_of_next opened rfl outer
          rw [strings_cons_outside rfl, strings_cons_outside rfl, strings_cons_outside rfl]
          exact later
        · have inner : (state.next '\n').next '\t' ≠ .outside := by rwa [stays]
          rw [strings_cons_inside outer, strings_cons_inside inner, stays, later,
            strings_cons_inside outer, map_moveIn_extend_feed]
      · rw [moveIn_cons feed]
        by_cases outer : state.next c = .outside
        · rw [outer] at later
          by_cases before : state = .outside
          · subst before
            rw [strings_cons_outside outer, strings_cons_outside outer, later]
          · rw [strings_cons_end before outer, strings_cons_end before outer, later, List.map_cons,
              moveIn_cons feed]
            rfl
        · rw [strings_cons_inside outer, strings_cons_inside outer, later, map_moveIn_extend feed]

end Quoting

namespace Text

/-- The text closes its quotes, and these are its quoted strings. -/
structure Quotes (text : Text) (found : List Text) : Prop where
  closes : Quoting.outside.after text = .outside
  strings : text.strings = found

section Quotes

variable {text left right : Text} {found more : List Text}

theorem Quotes.append (first : left.Quotes found) (second : right.Quotes more) :
    Quotes (left ++ right) (found ++ more) := by
  refine ⟨?_, ?_⟩
  · rw [Quoting.after_append, first.closes, second.closes]
  · rw [strings_append first.closes, first.strings, second.strings]

theorem quotes_of_closes (closes : Quoting.outside.after text = .outside) :
    text.Quotes text.strings := ⟨closes, rfl⟩

theorem quotes_of_plain (plain : ∀ c ∈ text, Quoting.isQuote c = false) : text.Quotes [] :=
  ⟨after_of_plain plain, Quoting.strings_of_plain plain⟩

theorem quotes_of_blank (allBlank : ∀ c ∈ text, isBlank c = true) : text.Quotes [] :=
  quotes_of_plain fun c member => isQuote_of_isBlank (allBlank c member)

theorem Quotes.moveIn (quotes : text.Quotes found) : text.moveIn.Quotes (found.map Text.moveIn) := by
  refine ⟨?_, ?_⟩
  · rw [Quoting.after_moveIn Quoting.opened_outside, quotes.closes]
  · rw [← quotes.strings]
    exact Quoting.strings_moveIn Quoting.opened_outside text

theorem quotes_intercalate {separator : Text} (between : separator.Quotes []) {texts : List Text}
    (closes : ∀ text ∈ texts, Quoting.outside.after text = .outside) :
    Quotes (List.intercalate separator texts) (texts.flatMap Text.strings) := by
  induction texts with
  | nil => exact ⟨rfl, rfl⟩
  | cons text texts ih =>
      obtain ⟨first, others⟩ := List.forall_mem_cons.mp closes
      have later := ih others
      cases texts with
      | nil =>
          rw [List.intercalate_singleton]
          simpa using quotes_of_closes first
      | cons next texts =>
          rw [List.intercalate_cons_cons, List.flatMap_cons]
          have joined := ((quotes_of_closes first).append between).append later
          rwa [List.append_nil] at joined

/-- A text cut at a character outside quotes. -/
theorem quotes_split {before rest : Text} {c : Char}
    (quotes : Quoting.outside.after before = .outside) (plain : Quoting.isQuote c = false)
    (closes : Quoting.outside.after (before ++ c :: rest) = .outside) :
    Quoting.outside.after rest = .outside ∧
      strings (before ++ c :: rest) = before.strings ++ rest.strings := by
  have stays : Quoting.outside.next c = .outside := by simp [Quoting.next, plain]
  rw [Quoting.after_append, quotes, Quoting.after_cons, stays] at closes
  refine ⟨closes, ?_⟩
  rw [strings_append quotes]
  exact congrArg (before.strings ++ ·) (Quoting.strings_cons_outside stays)

/-! Blanks around a text -/

theorem strings_trimStart (text : Text) : text.trimStart.strings = text.strings := by
  obtain ⟨blanks, whole, allBlank⟩ := exists_append_trimStart text
  have before := quotes_of_blank allBlank
  have joined := strings_append before.closes text.trimStart
  rw [whole, before.strings, List.nil_append] at joined
  exact joined.symm

theorem closes_trimStart (closes : Quoting.outside.after text = .outside) :
    Quoting.outside.after text.trimStart = .outside := by
  obtain ⟨blanks, whole, allBlank⟩ := exists_append_trimStart text
  rwa [← whole, Quoting.after_append, after_of_blank allBlank] at closes

theorem quotes_trimEnd (closes : Quoting.outside.after text = .outside) :
    text.trimEnd.Quotes text.strings := by
  obtain ⟨blanks, whole, allBlank⟩ := exists_trimEnd_append text
  have joinedCloses : Quoting.outside.after (text.trimEnd ++ blanks) = .outside := by
    rw [whole, closes]
  have kept := Quoting.outside_of_after (fun c member => isQuote_of_isBlank (allBlank c member))
    joinedCloses
  have joined := (quotes_of_closes kept).append (quotes_of_blank allBlank)
  rw [whole, List.append_nil] at joined
  exact ⟨kept, joined.strings.symm⟩

theorem quotes_trim (closes : Quoting.outside.after text = .outside) :
    text.trim.Quotes text.strings := by
  rw [trim, ← strings_trimStart]
  exact quotes_trimEnd (closes_trimStart closes)

end Quotes

end Text

end Stylesheet
