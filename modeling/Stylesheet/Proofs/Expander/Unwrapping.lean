import Mathlib.Data.List.Forall2
import Stylesheet.Proofs.Expander.Contract
import Stylesheet.Proofs.Invocation.Bracket

/-!
Quotes around an argument. An argument loses its first and its last character when these are the
same quote. The two belong together when the argument is one string from end to end. They do not
when it starts with a string and goes on behind it, and then two strings are torn open. Apart from
such arguments, an argument arrives without the quotes of the one string that it is, or as it was
written.
-/

namespace Stylesheet

/-- The text has the same quote at both ends. -/
def Text.IsWrapped (text : Text) : Prop :=
  ∃ quote inner, isArgumentQuote quote = true ∧ text = quote :: (inner ++ [quote])

/-- What can stand between two quotes of one kind: every such quote in it is protected, and the one
behind it is not. -/
structure Text.IsQuotable (text : Text) (quote : Char) : Prop where
  sheltered : ∀ front, front ++ [quote] <+: text → (ListState.start.after front).escaped = true
  apart : (ListState.start.after text).escaped = false

/-- The text is one string from end to end. -/
def Text.IsString (text : Text) : Prop :=
  ∃ (quote : Char) (inner : Text), isArgumentQuote quote = true ∧
    text = quote :: (inner ++ [quote]) ∧ inner.IsQuotable quote

/-- The text starts with a string, goes on behind it and ends with the same quote. -/
def Text.Straddles (text : Text) : Prop :=
  ∃ (quote : Char) (first more : Text), isArgumentQuote quote = true ∧
    text = quote :: (first ++ quote :: (more ++ [quote])) ∧ first.IsQuotable quote

def Text.ClosesQuotes (text : Text) : Prop := (ListState.start.after text).quote = none

/-- What an argument comes to: the text between the quotes if it is one string, and else all of it
but the blanks around it. -/
inductive Unwraps (argument : Text) : (given : Text) → Prop where
  | string {quote : Char} {inner : Text} (isQuote : isArgumentQuote quote = true)
      (whole : argument.trim = quote :: (inner ++ [quote])) (fits : inner.IsQuotable quote) :
      Unwraps argument inner
  | plain (other : ¬argument.trim.IsString) : Unwraps argument argument.trim

-- Whether a text is fit for quotes can be computed.
instance (text : Text) (quote : Char) : Decidable (text.IsQuotable quote) :=
  decidable_of_iff
    ((∀ front, front <+: text → front ++ [quote] <+: text →
      (ListState.start.after front).escaped = true) ∧
      (ListState.start.after text).escaped = false)
    ⟨fun ⟨sheltered, apart⟩ => ⟨fun front leads =>
        sheltered front ((List.prefix_append front [quote]).trans leads) leads, apart⟩,
      fun ⟨sheltered, apart⟩ => ⟨fun front _ leads => sheltered front leads, apart⟩⟩

instance (text : Text) : Decidable text.ClosesQuotes := inferInstanceAs (Decidable (_ = none))

/-! First and last character -/

section Ends

variable {argument inner : Text} {quote : Char}

theorem bareArgument_of_wrapped (isQuote : isArgumentQuote quote = true)
    (whole : argument.trim = quote :: (inner ++ [quote])) : bareArgument argument = inner := by
  simp [bareArgument, whole, isQuote]

theorem bareArgument_of_unwrapped (other : ¬argument.trim.IsWrapped) :
    bareArgument argument = argument.trim := by
  unfold bareArgument
  cases shape : argument.trim with
  | nil => rfl
  | cons c rest =>
      refine if_neg fun wrapped => other ?_
      rw [Bool.and_eq_true, beq_iff_eq] at wrapped
      obtain ⟨inner, same⟩ := List.getLast?_eq_some_iff.mp wrapped.2
      exact ⟨c, inner, wrapped.1, by rw [shape, same]⟩

theorem bareArgument_eq_trim_iff :
    bareArgument argument = argument.trim ↔ ¬argument.trim.IsWrapped := by
  refine ⟨?_, bareArgument_of_unwrapped⟩
  rintro same ⟨quote, inner, isQuote, whole⟩
  rw [bareArgument_of_wrapped isQuote whole, whole] at same
  have lengths := congrArg List.length same
  simp only [List.length_cons, List.length_append] at lengths
  omega

end Ends

/-! What a quote and a backslash do to the scan -/

namespace ListState

variable {state : ListState} {text : Text} {quote : Char}

theorem escaped_next (state : ListState) (c : Char) :
    (state.next c).escaped = (c == '\\' && !state.escaped) := by
  obtain ⟨open?, escaped, depth⟩ := state
  cases open? with
  | some quote => rfl
  | none =>
      simp only [next]
      split <;> rfl

/-- What a backslash protects does not depend on quotes. -/
theorem escaped_after (fresh : state.escaped = false) (text : Text) :
    (state.after text).escaped = (start.after text).escaped := by
  induction text using List.reverseRecOn with
  | nil => exact fresh
  | append_singleton text c ih =>
      rw [after_concat, after_concat, escaped_next, escaped_next, ih]

theorem next_inside (inside : state.quote = some quote) (c : Char) :
    (state.next c).quote = if c == quote && !state.escaped then none else some quote := by
  simp only [next, inside]

-- Only the three quotes ever open.
theorem isArgumentQuote_of_after (inside : (start.after text).quote = some quote) :
    isArgumentQuote quote = true := by
  induction text using List.reverseRecOn with
  | nil => cases inside
  | append_singleton text c ih =>
      rw [after_concat] at inside
      cases before : (start.after text).quote with
      | some opened =>
          rw [next_inside before] at inside
          split at inside
          · cases inside
          · exact ih (before.trans inside)
      | none =>
          simp only [next, before] at inside
          split at inside
          · next isQuote =>
            split at inside
            · cases inside
            · exact Option.some.inj inside ▸ isQuote
          · cases inside

-- A quote that opens at the start of a text.
theorem next_quote (isQuote : isArgumentQuote quote = true) :
    start.next quote = ⟨some quote, false, 0⟩ := by
  have plain : quote ≠ '\\' := by
    rintro rfl
    cases isQuote
  simp [next, start, isQuote, plain]

/-- A text whose quotes are protected leaves the string open. -/
theorem quote_after (inside : state.quote = some quote) (fresh : state.escaped = false)
    (sheltered : ∀ front, front ++ [quote] <+: text → (start.after front).escaped = true) :
    (state.after text).quote = some quote := by
  induction text using List.reverseRecOn with
  | nil => exact inside
  | append_singleton text c ih =>
      have before := ih fun front leads => sheltered front (leads.trans (List.prefix_append _ _))
      rw [after_concat, next_inside before]
      apply if_neg
      intro closes
      rw [Bool.and_eq_true, beq_iff_eq] at closes
      obtain ⟨rfl, unprotected⟩ := closes
      have protects := sheltered text (List.prefix_refl _)
      rw [escaped_after fresh, protects] at unprotected
      cases unprotected

/-! Blanks -/

theorem plain_of_isBlank {c : Char} (blank : isBlank c = true) :
    isArgumentQuote c = false ∧ c ≠ '\\' ∧ c ≠ '(' ∧ c ≠ ')' := by
  refine ⟨?_, ?_, ?_, ?_⟩
  · rw [Bool.eq_false_iff]
    intro isQuote
    simp only [isArgumentQuote, Bool.or_eq_true, beq_iff_eq] at isQuote
    rcases isQuote with (rfl | rfl) | rfl <;> cases blank
  all_goals
    rintro rfl
    cases blank

theorem after_blanks_start {blanks : Text} (blank : ∀ c ∈ blanks, isBlank c = true) :
    start.after blanks = start := by
  induction blanks with
  | nil => rfl
  | cons c blanks ih =>
      obtain ⟨noQuote, noEscape, noOpening, noClosing⟩ := plain_of_isBlank (blank c List.mem_cons_self)
      have stays : start.next c = start := by
        simp [next, start, noQuote, noEscape, noOpening, noClosing]
      rw [after_cons, stays]
      exact ih fun d member => blank d (List.mem_cons_of_mem c member)

-- Blanks close no string.
theorem quote_after_blanks (isQuote : isArgumentQuote quote = true) {blanks : Text}
    (blank : ∀ c ∈ blanks, isBlank c = true) (inside : state.quote = some quote) :
    (state.after blanks).quote = some quote := by
  induction blanks generalizing state with
  | nil => exact inside
  | cons c blanks ih =>
      refine ih (fun d member => blank d (List.mem_cons_of_mem c member)) ?_
      rw [next_inside inside]
      apply if_neg
      intro closes
      rw [Bool.and_eq_true, beq_iff_eq] at closes
      obtain ⟨rfl, _⟩ := closes
      cases isQuote.symm.trans (plain_of_isBlank (blank c List.mem_cons_self)).1

end ListState

namespace Text

variable {text inner : Text} {quote : Char}

theorem closesQuotes_trim (closed : text.ClosesQuotes) : text.trim.ClosesQuotes := by
  obtain ⟨before, leads, blankBefore⟩ := exists_append_trimStart text
  obtain ⟨behind, ends, blankBehind⟩ := exists_trimEnd_append text.trimStart
  rw [← leads, ← ends, ClosesQuotes, ListState.after_append, ListState.after_blanks_start blankBefore,
    ListState.after_append] at closed
  cases inside : (ListState.start.after text.trim).quote with
  | none => exact inside
  | some quote =>
      have isQuote := ListState.isArgumentQuote_of_after inside
      cases closed.symm.trans (ListState.quote_after_blanks isQuote blankBehind inside)

/-! Strings -/

/-- Behind an opening quote either no quote closes the string, or there is a first one that does. -/
theorem sheltered_or_closes (quote : Char) (text : Text) :
    (∀ front, front ++ [quote] <+: text → (ListState.start.after front).escaped = true) ∨
      ∃ first more, text = first ++ quote :: more ∧ first.IsQuotable quote := by
  induction text using List.reverseRecOn with
  | nil =>
      left
      intro front leads
      simp at leads
  | append_singleton text c ih =>
      rcases ih with sheltered | ⟨first, more, rfl, fits⟩
      · by_cases closes : c = quote ∧ (ListState.start.after text).escaped = false
        · obtain ⟨rfl, apart⟩ := closes
          exact .inr ⟨text, [], rfl, sheltered, apart⟩
        · left
          intro front leads
          rcases List.prefix_concat_iff.mp leads with last | early
          · obtain ⟨rfl, same⟩ := List.append_inj' last rfl
            obtain rfl := (List.cons.inj same).1
            simpa using closes
          · exact sheltered front early
      · exact .inr ⟨first, more ++ [c], by simp, fits⟩

/-- A text that closes its quotes and has the same quote at both ends is one string or starts with
one. -/
theorem isString_or_straddles (closed : text.ClosesQuotes) (wrapped : text.IsWrapped) :
    text.IsString ∨ text.Straddles := by
  obtain ⟨quote, inner, isQuote, rfl⟩ := wrapped
  rcases sheltered_or_closes quote inner with sheltered | ⟨first, more, rfl, fits⟩
  · refine .inl ⟨quote, inner, isQuote, rfl, sheltered, ?_⟩
    -- The last quote has to close the string, so no backslash protects it.
    rw [ClosesQuotes, ListState.after_cons, ListState.next_quote isQuote, ListState.after_concat]
      at closed
    rw [ListState.next_inside (ListState.quote_after rfl rfl sheltered)] at closed
    split at closed
    · next closes =>
      rw [Bool.and_eq_true, Bool.not_eq_true'] at closes
      exact (ListState.escaped_after rfl inner).symm.trans closes.2
    · cases closed
  · exact .inr ⟨quote, first, more, isQuote, by simp, fits⟩

theorem not_isString_of_straddles (straddles : text.Straddles) : ¬text.IsString := by
  obtain ⟨quote, first, more, _, whole, fits⟩ := straddles
  rintro ⟨other, inner, _, same, quotable⟩
  obtain ⟨rfl, tails⟩ := List.cons.inj (whole.symm.trans same)
  have split : inner = first ++ quote :: more := by
    refine (List.append_cancel_right (?_ : _ ++ [quote] = _ ++ [quote])).symm
    simpa using tails
  have protects := quotable.sheltered first (split ▸ ⟨more, by simp⟩)
  rw [fits.apart] at protects
  cases protects

theorem Straddles.isWrapped (straddles : text.Straddles) : text.IsWrapped := by
  obtain ⟨quote, first, more, isQuote, whole, _⟩ := straddles
  exact ⟨quote, first ++ quote :: more, isQuote, by simp [whole]⟩

end Text

/-! Arguments -/

section Arguments

variable {argument : Text}

theorem isString_of_changed_iff (closed : argument.ClosesQuotes) :
    (bareArgument argument ≠ argument.trim → argument.trim.IsString) ↔
      ¬argument.trim.Straddles := by
  rw [ne_eq, bareArgument_eq_trim_iff, not_not]
  constructor
  · intro onlyStrings straddles
    exact Text.not_isString_of_straddles straddles (onlyStrings straddles.isWrapped)
  · intro whole wrapped
    exact (Text.isString_or_straddles (Text.closesQuotes_trim closed) wrapped).resolve_right whole

theorem unwraps_bareArgument (closed : argument.ClosesQuotes) (whole : ¬argument.trim.Straddles) :
    Unwraps argument (bareArgument argument) := by
  by_cases string : argument.trim.IsString
  · obtain ⟨quote, inner, isQuote, same, fits⟩ := string
    rw [bareArgument_of_wrapped isQuote same]
    exact .string isQuote same fits
  · have same : bareArgument argument = argument.trim := by
      by_contra changed
      exact string ((isString_of_changed_iff closed).mpr whole changed)
    rw [same]
    exact .plain string

end Arguments

/-- An argument that closes its quotes loses a pair of them only if it is one string, unless it
starts with a string and ends, further on, with the same quote. So where no argument does that, a
function gets each with all its quotes but those of the string that it is. -/
theorem prepare_unwraps (settings : Settings) (expand : Scope → Text → Expansion Text)
    (scope : Scope) (invocation : Invocation)
    (closed : ∀ argument ∈ invocation.arguments, argument.ClosesQuotes) :
    (∀ argument ∈ invocation.arguments,
        (bareArgument argument ≠ argument.trim → argument.trim.IsString) ↔
          ¬argument.trim.Straddles) ∧
      ((∀ argument ∈ invocation.arguments, ¬argument.trim.Straddles) →
        ∃ given, List.Forall₂ Unwraps invocation.arguments given ∧
          prepare settings expand scope invocation =
            if settings.isRaw invocation.name then pure given else given.mapM (expand scope)) := by
  refine ⟨fun argument member => isString_of_changed_iff (closed argument member), fun whole => ?_⟩
  refine ⟨invocation.arguments.map bareArgument, ?_, rfl⟩
  rw [List.forall₂_map_right_iff, List.forall₂_same]
  exact fun argument member => unwraps_bareArgument (closed argument member) (whole argument member)

/-- One string with a comma in it, and two strings in different quotes. -/
def quotedArguments : Invocation :=
  ⟨"set".toList, [" 'a, b' ".toList, "'c', \"d\"".toList], false⟩

theorem prepare_unwraps_quotedArguments :
    ∃ given, List.Forall₂ Unwraps quotedArguments.arguments given ∧
      prepare .standard (fun _ text => (pure text : Expansion Text)) [] quotedArguments =
        pure given := by
  have closed : ∀ argument ∈ quotedArguments.arguments, argument.ClosesQuotes := by decide
  have one : (Text.trim " 'a, b' ".toList).IsString :=
    ⟨'\x27', "a, b".toList, by decide, by decide, by decide⟩
  have two : ¬(Text.trim "'c', \"d\"".toList).IsWrapped := bareArgument_eq_trim_iff.mp (by decide)
  have whole : ∀ argument ∈ quotedArguments.arguments, ¬argument.trim.Straddles := by
    intro argument member
    simp only [quotedArguments, List.mem_cons, List.not_mem_nil, or_false] at member
    rcases member with rfl | rfl
    · exact fun straddles => Text.not_isString_of_straddles straddles one
    · exact fun straddles => two straddles.isWrapped
  exact (prepare_unwraps .standard (fun _ text => pure text) [] quotedArguments closed).2 whole

/-- Two strings in the same quotes, as in a list of fonts. -/
def fontList : Text := "\"a\", \"b\"".toList

theorem bareArgument_fontList :
    fontList.ClosesQuotes ∧ bareArgument fontList ≠ fontList.trim ∧
      (¬∃ (quote : Char) (inner : Text), fontList.trim = quote :: (inner ++ [quote]) ∧
        ∀ front, front ++ [quote] <+: inner → (ListState.start.after front).escaped = true) ∧
      ((Expander.new .plain .standard).perform
        (.expand ("¤echo\x7b".toList ++ fontList ++ "\x7d".toList))).1 =
          .ok (.text "a\", \"b".toList) := by
  refine ⟨by decide, by decide, ?_, by decide +kernel⟩
  rintro ⟨quote, inner, same, sheltered⟩
  have whole : fontList.trim = '\x22' :: ("a\", \"b".toList ++ ['\x22']) := by decide
  obtain ⟨rfl, tails⟩ := List.cons.inj (whole.symm.trans same)
  obtain rfl := List.append_cancel_right tails
  cases sheltered ['a'] (by decide)

end Stylesheet
