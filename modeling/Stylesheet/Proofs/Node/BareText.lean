import Mathlib.Data.List.DropRight
import Stylesheet.Proofs.Node.WellFormed

/-!
Texts and scans seen on the characters outside quotes: what stands there when texts are put one
after the other, where a character of them stands in the text, and what a scan from outside quotes
passes and stops at.
-/

namespace Stylesheet

namespace Text

/-! One text after the other -/

theorem bareChars_append {left : Text} (quotes : Quoting.outside.after left = .outside)
    (right : Text) : (left ++ right).bareChars = left.bareChars ++ right.bareChars := by
  rw [bareChars, Quoting.unquoted_append, quotes]
  rfl

theorem bareChars_prefix (left right : Text) : left.bareChars <+: (left ++ right).bareChars := by
  rw [bareChars, bareChars, Quoting.unquoted_append]
  exact List.prefix_append _ _

theorem bareChars_trimEnd_prefix (text : Text) : text.trimEnd.bareChars <+: text.bareChars := by
  obtain ⟨blanks, whole, _⟩ := exists_trimEnd_append text
  have leads := bareChars_prefix text.trimEnd blanks
  rwa [whole] at leads

/-! Blanks -/

theorem ne_of_isBlank {c d : Char} (blank : isBlank c = true) (visible : isBlank d = false) :
    c ≠ d := by
  rintro rfl
  cases blank.symm.trans visible

theorem isQuote_of_isBlank {c : Char} (blank : isBlank c = true) : Quoting.isQuote c = false := by
  have double : c ≠ '\x22' := ne_of_isBlank blank rfl
  have single : c ≠ '\x27' := ne_of_isBlank blank rfl
  simp [Quoting.isQuote, double, single]

theorem bareChars_blanks_append {blanks : Text} (allBlank : ∀ c ∈ blanks, isBlank c = true)
    (text : Text) : (blanks ++ text).bareChars = blanks ++ text.bareChars := by
  induction blanks with
  | nil => rfl
  | cons c blanks ih =>
      have plain := isQuote_of_isBlank (allBlank c List.mem_cons_self)
      have later := ih fun d member => allBlank d (List.mem_cons_of_mem c member)
      simp only [bareChars] at later ⊢
      simp [Quoting.unquoted, Quoting.bare, Quoting.next, plain, later]

theorem bareChars_of_blank {blanks : Text} (allBlank : ∀ c ∈ blanks, isBlank c = true) :
    blanks.bareChars = blanks := by
  have chars := bareChars_blanks_append allBlank []
  have empty : bareChars [] = [] := rfl
  rwa [empty, List.append_nil] at chars

theorem after_of_plain {text : Text} (plain : ∀ c ∈ text, Quoting.isQuote c = false) :
    Quoting.outside.after text = .outside := by
  induction text with
  | nil => rfl
  | cons c text ih =>
      have stays : Quoting.outside.next c = .outside := by
        simp [Quoting.next, plain c List.mem_cons_self]
      rw [Quoting.after_cons, stays]
      exact ih fun d member => plain d (List.mem_cons_of_mem c member)

theorem after_of_blank {blanks : Text} (allBlank : ∀ c ∈ blanks, isBlank c = true) :
    Quoting.outside.after blanks = .outside :=
  after_of_plain fun c member => isQuote_of_isBlank (allBlank c member)

theorem trimStart_trimStart (text : Text) : text.trimStart.trimStart = text.trimStart :=
  List.dropWhile_idempotent isBlank text

theorem trimStart_of_append {left right : Text}
    (visible : trimStart (left ++ right) = left ++ right) : left.trimStart = left := by
  cases left with
  | nil => rfl
  | cons c left =>
      have shown := isBlank_of_trimStart visible
      simp [trimStart, shown]

theorem trim_trimEnd {text : Text} (visible : text.trimStart = text) :
    text.trimEnd.trim = text.trimEnd := by
  obtain ⟨blanks, whole, _⟩ := exists_trimEnd_append text
  have kept : text.trimEnd.trimStart = text.trimEnd := by
    have longer : trimStart (text.trimEnd ++ blanks) = text.trimEnd ++ blanks := by
      rw [whole, visible]
    exact trimStart_of_append longer
  rw [trim, kept, trimEnd, trimEnd, List.reverse_reverse, List.dropWhile_idempotent]

end Text

/-! Balanced texts one after the other -/

section Balance

variable {opening closing : Char} {left right text : Text}

theorem front_of_append {front : Text} (leads : front <+: left ++ right) :
    front <+: left ∨ ∃ part, part <+: right ∧ front = left ++ part := by
  obtain ⟨rest, whole⟩ := leads
  rcases List.append_eq_append_iff.mp whole with ⟨more, rfl, _⟩ | ⟨part, rfl, rfl⟩
  · exact .inl (List.prefix_append front more)
  · exact .inr ⟨part, List.prefix_append part rest, rfl⟩

theorem Balanced.append (first : Balanced opening closing left)
    (second : Balanced opening closing right) : Balanced opening closing (left ++ right) := by
  refine ⟨?_, ?_⟩
  · intro front leads
    rcases front_of_append leads with short | ⟨part, within, rfl⟩
    · exact first.above front short
    · rw [level_append, first.closed, Int.zero_add]
      exact second.above part within
  · rw [level_append, first.closed, second.closed, Int.add_zero]

theorem balanced_of_absent (unopened : opening ∉ text) (unclosed : closing ∉ text) :
    Balanced opening closing text := by
  refine ⟨?_, level_eq_zero unopened unclosed⟩
  intro front leads
  have zero := level_eq_zero (fun member => unopened (leads.subset member))
    (fun member => unclosed (leads.subset member))
  omega

end Balance

/-! Quotes that are closed -/

namespace Quoting

/-- Every open string was opened by a quote. -/
def Opened : Quoting → Prop
  | outside => True
  | inside quote _ => isQuote quote = true

theorem opened_outside : outside.Opened := trivial

theorem opened_next {state : Quoting} (opened : state.Opened) (c : Char) : (state.next c).Opened := by
  cases state with
  | outside =>
      simp only [next]
      split
      · assumption
      · trivial
  | inside quote escaped =>
      cases escaped with
      | true => exact opened
      | false =>
          simp only [next]
          split
          · exact opened
          · split
            · trivial
            · exact opened

theorem opened_after {state : Quoting} (opened : state.Opened) (text : Text) :
    (state.after text).Opened := by
  induction text generalizing state with
  | nil => exact opened
  | cons c text ih => exact ih (opened_next opened c)

-- So only a quote can close it.
theorem outside_of_next {state : Quoting} {c : Char} (opened : state.Opened)
    (plain : isQuote c = false) (closes : state.next c = .outside) : state = .outside := by
  cases state with
  | outside => rfl
  | inside quote escaped =>
      have other : c ≠ quote := by
        rintro rfl
        cases plain.symm.trans opened
      cases escaped with
      | true => cases closes
      | false =>
          simp only [next, other, if_false] at closes
          split at closes <;> cases closes

theorem outside_of_after {left right : Text} (plain : ∀ c ∈ right, isQuote c = false)
    (closes : outside.after (left ++ right) = .outside) : outside.after left = .outside := by
  induction right using List.reverseRecOn with
  | nil => rwa [List.append_nil] at closes
  | append_singleton right c ih =>
      rw [← List.append_assoc, after_append] at closes
      apply ih (fun d member => plain d (List.mem_append_left [c] member))
      exact outside_of_next (opened_after opened_outside (left ++ right)) (plain c (by simp)) closes

end Quoting

/-- A character outside quotes and where it stands in the text. -/
theorem exists_of_unquoted {quoting : Quoting} {text front rest : Text} {c : Char}
    (chars : quoting.unquoted text = front ++ c :: rest) :
    ∃ before behind : Text, text = before ++ c :: behind ∧ quoting.unquoted before = front ∧
      quoting.after before = .outside ∧ behind.bareChars = rest := by
  induction text generalizing quoting front with
  | nil => simp [Quoting.unquoted] at chars
  | cons d text ih =>
      by_cases bare : quoting.bare d = true
      · simp only [Quoting.unquoted, bare, if_true] at chars
        rcases List.cons_eq_append_iff.mp chars with ⟨rfl, same⟩ | ⟨more, rfl, later⟩
        · obtain ⟨rfl, rfl⟩ := List.cons.inj same
          obtain ⟨outside, stays⟩ := Quoting.outside_of_bare bare
          exact ⟨[], text, rfl, rfl, outside, by rw [stays]; rfl⟩
        · obtain ⟨before, behind, rfl, rfl, after, tail⟩ := ih later
          exact ⟨d :: before, behind, rfl, by simp [Quoting.unquoted, bare], after, tail⟩
      · simp only [Quoting.unquoted, bare, if_false, Bool.false_eq_true] at chars
        obtain ⟨before, behind, rfl, rfl, after, tail⟩ := ih chars
        exact ⟨d :: before, behind, rfl, by simp [Quoting.unquoted, bare], after, tail⟩

/-! Scans -/

/-- A scan from outside quotes, seen on the characters outside quotes. -/
structure BareCut (opening closing : List Char) (halts : Nat → Char → Bool) (depth : Nat)
    (text : Text) (cut : Cut Nesting) (c : Char) (rest : Text) : Prop where
  chars : text.bareChars = cut.before.bareChars ++ c :: rest.bareChars
  crosses : (depthScanner opening closing halts).Crosses depth cut.before.bareChars cut.state.depth
  stops : halts cut.state.depth c = true
  outside : cut.state.quoting = .outside
  upTo : Text.bareChars (cut.before ++ [c]) = cut.before.bareChars ++ [c]

theorem BareCut.leads {opening closing : List Char} {halts : Nat → Char → Bool} {depth : Nat}
    {text rest : Text} {cut : Cut Nesting} {c : Char}
    (bare : BareCut opening closing halts depth text cut c rest) :
    cut.before.bareChars ++ [c] <+: text.bareChars :=
  ⟨rest.bareChars, by simp [bare.chars]⟩

theorem bareCut_of_run {opening closing : List Char} {halts : Nat → Char → Bool} {depth : Nat}
    {text rest : Text} {c : Char}
    (found : ((bareScanner opening closing halts).run ⟨.outside, depth⟩ text).rest = c :: rest) :
    BareCut opening closing halts depth text
      ((bareScanner opening closing halts).run ⟨.outside, depth⟩ text) c rest := by
  have whole := (bareScanner opening closing halts).before_append_rest ⟨.outside, depth⟩ text
  have stops := (bareScanner opening closing halts).stop_of_rest found
  obtain ⟨quotes, crosses⟩ := crosses_depthScanner_of_bare
    ((bareScanner opening closing halts).crosses_run ⟨.outside, depth⟩ text)
  generalize (bareScanner opening closing halts).run ⟨.outside, depth⟩ text = cut at *
  simp only [bareScanner, Bool.and_eq_true] at stops
  obtain ⟨outside, stays⟩ := Quoting.outside_of_bare stops.1
  have bare : Quoting.outside.bare c = true := outside ▸ stops.1
  have back : Quoting.outside.next c = .outside := outside ▸ stays
  have after : Quoting.outside.after cut.before = .outside := quotes.symm.trans outside
  refine ⟨?_, crosses, stops.2, outside, ?_⟩
  · rw [← whole, found, Text.bareChars, Quoting.unquoted_append, after]
    simp [Quoting.unquoted, bare, back, Text.bareChars]
  · rw [Text.bareChars, Quoting.unquoted_append, after]
    simp [Quoting.unquoted, bare, Text.bareChars]

/-- How a scan from outside quotes ends: it passes the whole text, or it stops at a character
outside quotes. -/
inductive BareScan (opening closing : List Char) (halts : Nat → Char → Bool) (depth : Nat)
    (text : Text) : Cut Nesting → Prop where
  | ended {state : Nesting}
      (crosses : (depthScanner opening closing halts).Crosses depth text.bareChars state.depth) :
      BareScan opening closing halts depth text ⟨text, state, []⟩
  | stopped {before rest : Text} {reached : Nat} {c : Char} (whole : text = before ++ c :: rest)
      (quotes : Quoting.outside.after before = .outside)
      (crosses : (depthScanner opening closing halts).Crosses depth before.bareChars reached)
      (stops : halts reached c = true) :
      BareScan opening closing halts depth text ⟨before, ⟨.outside, reached⟩, c :: rest⟩

theorem bareScan (opening closing : List Char) (halts : Nat → Char → Bool) (depth : Nat)
    (text : Text) : BareScan opening closing halts depth text
      ((bareScanner opening closing halts).run ⟨.outside, depth⟩ text) := by
  have whole := (bareScanner opening closing halts).before_append_rest ⟨.outside, depth⟩ text
  obtain ⟨quotes, crosses⟩ := crosses_depthScanner_of_bare
    ((bareScanner opening closing halts).crosses_run ⟨.outside, depth⟩ text)
  cases found : ((bareScanner opening closing halts).run ⟨.outside, depth⟩ text).rest with
  | nil =>
      generalize (bareScanner opening closing halts).run ⟨.outside, depth⟩ text = cut at *
      obtain ⟨before, state, rest⟩ := cut
      obtain rfl : rest = [] := found
      rw [List.append_nil] at whole
      obtain rfl : before = text := whole
      exact .ended crosses
  | cons c rest =>
      have bare := bareCut_of_run found
      generalize (bareScanner opening closing halts).run ⟨.outside, depth⟩ text = cut at *
      obtain ⟨before, ⟨quoting, reached⟩, behind⟩ := cut
      obtain rfl : behind = c :: rest := found
      obtain rfl : quoting = .outside := bare.outside
      exact .stopped whole.symm quotes.symm crosses bare.stops

end Stylesheet
