import Stylesheet.Node.Printer
import Stylesheet.Proofs.Node.Reading
import Stylesheet.Proofs.Text.Rewriting

/-!
Reading and printing lose, double and reorder nothing. The substance of a text is what is left of it
without blanks, semicolons and commas, the characters that separate statements and selectors. Every
cut that the reader makes keeps the substance, and so does every character that the printer adds.
-/

namespace Stylesheet

def isSeparator (c : Char) : Bool := isBlank c || c == ';' || c == ','

namespace Text

/-- The characters of a text that are neither blank nor a semicolon or comma, in order. -/
def substance (text : Text) : Text := text.filter fun c => !isSeparator c

theorem substance_append (left right : Text) :
    substance (left ++ right) = substance left ++ substance right :=
  List.filter_append left right

theorem substance_cons (c : Char) (text : Text) :
    substance (c :: text) = if isSeparator c then substance text else c :: substance text := by
  cases kept : isSeparator c <;> simp [substance, kept]

theorem substance_of_separators {text : Text} (all : ∀ c ∈ text, isSeparator c = true) :
    substance text = [] := by
  apply List.filter_eq_nil_iff.mpr
  intro c member
  simp [all c member]

theorem isSeparator_of_isBlank {c : Char} (blank : isBlank c = true) : isSeparator c = true := by
  simp [isSeparator, blank]

theorem substance_trimStart (text : Text) : substance text.trimStart = substance text :=
  filter_trimStart (fun c blank => by rw [isSeparator_of_isBlank blank]; rfl) text

theorem substance_trimEnd (text : Text) : substance text.trimEnd = substance text :=
  filter_trimEnd (fun c blank => by rw [isSeparator_of_isBlank blank]; rfl) text

theorem substance_trim (text : Text) : substance text.trim = substance text := by
  rw [trim, substance_trimEnd, substance_trimStart]

theorem substance_of_isBlankText {text : Text} (blank : text.isBlankText = true) :
    substance text = [] :=
  substance_of_separators fun c member =>
    isSeparator_of_isBlank (List.all_eq_true.mp blank c member)

theorem substance_moveIn (text : Text) :
    substance (text.replaceChar '\n' ['\n', '\t']) = substance text := by
  have feed : substance ['\n', '\t'] = substance ['\n'] := rfl
  exact filter_replaceChar feed text

theorem substance_flatten (texts : List Text) :
    substance texts.flatten = (texts.map substance).flatten := by
  induction texts with
  | nil => rfl
  | cons text texts ih => rw [List.flatten_cons, substance_append, ih, List.map_cons, List.flatten_cons]

theorem substance_intercalate (texts : List Text) :
    substance (List.intercalate [',', ' '] texts) = substance texts.flatten := by
  induction texts with
  | nil => rfl
  | cons text texts ih =>
      cases texts with
      | nil => simp
      | cons next texts =>
          have gone : substance [',', ' '] = [] := rfl
          rw [List.intercalate_cons_cons, substance_append, substance_append, gone, ih,
            List.append_nil, ← substance_append, ← List.flatten_cons]

end Text

namespace Node

open Text

/-! Printing -/

theorem substance_entry (text : Text) : substance (entry text) = substance text := by
  unfold entry
  cases text with
  | nil => rfl
  | cons c text =>
      calc substance ('\t' :: replaceChar (c :: text) '\n' ['\n', '\t'] ++ ['\n'])
          = substance (replaceChar (c :: text) '\n' ['\n', '\t']) ++ substance ['\n'] :=
            substance_append _ _
        _ = substance (c :: text) := by
            rw [substance_moveIn]
            exact List.append_nil _

theorem substance_printEntries (nodes : List Node) :
    substance (printEntries nodes) = nodes.flatMap fun node => substance node.print := by
  induction nodes with
  | nil => rfl
  | cons node nodes ih =>
      rw [printEntries, substance_append, substance_entry, ih, List.flatMap_cons]

theorem substance_appendBelow (printed text : Text) :
    substance (appendBelow printed text) = substance printed ++ substance text := by
  obtain ⟨blanks, allBlank, below⟩ := exists_appendBelow printed text
  have gone : substance blanks = [] :=
    substance_of_separators fun c member => isSeparator_of_isBlank (allBlank c member)
  rw [below, substance_append, substance_append, gone, List.nil_append]

theorem substance_printAll (nodes : List Node) :
    substance (printAll nodes) = nodes.flatMap fun node => substance node.print := by
  have under : ∀ printed,
      substance (nodes.foldl (fun printed node => appendBelow printed node.print) printed) =
        substance printed ++ nodes.flatMap fun node => substance node.print := by
    induction nodes with
    | nil => simp
    | cons node nodes ih =>
        intro printed
        rw [List.foldl_cons, ih, substance_appendBelow, List.flatMap_cons, List.append_assoc]
  exact under []

theorem substance_rule (content : Text) : substance (print (.rule content)) = substance content := by
  unfold print
  by_cases blank : content.isBlankText = true
  · rw [if_pos blank, substance_of_isBlankText blank]
    rfl
  · rw [if_neg blank, substance_append]
    exact List.append_nil _

theorem substance_ruleSet (selectors : List Text) (contents : List Node) :
    substance (print (.ruleSet selectors contents)) =
      substance selectors.flatten ++ '{' :: substance (printAll contents) ++ ['}'] := by
  rw [print, substance_append, substance_append, substance_append, substance_intercalate,
    substance_printEntries, substance_printAll]
  simp only [List.append_assoc]
  rfl

/-! Reading -/

theorem substance_pieces {State : Type} (scanner : Scanner State)
    (separates : ∀ state c, scanner.stop state c = true → isSeparator c = true) (state : State)
    (text : Text) : substance (scanner.pieces state text).flatten = substance text := by
  induction text generalizing state with
  | nil => rfl
  | cons c text ih =>
      have later := ih (scanner.step state c)
      rw [substance_cons, ← later]
      by_cases stops : scanner.stop state c = true
      · simp [Scanner.pieces, stops, separates state c stops]
      · rw [← substance_cons]
        simp only [Scanner.pieces, stops]
        cases scanner.pieces (scanner.step state c) text with
        | nil => rfl
        | cons piece more => rfl

theorem substance_selectorList (text : Text) :
    substance (selectorList text).flatten = substance text := by
  have comma : ∀ state c, selectorScanner.stop state c = true → isSeparator c = true := by
    intro state c stops
    simp only [selectorScanner, Bool.and_eq_true, beq_iff_eq] at stops
    rw [stops.2]
    decide
  have trimmed : Text.substance ∘ Text.trim = Text.substance := funext substance_trim
  rw [selectorList, List.flatten_filter_not_isEmpty, substance_flatten, List.map_map, trimmed,
    ← substance_flatten, substance_pieces selectorScanner comma]

/-- What a statement keeps of the text that it is cut from. -/
def Statement.substance : Statement → Text
  | atRule content => content.substance
  | rule content => content.substance
  | block selectors _ inner =>
    Text.substance selectors.flatten ++ '{' :: inner.substance ++ ['}']

theorem substance_cutAtRule {position : Nat} {text rest : Text} {statement : Statement}
    (cut : cutAtRule position text = .ok (statement, rest)) :
    text.substance = statement.substance ++ rest.substance := by
  have whole := atRuleScanner.before_append_rest .start text
  simp only [cutAtRule] at cut
  split at cut
  · split at cut
    · obtain ⟨rfl, rfl⟩ := Prod.mk.inj (Except.ok.inj cut)
      simp only [Statement.substance, substance_trimEnd]
      exact (List.append_nil _).symm
    · cases cut
  · next c remaining found =>
    split at cut
    · cases cut
    · obtain ⟨rfl, rfl⟩ := Prod.mk.inj (Except.ok.inj cut)
      rw [found] at whole
      rw [Statement.substance, ← substance_append, List.append_assoc, List.singleton_append, whole]

theorem substance_cutBlock {position : Nat} {selectors : List Text} {text rest : Text}
    {statement : Statement} (cut : cutBlock position selectors text = .ok (statement, rest)) :
    Text.substance selectors.flatten ++ '{' :: text.substance =
      statement.substance ++ rest.substance := by
  have whole := blockScanner.before_append_rest ⟨.outside, 1⟩ text
  simp only [cutBlock] at cut
  split at cut
  · cases cut
  · next c remaining found =>
    obtain ⟨rfl, rfl⟩ := Prod.mk.inj (Except.ok.inj cut)
    have closes : c = '}' := by
      have stops := blockScanner.stop_of_rest found
      simp only [blockScanner, Bool.and_eq_true, beq_iff_eq] at stops
      exact stops.2
    have parts := congrArg substance whole
    rw [found, closes, substance_append] at parts
    rw [Statement.substance, ← parts]
    simp only [List.append_assoc, List.cons_append]
    rfl

theorem substance_cutRule {position : Nat} {text rest : Text} {statement : Statement}
    (cut : cutRule position text = .ok (statement, rest)) :
    text.substance = statement.substance ++ rest.substance := by
  have whole := statementScanner.before_append_rest .start text
  simp only [cutRule] at cut
  split at cut
  · next ended =>
    obtain ⟨rfl, rfl⟩ := Prod.mk.inj (Except.ok.inj cut)
    rw [ended, List.append_nil] at whole
    simp only [Statement.substance, substance_trimEnd, whole]
    exact (List.append_nil _).symm
  · next c remaining found =>
    have parts := congrArg substance whole
    rw [found, substance_append] at parts
    split at cut
    · next semicolon =>
      obtain ⟨rfl, rfl⟩ := Prod.mk.inj (Except.ok.inj cut)
      rw [Statement.substance, substance_trimEnd, ← parts, semicolon]
      rfl
    · split at cut
      · next brace =>
        rw [← substance_cutBlock cut, substance_selectorList, ← parts, brace]
        rfl
      · cases cut

theorem substance_cutStatement {position : Nat} {text rest : Text} {statement : Statement}
    (cut : cutStatement position text = .ok (statement, rest)) :
    text.substance = statement.substance ++ rest.substance := by
  unfold cutStatement at cut
  split at cut
  · exact substance_cutAtRule cut
  · exact substance_cutRule cut

theorem substance_reads {text : Text} {nodes : List Node} (reads : Reads text nodes) :
    substance (printAll nodes) = text.substance := by
  induction reads with
  | @blank text ended =>
      rw [← substance_trimStart text, ended]
      rfl
  | atRule cut _ ih =>
      have head := substance_cutStatement cut
      rw [substance_trimStart, ← ih] at head
      rw [head, substance_printAll, substance_printAll, List.flatMap_cons]
      rfl
  | rule cut _ ih =>
      have head := substance_cutStatement cut
      rw [substance_trimStart, ← ih] at head
      rw [head, substance_printAll, substance_printAll, List.flatMap_cons, substance_rule]
      rfl
  | block cut _ _ inside ih =>
      have head := substance_cutStatement cut
      rw [substance_trimStart, ← ih] at head
      rw [head, substance_printAll, substance_printAll, List.flatMap_cons, substance_ruleSet, inside]
      rfl

-- Also where quotes and parentheses are never closed, selectors are empty or statements blank.
theorem substance_printAll_read (text : Text) (nodes : List Node) (readable : read text = .ok nodes) :
    (printAll nodes).substance = text.withoutComments.substance :=
  substance_reads (reads_of_readFrom readable)

/-- A text with an empty selector and an empty statement, a parenthesis and a quote never closed. -/
def looseText : Text := "a,,b\x7b;c:(d;\x7d /*x*/@e 'f".toList

theorem substance_printAll_read_looseText : ∃ nodes, read looseText = .ok nodes ∧
    printAll nodes = "a, b \x7b\n\tc:(d;;\n\x7d\n\n@e 'f".toList ∧
    (printAll nodes).substance = looseText.withoutComments.substance := by
  have printed : (read looseText).toOption.map printAll =
      some "a, b \x7b\n\tc:(d;;\n\x7d\n\n@e 'f".toList := by
    decide +kernel
  cases readable : read looseText with
  | error error =>
      rw [readable] at printed
      cases printed
  | ok nodes =>
      rw [readable] at printed
      exact ⟨nodes, rfl, Option.some.inj printed, substance_printAll_read _ _ readable⟩

end Node

end Stylesheet
