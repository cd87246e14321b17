import Stylesheet.Node.Printer
import Stylesheet.Proofs.Node.Cutting
import Stylesheet.Proofs.Node.QuotedStrings
import Stylesheet.Proofs.Node.Reading
import Stylesheet.Proofs.Node.RoundTrip
import Stylesheet.Proofs.Text.Rewriting

/-!
What printing does to quoted strings. Reading keeps every string of a text in its place. Printing
moves the lines of a block in without regard to strings, so a string comes out with a tab behind
each of its line feeds for every block around it. It is kept exactly when it has no line feed or
stands in no block.
-/

namespace Stylesheet

/-- A quoted string and how many blocks are around it. -/
structure QuotedString where
  depth : Nat
  text : Text

namespace QuotedString

def deeper (quoted : QuotedString) : QuotedString := { quoted with depth := quoted.depth + 1 }

/-- How the string comes out of print. -/
def printed (quoted : QuotedString) : Text :=
  quoted.text.replaceChar '\n' ('\n' :: List.replicate quoted.depth '\t')

theorem moveIn_printed (quoted : QuotedString) : quoted.printed.moveIn = quoted.deeper.printed := by
  have tabs : '\n' ∉ List.replicate quoted.depth '\t' := by simp
  have feed : Text.moveIn ('\n' :: List.replicate quoted.depth '\t') =
      '\n' :: List.replicate (quoted.depth + 1) '\t' := by
    rw [Text.moveIn_feed, Text.moveIn, Text.replaceChar_of_absent tabs, List.replicate_succ]
  rw [printed, Text.moveIn, Text.replaceChar_replaceChar, ← Text.moveIn, feed]
  rfl

theorem length_printed (quoted : QuotedString) :
    quoted.printed.length = quoted.text.length + quoted.depth * quoted.text.count '\n' := by
  obtain ⟨depth, text⟩ := quoted
  induction text with
  | nil => rfl
  | cons c text ih =>
      simp only [printed] at ih ⊢
      rw [Text.replaceChar_cons, List.length_append, ih]
      by_cases feed : c = '\n'
      · simp [feed, Nat.mul_add]
        omega
      · simp [feed]
        omega

theorem printed_top (text : Text) : printed ⟨0, text⟩ = text :=
  Text.replaceChar_self text '\n'

theorem printed_eq_text_iff (quoted : QuotedString) :
    quoted.printed = quoted.text ↔ quoted.depth = 0 ∨ '\n' ∉ quoted.text := by
  constructor
  · intro same
    have lengths := length_printed quoted
    rw [same] at lengths
    have none : quoted.depth * quoted.text.count '\n' = 0 := by omega
    rwa [Nat.mul_eq_zero, List.count_eq_zero] at none
  · rintro (top | absent)
    · obtain ⟨depth, text⟩ := quoted
      obtain rfl : depth = 0 := top
      exact printed_top text
    · exact Text.replaceChar_of_absent absent _

theorem map_printed_top (texts : List Text) : (texts.map (mk 0)).map printed = texts := by
  have same : printed ∘ mk 0 = id := funext printed_top
  rw [List.map_map, same, List.map_id]

theorem map_text_top (texts : List Text) : (texts.map (mk 0)).map text = texts := by
  have same : text ∘ mk 0 = id := rfl
  rw [List.map_map, same, List.map_id]

theorem map_text_deeper (found : List QuotedString) :
    (found.map deeper).map text = found.map text := by
  rw [List.map_map]
  rfl

end QuotedString

namespace Node

mutual

/-- The quoted strings of a node. -/
def quoted : Node → List QuotedString
  | atRule content => content.strings.map (QuotedString.mk 0)
  | rule content => content.strings.map (QuotedString.mk 0)
  | ruleSet selectors contents =>
    (selectors.flatMap Text.strings).map (QuotedString.mk 0) ++
      (quotedOf contents).map QuotedString.deeper

def quotedOf : List Node → List QuotedString
  | [] => []
  | node :: nodes => node.quoted ++ quotedOf nodes

end

/-- Every text in the tree closes its quotes. -/
inductive Closes : Node → Prop where
  | atRule {content : Text} (closes : Quoting.outside.after content = .outside) :
      Closes (.atRule content)
  | rule {content : Text} (closes : Quoting.outside.after content = .outside) :
      Closes (.rule content)
  | ruleSet {selectors : List Text} {contents : List Node}
      (closes : ∀ selector ∈ selectors, Quoting.outside.after selector = .outside)
      (inner : ∀ node ∈ contents, Closes node) : Closes (.ruleSet selectors contents)

/-! Reading -/

section Reading

theorem quotes_pieces {text : Text} (closes : Quoting.outside.after text = .outside) :
    (∀ piece ∈ selectorScanner.pieces .start text, Quoting.outside.after piece = .outside) ∧
      (selectorScanner.pieces .start text).flatMap Text.strings = text.strings := by
  induction size : text.length using Nat.strongRecOn generalizing text with
  | ind n ih =>
      have scan := bareScan_selector text
      rw [Scanner.pieces_eq_run]
      generalize selectorScanner.run .start text = cut at scan
      cases scan with
      | ended _ => simpa using closes
      | @stopped before rest reached c whole quotes _ stops =>
          simp only [endsSelector, Bool.and_eq_true, beq_iff_eq] at stops
          obtain ⟨rfl, rfl⟩ := stops
          subst whole
          obtain ⟨closesRest, joined⟩ := Text.quotes_split quotes rfl closes
          have shorter : rest.length < n := by
            rw [← size, List.length_append, List.length_cons]
            omega
          obtain ⟨others, later⟩ := ih rest.length shorter closesRest rfl
          refine ⟨List.forall_mem_cons.mpr ⟨quotes, others⟩, ?_⟩
          rw [joined, List.flatMap_cons, ← later]
          rfl

theorem quotes_selectorList {text : Text} (closes : Quoting.outside.after text = .outside) :
    (∀ selector ∈ selectorList text, Quoting.outside.after selector = .outside) ∧
      (selectorList text).flatMap Text.strings = text.strings := by
  obtain ⟨each, whole⟩ := quotes_pieces closes
  rw [selectorList]
  generalize selectorScanner.pieces .start text = pieces at each whole
  rw [← whole]
  clear whole
  induction pieces with
  | nil => simp
  | cons piece pieces ih =>
      obtain ⟨first, others⟩ := List.forall_mem_cons.mp each
      obtain ⟨later, joined⟩ := ih others
      have trimmed := Text.quotes_trim first
      rw [List.map_cons, List.flatMap_cons, ← trimmed.strings, ← joined]
      by_cases empty : Text.trim piece = []
      · rw [empty, List.filter_cons_of_neg (by simp)]
        exact ⟨later, rfl⟩
      · rw [List.filter_cons_of_pos (by simpa using empty)]
        exact ⟨List.forall_mem_cons.mpr ⟨trimmed.closes, later⟩, rfl⟩

/-- The texts of a statement close their quotes. -/
def Statement.Closes : Statement → Prop
  | .atRule content => Quoting.outside.after content = .outside
  | .rule content => Quoting.outside.after content = .outside
  | .block selectors _ inner =>
      (∀ selector ∈ selectors, Quoting.outside.after selector = .outside) ∧
        Quoting.outside.after inner = .outside

def Statement.strings : Statement → List Text
  | .atRule content => content.strings
  | .rule content => content.strings
  | .block selectors _ inner => selectors.flatMap Text.strings ++ inner.strings

theorem strings_of_cuts {text rest : Text} {statement : Statement} (cuts : Cuts text statement rest)
    (closes : Quoting.outside.after text = .outside) :
    statement.Closes ∧ Quoting.outside.after rest = .outside ∧
      text.strings = statement.strings ++ rest.strings := by
  cases cuts with
  | @atRule before rest c depth starts quotes crosses ends =>
      have plain : Quoting.isQuote c = false := by
        rcases ends with ⟨rfl, _⟩ | ⟨rfl, _⟩ <;> rfl
      have single : Text.Quotes [c] [] := Text.quotes_of_plain (by simpa using plain)
      have content := (Text.quotes_of_closes quotes).append single
      obtain ⟨closesRest, joined⟩ := Text.quotes_split quotes plain closes
      rw [List.append_nil] at content
      exact ⟨content.closes, closesRest, by rw [joined, Statement.strings, content.strings]⟩
  | lastAtRule crosses =>
      have content := Text.quotes_trimEnd closes
      refine ⟨content.closes, rfl, ?_⟩
      rw [Statement.strings, content.strings]
      exact (List.append_nil _).symm
  | rule starts quotes crosses =>
      have content := Text.quotes_trimEnd quotes
      obtain ⟨closesRest, joined⟩ := Text.quotes_split quotes rfl closes
      exact ⟨content.closes, closesRest, by rw [joined, Statement.strings, content.strings]⟩
  | lastRule starts crosses =>
      have content := Text.quotes_trimEnd closes
      refine ⟨content.closes, rfl, ?_⟩
      rw [Statement.strings, content.strings]
      exact (List.append_nil _).symm
  | @block before inner rest start quotes crosses closesInner =>
      obtain ⟨each, listed⟩ := quotes_selectorList quotes
      obtain ⟨closesBlock, joined⟩ := Text.quotes_split quotes rfl closes
      obtain ⟨closesRest, behind⟩ := Text.quotes_split closesInner rfl closesBlock
      refine ⟨⟨each, closesInner⟩, closesRest, ?_⟩
      rw [joined, behind, Statement.strings, listed, List.append_assoc]

theorem strings_of_cutStatement {position : Nat} {text rest : Text} {statement : Statement}
    (cut : cutStatement position text.trimStart = .ok (statement, rest))
    (closes : Quoting.outside.after text = .outside) :
    statement.Closes ∧ Quoting.outside.after rest = .outside ∧
      text.strings = statement.strings ++ rest.strings := by
  rw [← Text.strings_trimStart text]
  exact strings_of_cuts (cuts_of_cutStatement cut) (Text.closes_trimStart closes)

theorem quotes_of_reads {text : Text} {nodes : List Node} (reads : Reads text nodes)
    (closes : Quoting.outside.after text = .outside) :
    (∀ node ∈ nodes, node.Closes) ∧ text.strings = (quotedOf nodes).map QuotedString.text := by
  induction reads with
  | @blank text ended =>
      refine ⟨by simp, ?_⟩
      rw [← Text.strings_trimStart, ended]
      rfl
  | atRule cut _ ih =>
      obtain ⟨content, behind, whole⟩ := strings_of_cutStatement cut closes
      obtain ⟨others, later⟩ := ih behind
      refine ⟨List.forall_mem_cons.mpr ⟨.atRule content, others⟩, ?_⟩
      rw [whole, later, Statement.strings, quotedOf, quoted, List.map_append,
        QuotedString.map_text_top]
  | rule cut _ ih =>
      obtain ⟨content, behind, whole⟩ := strings_of_cutStatement cut closes
      obtain ⟨others, later⟩ := ih behind
      refine ⟨List.forall_mem_cons.mpr ⟨.rule content, others⟩, ?_⟩
      rw [whole, later, Statement.strings, quotedOf, quoted, List.map_append,
        QuotedString.map_text_top]
  | block cut _ _ ihInner ih =>
      obtain ⟨⟨selectors, inner⟩, behind, whole⟩ := strings_of_cutStatement cut closes
      obtain ⟨inside, nested⟩ := ihInner inner
      obtain ⟨others, later⟩ := ih behind
      refine ⟨List.forall_mem_cons.mpr ⟨.ruleSet selectors inside, others⟩, ?_⟩
      rw [whole, later, Statement.strings, nested, quotedOf, quoted, List.map_append,
        List.map_append, QuotedString.map_text_top, QuotedString.map_text_deeper]

end Reading

/-! Printing -/

section Printing

theorem quotes_entry {text : Text} {found : List Text} (quotes : text.Quotes found) :
    (entry text).Quotes (found.map Text.moveIn) := by
  unfold entry
  split
  · next empty =>
    obtain rfl := List.isEmpty_iff.mp empty
    obtain rfl : found = [] := quotes.strings.symm
    exact ⟨rfl, rfl⟩
  · have tab : Text.Quotes ['\t'] [] := ⟨rfl, rfl⟩
    have feed : Text.Quotes ['\n'] [] := ⟨rfl, rfl⟩
    have whole := (tab.append quotes.moveIn).append feed
    rwa [List.nil_append, List.append_nil] at whole

theorem quotes_printEntries {contents : List Node}
    (each : ∀ node ∈ contents, node.print.Quotes (node.quoted.map QuotedString.printed)) :
    (printEntries contents).Quotes
      ((quotedOf contents).map fun quoted => quoted.deeper.printed) := by
  induction contents with
  | nil => exact ⟨rfl, rfl⟩
  | cons node contents ih =>
      obtain ⟨first, others⟩ := List.forall_mem_cons.mp each
      have whole := (quotes_entry first).append (ih others)
      rw [List.map_map, Function.comp_def] at whole
      simp only [QuotedString.moveIn_printed] at whole
      rwa [printEntries, quotedOf, List.map_append]

theorem quotes_print {node : Node} (closes : node.Closes) :
    node.print.Quotes (node.quoted.map QuotedString.printed) := by
  induction closes with
  | atRule closes =>
      rw [print, quoted, QuotedString.map_printed_top]
      exact Text.quotes_of_closes closes
  | @rule content closes =>
      rw [print, quoted, QuotedString.map_printed_top]
      split
      · next blank =>
        rw [(Text.quotes_of_blank (List.all_eq_true.mp blank)).strings]
        exact ⟨rfl, rfl⟩
      · have semicolon : Text.Quotes [';'] [] := ⟨rfl, rfl⟩
        have whole := (Text.quotes_of_closes closes).append semicolon
        rwa [List.append_nil] at whole
  | @ruleSet selectors contents closes inner ih =>
      have comma : Text.Quotes [',', ' '] [] := ⟨rfl, rfl⟩
      have opening : Text.Quotes [' ', '{', '\n'] [] := ⟨rfl, rfl⟩
      have closing : Text.Quotes ['}'] [] := ⟨rfl, rfl⟩
      have whole := (((Text.quotes_intercalate comma closes).append opening).append
        (quotes_printEntries ih)).append closing
      rw [List.append_nil, List.append_nil] at whole
      rw [print, quoted, List.map_append, QuotedString.map_printed_top, List.map_map]
      exact whole

theorem quotes_printAll {nodes : List Node} (closes : ∀ node ∈ nodes, node.Closes) :
    (printAll nodes).Quotes ((quotedOf nodes).map QuotedString.printed) := by
  -- what is printed so far has the strings of the nodes printed so far
  have under : ∀ printed found, Text.Quotes printed found →
      Text.Quotes (nodes.foldl (fun printed node => appendBelow printed node.print) printed)
        (found ++ (quotedOf nodes).map QuotedString.printed) := by
    induction nodes with
    | nil =>
        intro printed found quotes
        simpa [quotedOf] using quotes
    | cons node nodes ih =>
        intro printed found quotes
        obtain ⟨first, others⟩ := List.forall_mem_cons.mp closes
        obtain ⟨blanks, allBlank, below⟩ := exists_appendBelow printed node.print
        have next := quotes.append ((Text.quotes_of_blank allBlank).append (quotes_print first))
        rw [← below] at next
        have all := ih others _ _ next
        simpa [quotedOf] using all
  exact under [] [] ⟨rfl, rfl⟩

end Printing

/-- A text without comments that closes its quotes keeps all its strings in order when it is read.
When it is printed, each has one tab behind each of its line feeds for every block around it. So the
strings survive unchanged exactly when no string in a block has a line feed. -/
theorem strings_printAll_read (text : Text) (nodes : List Node) (readable : read text = .ok nodes)
    (uncommented : text.Uncommented) (closes : Quoting.outside.after text = .outside) :
    text.strings = (quotedOf nodes).map QuotedString.text ∧
      (printAll nodes).strings = (quotedOf nodes).map QuotedString.printed ∧
      ((printAll nodes).strings = text.strings ↔
        ∀ quoted ∈ quotedOf nodes, quoted.depth = 0 ∨ '\n' ∉ quoted.text) := by
  rw [read, Text.withoutComments_of_uncommented uncommented] at readable
  obtain ⟨closed, strings⟩ := quotes_of_reads (reads_of_readFrom readable) closes
  have printed := (quotes_printAll closed).strings
  refine ⟨strings, printed, ?_⟩
  rw [printed, strings, List.map_inj_left]
  simp only [QuotedString.printed_eq_text_iff]

/-- Strings over two lines outside blocks, and strings on one line inside them. -/
def quotingText : Text := "@c 'x\ny';a[b=',']\x7bc\x7bd:\x22e\\\x22\x7d;\x22\x7d\x7d".toList

theorem strings_printAll_read_quotingText : ∃ nodes, read quotingText = .ok nodes ∧
    quotingText.strings = ["'x\ny'".toList, "','".toList, "\x22e\\\x22\x7d;\x22".toList] ∧
    (printAll nodes).strings = quotingText.strings := by
  have flat : (read quotingText).toOption.map (fun nodes =>
      (quotedOf nodes).all fun quoted => decide (quoted.depth = 0 ∨ '\n' ∉ quoted.text)) =
        some true := by
    decide +kernel
  cases readable : read quotingText with
  | error error =>
      rw [readable] at flat
      cases flat
  | ok nodes =>
      rw [readable] at flat
      have kept : ∀ quoted ∈ quotedOf nodes, quoted.depth = 0 ∨ '\n' ∉ quoted.text := by
        intro quoted member
        exact of_decide_eq_true (List.all_eq_true.mp (Option.some.inj flat) quoted member)
      obtain ⟨_, _, iff⟩ := strings_printAll_read quotingText nodes readable (by decide +kernel)
        (by decide +kernel)
      exact ⟨nodes, rfl, by decide +kernel, iff.mpr kept⟩

/-- A string that goes over two lines inside a block does not survive. -/
theorem strings_printAll_block : ∃ nodes, read "a\x7bb:'x\\\ny'\x7d".toList = .ok nodes ∧
    Text.Uncommented "a\x7bb:'x\\\ny'\x7d".toList ∧
    Quoting.outside.after "a\x7bb:'x\\\ny'\x7d".toList = .outside ∧
    Text.strings "a\x7bb:'x\\\ny'\x7d".toList = ["'x\\\ny'".toList] ∧
    (printAll nodes).strings = ["'x\\\n\ty'".toList] := by
  have printed : (read "a\x7bb:'x\\\ny'\x7d".toList).toOption.map
      (fun nodes => (printAll nodes).strings) = some ["'x\\\n\ty'".toList] := by
    decide +kernel
  cases readable : read "a\x7bb:'x\\\ny'\x7d".toList with
  | error error =>
      rw [readable] at printed
      cases printed
  | ok nodes =>
      rw [readable] at printed
      exact ⟨nodes, rfl, by decide +kernel, by decide +kernel, by decide +kernel,
        Option.some.inj printed⟩

end Node

end Stylesheet
