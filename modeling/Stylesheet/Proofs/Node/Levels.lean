import Stylesheet.Node.Printer
import Stylesheet.Proofs.Text.Rewriting

/-!
Printing by levels. The printer moves the text of a node in by one tab for every block around it,
each time with all that is printed already. The same text comes from a printer that knows the level
of a node and writes every line once, where it belongs.
-/

namespace Stylesheet

def tabs (level : Nat) : Text := List.replicate level '\t'

namespace Text

/-- A text whose lines, from the second on, start at a level. -/
def linesAt (level : Nat) (text : Text) : Text := text.replaceChar '\n' ('\n' :: tabs level)

/-- A text with a line end behind it, if there is any. -/
def asLines (text : Text) : Text := if text.isEmpty then [] else text ++ ['\n']

end Text

namespace Node

mutual

def printAt (level : Nat) : Node → Text
  | atRule content => if content.isEmpty then [] else tabs level ++ content.linesAt level
  | rule content =>
    if content.isBlankText then [] else tabs level ++ content.linesAt level ++ [';']
  | ruleSet selectors contents =>
    tabs level ++ List.intercalate [',', ' '] (selectors.map (Text.linesAt level)) ++
      [' ', '{', '\n'] ++ printAllAt (level + 1) contents ++ tabs level ++ ['}']

/-- Prints nodes one after the other, each on lines of its own. Those without text are skipped. -/
def printAllAt (level : Nat) : List Node → Text
  | [] => []
  | node :: nodes => (node.printAt level).asLines ++ printAllAt level nodes

end

end Node

/-! Moving lines in -/

namespace Text

theorem linesAt_append (level : Nat) (left right : Text) :
    linesAt level (left ++ right) = linesAt level left ++ linesAt level right :=
  replaceChar_append left right '\n' _

theorem linesAt_of_oneLine {text : Text} (oneLine : '\n' ∉ text) (level : Nat) :
    linesAt level text = text :=
  replaceChar_of_absent oneLine _

theorem linesAt_feed (level : Nat) : linesAt level ['\n'] = '\n' :: tabs level :=
  List.append_nil _

theorem linesAt_zero (text : Text) : linesAt 0 text = text :=
  replaceChar_self text '\n'

theorem linesAt_intercalate (level : Nat) (texts : List Text) :
    linesAt level (List.intercalate [',', ' '] texts) =
      List.intercalate [',', ' '] (texts.map (linesAt level)) :=
  replaceChar_intercalate (by decide) _ texts

theorem linesAt_moved (level : Nat) (text : Text) :
    linesAt level (text.replaceChar '\n' ['\n', '\t']) = linesAt (level + 1) text := by
  have feed : linesAt level ['\n', '\t'] = '\n' :: tabs (level + 1) :=
    congrArg ('\n' :: ·) List.replicate_succ'.symm
  rw [linesAt, replaceChar_replaceChar, ← linesAt, feed, linesAt]

theorem linesAt_ne_nil (level : Nat) {text : Text} (filled : text ≠ []) :
    linesAt level text ≠ [] := by
  cases text with
  | nil => exact absurd rfl filled
  | cons c text =>
      rw [linesAt, replaceChar_cons]
      split
      · exact List.cons_ne_nil _ _
      · exact List.cons_ne_nil _ _

/-- A text all of whose lines start at a level. Where there is no text there are no lines. -/
def movedTo (level : Nat) (text : Text) : Text :=
  if text.isEmpty then [] else tabs level ++ text.linesAt level

theorem movedTo_of_filled (level : Nat) {text : Text} (filled : text ≠ []) :
    text.movedTo level = tabs level ++ text.linesAt level := by
  rw [movedTo, if_neg (by simpa using filled)]

theorem asLines_of_filled {text : Text} (filled : text ≠ []) : text.asLines = text ++ ['\n'] := by
  rw [asLines, if_neg (by simpa using filled)]

end Text

namespace Node

open Text

/-- One entry of a block that is moved to a level. The tabs behind its last line are those that the
next line starts with. -/
theorem linesAt_entry (level : Nat) (text : Text) :
    tabs level ++ linesAt level (entry text) = (text.movedTo (level + 1)).asLines ++ tabs level := by
  by_cases empty : text = []
  · subst empty
    exact List.append_nil _
  · have lines : text.movedTo (level + 1) ≠ [] := by
      rw [movedTo_of_filled _ empty]
      exact List.append_ne_nil_of_right_ne_nil _ (linesAt_ne_nil _ empty)
    have start : tabs (level + 1) = tabs level ++ ['\t'] := List.replicate_succ'
    have moved : linesAt level (entry text) =
        ['\t'] ++ linesAt (level + 1) text ++ ('\n' :: tabs level) := by
      rw [entry, if_neg (by simpa using empty), ← List.singleton_append, linesAt_append,
        linesAt_append, linesAt_moved, linesAt_of_oneLine (by decide), linesAt_feed]
    rw [moved, asLines_of_filled lines, movedTo_of_filled _ empty, start]
    simp only [List.append_assoc, List.singleton_append]

theorem linesAt_printEntries (level : Nat) {nodes : List Node}
    (each : ∀ node ∈ nodes, node.printAt (level + 1) = node.print.movedTo (level + 1)) :
    tabs level ++ linesAt level (printEntries nodes) =
      printAllAt (level + 1) nodes ++ tabs level := by
  induction nodes with
  | nil => exact List.append_nil _
  | cons node nodes ih =>
      have later := ih fun other member => each other (List.mem_cons_of_mem node member)
      rw [printEntries, linesAt_append, ← List.append_assoc, linesAt_entry, List.append_assoc, later,
        printAllAt, each node List.mem_cons_self, List.append_assoc]

/-- At every level a node is printed as its text with all lines moved there. The induction is on the
tree, for all levels at once, since what a block holds is printed one level further in. -/
theorem printAt_eq_movedTo (node : Node) (level : Nat) :
    node.printAt level = node.print.movedTo level := by
  induction node using nestedInduction generalizing level with
  | atRule content => rfl
  | rule content =>
      cases blank : content.isBlankText with
      | true => simp [printAt, print, blank, movedTo]
      | false =>
          have text : (rule content).print = content ++ [';'] := by simp [print, blank]
          rw [text, movedTo_of_filled _ (by simp), linesAt_append,
            linesAt_of_oneLine (by decide : '\n' ∉ [';'])]
          simp [printAt, blank]
  | ruleSet selectors contents ih =>
      have inner := linesAt_printEntries level fun node member => ih node member (level + 1)
      have opening : linesAt level [' ', '{', '\n'] = [' ', '{', '\n'] ++ tabs level :=
        congrArg ([' ', '{'] ++ ·) (linesAt_feed level)
      have closing : linesAt level ['}'] = ['}'] := rfl
      rw [print, movedTo_of_filled _ (by simp), linesAt_append, linesAt_append, linesAt_append,
        linesAt_intercalate, opening, closing, printAt]
      simp only [List.append_assoc]
      rw [← List.append_assoc (tabs level) (linesAt level (printEntries contents)), inner]
      simp only [List.append_assoc]

theorem print_eq_printAt (node : Node) : node.print = node.printAt 0 := by
  rw [printAt_eq_movedTo, movedTo, linesAt_zero]
  split
  · next empty => simpa using empty
  · rfl

example :
    (ruleSet ["a".toList, "b\nc".toList]
      [rule " ".toList, ruleSet [] [rule "d:\ne".toList]]).printAt 0 =
      "a, b\nc \x7b\n\t \x7b\n\t\td:\n\t\te;\n\t\x7d\n\x7d".toList := by
  decide

end Node

end Stylesheet
