import Stylesheet.Node.Basic
import Stylesheet.Text.Blank

/-!
Printing nodes. A block is printed with one node a line, each moved in by a tab; nodes that print
as nothing leave no line. In a sheet a blank line follows each closing brace.
-/

namespace Stylesheet

namespace Node

/-- One entry of a block: the text of a node on lines of its own, moved in by a tab. -/
def entry (text : Text) : Text :=
  if text.isEmpty then [] else '\t' :: text.replaceChar '\n' ['\n', '\t'] ++ ['\n']

mutual

def print : Node → Text
  | atRule content => content
  | rule content => if content.isBlankText then [] else content ++ [';']
  | ruleSet selectors contents =>
    List.intercalate [',', ' '] selectors ++ [' ', '{', '\n'] ++ printEntries contents ++ ['}']

def printEntries : List Node → Text
  | [] => []
  | node :: nodes => entry node.print ++ printEntries nodes

end

/-- Sets a text under what is already printed: nothing comes between as long as that is empty, a
blank line after a closing brace, and a line end otherwise. -/
def appendBelow (printed text : Text) : Text :=
  if printed.isEmpty then text
  else if printed.endsWith '}' then printed ++ ['\n', '\n'] ++ text
  else printed ++ ['\n'] ++ text

theorem exists_appendBelow (printed text : Text) : ∃ blanks : Text,
    (∀ c ∈ blanks, isBlank c = true) ∧ appendBelow printed text = printed ++ (blanks ++ text) := by
  unfold appendBelow
  split
  · next empty => exact ⟨[], by simp, by simpa using empty⟩
  · split
    · exact ⟨['\n', '\n'], List.all_eq_true.mp rfl, by simp⟩
    · exact ⟨['\n'], List.all_eq_true.mp rfl, by simp⟩

def printAll (nodes : List Node) : Text :=
  nodes.foldl (fun printed node => appendBelow printed node.print) []

end Node

end Stylesheet
