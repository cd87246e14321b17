import Stylesheet.Node.Printer
import Stylesheet.Proofs.Node.WellFormed

/-!
Spellings of well-formed nodes. A text spells nodes when it writes them one after another with any
blanks before each and any blanks inside the braces of a block. Moving a spelling in by a tab gives
a spelling of the same nodes, since no text of a node has a line end in it, so the printed nodes are
spelled at every depth.
-/

namespace Stylesheet.Node

open Text

inductive Spells : Text → List Node → Prop where
  | blank {blanks : Text} (allBlank : ∀ c ∈ blanks, isBlank c = true) : Spells blanks []
  | atRule {blanks content rest : Text} {nodes : List Node}
      (allBlank : ∀ c ∈ blanks, isBlank c = true) (fits : content.IsAtRule)
      (later : Spells rest nodes) :
      Spells (blanks ++ (content ++ rest)) (.atRule content :: nodes)
  | rule {blanks content rest : Text} {nodes : List Node}
      (allBlank : ∀ c ∈ blanks, isBlank c = true) (fits : content.IsClause)
      (later : Spells rest nodes) :
      Spells (blanks ++ (content ++ ';' :: rest)) (.rule content :: nodes)
  | ruleSet {blanks inner rest : Text} {selectors : List Text} {contents nodes : List Node}
      (allBlank : ∀ c ∈ blanks, isBlank c = true)
      (fits : ∀ selector ∈ selectors, selector.IsSelector)
      (inside : Spells inner contents) (later : Spells rest nodes) :
      Spells (blanks ++ (List.intercalate [',', ' '] selectors ++ ' ' :: '{' ::
        (inner ++ '}' :: rest))) (.ruleSet selectors contents :: nodes)

theorem blank_append {left right : Text} (blankLeft : ∀ c ∈ left, isBlank c = true)
    (blankRight : ∀ c ∈ right, isBlank c = true) : ∀ c ∈ left ++ right, isBlank c = true := by
  intro c member
  rcases List.mem_append.mp member with before | behind
  · exact blankLeft c before
  · exact blankRight c behind

theorem filled_of_isAtRule {content : Text} (fits : content.IsAtRule) : content ≠ [] := by
  rintro rfl
  have starts := fits.starts
  simp at starts

theorem filled_of_spells {text : Text} {node : Node} {nodes : List Node}
    (spells : Spells text (node :: nodes)) : text ≠ [] := by
  cases spells with
  | atRule _ fits _ => simp [filled_of_isAtRule fits]
  | rule => simp
  | ruleSet => simp

-- Blanks before a spelling are blanks before its first node.
theorem spells_blanks_append {blanks text : Text} {nodes : List Node}
    (allBlank : ∀ c ∈ blanks, isBlank c = true) (spells : Spells text nodes) :
    Spells (blanks ++ text) nodes := by
  cases spells with
  | blank more => exact .blank (blank_append allBlank more)
  | atRule more fits later =>
      rw [← List.append_assoc]
      exact .atRule (blank_append allBlank more) fits later
  | rule more fits later =>
      rw [← List.append_assoc]
      exact .rule (blank_append allBlank more) fits later
  | ruleSet more fits inside later =>
      rw [← List.append_assoc]
      exact .ruleSet (blank_append allBlank more) fits inside later

theorem spells_append {left right : Text} {before behind : List Node}
    (first : Spells left before) (second : Spells right behind) :
    Spells (left ++ right) (before ++ behind) := by
  induction first with
  | blank allBlank => exact spells_blanks_append allBlank second
  | atRule allBlank fits _ ih =>
      rw [List.append_assoc, List.append_assoc]
      exact .atRule allBlank fits ih
  | rule allBlank fits _ ih =>
      rw [List.append_assoc, List.append_assoc]
      exact .rule allBlank fits ih
  | ruleSet allBlank fits inside _ _ ih =>
      simp only [List.append_assoc, List.cons_append]
      exact .ruleSet allBlank fits inside ih

/-! Moving a spelling in -/

theorem blank_moveIn {blanks : Text} (allBlank : ∀ c ∈ blanks, isBlank c = true) :
    ∀ c ∈ blanks.replaceChar '\n' ['\n', '\t'], isBlank c = true := by
  intro c member
  obtain ⟨d, known, produced⟩ := List.mem_flatMap.mp member
  split at produced
  · have either : c = '\n' ∨ c = '\t' := by simpa using produced
    rcases either with rfl | rfl <;> rfl
  · rw [List.mem_singleton.mp produced]
    exact allBlank d known

theorem moveIn_selectors {selectors : List Text}
    (fits : ∀ selector ∈ selectors, selector.IsSelector) :
    replaceChar (List.intercalate [',', ' '] selectors) '\n' ['\n', '\t'] =
      List.intercalate [',', ' '] selectors := by
  apply replaceChar_of_absent
  apply intercalate_closed (P := fun text => '\n' ∉ text)
  · simp
  · intro left right before behind
    simp [before, behind]
  · decide
  · intro selector member
    exact (fits selector member).plain.oneLine

theorem spells_moveIn {text : Text} {nodes : List Node} (spells : Spells text nodes) :
    Spells (text.replaceChar '\n' ['\n', '\t']) nodes := by
  induction spells with
  | blank allBlank => exact .blank (blank_moveIn allBlank)
  | atRule allBlank fits _ ih =>
      rw [replaceChar_append, replaceChar_append, replaceChar_of_absent fits.plain.oneLine]
      exact .atRule (blank_moveIn allBlank) fits ih
  | rule allBlank fits _ ih =>
      rw [replaceChar_append, replaceChar_append, replaceChar_of_absent fits.plain.oneLine]
      exact .rule (blank_moveIn allBlank) fits ih
  | ruleSet allBlank fits _ _ inner ih =>
      simp only [replaceChar_append, replaceChar_cons, moveIn_selectors fits]
      exact .ruleSet (blank_moveIn allBlank) fits inner ih

/-! Printed nodes -/

theorem spells_printEntries {contents : List Node}
    (each : ∀ node ∈ contents, Spells node.print [node]) :
    Spells (printEntries contents) contents := by
  induction contents with
  | nil => exact .blank (by simp [printEntries])
  | cons node nodes ih =>
      have first := each node List.mem_cons_self
      have later := ih fun other member => each other (List.mem_cons_of_mem node member)
      have moved : Spells (entry node.print) [node] := by
        rw [entry, if_neg (by simpa using filled_of_spells first)]
        have tab : ∀ c ∈ ['\t'], isBlank c = true := List.all_eq_true.mp rfl
        have feed : ∀ c ∈ ['\n'], isBlank c = true := List.all_eq_true.mp rfl
        exact spells_append (spells_blanks_append tab (spells_moveIn first)) (.blank feed)
      exact spells_append moved later

theorem spells_print {node : Node} (formed : node.WellFormed) : Spells node.print [node] := by
  have noBlanks : ∀ c ∈ ([] : Text), isBlank c = true := by simp
  induction formed with
  | atRule fits =>
      have spells := Spells.atRule noBlanks fits (.blank noBlanks)
      simpa [print] using spells
  | rule fits =>
      have visible : ¬isBlankText _ = true := fun allBlank =>
        fits.filled (fits.trimmed ▸ by
          rw [trim, trimStart_of_blank (List.all_eq_true.mp allBlank)]
          rfl)
      have spells := Spells.rule noBlanks fits (.blank noBlanks)
      simpa [print, visible] using spells
  | ruleSet fits _ ih =>
      have feed : ∀ c ∈ ['\n'], isBlank c = true := List.all_eq_true.mp rfl
      have inside := spells_blanks_append feed (spells_printEntries ih)
      have spells := Spells.ruleSet noBlanks fits inside (.blank noBlanks)
      simpa [print] using spells

theorem spells_printAll {nodes : List Node} (formed : ∀ node ∈ nodes, node.WellFormed) :
    Spells (printAll nodes) nodes := by
  -- the text printed so far spells the nodes printed so far
  have under : ∀ printed before, Spells printed before →
      Spells (nodes.foldl (fun printed node => appendBelow printed node.print) printed)
        (before ++ nodes) := by
    induction nodes with
    | nil =>
        intro printed before spells
        simpa using spells
    | cons node nodes ih =>
        intro printed before spells
        obtain ⟨blanks, allBlank, below⟩ := exists_appendBelow printed node.print
        have first := spells_print (formed node List.mem_cons_self)
        have more := spells_append spells (spells_blanks_append allBlank first)
        rw [← below] at more
        have all := ih (fun other member => formed other (List.mem_cons_of_mem node member)) _ _ more
        simpa using all
  exact under [] [] (.blank (by simp))

end Stylesheet.Node
