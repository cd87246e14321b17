import Stylesheet.Node.Basic
import Stylesheet.Text.Blank

/-!
The layout of a stylesheet. A rule set inside another applies to what both select, so it can stand
on its own under selectors that name the outer ones first. Flattening lists each rule set with its
own declarations, then those nested in it, in the order they are written.

Text is spread over lines by its characters alone: a space behind each colon, a line for each
declaration, a blank line behind each block.
-/

namespace Stylesheet

/-- The selector of a block inside a block. A pseudo-class or pseudo-element attaches to the outer
selector; anything else selects below it. -/
def selectorBelow (outer inner : Text) : Text :=
  if inner.isEmpty then outer
  else if outer.isEmpty then inner
  else if inner.head? = some ':' then outer ++ inner
  else outer ++ ' ' :: inner

def selectorChoices (selectors : List Text) : List Text :=
  if selectors.isEmpty then [[]] else selectors

def qualify : (outer : Option (List Text)) → (inner : List Text) → List Text
  | none, inner => inner
  | some outer, inner =>
    (selectorChoices outer).flatMap fun o => (selectorChoices inner).map (selectorBelow o)

namespace Node

mutual

/-- The rule sets that a rule set stands for below the selectors `outer`. Its own level is left
out when it holds nothing but rule sets. Any other node stands for none. -/
def flattenBelow (outer : Option (List Text)) : Node → List Node
  | ruleSet selectors contents =>
    let level := qualify outer selectors
    let own := contents.filter (!·.isRuleSet)
    let nested := flattenEach (some level) contents
    if own.isEmpty && contents.any isRuleSet then nested else ruleSet level own :: nested
  | _ => []

def flattenEach (outer : Option (List Text)) : List Node → List Node
  | [] => []
  | node :: nodes => flattenBelow outer node ++ flattenEach outer nodes

end

def flattenAll (nodes : List Node) : List Node :=
  nodes.flatMap fun node => if node.isRuleSet then node.flattenBelow none else [node]

end Node

def spreadLines (text : Text) : Text :=
  let spaced := (text.replaceChar ':' [':', ' ']).replace [':', ' ', ' '] [':', ' ']
  let opened := spaced.replaceChar '{' [' ', '{', '\n', '\t']
  let divided := opened.replaceChar ';' [';', '\n', '\t']
  (divided.replace ['\t', '}'] ['}', '\n', '\n']).trim

end Stylesheet
