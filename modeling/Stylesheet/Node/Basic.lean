import Stylesheet.Text.Basic

/-!
The structure of a stylesheet: a list of nodes, of which a rule set holds nodes again. A text whose
braces do not pair up has no such structure, and the error says which brace is to blame.
-/

namespace Stylesheet

inductive Node where
  /-- An at-rule, kept as written with its terminator. -/
  | atRule (content : Text)
  /-- One declaration, without the semicolon that ends it. -/
  | rule (content : Text)
  | ruleSet (selectors : List Text) (contents : List Node)

namespace Node

def isRuleSet : Node → Bool
  | ruleSet _ _ => true
  | _ => false

@[elab_as_elim]
theorem nestedInduction {motive : Node → Prop} (atRule : ∀ content, motive (.atRule content))
    (rule : ∀ content, motive (.rule content))
    (ruleSet : ∀ selectors contents, (∀ node ∈ contents, motive node) →
      motive (.ruleSet selectors contents)) : ∀ node, motive node
  | .atRule content => atRule content
  | .rule content => rule content
  | .ruleSet selectors contents =>
    ruleSet selectors contents fun node _ => nestedInduction atRule rule ruleSet node

end Node

inductive BraceFault where
  | mismatched
  | unclosedBlock
  | unclosedAtRule
  deriving DecidableEq

structure BraceError where
  fault : BraceFault
  position : Nat
  deriving DecidableEq

def BraceFault.message : BraceFault → Text
  | mismatched => "Bad CSS: mismatched \x7d".toList
  | unclosedBlock => "Bad CSS: block is never closed".toList
  | unclosedAtRule => "Bad CSS: at-rule block is never closed".toList

def BraceError.message (error : BraceError) : Text := error.fault.message

end Stylesheet
