import Mathlib.Data.List.ProdSigma
import Stylesheet.Proofs.Node.Flattening

/-!
Flattening inside a context. Selectors are joined in the same way whether the outer ones or the
inner ones are joined first, and so are lists of them. So it makes no difference whether a rule set
is flattened below the selectors around it, or flattened alone and then put below them.
-/

namespace Stylesheet

/-! One selector below another -/

/-- What stands between an outer selector and an inner one that is not empty. -/
def selectorGap (inner : Text) : Text := if inner.head? = some ':' then [] else [' ']

section Selectors

variable {outer inner : Text}

theorem selectorBelow_of_filled (filledOuter : outer ≠ []) (filledInner : inner ≠ []) :
    selectorBelow outer inner = outer ++ (selectorGap inner ++ inner) := by
  unfold selectorBelow selectorGap
  simp only [List.isEmpty_iff, filledOuter, filledInner, if_false]
  split
  · rw [List.nil_append]
  · rw [List.singleton_append]

-- Only the first character of the inner selector decides how it is attached.
theorem selectorGap_append (filled : outer ≠ []) (inner : Text) :
    selectorGap (outer ++ inner) = selectorGap outer := by
  cases outer with
  | nil => exact absurd rfl filled
  | cons c outer => rfl

theorem selectorBelow_assoc (first second third : Text) :
    selectorBelow (selectorBelow first second) third =
      selectorBelow first (selectorBelow second third) := by
  by_cases none : first = []
  · rw [none, selectorBelow_nil_left, selectorBelow_nil_left]
  by_cases skipped : second = []
  · rw [skipped, selectorBelow_nil_left, selectorBelow_nil_right]
  by_cases last : third = []
  · rw [last, selectorBelow_nil_right, selectorBelow_nil_right]
  have outerFilled : first ++ (selectorGap second ++ second) ≠ [] := by simp [none]
  have innerFilled : second ++ (selectorGap third ++ third) ≠ [] := by simp [skipped]
  rw [selectorBelow_of_filled none skipped, selectorBelow_of_filled skipped last,
    selectorBelow_of_filled outerFilled last, selectorBelow_of_filled none innerFilled,
    selectorGap_append skipped]
  simp only [List.append_assoc]

end Selectors

/-! Lists of selectors below lists of selectors -/

/-- Every outer selector with every inner one, the outer ones changing last. A list without
selectors counts as the one empty selector. -/
def selectorsBelow (outer inner : List Text) : List Text :=
  (List.product (selectorChoices outer) (selectorChoices inner)).map fun pair =>
    selectorBelow pair.1 pair.2

theorem selectorsBelow_eq_flatMap (outer inner : List Text) :
    selectorsBelow outer inner =
      (selectorChoices outer).flatMap fun o => (selectorChoices inner).map (selectorBelow o) := by
  simp only [selectorsBelow, List.product, List.map_flatMap, List.map_map, Function.comp_def]

theorem qualify_some (outer inner : List Text) :
    qualify (some outer) inner = selectorsBelow outer inner :=
  (selectorsBelow_eq_flatMap outer inner).symm

theorem selectorsBelow_filled (outer inner : List Text) : selectorsBelow outer inner ≠ [] := by
  intro empty
  rw [selectorsBelow_eq_flatMap, List.flatMap_eq_nil_iff] at empty
  apply selectorChoices_filled outer
  apply List.eq_nil_iff_forall_not_mem.mpr
  intro selector member
  exact selectorChoices_filled inner (List.map_eq_nil_iff.mp (empty selector member))

theorem selectorsBelow_assoc (first second third : List Text) :
    selectorsBelow (selectorsBelow first second) third =
      selectorsBelow first (selectorsBelow second third) := by
  have outer := selectorChoices_of_filled (selectorsBelow_filled first second)
  have inner := selectorChoices_of_filled (selectorsBelow_filled second third)
  have joined : ∀ o m, selectorBelow (selectorBelow o m) =
      fun i => selectorBelow o (selectorBelow m i) :=
    fun o m => funext (selectorBelow_assoc o m)
  rw [selectorsBelow_eq_flatMap (selectorsBelow first second), outer,
    selectorsBelow_eq_flatMap first (selectorsBelow second third), inner]
  simp only [selectorsBelow_eq_flatMap, List.map_flatMap, List.map_map, List.flatMap_map,
    List.flatMap_assoc, Function.comp_def, joined]

namespace Node

/-- A rule set below outer selectors, with what it holds left as it is. -/
def qualifiedBy (outer : List Text) : Node → Node
  | ruleSet selectors contents => ruleSet (selectorsBelow outer selectors) contents
  | node => node

theorem qualifiedBy_qualifiedBy (outer inner : List Text) (node : Node) :
    (node.qualifiedBy inner).qualifiedBy outer = node.qualifiedBy (selectorsBelow outer inner) := by
  cases node with
  | atRule content => rfl
  | rule content => rfl
  | ruleSet selectors contents => simp only [qualifiedBy, selectorsBelow_assoc]

/-- What surrounds a node once `outer` is put around `inner`. -/
def surrounded (outer : List Text) : Option (List Text) → List Text
  | none => outer
  | some inner => selectorsBelow outer inner

theorem qualify_surrounded (outer : List Text) (inner : Option (List Text)) (own : List Text) :
    qualify (some (surrounded outer inner)) own = selectorsBelow outer (qualify inner own) := by
  rw [qualify_some]
  cases inner with
  | none => rfl
  | some inner => rw [surrounded, selectorsBelow_assoc, qualify_some]

-- The level of a rule set takes the outer selectors once; the levels inside it take them from there.
theorem flattenBelow_surrounded (node : Node) (outer : List Text) (inner : Option (List Text)) :
    node.flattenBelow (some (surrounded outer inner)) =
      (node.flattenBelow inner).map (qualifiedBy outer) := by
  induction node using nestedInduction generalizing inner with
  | atRule content => rfl
  | rule content => rfl
  | ruleSet selectors contents ih =>
      have level := qualify_surrounded outer inner selectors
      have nested : flattenEach (some (selectorsBelow outer (qualify inner selectors))) contents =
          (flattenEach (some (qualify inner selectors)) contents).map (qualifiedBy outer) := by
        rw [flattenEach_eq_flatMap, flattenEach_eq_flatMap, List.map_flatMap, List.flatMap_def,
          List.flatMap_def]
        exact congrArg List.flatten
          (List.map_congr_left fun node member => ih node member (some (qualify inner selectors)))
      simp only [flattenBelow, level, nested]
      split
      · rfl
      · rw [List.map_cons, qualifiedBy]

/-- Joining selectors is associative, with the empty selector on either side of no effect.
Flattening below outer selectors puts each rule set of the flattened node below them, in the same
order, and two levels of outer selectors can be put around it one after the other or at once. -/
theorem flattenBelow_qualifies :
    (∀ first second third, selectorBelow (selectorBelow first second) third =
      selectorBelow first (selectorBelow second third)) ∧
    (∀ selector, selectorBelow [] selector = selector ∧ selectorBelow selector [] = selector) ∧
    (∀ (node : Node) (outer : List Text),
      node.flattenBelow (some outer) = (node.flattenBelow none).map (qualifiedBy outer)) ∧
    ∀ (node : Node) (outer inner : List Text),
      (node.flattenBelow (some inner)).map (qualifiedBy outer) =
          node.flattenBelow (some (selectorsBelow outer inner)) ∧
        ((node.flattenBelow none).map (qualifiedBy inner)).map (qualifiedBy outer) =
          (node.flattenBelow none).map (qualifiedBy (selectorsBelow outer inner)) := by
  refine ⟨selectorBelow_assoc, ?_, ?_, ?_⟩
  · intro selector
    exact ⟨selectorBelow_nil_left selector, selectorBelow_nil_right selector⟩
  · intro node outer
    exact flattenBelow_surrounded node outer none
  · intro node outer inner
    constructor
    · exact (flattenBelow_surrounded node outer (some inner)).symm
    · rw [List.map_map]
      apply List.map_congr_left
      intro flat _
      exact qualifiedBy_qualifiedBy outer inner flat

end Node

end Stylesheet
