import Stylesheet.Node.Layout

/-!
What flattening a sheet gives, told from the blocks of the tree. The blocks are listed in the order
of their opening braces, each with the selector lists of all the blocks around it. Every block
stands for one rule set of its own, unless it only holds other blocks, and its selectors take one
selector from each list along the way.
-/

namespace Stylesheet

/-- Every way to take one item from each list. The item from the first list changes last. -/
def choices {α : Type} : List (List α) → List (List α)
  | [] => [[]]
  | level :: levels => level.flatMap fun item => (choices levels).map (item :: ·)

/-- One selector for blocks inside each other, from a selector of each of them. -/
def joinSelectors (selectors : List Text) : Text := selectors.foldl selectorBelow []

/-- The selectors of a block, from the selector lists of the blocks around it and, last, its own. -/
def selectorsAlong : List (List Text) → List Text
  | [own] => own
  | chain => (choices (chain.map selectorChoices)).map joinSelectors

theorem choices_singleton {α : Type} (level : List α) : choices [level] = level.map ([·]) :=
  List.map_eq_flatMap.symm

theorem choices_concat {α : Type} (levels : List (List α)) (last : List α) :
    choices (levels ++ [last]) = (choices levels).flatMap fun front => last.map (front ++ [·]) := by
  induction levels with
  | nil => simp [choices_singleton, choices]
  | cons level levels ih =>
      simp only [List.cons_append, choices, ih, List.map_flatMap, List.flatMap_assoc,
        List.flatMap_map, List.map_map, Function.comp_def]

theorem choices_filled {α : Type} {levels : List (List α)} (filled : ∀ level ∈ levels, level ≠ []) :
    choices levels ≠ [] := by
  induction levels with
  | nil => simp [choices]
  | cons level levels ih =>
      obtain ⟨item, rest, rfl⟩ := List.exists_cons_of_ne_nil (filled level List.mem_cons_self)
      have more := ih fun other member => filled other (List.mem_cons_of_mem _ member)
      simp [choices, more]

theorem selectorBelow_nil_left (inner : Text) : selectorBelow [] inner = inner := by
  cases inner <;> rfl

theorem selectorBelow_nil_right (outer : Text) : selectorBelow outer [] = outer := rfl

theorem selectorChoices_filled (selectors : List Text) : selectorChoices selectors ≠ [] := by
  cases selectors <;> simp [selectorChoices]

theorem selectorChoices_of_filled {selectors : List Text} (filled : selectors ≠ []) :
    selectorChoices selectors = selectors := by
  simp [selectorChoices, filled]

-- A list that stands alone may be empty; along a chain it counts as one empty selector.
theorem selectorChoices_selectorsAlong {chain : List (List Text)} (inside : chain ≠ []) :
    selectorChoices (selectorsAlong chain) =
      (choices (chain.map selectorChoices)).map joinSelectors := by
  match chain, inside with
  | [own], _ =>
      have alone : joinSelectors ∘ ([·]) = id := funext selectorBelow_nil_left
      rw [selectorsAlong, List.map_singleton, choices_singleton, List.map_map, alone, List.map_id]
  | outer :: next :: chain, _ =>
      have filled : (choices ((outer :: next :: chain).map selectorChoices)).map joinSelectors ≠ [] := by
        rw [Ne, List.map_eq_nil_iff]
        apply choices_filled
        intro level member
        obtain ⟨selectors, _, rfl⟩ := List.mem_map.mp member
        exact selectorChoices_filled selectors
      exact selectorChoices_of_filled filled

/-- What surrounds a block whose chain starts with these lists. -/
def enclosing (chain : List (List Text)) : Option (List Text) :=
  if chain.isEmpty then none else some (selectorsAlong chain)

/-- One level more: each selector so far is joined with each selector of the block. -/
theorem qualify_enclosing (chain : List (List Text)) (own : List Text) :
    qualify (enclosing chain) own = selectorsAlong (chain ++ [own]) := by
  cases chain with
  | nil => rfl
  | cons outer chain =>
      have along : selectorsAlong (outer :: chain ++ [own]) =
          (choices ((outer :: chain ++ [own]).map selectorChoices)).map joinSelectors := by
        cases chain <;> rfl
      have surrounding : enclosing (outer :: chain) = some (selectorsAlong (outer :: chain)) := rfl
      have joined : ∀ front last, joinSelectors (front ++ [last]) =
          selectorBelow (joinSelectors front) last := by
        intro front last
        simp [joinSelectors]
      rw [along, List.map_append, List.map_singleton, choices_concat, surrounding, qualify,
        selectorChoices_selectorsAlong (List.cons_ne_nil outer chain)]
      simp only [List.flatMap_map, List.map_flatMap, List.map_map, Function.comp_def, joined]

/-- A block of a tree: the selector lists of the blocks around it, the outermost first, then its
own, and what it holds. -/
structure Block where
  chain : List (List Text)
  contents : List Node

namespace Block

/-- What the block holds itself, without the blocks inside it. -/
def declarations (block : Block) : List Node := block.contents.filter (!·.isRuleSet)

/-- Nothing but blocks inside it. -/
def isContainer (block : Block) : Bool :=
  block.declarations.isEmpty && block.contents.any Node.isRuleSet

/-- The rule set that a block stands for. -/
def flat? (block : Block) : Option Node :=
  if block.isContainer then none
  else some (.ruleSet (selectorsAlong block.chain) block.declarations)

end Block

namespace Node

mutual

/-- The blocks of a node in the order of their opening braces. -/
def blocks (chain : List (List Text)) : Node → List Block
  | ruleSet selectors contents =>
    ⟨chain ++ [selectors], contents⟩ :: blocksOf (chain ++ [selectors]) contents
  | _ => []

def blocksOf (chain : List (List Text)) : List Node → List Block
  | [] => []
  | node :: nodes => node.blocks chain ++ blocksOf chain nodes

/-- The at-rules and declarations of a node, at any depth, in the order they are written. -/
def leaves : Node → List Node
  | ruleSet _ contents => leavesOf contents
  | node => [node]

def leavesOf : List Node → List Node
  | [] => []
  | node :: nodes => node.leaves ++ leavesOf nodes

end

/-- No rule set stands inside the node if it is one. -/
def IsFlat : Node → Prop
  | ruleSet _ contents => ∀ node ∈ contents, node.isRuleSet = false
  | _ => True

theorem flattenEach_eq_flatMap (outer : Option (List Text)) (nodes : List Node) :
    flattenEach outer nodes = nodes.flatMap (flattenBelow outer) := by
  induction nodes with
  | nil => rfl
  | cons node nodes ih => rw [flattenEach, ih, List.flatMap_cons]

theorem blocksOf_eq_flatMap (chain : List (List Text)) (nodes : List Node) :
    blocksOf chain nodes = nodes.flatMap (blocks chain) := by
  induction nodes with
  | nil => rfl
  | cons node nodes ih => rw [blocksOf, ih, List.flatMap_cons]

theorem leavesOf_eq_flatMap (nodes : List Node) : leavesOf nodes = nodes.flatMap leaves := by
  induction nodes with
  | nil => rfl
  | cons node nodes ih => rw [leavesOf, ih, List.flatMap_cons]

theorem leavesOf_append (left right : List Node) :
    leavesOf (left ++ right) = leavesOf left ++ leavesOf right := by
  simp only [leavesOf_eq_flatMap, List.flatMap_append]

/-- What a rule set stands for: its own level, unless that is a container, and the levels inside. -/
theorem flattenBelow_ruleSet (chain : List (List Text)) (selectors : List Text)
    (contents : List Node) :
    flattenBelow (enclosing chain) (.ruleSet selectors contents) =
      (Block.mk (chain ++ [selectors]) contents).flat?.toList ++
        contents.flatMap (flattenBelow (enclosing (chain ++ [selectors]))) := by
  have level : qualify (enclosing chain) selectors = selectorsAlong (chain ++ [selectors]) :=
    qualify_enclosing chain selectors
  have inner : enclosing (chain ++ [selectors]) = some (selectorsAlong (chain ++ [selectors])) := by
    simp [enclosing]
  rw [flattenBelow, level, inner, flattenEach_eq_flatMap]
  unfold Block.flat? Block.isContainer Block.declarations
  split
  · rfl
  · rfl

theorem flattenBelow_enclosing (node : Node) (chain : List (List Text)) :
    node.flattenBelow (enclosing chain) = (node.blocks chain).filterMap Block.flat? := by
  induction node using nestedInduction generalizing chain with
  | atRule content => rfl
  | rule content => rfl
  | ruleSet selectors contents ih =>
      have inside : contents.flatMap (flattenBelow (enclosing (chain ++ [selectors]))) =
          (blocksOf (chain ++ [selectors]) contents).filterMap Block.flat? := by
        rw [blocksOf_eq_flatMap, List.filterMap_flatMap, List.flatMap_def, List.flatMap_def,
          List.map_congr_left fun node member => ih node member (chain ++ [selectors])]
      rw [flattenBelow_ruleSet, inside, blocks]
      cases kept : (Block.mk (chain ++ [selectors]) contents).flat? with
      | none => rw [List.filterMap_cons_none kept, Option.toList_none, List.nil_append]
      | some flat => rw [List.filterMap_cons_some kept, Option.toList_some, List.singleton_append]

theorem isFlat_of_blocks {chain : List (List Text)} {node flat : Node}
    (member : flat ∈ (node.blocks chain).filterMap Block.flat?) : flat.IsFlat := by
  obtain ⟨block, _, kept⟩ := List.mem_filterMap.mp member
  unfold Block.flat? at kept
  split at kept
  · cases kept
  · obtain rfl := Option.some.inj kept
    intro inner own
    simpa using (List.mem_filter.mp own).2

theorem leaves_of_noRuleSet {node : Node} (plain : node.isRuleSet = false) :
    node.leaves = [node] := by
  cases node with
  | atRule content => rfl
  | rule content => rfl
  | ruleSet selectors contents => cases plain

theorem leavesOf_of_noRuleSet {nodes : List Node} (plain : ∀ node ∈ nodes, node.isRuleSet = false) :
    leavesOf nodes = nodes := by
  induction nodes with
  | nil => rfl
  | cons node nodes ih =>
      have rest := ih fun other member => plain other (List.mem_cons_of_mem node member)
      rw [leavesOf, leaves_of_noRuleSet (plain node List.mem_cons_self), rest,
        List.singleton_append]

theorem leavesOf_flat? (block : Block) : leavesOf block.flat?.toList = block.declarations := by
  have plain : ∀ node ∈ block.declarations, node.isRuleSet = false := by
    intro node member
    simpa using (List.mem_filter.mp member).2
  unfold Block.flat?
  split
  · next container =>
    unfold Block.isContainer at container
    simp only [Bool.and_eq_true, List.isEmpty_iff] at container
    rw [container.1]
    rfl
  · rw [Option.toList_some, leavesOf, leaves, leavesOf_of_noRuleSet plain, leavesOf, List.append_nil]

/-- The leaves of a block are its declarations and the leaves of the blocks inside it. -/
theorem leavesOf_perm (contents : List Node) :
    (leavesOf contents).Perm
      (contents.filter (!·.isRuleSet) ++ leavesOf (contents.filter isRuleSet)) := by
  induction contents with
  | nil => exact .refl _
  | cons node contents ih =>
      cases kind : node.isRuleSet with
      | true =>
          simp only [List.filter_cons, kind, Bool.not_true, if_true, if_false, Bool.false_eq_true,
            leavesOf]
          exact (ih.append_left node.leaves).trans (List.perm_append_comm_assoc ..)
      | false =>
          simp only [List.filter_cons, kind, Bool.not_false, if_true, if_false, Bool.false_eq_true,
            leavesOf, leaves_of_noRuleSet kind, List.cons_append, List.nil_append]
          exact ih.cons node

theorem blocks_of_noRuleSet {node : Node} (plain : node.isRuleSet = false)
    (chain : List (List Text)) : node.blocks chain = [] := by
  cases node with
  | atRule content => rfl
  | rule content => rfl
  | ruleSet selectors contents => cases plain

theorem declarations_perm_leaves (node : Node) (kind : node.isRuleSet = true)
    (chain : List (List Text)) :
    ((node.blocks chain).flatMap Block.declarations).Perm node.leaves := by
  induction node using nestedInduction generalizing chain with
  | atRule content => cases kind
  | rule content => cases kind
  | ruleSet selectors contents ih =>
      have inside : ((blocksOf (chain ++ [selectors]) contents).flatMap Block.declarations).Perm
          (leavesOf (contents.filter isRuleSet)) := by
        clear kind
        induction contents with
        | nil => exact .refl _
        | cons node contents step =>
            have rest := step fun other member => ih other (List.mem_cons_of_mem node member)
            cases kind : node.isRuleSet with
            | true =>
                have first := ih node List.mem_cons_self kind (chain ++ [selectors])
                simpa [blocksOf, leavesOf, kind] using first.append rest
            | false =>
                simpa [blocksOf, kind, blocks_of_noRuleSet kind] using rest
      rw [blocks, List.flatMap_cons, leaves]
      exact (inside.append_left _).trans (leavesOf_perm contents).symm

theorem leavesOf_filterMap_flat? (listed : List Block) :
    leavesOf (listed.filterMap Block.flat?) = listed.flatMap Block.declarations := by
  induction listed with
  | nil => rfl
  | cons block listed ih =>
      have first := leavesOf_flat? block
      rw [List.flatMap_cons, ← ih, ← first, ← leavesOf_append]
      cases kept : block.flat? with
      | none => rw [List.filterMap_cons_none kept]; rfl
      | some flat => rw [List.filterMap_cons_some kept]; rfl

/-- The nodes that a node of a sheet stands for: a rule set for one rule set of each of its blocks,
any other node for itself. -/
def flatForms (node : Node) : List Node :=
  if node.isRuleSet then (node.blocks []).filterMap Block.flat? else [node]

theorem flattenAll_eq_flatMap (nodes : List Node) : flattenAll nodes = nodes.flatMap flatForms := by
  have each : ∀ node : Node, (if node.isRuleSet then node.flattenBelow none else [node]) =
      node.flatForms := by
    intro node
    rw [flatForms, ← flattenBelow_enclosing node []]
    rfl
  simp only [flattenAll, each]

theorem isFlat_of_flatForms {node flat : Node} (member : flat ∈ node.flatForms) : flat.IsFlat := by
  unfold flatForms at member
  cases kind : node.isRuleSet with
  | true =>
      rw [kind, if_pos rfl] at member
      exact isFlat_of_blocks member
  | false =>
      rw [kind, if_neg Bool.false_ne_true, List.mem_singleton] at member
      subst member
      cases flat with
      | atRule content => trivial
      | rule content => trivial
      | ruleSet selectors contents => cases kind

theorem leavesOf_flatForms (node : Node) : (leavesOf node.flatForms).Perm node.leaves := by
  unfold flatForms
  cases kind : node.isRuleSet with
  | true =>
      rw [if_pos rfl, leavesOf_filterMap_flat?]
      exact declarations_perm_leaves node kind []
  | false =>
      rw [if_neg Bool.false_ne_true, leavesOf, leavesOf, List.append_nil]

/-- Flattening lists the blocks of the sheet in the order of their opening braces, each as one flat
rule set under the selectors along its chain, and keeps every other node in its place; every
declaration is there as often as it was. -/
theorem flattenAll_blocks (nodes : List Node) :
    flattenAll nodes =
        nodes.flatMap (fun node =>
          if node.isRuleSet then (node.blocks []).filterMap Block.flat? else [node]) ∧
      (∀ node ∈ flattenAll nodes, node.IsFlat) ∧
      (leavesOf (flattenAll nodes)).Perm (leavesOf nodes) := by
  refine ⟨flattenAll_eq_flatMap nodes, ?_, ?_⟩
  · intro flat member
    rw [flattenAll_eq_flatMap] at member
    obtain ⟨node, _, formed⟩ := List.mem_flatMap.mp member
    exact isFlat_of_flatForms formed
  · rw [flattenAll_eq_flatMap]
    induction nodes with
    | nil => exact .refl _
    | cons node nodes ih =>
        rw [List.flatMap_cons, leavesOf_append, leavesOf]
        exact (leavesOf_flatForms node).append ih

end Node

end Stylesheet
