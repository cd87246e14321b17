import Stylesheet.Proofs.Node.JoinedSelectors
import Stylesheet.Proofs.Node.SelfContained

/-!
Flattening a sheet twice. A flattened sheet is read back as it was printed, apart from the empty
selector of blocks without selectors, which leaves no trace in print; and flattening leaves a flat
sheet as it is. So a sheet that was flattened and printed stays the same.
-/

namespace Stylesheet.Node

/-- Reads a sheet, flattens it and prints it. -/
def flattenSheet (text : Text) : Except BraceError Text :=
  (read text).map fun nodes => printAll (flattenAll nodes)

/-! Flat nodes -/

/-- A node that flattening gives: well formed apart from the empty selector. -/
inductive FlatForm : Node → Prop where
  | plain {node : Node} (formed : node.WellFormed) (other : node.isRuleSet = false) : FlatForm node
  | ruleSet {selectors : List Text} {contents : List Node} (usable : Usable selectors)
      (inner : ∀ node ∈ contents, node.WellFormed)
      (flat : ∀ node ∈ contents, node.isRuleSet = false) : FlatForm (.ruleSet selectors contents)

theorem flatForm_of_flattenBelow {node : Node} (formed : node.WellFormed)
    {outer : Option (List Text)} (usable : ∀ selectors ∈ outer, Usable selectors) :
    ∀ flat ∈ node.flattenBelow outer, flat.FlatForm := by
  induction formed generalizing outer with
  | atRule => simp [flattenBelow]
  | rule => simp [flattenBelow]
  | @ruleSet selectors contents fits inner ih =>
      have level := usable_qualify usable fits
      have nested : ∀ flat ∈ flattenEach (some (qualify outer selectors)) contents,
          flat.FlatForm := by
        intro flat member
        rw [flattenEach_eq_flatMap] at member
        obtain ⟨node, listed, produced⟩ := List.mem_flatMap.mp member
        exact ih node listed (by simpa using level) flat produced
      have own : FlatForm (.ruleSet (qualify outer selectors) (contents.filter (!·.isRuleSet))) := by
        refine .ruleSet level ?_ ?_
        · exact fun node member => inner node (List.mem_of_mem_filter member)
        · intro node member
          simpa using (List.mem_filter.mp member).2
      intro flat member
      simp only [flattenBelow] at member
      split at member
      · exact nested flat member
      · rcases List.mem_cons.mp member with rfl | later
        · exact own
        · exact nested flat later

theorem flatForm_of_flattenAll {nodes : List Node} (formed : ∀ node ∈ nodes, node.WellFormed) :
    ∀ flat ∈ flattenAll nodes, flat.FlatForm := by
  intro flat member
  obtain ⟨node, listed, produced⟩ := List.mem_flatMap.mp member
  split at produced
  · exact flatForm_of_flattenBelow (formed node listed) (by simp) flat produced
  · next other =>
    obtain rfl := List.mem_singleton.mp produced
    exact .plain (formed flat listed) (by simpa using other)

/-! Without the empty selector -/

/-- The same node without empty selectors. -/
def tidy : Node → Node
  | ruleSet selectors contents => ruleSet (selectors.filter (!·.isEmpty)) contents
  | node => node

section Tidy

variable {node : Node} {nodes : List Node}

theorem tidy_of_noRuleSet (other : node.isRuleSet = false) : node.tidy = node := by
  cases node with
  | atRule content => rfl
  | rule content => rfl
  | ruleSet selectors contents => cases other

theorem filter_of_selectors {selectors : List Text}
    (fits : ∀ selector ∈ selectors, selector.IsSelector) :
    selectors.filter (!·.isEmpty) = selectors := by
  rw [List.filter_eq_self]
  intro selector member
  simpa using (fits selector member).filled

theorem print_tidy (form : node.FlatForm) : node.tidy.print = node.print := by
  cases form with
  | plain formed other => rw [tidy_of_noRuleSet other]
  | ruleSet usable inner flat =>
      rcases usable with fits | rfl
      · rw [tidy, filter_of_selectors fits]
      · rfl

theorem wellFormed_tidy (form : node.FlatForm) : node.tidy.WellFormed := by
  cases form with
  | plain formed other => rwa [tidy_of_noRuleSet other]
  | ruleSet usable inner flat =>
      rcases usable with fits | rfl
      · rw [tidy, filter_of_selectors fits]
        exact .ruleSet fits inner
      · exact .ruleSet (by simp) inner

-- A rule set with no rule set inside stands for itself.
theorem flattenBelow_of_flat (selectors : List Text) {contents : List Node}
    (flat : ∀ node ∈ contents, node.isRuleSet = false) :
    flattenBelow none (.ruleSet selectors contents) = [.ruleSet selectors contents] := by
  have own : contents.filter (!·.isRuleSet) = contents := by
    rw [List.filter_eq_self]
    intro node member
    simp [flat node member]
  have nothing : ∀ outer, flattenEach outer contents = [] := by
    intro outer
    rw [flattenEach_eq_flatMap, List.flatMap_eq_nil_iff]
    intro node member
    cases node with
    | atRule content => rfl
    | rule content => rfl
    | ruleSet selectors inner => cases flat _ member
  have noBlock : contents.any isRuleSet = false := by
    simpa using flat
  simp [flattenBelow, own, nothing, noBlock, qualify]

theorem flattenAll_map_tidy (forms : ∀ node ∈ nodes, node.FlatForm) :
    flattenAll (nodes.map tidy) = nodes.map tidy := by
  induction nodes with
  | nil => rfl
  | cons node nodes ih =>
      obtain ⟨first, others⟩ := List.forall_mem_cons.mp forms
      have alone : (if node.tidy.isRuleSet then node.tidy.flattenBelow none else [node.tidy]) =
          [node.tidy] := by
        cases first with
        | plain formed other => simp [tidy_of_noRuleSet other, other]
        | @ruleSet selectors contents usable inner flat =>
            exact flattenBelow_of_flat (selectors.filter (!·.isEmpty)) flat
      rw [List.map_cons, flattenAll, List.flatMap_cons, alone]
      exact congrArg (node.tidy :: ·) (ih others)

theorem printAll_map_tidy (forms : ∀ node ∈ nodes, node.FlatForm) :
    printAll (nodes.map tidy) = printAll nodes := by
  rw [printAll, printAll, List.foldl_map]
  apply List.foldl_ext
  intro printed node member
  rw [print_tidy (forms node member)]

end Tidy

/-- A flattened sheet is read back without its empty selectors. -/
theorem read_printAll_flat {nodes : List Node} (forms : ∀ node ∈ nodes, node.FlatForm) :
    read (printAll nodes) = .ok (nodes.map tidy) := by
  have spells : Spells (printAll (nodes.map tidy)) (nodes.map tidy) := by
    apply spells_printAll
    intro node member
    obtain ⟨flat, listed, rfl⟩ := List.mem_map.mp member
    exact wellFormed_tidy (forms flat listed)
  rw [printAll_map_tidy forms] at spells
  rw [read, Text.withoutComments_of_uncommented (uncommented_of_spells spells)]
  exact readFrom_of_spells spells 0

/-- A sheet whose texts close what they open is flattened once and for all: what is printed can be
read, and flattening it again changes nothing. -/
theorem flattenSheet_fixed (text : Text) (nodes : List Node) (readable : read text = .ok nodes)
    (contained : ∀ node ∈ nodes, node.SelfContained) :
    ∃ flat, flattenSheet text = .ok flat ∧ (∃ again, read flat = .ok again) ∧
      flattenSheet flat = .ok flat := by
  have formed := wellFormed_of_reads (reads_of_readFrom readable) contained
  have forms := flatForm_of_flattenAll formed
  have back := read_printAll_flat forms
  refine ⟨printAll (flattenAll nodes), ?_, ⟨_, back⟩, ?_⟩
  · rw [flattenSheet, readable]
    rfl
  · rw [flattenSheet, back, Except.map, flattenAll_map_tidy forms, printAll_map_tidy forms]

/-- Blocks with and without selectors, inside each other, that hide what the reader looks for. -/
def nestedText : Text :=
  "@m 'x;'\x7b()\x7d a:not(b,[c]),d['\x7b']\x7b:e,f\x7bg:'\x7d'\x7d\x7d \x7b\x7bh(;)\x7d\x7d".toList

def flatText : Text :=
  ("@m 'x;'\x7b()\x7d\n\na:not(b,[c]):e, a:not(b,[c]) f, d['\x7b']:e, d['\x7b'] f " ++
    "\x7b\n\tg:'\x7d';\n\x7d\n\n \x7b\n\th(;);\n\x7d").toList

theorem flattenSheet_fixed_nestedText : ∃ nodes, read nestedText = .ok nodes ∧
    (∀ node ∈ nodes, node.SelfContained) ∧ flattenSheet nestedText = .ok flatText ∧
    flattenSheet flatText = .ok flatText := by
  have closed : (read nestedText).toOption.all
      (fun nodes => decide (∀ node ∈ nodes, node.SelfContained)) = true := by
    decide +kernel
  have printed : (flattenSheet nestedText).toOption = some flatText := by decide +kernel
  cases readable : read nestedText with
  | error error =>
      rw [flattenSheet, readable] at printed
      cases printed
  | ok nodes =>
      rw [readable] at closed
      have contained : ∀ node ∈ nodes, node.SelfContained := of_decide_eq_true closed
      obtain ⟨flat, once, _, twice⟩ := flattenSheet_fixed nestedText nodes readable contained
      rw [once] at printed
      obtain rfl : flat = flatText := Option.some.inj printed
      exact ⟨nodes, rfl, contained, once, twice⟩

end Stylesheet.Node
