import Mathlib.Logic.Relation
import Mathlib.Tactic.MkIffOfInductiveProp
import Stylesheet.Proofs.Expander.Clean
import Stylesheet.Proofs.Expander.Pass
import Stylesheet.Proofs.Invocation.Reference

/-!
Chains of references and the limit on depth. A name stands for a stored text, which may refer to one
more name, and so on. Every text that has to be expanded takes one level, so a chain that ends is
expanded as soon as the limit leaves a level for each of them and one for the document. A chain that
does not end goes past every limit. The depth of an expansion is bounded by the limit alone: the
stack of the machine that runs it is not part of the model, so under a very high limit an expansion
may run out of stack before it comes to the error below.
-/

namespace Stylesheet

/-- What a name stands for that is neither a parameter nor a function. -/
inductive Meaning where
  | stored (value : Text)
  | defined (body : Text)
  | unknown

namespace Meaning

def text : Meaning → Text
  | stored value => value
  | defined body => body
  | unknown => []

/-- How many levels it takes to put the text in place of the name: a body is always expanded, a
value only if it holds a marker. -/
def cost : Meaning → Nat
  | stored value => if '¤' ∈ value then 1 else 0
  | defined _ => 1
  | unknown => 0

end Meaning

/-- A variable comes before a macro of the same name. -/
def Memory.meaning (memory : Memory) (name : Text) : Meaning :=
  match memory.globals.get? name, memory.definitions.get? name with
  | some value, _ => .stored value
  | none, some definition => .defined definition.body
  | none, none => .unknown

@[mk_iff]
structure Text.IsName (text : Text) : Prop where
  filled : text ≠ []
  named : ∀ c ∈ text, isNameChar c = true

/-- What can stand behind a reference without being taken for a part of it: nothing that goes on
with the name, no semicolon, no list, no block, and blanks only before something visible. -/
@[mk_iff]
structure Text.EndsReference (text : Text) : Prop where
  noName : ∀ c ∈ text.head?, isNameChar c = false
  noSemicolon : text.head? ≠ some ';'
  noList : (text.dropWhile isGapChar).head? ≠ some '('
  noBlock : (text.dropWhile isGapChar).head? ≠ some '{'
  noGaps : text = [] ∨ text.dropWhile isGapChar ≠ []

/-- The text holds one marker, with the name `next` behind it. -/
@[mk_iff]
structure RefersTo (text front next back : Text) : Prop where
  whole : text = front ++ '¤' :: (next ++ back)
  before : '¤' ∉ front
  behind : '¤' ∉ back
  isName : next.IsName
  ends : back.EndsReference

-- All of this can be computed, by a look at the characters of the text, not at all characters.
instance (text : Text) : Decidable text.IsName :=
  have : Decidable (∀ c ∈ text, isNameChar c = true) := List.decidableBAll _ text
  decidable_of_iff _ text.isName_iff.symm

instance (text : Text) : Decidable text.EndsReference :=
  have : Decidable (∀ c ∈ text.head?, isNameChar c = false) := Option.decidableForallMem text.head?
  decidable_of_iff _ text.endsReference_iff.symm

instance (text front next back : Text) : Decidable (RefersTo text front next back) :=
  decidable_of_iff _ (refersTo_iff text front next back).symm

/-- The references from a name on come to an end. All names on the way cost `cost` levels, and what
the first name stands for is `value` in the end. -/
inductive Chain (memory : Memory) : (name : Text) → (cost : Nat) → (value : Text) → Prop where
  | last {name : Text} (final : '¤' ∉ (memory.meaning name).text) :
      Chain memory name (memory.meaning name).cost (memory.meaning name).text
  | link {name front next back value : Text} {cost : Nat}
      (refers : RefersTo (memory.meaning name).text front next back)
      (later : Chain memory next cost value) :
      Chain memory name ((memory.meaning name).cost + cost) (front ++ (value ++ back))

/-- What the first name stands for refers to the second one. -/
def Leads (memory : Memory) (name next : Text) : Prop :=
  ∃ front back, RefersTo (memory.meaning name).text front next back

/-- Every one of the names stands for a text that holds no marker or refers to one of them, and none
is the name of a function. -/
structure Expander.Links (expander : Expander) (names : Set Text) : Prop where
  isName : ∀ name ∈ names, name.IsName
  noFunction : ∀ name ∈ names, expander.functions.get? name = none
  notRaw : ∀ name ∈ names, expander.settings.isRaw name = false
  linked : ∀ name ∈ names, '¤' ∉ (expander.memory.meaning name).text ∨
    ∃ next ∈ names, Leads expander.memory name next

/-! Names -/

namespace Text.IsName

variable {name : Text} (isName : name.IsName)

include isName

theorem unmarked : '¤' ∉ name :=
  fun member => absurd (isName.named _ member) (by decide)

/-- The search for assignments passes over the invocation of another name. -/
theorem find?_set_of_other (other : name ≠ "set".toList) {rest : Text}
    (noName : ∀ c ∈ rest.head?, isNameChar c = false)
    (later : Invocation.find? Marker.standard.text (some "set".toList) (name ++ rest) = none) :
    Invocation.find? Marker.standard.text (some "set".toList) ('¤' :: (name ++ rest)) = none := by
  have notHere : Invocation.behind? Marker.standard.text (some "set".toList)
      ('¤' :: (name ++ rest)) = none :=
    Invocation.behind?_other isName.named noName (List.all_eq_true.mp rfl) other
  rw [Invocation.find?, notHere]
  simp only [later, Option.map_none]

end Text.IsName

/-! One reference -/

section Reference

variable {text front next back : Text}

theorem RefersTo.takeWhile_eq (refers : RefersTo text front next back) :
    (next ++ back).takeWhile isNameChar = next :=
  takeWhile_run refers.isName.named refers.ends.noName

/-- The name that a text refers to is the one behind its first marker. -/
theorem RefersTo.next_eq (refers : RefersTo text front next back) :
    next = ((text.dropWhile (· != '¤')).drop 1).takeWhile isNameChar := by
  rw [refers.whole, List.dropWhile_append_of_pos (bne_of_absent refers.before)]
  simp [refers.takeWhile_eq]

theorem RefersTo.read_eq (refers : RefersTo text front next back) (position : Nat) :
    Invocation.read position (next ++ back) = .ok (some (⟨next, [], false⟩, back)) := by
  have stops : back.StopsReference :=
    ⟨refers.ends.noName, refers.ends.noList, refers.ends.noBlock, refers.ends.noGaps⟩
  have ends : Invocation.ended next [] back = (⟨next, [], false⟩, back) := by
    unfold Invocation.ended
    split
    · exact absurd rfl refers.ends.noSemicolon
    · rfl
  rw [Invocation.read_reference refers.isName.filled refers.isName.named stops, ends]

/-- The pass that runs assignments finds none in a text that refers to another name. -/
theorem RefersTo.find?_set (refers : RefersTo text front next back) (other : next ≠ "set".toList) :
    Invocation.find? Marker.standard.text (some "set".toList) text = none := by
  have later : '¤' ∉ next ++ back := by
    rw [List.mem_append, not_or]
    exact ⟨refers.isName.unmarked, refers.behind⟩
  rw [refers.whole, Invocation.find?_append (Invocation.behind?_of_unmarked refers.before _),
    refers.isName.find?_set_of_other other refers.ends.noName
      (Invocation.find?_none_of_unmarked later _),
    Option.map_none]

/-- Expanding a text that refers to a name puts the value of that name in its place. -/
theorem RefersTo.expandAt_eq (refers : RefersTo text front next back) {settings : Settings}
    (standard : settings.marker = .standard) (other : next ≠ "set".toList)
    (functions : Table Function) (levels : Nat) :
    expandAt settings functions (levels + 1) [] text =
      (fun value => front ++ (value ++ back)) <$>
        invoke settings functions (expandAt settings functions levels) [] ⟨next, [], false⟩ := by
  have headed : Invocation.behind? Marker.standard.text none ('¤' :: (next ++ back)) =
      some (next ++ back) :=
    (Invocation.behind?_standard '¤' (next ++ back)).trans (if_pos rfl)
  have absent := Invocation.find?_none_of_unmarked refers.behind none
  simp only [expandAt, expandPasses, standard]
  rw [substitute_of_absent _ _ (refers.find?_set other), pure_bind, refers.whole,
    substitute_append_of_absent _ _ (Invocation.behind?_of_unmarked refers.before _),
    substitute_of_headed _ _ headed refers.read_eq]
  simp only [substitute_of_absent _ _ absent, map_eq_pure_bind, bind_assoc, pure_bind]

end Reference

/-! One name -/

section Name

variable {settings : Settings} {functions : Table Function} {name : Text}
  (expand : Scope → Text → Expansion Text)

theorem prepare_reference (scope : Scope) (terminated : Bool) :
    prepare settings expand scope ⟨name, [], terminated⟩ = pure [] := by
  simp [prepare]

-- A reference has no arguments to prepare and no semicolon to end with.
theorem invoke_bare :
    invoke settings functions expand [] ⟨name, [], false⟩ =
      resolve settings functions expand [] name [] >>= settle settings expand [] := by
  have unended : ∀ value, terminate false value = value := by
    intro value
    simp [terminate]
  simp only [invoke, prepare_reference, pure_bind, unended, bind_pure]

/-- A name that is no function is replaced by its text, which is expanded one level down if that
costs a level. -/
theorem invoke_reference (standard : settings.marker = .standard)
    (noFunction : functions.get? name = none) (notRaw : settings.isRaw name = false)
    (memory : Memory) :
    invoke settings functions expand [] ⟨name, [], false⟩ memory =
      if (memory.meaning name).cost = 0 then .ok (memory.meaning name).text memory
      else expand [] (memory.meaning name).text memory := by
  rw [invoke_bare expand]
  cases stored : memory.globals.get? name with
  | some value =>
      have meaning : memory.meaning name = .stored value := by simp only [Memory.meaning, stored]
      have resolved : resolve settings functions expand [] name [] memory =
          .ok ⟨value, false⟩ memory := by
        simp only [resolve, Table.get?, noFunction, notRaw, get_bind, stored]
        rfl
      rw [bind_of_ok resolved, meaning]
      by_cases marked : '¤' ∈ value
      · have holds : Text.holds settings.marker.text value = true := by
          rw [standard]
          exact holds_standard_iff.mpr marked
        simp [settle, Meaning.cost, Meaning.text, holds, marked]
      · have lacks : Text.holds settings.marker.text value = false := by
          rw [standard, Bool.eq_false_iff]
          exact fun holds => marked (holds_standard_iff.mp holds)
        simp only [settle, Meaning.cost, Meaning.text, lacks, marked]
        rfl
  | none =>
      cases defined : memory.definitions.get? name with
      | some definition =>
          have meaning : memory.meaning name = .defined definition.body := by
            simp only [Memory.meaning, stored, defined]
          have settled : ∀ text, settle settings expand [] ⟨text, true⟩ = pure text := fun _ => rfl
          have resolved : resolve settings functions expand [] name [] memory =
              (expand [] definition.body >>= fun text => pure ⟨text, true⟩) memory := by
            simp only [resolve, Table.get?, noFunction, get_bind, stored, defined,
              Function.expandBody, List.zip_nil_right]
            rfl
          rw [meaning, Meaning.cost, if_neg Nat.one_ne_zero, Meaning.text]
          cases expanded : expand [] definition.body memory with
          | ok text later =>
              rw [bind_of_ok expanded] at resolved
              rw [bind_of_ok resolved, settled]
              rfl
          | error error later =>
              rw [bind_of_error expanded] at resolved
              rw [bind_of_error resolved]
      | none =>
          have meaning : memory.meaning name = .unknown := by
            simp only [Memory.meaning, stored, defined]
          have resolved : resolve settings functions expand [] name [] memory =
              .ok ⟨[], false⟩ memory := by
            simp only [resolve, Table.get?, noFunction, notRaw, get_bind, stored, defined]
            rfl
          have settled : settle settings expand [] ⟨[], false⟩ = pure [] := by
            simp only [settle, standard]
            rfl
          rw [bind_of_ok resolved, meaning, settled]
          rfl

end Name

/-! The whole chain -/

-- A text with a marker is always expanded.
theorem Meaning.cost_of_marked {meaning : Meaning} (marked : '¤' ∈ meaning.text) :
    meaning.cost = 1 := by
  cases meaning with
  | stored value => exact if_pos marked
  | defined body => rfl
  | unknown => cases marked

theorem Meaning.cost_le_one (meaning : Meaning) : meaning.cost ≤ 1 := by
  cases meaning with
  | stored value => by_cases marked : '¤' ∈ value <;> simp [cost, marked]
  | defined body => exact Nat.le_refl 1
  | unknown => exact Nat.zero_le 1

theorem RefersTo.marked {text front next back : Text} (refers : RefersTo text front next back) :
    '¤' ∈ text := by
  simp [refers.whole]

namespace Chain

variable {memory : Memory} {name next value : Text} {cost : Nat}

/-- What a name leads to has a chain of its own, one level cheaper. -/
theorem of_leads (chain : Chain memory name cost value) (leads : Leads memory name next) :
    ∃ fewer later, fewer < cost ∧ Chain memory next fewer later := by
  obtain ⟨front, back, refers⟩ := leads
  cases chain with
  | last final => exact absurd refers.marked final
  | @link _ _ _ _ later fewer linked chain =>
      have costs := Meaning.cost_of_marked refers.marked
      obtain rfl := refers.next_eq.trans linked.next_eq.symm
      exact ⟨fewer, later, by omega, chain⟩

theorem of_reaches (chain : Chain memory name cost value)
    (reaches : Relation.TransGen (Leads memory) name next) :
    ∃ fewer later, fewer < cost ∧ Chain memory next fewer later := by
  induction reaches with
  | single leads => exact chain.of_leads leads
  | tail _ leads ih =>
      obtain ⟨fewer, _, less, middle⟩ := ih
      obtain ⟨fewest, later, lesser, last⟩ := middle.of_leads leads
      exact ⟨fewest, later, by omega, last⟩

/-- A name that leads back to itself has no chain, since a chain of it would hold a cheaper one. -/
theorem not_of_cycle (cycle : Relation.TransGen (Leads memory) name name) :
    ¬Chain memory name cost value := by
  induction cost using Nat.strongRecOn generalizing value with
  | ind cost ih =>
      intro chain
      obtain ⟨fewer, later, less, shorter⟩ := chain.of_reaches cycle
      exact ih fewer less shorter

theorem not_of_leads_to_cycle {again : Text}
    (reaches : Relation.ReflTransGen (Leads memory) name again)
    (cycle : Relation.TransGen (Leads memory) again again) : ¬Chain memory name cost value := by
  intro chain
  rcases Relation.reflTransGen_iff_eq_or_transGen.mp reaches with rfl | behind
  · exact not_of_cycle cycle chain
  · obtain ⟨_, _, _, later⟩ := chain.of_reaches behind
    exact not_of_cycle cycle later

end Chain

namespace Expander

/-- What a reference to a name comes to with `levels` levels left. -/
def reference (expander : Expander) (levels : Nat) (name : Text) : Expansion Text :=
  invoke expander.settings expander.functions
    (expandAt expander.settings expander.functions levels) [] ⟨name, [], false⟩

section References

variable {expander : Expander} {names : Set Text} {name : Text} {limit : Int}
  (links : expander.Links names) (standard : expander.settings = .limited limit)

include links standard

theorem Links.ne_set (member : name ∈ names) : name ≠ "set".toList := by
  rintro rfl
  have notRaw := links.notRaw _ member
  rw [standard, (isRaw_limited_iff limit _).mpr (.inr (.inr rfl))] at notRaw
  cases notRaw

omit standard in
theorem Links.next_mem {front next back : Text} (member : name ∈ names)
    (refers : RefersTo (expander.memory.meaning name).text front next back) : next ∈ names := by
  rcases links.linked name member with final | ⟨other, known, _, _, linked⟩
  · exact absurd refers.marked final
  · rwa [refers.next_eq, ← linked.next_eq]

theorem reference_eq (member : name ∈ names) (levels : Nat) :
    expander.reference levels name expander.memory =
      if (expander.memory.meaning name).cost = 0 then
        .ok (expander.memory.meaning name).text expander.memory
      else expandAt expander.settings expander.functions levels []
        (expander.memory.meaning name).text expander.memory :=
  invoke_reference _ (by rw [standard]; rfl) (links.noFunction name member)
    (links.notRaw name member) expander.memory

/-- A text that refers to one of the names takes a level for itself. -/
theorem expandAt_refers {text front next back : Text} (known : next ∈ names)
    (refers : RefersTo text front next back) (levels : Nat) :
    expandAt expander.settings expander.functions (levels + 1) [] text =
      (fun value => front ++ (value ++ back)) <$> expander.reference levels next :=
  refers.expandAt_eq (by rw [standard]; rfl) (links.ne_set standard known) _ levels

theorem reference_of_chain {cost levels : Nat} {value : Text} (member : name ∈ names)
    (chain : Chain expander.memory name cost value) (enough : cost ≤ levels) :
    expander.reference levels name expander.memory = .ok value expander.memory := by
  induction chain generalizing levels with
  | @last name final =>
      rw [reference_eq links standard member]
      split
      · rfl
      · obtain ⟨fewer, rfl⟩ : ∃ fewer, levels = fewer + 1 := ⟨levels - 1, by omega⟩
        rw [expandAt_of_unmarked (by rw [standard]; rfl) _ _ _ final]
        rfl
  | @link name front next back value cost refers _ ih =>
      have costs := Meaning.cost_of_marked refers.marked
      have known := links.next_mem member refers
      obtain ⟨fewer, rfl⟩ : ∃ fewer, levels = fewer + 1 := ⟨levels - 1, by omega⟩
      have later := ih known (by omega : cost ≤ fewer)
      rw [reference_eq links standard member, costs, if_neg Nat.one_ne_zero,
        expandAt_refers links standard known refers, map_eq_pure_bind, bind_of_ok later]
      rfl

theorem reference_of_no_chain {levels : Nat} (member : name ∈ names)
    (long : ¬∃ cost value, Chain expander.memory name cost value ∧ cost ≤ levels) :
    expander.reference levels name expander.memory = .error (.tooDeep limit) expander.memory := by
  have exhausted : ∀ text, expandAt expander.settings expander.functions 0 [] text expander.memory =
      .error (.tooDeep limit) expander.memory := by
    intro text
    rw [standard]
    rfl
  induction levels generalizing name with
  | zero =>
      rw [reference_eq links standard member, exhausted]
      apply if_neg
      intro free
      -- A name that costs nothing has no marker in its text, and its chain ends there.
      have final : '¤' ∉ (expander.memory.meaning name).text := by
        intro marked
        have costs := Meaning.cost_of_marked marked
        omega
      exact long ⟨_, _, .last final, Nat.le_of_eq free⟩
  | succ levels ih =>
      rcases links.linked name member with final | ⟨next, known, front, back, refers⟩
      · have bounded := Meaning.cost_le_one (expander.memory.meaning name)
        exact absurd ⟨_, _, .last final, by omega⟩ long
      · have costs := Meaning.cost_of_marked refers.marked
        have stopped := ih known (by
          rintro ⟨cost, value, chain, enough⟩
          exact long ⟨_, _, .link refers chain, by omega⟩)
        rw [reference_eq links standard member, costs, if_neg Nat.one_ne_zero,
          expandAt_refers links standard known refers, map_eq_pure_bind, bind_of_error stopped]

/-- The document that is one reference takes a level for itself. -/
theorem expansion_reference (member : name ∈ names) {levels : Nat}
    (enough : limit.toNat = levels + 1) :
    expander.expansion ('¤' :: name) = expander.reference levels name := by
  have alone : RefersTo ('¤' :: name) [] name [] := by
    refine ⟨by simp, by simp, by simp, links.isName name member, ?_⟩
    exact ⟨by simp, by simp, by simp, by simp, .inl rfl⟩
  have limited : expander.settings.depthLimit.toNat = levels + 1 := by
    rw [standard]
    exact enough
  rw [expansion, expandIn, limited, expandAt_refers links standard member alone]
  simp

theorem expansion_of_chain {cost : Nat} {value : Text} (member : name ∈ names)
    (chain : Chain expander.memory name cost value) (enough : 1 + cost ≤ limit) :
    expander.expansion ('¤' :: name) expander.memory = .ok value expander.memory := by
  obtain ⟨levels, room⟩ : ∃ levels, limit.toNat = levels + 1 := ⟨limit.toNat - 1, by omega⟩
  rw [expansion_reference links standard member room]
  exact reference_of_chain links standard member chain (by omega)

theorem expansion_of_no_chain (member : name ∈ names)
    (long : ¬∃ (cost : Nat) (value : Text),
      Chain expander.memory name cost value ∧ 1 + cost ≤ limit) :
    expander.expansion ('¤' :: name) expander.memory =
      .error (.tooDeep limit) expander.memory := by
  cases room : limit.toNat with
  | zero =>
      have limited : expander.settings.depthLimit.toNat = 0 := by
        rw [standard]
        exact room
      rw [expansion, expandIn, limited, standard]
      rfl
  | succ levels =>
      rw [expansion_reference links standard member room]
      apply reference_of_no_chain links standard member
      rintro ⟨cost, value, chain, enough⟩
      exact long ⟨cost, value, chain, by omega⟩

end References

/-- A reference is expanded just when its chain ends and the limit leaves a level for the document
and one for each text of the chain that has to be expanded. Otherwise, and so whenever it leads into
a cycle, it fails for depth. The expander stays as it was. -/
theorem expand_reference_iff (expander : Expander) (limit : Int) (names : Set Text) (name : Text)
    (standard : expander.settings = .limited limit) (links : expander.Links names)
    (member : name ∈ names) :
    (∀ value, (expander.perform (.expand ('¤' :: name))).1 = .ok (.text value) ↔
        ∃ cost : Nat, Chain expander.memory name cost value ∧ 1 + cost ≤ limit) ∧
      ((¬∃ (cost : Nat) (value : Text),
          Chain expander.memory name cost value ∧ 1 + cost ≤ limit) →
        (expander.perform (.expand ('¤' :: name))).1 = .error (.tooDeep limit)) ∧
      (∀ again, Relation.ReflTransGen (Leads expander.memory) name again →
        Relation.TransGen (Leads expander.memory) again again →
          (expander.perform (.expand ('¤' :: name))).1 = .error (.tooDeep limit)) ∧
      (expander.perform (.expand ('¤' :: name))).2 = expander := by
  have stops : (¬∃ (cost : Nat) (value : Text),
      Chain expander.memory name cost value ∧ 1 + cost ≤ limit) →
      expander.perform (.expand ('¤' :: name)) = (.error (.tooDeep limit), expander) :=
    fun long => perform_expand_of_error (expansion_of_no_chain links standard member long)
  have returns : ∀ (cost : Nat) (value : Text), Chain expander.memory name cost value →
      1 + cost ≤ limit →
      expander.perform (.expand ('¤' :: name)) = (.ok (.text value), expander) :=
    fun cost value chain enough =>
      perform_expand_of_ok (expansion_of_chain links standard member chain enough)
  by_cases short : ∃ (cost : Nat) (value : Text),
      Chain expander.memory name cost value ∧ 1 + cost ≤ limit
  · obtain ⟨cost, value, chain, enough⟩ := short
    have performed := returns cost value chain enough
    refine ⟨?_, fun long => absurd ⟨cost, value, chain, enough⟩ long, ?_, by rw [performed]⟩
    · intro other
      constructor
      · intro returned
        rw [performed] at returned
        obtain rfl : value = other := by simpa using returned
        exact ⟨cost, chain, enough⟩
      · rintro ⟨cost, chain, enough⟩
        rw [returns cost other chain enough]
    · intro again reaches cycle
      exact absurd chain (Chain.not_of_leads_to_cycle reaches cycle)
  · have performed := stops short
    refine ⟨?_, fun _ => by rw [performed], fun _ _ _ => by rw [performed], by rw [performed]⟩
    intro value
    rw [performed]
    constructor
    · intro returned
      cases returned
    · rintro ⟨cost, chain, enough⟩
      exact absurd ⟨cost, value, chain, enough⟩ short

/-- A variable refers to a macro and that to another variable, and two more refer to each other. -/
def chainedMemory : Memory where
  globals := [("a".toList, "1 ¤b !".toList), ("c".toList, "x".toList), ("s".toList, "¤t.".toList)]
  definitions := [("b".toList, ⟨"b".toList, ["p".toList], "(¤c)".toList⟩),
    ("t".toList, ⟨"t".toList, [], "¤s,".toList⟩)]
  generated := 0
  log := []

def chained (limit : Int) : Expander :=
  { new .css (.limited limit) with memory := chainedMemory }

def chainedNames : List Text := ["a".toList, "b".toList, "c".toList, "s".toList, "t".toList]

theorem refersTo_chained :
    RefersTo (chainedMemory.meaning "a".toList).text "1 ".toList "b".toList " !".toList ∧
      RefersTo (chainedMemory.meaning "b".toList).text "(".toList "c".toList ")".toList ∧
      RefersTo (chainedMemory.meaning "s".toList).text [] "t".toList ".".toList ∧
      RefersTo (chainedMemory.meaning "t".toList).text [] "s".toList ",".toList := by
  decide

theorem links_chained (limit : Int) : (chained limit).Links {name | name ∈ chainedNames} := by
  have isName : ∀ name ∈ chainedNames, name.IsName := by decide
  have noFunction : ∀ name ∈ chainedNames, (Dialect.css.functions.get? name).isNone = true := by
    decide
  have notRaw : ∀ name ∈ chainedNames, Settings.standard.isRaw name = false := by decide
  have final : '¤' ∉ (chainedMemory.meaning "c".toList).text := by decide
  obtain ⟨first, second, there, back⟩ := refersTo_chained
  refine ⟨isName, fun name member => Option.isNone_iff_eq_none.mp (noFunction name member), notRaw,
    ?_⟩
  intro name member
  have known : name ∈ chainedNames := member
  simp only [chainedNames, List.mem_cons, List.not_mem_nil, or_false] at known
  rcases known with rfl | rfl | rfl | rfl | rfl
  · exact .inr ⟨_, show "b".toList ∈ chainedNames by decide, _, _, first⟩
  · exact .inr ⟨_, show "c".toList ∈ chainedNames by decide, _, _, second⟩
  · exact .inl final
  · exact .inr ⟨_, show "t".toList ∈ chainedNames by decide, _, _, there⟩
  · exact .inr ⟨_, show "s".toList ∈ chainedNames by decide, _, _, back⟩

theorem expand_reference_iff_chained :
    ((chained 3).perform (.expand "¤a".toList)).1 = .ok (.text "1 (x) !".toList) ∧
      ((chained 2).perform (.expand "¤a".toList)).1 = .error (.tooDeep 2) ∧
      ((chained 10).perform (.expand "¤s".toList)).1 = .error (.tooDeep 10) := by
  obtain ⟨first, second, there, back⟩ := refersTo_chained
  have start : "a".toList ∈ chainedNames := by decide
  have again : "s".toList ∈ chainedNames := by decide
  have chain : Chain chainedMemory "a".toList 2 "1 (x) !".toList :=
    .link first (.link second (.last (by decide)))
  refine ⟨?_, ?_, ?_⟩
  · exact ((expand_reference_iff (chained 3) 3 _ _ rfl (links_chained 3) start).1 _).mpr
      ⟨2, chain, by decide⟩
  · apply (expand_reference_iff (chained 2) 2 _ _ rfl (links_chained 2) start).2.1
    rintro ⟨cost, value, chain, short⟩
    obtain ⟨fewer, _, less, later⟩ := chain.of_leads ⟨_, _, first⟩
    obtain ⟨fewest, _, lesser, _⟩ := later.of_leads ⟨_, _, second⟩
    omega
  · apply (expand_reference_iff (chained 10) 10 _ _ rfl (links_chained 10) again).2.2.1 _ .refl
    exact .tail (.single ⟨_, _, there⟩) ⟨_, _, back⟩

end Expander

end Stylesheet
