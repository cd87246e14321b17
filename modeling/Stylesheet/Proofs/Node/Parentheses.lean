import Stylesheet.Proofs.Node.WellFormed

/-!
What parentheses hide from the reader. The search for the end of a statement heeds parentheses. The
others do not: those for the closing brace of a block and for the end of an at-rule count braces
only, and the one for commas counts parentheses and square brackets together. They still cut outside
parentheses only, as long as what stands inside is sheltered from them. That is asked where they go:
in a block, in front of a block, and behind the at-sign that starts a statement.
-/

namespace Stylesheet

/-- Behind `front` the text opens parentheses, and `group` is a beginning of what they hold. -/
structure Opens (text front group : Text) : Prop where
  leads : front ++ '(' :: group <+: text
  outer : level ['('] [')'] front = 0
  inside : ∀ part, part <+: group → 0 < level ['('] [')'] ('(' :: part)

/-- Inside parentheses no bracket is closed before it is opened. -/
def PairedInside (opening closing : Char) (text : Text) : Prop :=
  ∀ front group, Opens text front group → 0 ≤ level [opening] [closing] group

/-- Outside parentheses nothing ends a statement or opens a block. -/
def Unended (text : Text) : Prop :=
  ∀ front, front <+: text → front.getLast? ∈ [some ';', some '{', some '}'] →
    level ['('] [')'] front ≠ 0

/-- Up to the first block or semicolon, nothing inside parentheses looks like an end. -/
def ShelteredPrelude (text : Text) : Prop :=
  ∀ prelude group, Opens text prelude group → Unended prelude → ';' ∉ group ∧ '}' ∉ group

/-- How many braces are open behind a text, with `opened` of them in front of it. -/
def openBraces (opened : Nat) (text : Text) : Nat :=
  text.foldl (countBracket ['{'] ['}']) opened

/-- In a block, parentheses close no brace that they have not opened. -/
def BracesHeld (opened : Nat) (text : Text) : Prop :=
  ∀ front group, Opens text front group → 0 < openBraces opened front → 0 ≤ level ['{'] ['}'] group

/-- A statement starts behind `before`: that ends outside parentheses, and what stands last in it,
blanks aside, has ended a statement or opened a block. -/
structure StartsStatement (before : Text) : Prop where
  outer : level ['('] [')'] before = 0
  fresh : before.reverse.find? (!isBlank ·) ∈ [none, some ';', some '{', some '}']

/-- What stands inside parentheses is out of reach for the searches that do not heed them: for the
one that goes through a block, for the one that goes through a list of selectors, and for the one
that starts at an at-rule.

This is enough for them to cut outside parentheses only, but not needed. Every bracket that is
closed too early counts, also one behind which there is nothing to cut at, and a statement that
starts with a quoted string counts as what follows the string. -/
structure Sheltered (text : Text) : Prop where
  blocks : BracesHeld 0 text
  selectors : ∀ before list behind, before ++ list ++ '{' :: behind = text →
    StartsStatement before → Unended list → PairedInside '[' ']' list
  atRules : ∀ before behind, before ++ '@' :: behind = text → StartsStatement before →
    ShelteredPrelude behind

/-! All of this can be computed -/

instance (text front group : Text) : Decidable (Opens text front group) :=
  decidable_of_iff
    (front ++ '(' :: group <+: text ∧ level ['('] [')'] front = 0 ∧
      ∀ part, part <+: group → 0 < level ['('] [')'] ('(' :: part))
    ⟨fun ⟨leads, outer, inside⟩ => ⟨leads, outer, inside⟩,
      fun ⟨leads, outer, inside⟩ => ⟨leads, outer, inside⟩⟩

instance decidableForallOpens (text : Text) (P : Text → Text → Prop)
    [∀ front group, Decidable (P front group)] :
    Decidable (∀ front group, Opens text front group → P front group) :=
  have inner (front : Text) : Decidable (∀ group, group <+: text.drop (front.length + 1) →
      Opens text front group → P front group) := inferInstance
  decidable_of_iff
    (∀ front, front <+: text → ∀ group, group <+: text.drop (front.length + 1) →
      Opens text front group → P front group) (by
    constructor
    · intro each front group opens
      have shorter := (List.prefix_append front ('(' :: group)).trans opens.leads
      obtain ⟨rest, whole⟩ := opens.leads
      refine each front shorter group ⟨rest, ?_⟩ opens
      rw [← whole, List.append_assoc, List.drop_length_add_append]
      rfl
    · exact fun each front _ group _ opens => each front group opens)

instance (opening closing : Char) (text : Text) : Decidable (PairedInside opening closing text) :=
  decidableForallOpens text fun _ group => 0 ≤ level [opening] [closing] group

instance (text : Text) : Decidable (Unended text) :=
  inferInstanceAs (Decidable (∀ front, front <+: text → _))

instance (text : Text) : Decidable (ShelteredPrelude text) :=
  decidableForallOpens text fun prelude group => Unended prelude → ';' ∉ group ∧ '}' ∉ group

instance (opened : Nat) (text : Text) : Decidable (BracesHeld opened text) :=
  decidableForallOpens text fun front group =>
    0 < openBraces opened front → 0 ≤ level ['{'] ['}'] group

instance (before : Text) : Decidable (StartsStatement before) :=
  decidable_of_iff
    (level ['('] [')'] before = 0 ∧
      before.reverse.find? (!isBlank ·) ∈ [none, some ';', some '{', some '}'])
    ⟨fun ⟨outer, fresh⟩ => ⟨outer, fresh⟩, fun ⟨outer, fresh⟩ => ⟨outer, fresh⟩⟩

theorem drop_length_succ_append (before behind : Text) (c : Char) :
    (before ++ c :: behind).drop (before.length + 1) = behind := by
  rw [List.drop_length_add_append]
  rfl

-- A place in a text is known by what stands in front of it.
instance decidableForallBehind (c : Char) (text : Text) (P : Text → Text → Prop)
    [∀ before behind, Decidable (P before behind)] :
    Decidable (∀ before behind, before ++ c :: behind = text → P before behind) :=
  decidable_of_iff
    (∀ before, before <+: text → before ++ c :: text.drop (before.length + 1) = text →
      P before (text.drop (before.length + 1)))
    ⟨by
      rintro each before behind rfl
      have found := each before (List.prefix_append _ _)
      rw [drop_length_succ_append] at found
      exact found rfl,
    fun each before _ whole => each before _ whole⟩

-- And a stretch that ends there by what stands in front of it.
instance decidableForallStretch (front : Text) (P : Text → Text → Prop)
    [∀ before list, Decidable (P before list)] :
    Decidable (∀ before list, before ++ list = front → P before list) :=
  decidable_of_iff (∀ before, before <+: front → P before (front.drop before.length))
    ⟨by
      rintro each before list rfl
      have found := each before (List.prefix_append _ _)
      rwa [List.drop_left] at found,
    by
      rintro each before ⟨list, rfl⟩
      rw [List.drop_left]
      exact each before list rfl⟩

instance (text : Text) : Decidable (Sheltered text) :=
  have lists (front : Text) : Decidable (∀ before list, before ++ list = front →
      StartsStatement before → Unended list → PairedInside '[' ']' list) := inferInstance
  have selectors : Decidable (∀ front behind, front ++ '{' :: behind = text →
      ∀ before list, before ++ list = front →
        StartsStatement before → Unended list → PairedInside '[' ']' list) := inferInstance
  decidable_of_iff
    (BracesHeld 0 text ∧
      (∀ front behind, front ++ '{' :: behind = text → ∀ before list, before ++ list = front →
        StartsStatement before → Unended list → PairedInside '[' ']' list) ∧
      ∀ before behind, before ++ '@' :: behind = text → StartsStatement before →
        ShelteredPrelude behind)
    ⟨fun ⟨blocks, selectors, atRules⟩ => ⟨blocks, fun before list behind whole =>
        selectors (before ++ list) behind whole before list rfl, atRules⟩,
      fun ⟨blocks, selectors, atRules⟩ => ⟨blocks, by
        rintro _ behind whole before list rfl
        exact selectors before list behind whole, atRules⟩⟩

/-! A part of a text that starts outside parentheses is sheltered like the whole -/

section Parts

variable {left text right : Text}

theorem level_of_delimiter {c : Char} (delimits : c ∈ [';', '{', '}']) :
    level ['('] [')'] [c] = 0 := by
  simp only [List.mem_cons, List.not_mem_nil, or_false] at delimits
  rcases delimits with rfl | rfl | rfl <;> rfl

theorem level_concat {front : Text} {c : Char} (outer : level ['('] [')'] front = 0)
    (flat : level ['('] [')'] [c] = 0) : level ['('] [')'] (front ++ [c]) = 0 := by
  rw [level_append, outer, flat, Int.add_zero]

theorem Opens.within {front group : Text} (opens : Opens text front group)
    (outer : level ['('] [')'] left = 0) (right : Text) :
    Opens (left ++ text ++ right) (left ++ front) group := by
  refine ⟨?_, ?_, opens.inside⟩
  · rw [List.append_assoc, List.append_assoc, List.prefix_append_right_inj]
    exact opens.leads.trans (List.prefix_append text right)
  · rw [level_append, outer, opens.outer, Int.add_zero]

theorem Opens.behind {front group : Text} {c : Char} (flat : level ['('] [')'] [c] = 0)
    (opens : Opens (c :: text) (c :: front) group) : Opens text front group := by
  obtain ⟨leads, outer, inside⟩ := opens
  rw [level_cons, flat, Int.zero_add] at outer
  exact ⟨(List.cons_prefix_cons.mp leads).2, outer, inside⟩

theorem PairedInside.part {opening closing : Char}
    (paired : PairedInside opening closing (left ++ text ++ right))
    (outer : level ['('] [')'] left = 0) : PairedInside opening closing text :=
  fun _ _ opens => paired _ _ (opens.within outer right)

theorem openBraces_mono {fewer opened : Nat} (more : fewer ≤ opened) (text : Text) :
    openBraces fewer text ≤ openBraces opened text := by
  induction text generalizing fewer opened with
  | nil => exact more
  | cons c text ih =>
      apply ih
      simp only [countBracket]
      split
      · omega
      · split <;> omega

theorem BracesHeld.part {fewer opened : Nat} (held : BracesHeld opened (left ++ text ++ right))
    (outer : level ['('] [')'] left = 0) (more : fewer ≤ openBraces opened left) :
    BracesHeld fewer text := by
  intro front group opens inBlock
  apply held _ _ (opens.within outer right)
  rw [openBraces, List.foldl_append]
  exact Nat.lt_of_lt_of_le inBlock (openBraces_mono more front)

/-- Behind its opening brace a text is in a block. -/
theorem BracesHeld.behind (held : BracesHeld 0 (left ++ '{' :: text))
    (outer : level ['('] [')'] left = 0) : BracesHeld 1 text := by
  have flat := level_concat outer (show level ['('] [')'] ['{'] = 0 from rfl)
  have opened : 1 ≤ openBraces 0 (left ++ ['{']) := by
    rw [openBraces, List.foldl_append]
    exact Nat.succ_le_succ (Nat.zero_le _)
  rw [List.append_cons, ← List.append_nil ((left ++ ['{']) ++ text)] at held
  exact held.part flat opened

theorem startsStatement_nil : StartsStatement [] := ⟨rfl, by simp⟩

theorem startsStatement_of_blank (outer : level ['('] [')'] left = 0)
    (allBlank : ∀ c ∈ left, isBlank c = true) : StartsStatement left := by
  refine ⟨outer, ?_⟩
  have none : left.reverse.find? (!isBlank ·) = none := by
    rw [List.find?_eq_none]
    intro c member
    simp [allBlank c (List.mem_reverse.mp member)]
  rw [none]
  simp

theorem startsStatement_concat {c : Char} (outer : level ['('] [')'] (left ++ [c]) = 0)
    (delimits : c ∈ [';', '{', '}']) : StartsStatement (left ++ [c]) := by
  refine ⟨outer, ?_⟩
  have visible : (!isBlank c) = true := by
    simp only [List.mem_cons, List.not_mem_nil, or_false] at delimits
    rcases delimits with rfl | rfl | rfl <;> rfl
  have last : (c :: left.reverse).find? (!isBlank ·) = some c := List.find?_cons_of_pos visible
  rw [List.reverse_append, List.reverse_singleton, List.singleton_append, last]
  simpa using delimits

theorem StartsStatement.append (first : StartsStatement left) (second : StartsStatement right) :
    StartsStatement (left ++ right) := by
  refine ⟨by rw [level_append, first.outer, second.outer, Int.add_zero], ?_⟩
  rw [List.reverse_append, List.find?_append]
  cases found : right.reverse.find? (!isBlank ·) with
  | none => exact first.fresh
  | some c =>
      have fresh := second.fresh
      rw [found] at fresh
      exact fresh

theorem Sheltered.part (sheltered : Sheltered (left ++ text ++ right))
    (starts : StartsStatement left) : Sheltered text := by
  refine ⟨sheltered.blocks.part starts.outer (Nat.zero_le _), ?_, ?_⟩
  · rintro before list behind rfl startsHere
    exact sheltered.selectors (left ++ before) list (behind ++ right) (by simp)
      (starts.append startsHere)
  · rintro before behind rfl startsHere prelude group opens
    have behindWhole := sheltered.atRules (left ++ before) (behind ++ right) (by simp)
      (starts.append startsHere)
    have wider : Opens ([] ++ behind ++ right) ([] ++ prelude) group := opens.within rfl right
    exact behindWhole prelude group wider

theorem Balanced.split (balanced : Balanced '(' ')' (left ++ right))
    (outer : level ['('] [')'] left = 0) : Balanced '(' ')' left ∧ Balanced '(' ')' right := by
  refine ⟨⟨?_, outer⟩, ⟨?_, ?_⟩⟩
  · exact fun front leads => balanced.above front (leads.trans (List.prefix_append left right))
  · intro front leads
    have above := balanced.above (left ++ front) ((List.prefix_append_right_inj left).mpr leads)
    rwa [level_append, outer, Int.zero_add] at above
  · have closed := balanced.closed
    rwa [level_append, outer, Int.zero_add] at closed

end Parts

/-! The outermost parentheses that are open -/

section Outermost

variable {text front : Text} {c : Char}

theorem eq_of_level_pos {opening closing : Char} (up : 0 < level [opening] [closing] [c]) :
    c = opening := by
  by_contra other
  have notOpening : [opening].contains c = false := by simp [other]
  simp only [level, List.countP_singleton, notOpening, Bool.false_eq_true, if_false] at up
  omega

theorem Opens.concat {outer group : Text} (opens : Opens text outer group)
    (leads : outer ++ '(' :: group ++ [c] <+: text)
    (nested : 0 < level ['('] [')'] (outer ++ '(' :: group ++ [c])) :
    Opens text outer (group ++ [c]) := by
  rw [List.append_assoc] at leads nested
  refine ⟨leads, opens.outer, ?_⟩
  intro part within
  rcases List.prefix_concat_iff.mp within with rfl | earlier
  · rwa [level_append, opens.outer, Int.zero_add] at nested
  · exact opens.inside part earlier

theorem exists_opens (above : ∀ front, front <+: text → 0 ≤ level ['('] [')'] front)
    (leads : front <+: text) (inside : 0 < level ['('] [')'] front) :
    ∃ outer group, front = outer ++ '(' :: group ∧ Opens text outer group := by
  induction front using List.reverseRecOn with
  | nil => cases inside
  | append_singleton front c ih =>
      have shorter := (List.prefix_append front [c]).trans leads
      by_cases nested : 0 < level ['('] [')'] front
      · obtain ⟨outer, group, rfl, opens⟩ := ih shorter nested
        exact ⟨outer, group ++ [c], by simp, opens.concat leads inside⟩
      · have zero := above front shorter
        rw [level_append] at inside
        obtain rfl := eq_of_level_pos (show 0 < level ['('] [')'] [c] by omega)
        refine ⟨front, [], rfl, leads, by omega, ?_⟩
        intro part within
        rw [List.prefix_nil.mp within]
        decide

/-- A character inside parentheses stands in an outermost group. -/
theorem exists_opens_concat (above : ∀ front, front <+: text → 0 ≤ level ['('] [')'] front)
    (leads : front ++ [c] <+: text) (inside : 0 < level ['('] [')'] front)
    (flat : level ['('] [')'] [c] = 0) :
    ∃ outer group, front = outer ++ '(' :: group ∧ Opens text outer (group ++ [c]) := by
  have shorter := (List.prefix_append front [c]).trans leads
  obtain ⟨outer, group, rfl, opens⟩ := exists_opens above shorter inside
  refine ⟨outer, group, rfl, opens.concat leads ?_⟩
  rwa [level_append, flat, Int.add_zero]

end Outermost

/-! Where the searches cut -/

section Cuts

variable {text front : Text} {depth deeper : Nat} {c : Char} {halts : Nat → Char → Bool}

theorem statement_cut (balanced : Balanced '(' ')' text) (leads : front ++ [c] <+: text)
    (crosses : (depthScanner ['('] [')'] halts).Crosses 0 front 0) :
    level ['('] [')'] front = 0 := by
  have above := balanced.above front ((List.prefix_append front [c]).trans leads)
  have below := add_level_le_of_crosses crosses
  omega

-- A count of braces that stops at the last closing one stays above zero on its way there.
theorem pos_of_crosses (last : halts 1 '}' = true) (positive : 0 < depth)
    (crosses : (depthScanner ['{'] ['}'] halts).Crosses depth text deeper) : 0 < deeper := by
  induction crosses with
  | nil => exact positive
  | @cons depth deeper c text passes _ ih =>
      apply ih
      simp only [depthScanner, countBracket] at passes ⊢
      split
      · omega
      · split
        · next closes =>
          obtain rfl := List.mem_singleton.mp (List.contains_iff_mem.mp closes)
          have more : depth ≠ 1 := by
            rintro rfl
            cases last.symm.trans passes
          omega
        · exact positive

-- In a block, parentheses leave a brace open as far as they go.
theorem pos_of_held {opened reached : Nat} {outer group : Text} (held : BracesHeld opened text)
    (opens : Opens text outer (group ++ [c]))
    (head : (depthScanner ['{'] ['}'] halts).Crosses opened outer reached) (inBlock : 0 < reached)
    (tail : (depthScanner ['{'] ['}'] halts).Crosses reached ('(' :: group) depth) :
    0 < depth + level ['{'] ['}'] [c] := by
  have counted : openBraces opened outer = reached := Scanner.foldl_of_crosses head
  have paired := held outer (group ++ [c]) opens (counted ▸ inBlock)
  have below := add_level_le_of_crosses tail
  have parenthesis : level ['{'] ['}'] ['('] = 0 := rfl
  rw [level_append] at paired
  rw [level_cons] at below
  omega

/-- The brace that closes a block stands outside parentheses. -/
theorem block_cut (balanced : Balanced '(' ')' text) (held : BracesHeld 1 text)
    (leads : front ++ ['}'] <+: text) (last : halts 1 '}' = true)
    (crosses : (depthScanner ['{'] ['}'] halts).Crosses 1 front 1) :
    level ['('] [')'] front = 0 := by
  have above := balanced.above front ((List.prefix_append front ['}']).trans leads)
  by_contra inside
  obtain ⟨outer, group, rfl, opens⟩ :=
    exists_opens_concat balanced.above leads (by omega) rfl
  obtain ⟨reached, head, tail⟩ := Scanner.exists_crosses_of_append crosses
  have inBlock := pos_of_crosses last Nat.one_pos head
  have unclosed := pos_of_held held opens head inBlock tail
  have brace : level ['{'] ['}'] ['}'] = -1 := rfl
  omega

/-- The comma between two selectors stands outside parentheses. -/
theorem selector_cut (balanced : Balanced '(' ')' text) (squares : PairedInside '[' ']' text)
    (leads : front ++ [','] <+: text)
    (crosses : (depthScanner ['(', '['] [')', ']'] halts).Crosses 0 front 0) :
    level ['('] [')'] front = 0 := by
  have above := balanced.above front ((List.prefix_append front [',']).trans leads)
  by_contra inside
  obtain ⟨outer, group, rfl, opens⟩ :=
    exists_opens_concat balanced.above leads (by omega) rfl
  obtain ⟨reached, head, tail⟩ := Scanner.exists_crosses_of_append crosses
  have below := add_level_le_of_crosses tail
  have nested := opens.inside group (List.prefix_append group [','])
  have paired := squares outer (group ++ [',']) opens
  rw [level_pair] at below
  rw [level_append] at paired
  have squares : level ['['] [']'] ('(' :: group) = 0 + level ['['] [']'] group :=
    level_cons '(' group
  have comma : level ['['] [']'] [','] = 0 := rfl
  omega

/-- Whether the search for the end of an at-rule stops. -/
def endsAtRule (depth : Nat) (c : Char) : Bool :=
  (c == ';' && depth == 0) || (c == '}' && depth ≤ 1)

theorem endsAtRule_iff :
    endsAtRule depth c = true ↔ c = ';' ∧ depth = 0 ∨ c = '}' ∧ depth ≤ 1 := by
  simp [endsAtRule]

-- Until a brace is open, nothing that an at-rule has passed could have ended it.
theorem unended_or_pos
    (crosses : (depthScanner ['{'] ['}'] endsAtRule).Crosses 0 text depth) :
    Unended text ∨ 0 < depth := by
  induction text using List.reverseRecOn generalizing depth with
  | nil =>
      left
      intro front leads ends
      rw [List.prefix_nil.mp leads] at ends
      simp at ends
  | append_singleton text c ih =>
      obtain ⟨reached, head, tail⟩ := Scanner.exists_crosses_of_append crosses
      rcases Nat.eq_zero_or_pos reached with rfl | positive
      · obtain ⟨passes, counted⟩ := Scanner.crosses_cons_iff.mp tail
        obtain rfl := Scanner.crosses_nil_iff.mp counted
        have unended := (ih head).resolve_right (Nat.lt_irrefl 0)
        simp only [depthScanner, endsAtRule] at passes ⊢
        by_cases brace : c = '{'
        · subst brace
          right
          decide
        · left
          intro front leads ends
          rcases List.prefix_concat_iff.mp leads with rfl | earlier
          · have delimiter : c = ';' ∨ c = '{' ∨ c = '}' := by
              simpa using ends
            rcases delimiter with rfl | same | rfl
            · cases passes
            · exact absurd same brace
            · cases passes
          · exact unended front earlier ends
      · exact .inr (pos_of_crosses rfl positive tail)

/-- The last character of an at-rule stands outside parentheses. -/
theorem atRule_cut (balanced : Balanced '(' ')' text) (sheltered : Sheltered text)
    (starts : text.head? = some '@') (leads : front ++ [c] <+: text)
    (stops : endsAtRule depth c = true)
    (crosses : (depthScanner ['{'] ['}'] endsAtRule).Crosses 0 front depth) :
    level ['('] [')'] front = 0 := by
  obtain ⟨behind, rfl⟩ := List.head?_eq_some_iff.mp starts
  have above := balanced.above front ((List.prefix_append front [c]).trans leads)
  have stopped := endsAtRule_iff.mp stops
  have flat : level ['('] [')'] [c] = 0 := by
    rcases stopped with ⟨rfl, _⟩ | ⟨rfl, _⟩ <;> rfl
  by_contra inside
  obtain ⟨outer, group, rfl, opens⟩ := exists_opens_concat balanced.above leads (by omega) flat
  obtain ⟨reached, head, tail⟩ := Scanner.exists_crosses_of_append crosses
  cases outer with
  | nil => cases (List.cons_prefix_cons.mp opens.leads).1
  | cons d prelude =>
      obtain rfl : d = '@' := (List.cons_prefix_cons.mp opens.leads).1
      rcases unended_or_pos (Scanner.crosses_cons_iff.mp head).2 with unended | inBlock
      · -- The at-rule has no block yet, and its parentheses hold no end.
        have hidden := sheltered.atRules [] behind rfl startsStatement_nil prelude (group ++ [c])
          (opens.behind rfl) unended
        rcases stopped with ⟨rfl, _⟩ | ⟨rfl, _⟩
        · exact hidden.1 (by simp)
        · exact hidden.2 (by simp)
      · -- Inside its block, a brace is open that the parentheses do not close.
        have unclosed := pos_of_held sheltered.blocks opens head inBlock tail
        rcases stopped with ⟨rfl, zero⟩ | ⟨rfl, bounded⟩
        · have semicolon : level ['{'] ['}'] [';'] = 0 := rfl
          omega
        · have brace : level ['{'] ['}'] ['}'] = -1 := rfl
          omega

end Cuts

end Stylesheet
