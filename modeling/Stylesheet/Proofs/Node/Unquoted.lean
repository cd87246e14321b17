import Stylesheet.Node.Reader
import Stylesheet.Proofs.Text.Crossing

/-!
Scans that look only at characters outside quotes. Such a scan of a text is the same as a scan of
its unquoted characters by a scanner that knows of no quotes and counts brackets. How deep brackets
nest behind a text is the difference of two counts as long as no closing bracket comes too early.
-/

namespace Stylesheet

namespace Quoting

/-- The characters of a text that stand outside quotes, when the text starts in this state. -/
def unquoted : Quoting → Text → Text
  | _, [] => []
  | state, c :: text =>
    if state.bare c then c :: unquoted (state.next c) text else unquoted (state.next c) text

/-- The state behind a text. -/
def after (state : Quoting) (text : Text) : Quoting := text.foldl next state

theorem unquoted_append (state : Quoting) (left right : Text) :
    state.unquoted (left ++ right) = state.unquoted left ++ (state.after left).unquoted right := by
  induction left generalizing state with
  | nil => rfl
  | cons c left ih =>
      simp only [List.cons_append, unquoted, ih, after, List.foldl_cons]
      split <;> rfl

theorem after_cons (state : Quoting) (c : Char) (text : Text) :
    state.after (c :: text) = (state.next c).after text := rfl

theorem after_append (state : Quoting) (left right : Text) :
    state.after (left ++ right) = (state.after left).after right :=
  List.foldl_append

-- A character outside quotes that opens none is met outside quotes and leaves the scan there.
theorem outside_of_bare {state : Quoting} {c : Char} (bare : state.bare c = true) :
    state = .outside ∧ state.next c = .outside := by
  cases state with
  | outside =>
      simp only [Quoting.bare, Bool.not_eq_true'] at bare
      simp [Quoting.next, bare]
  | inside quote escaped => cases bare

end Quoting

/-- Counts a bracket up or down; a closing one too many leaves the count at zero. -/
def countBracket (opening closing : List Char) (depth : Nat) (c : Char) : Nat :=
  if opening.contains c then depth + 1 else if closing.contains c then depth - 1 else depth

/-- How many brackets a text opens more than it closes. -/
def level (opening closing : List Char) (text : Text) : Int :=
  (text.countP opening.contains : Int) - text.countP closing.contains

/-- A scanner that counts brackets and knows of no quotes. -/
def depthScanner (opening closing : List Char) (halts : Nat → Char → Bool) : Scanner Nat where
  step := countBracket opening closing
  stop := halts

/-- The same scanner on the characters outside quotes. -/
def bareScanner (opening closing : List Char) (halts : Nat → Char → Bool) : Scanner Nesting where
  step := Nesting.next opening closing
  stop state c := state.quoting.bare c && halts state.depth c

section Crossing

variable {opening closing : List Char} {halts : Nat → Char → Bool}

theorem crosses_bareScanner {quoting : Quoting} {depth deeper : Nat} {text : Text}
    (crosses : (depthScanner opening closing halts).Crosses depth (quoting.unquoted text) deeper) :
    (bareScanner opening closing halts).Crosses ⟨quoting, depth⟩ text
      ⟨quoting.after text, deeper⟩ := by
  induction text generalizing quoting depth with
  | nil =>
      obtain rfl := Scanner.crosses_nil_iff.mp crosses
      exact .nil
  | cons c text ih =>
      rw [Quoting.after_cons]
      by_cases bare : quoting.bare c = true
      · simp only [Quoting.unquoted, bare, if_true] at crosses
        obtain ⟨passes, later⟩ := Scanner.crosses_cons_iff.mp crosses
        have counted : Nesting.next opening closing ⟨quoting, depth⟩ c =
            ⟨quoting.next c, countBracket opening closing depth c⟩ := by
          simp [Nesting.next, countBracket, bare]
        refine .cons ?_ ?_
        · simp only [bareScanner, bare, Bool.true_and]
          exact passes
        · simp only [bareScanner, counted]
          exact ih later
      · simp only [Quoting.unquoted, bare, if_false, Bool.false_eq_true] at crosses
        have skipped : Nesting.next opening closing ⟨quoting, depth⟩ c =
            ⟨quoting.next c, depth⟩ := by
          simp [Nesting.next, bare]
        refine .cons ?_ ?_
        · simp [bareScanner, bare]
        · simp only [bareScanner, skipped]
          exact ih crosses

theorem crosses_depthScanner_of_bare {quoting : Quoting} {depth : Nat} {text : Text}
    {last : Nesting}
    (crosses : (bareScanner opening closing halts).Crosses ⟨quoting, depth⟩ text last) :
    last.quoting = quoting.after text ∧
      (depthScanner opening closing halts).Crosses depth (quoting.unquoted text) last.depth := by
  induction text generalizing quoting depth with
  | nil =>
      obtain rfl := Scanner.crosses_nil_iff.mp crosses
      exact ⟨rfl, .nil⟩
  | cons c text ih =>
      obtain ⟨passes, later⟩ := Scanner.crosses_cons_iff.mp crosses
      rw [Quoting.after_cons]
      by_cases bare : quoting.bare c = true
      · have counted : Nesting.next opening closing ⟨quoting, depth⟩ c =
            ⟨quoting.next c, countBracket opening closing depth c⟩ := by
          simp [Nesting.next, countBracket, bare]
        simp only [bareScanner, counted] at later
        obtain ⟨quotes, crossed⟩ := ih later
        simp only [bareScanner, bare, Bool.true_and] at passes
        simp only [Quoting.unquoted, bare, if_true]
        exact ⟨quotes, .cons passes crossed⟩
      · have skipped : Nesting.next opening closing ⟨quoting, depth⟩ c =
            ⟨quoting.next c, depth⟩ := by
          simp [Nesting.next, bare]
        simp only [bareScanner, skipped] at later
        simp only [Quoting.unquoted, bare, if_false, Bool.false_eq_true]
        exact ih later

theorem level_append (left right : Text) :
    level opening closing (left ++ right) =
      level opening closing left + level opening closing right := by
  simp only [level, List.countP_append]
  omega

theorem level_nil : level opening closing [] = 0 := rfl

theorem level_cons (c : Char) (text : Text) :
    level opening closing (c :: text) = level opening closing [c] + level opening closing text :=
  level_append [c] text

-- One bracket counts as its level, unless it closes what nothing opened.
theorem countBracket_eq_level (apart : ∀ c ∈ opening, closing.contains c = false)
    {depth : Nat} {c : Char} (above : 0 ≤ depth + level opening closing [c]) :
    (countBracket opening closing depth c : Int) = depth + level opening closing [c] := by
  unfold countBracket
  by_cases opens : opening.contains c = true
  · have closes := apart c (List.contains_iff_mem.mp opens)
    simp only [level, List.countP_singleton, opens, closes] at above ⊢
    simp
  · by_cases closes : closing.contains c = true
    · simp only [level, List.countP_singleton, opens, closes] at above ⊢
      simp at above ⊢
      omega
    · simp only [level, List.countP_singleton, opens, closes]
      simp

-- A closing bracket too many only makes the count larger than the level.
theorem add_level_le_countBracket (depth : Nat) (c : Char) :
    depth + level opening closing [c] ≤ countBracket opening closing depth c := by
  simp only [level, List.countP_singleton, countBracket]
  split
  · split <;> omega
  · split <;> omega

theorem add_level_le_of_crosses {depth deeper : Nat} {text : Text}
    (crosses : (depthScanner opening closing halts).Crosses depth text deeper) :
    depth + level opening closing text ≤ deeper := by
  induction crosses with
  | nil => simp [level_nil]
  | @cons depth deeper c text passes _ ih =>
      have counted : depth + level opening closing [c] ≤ countBracket opening closing depth c :=
        add_level_le_countBracket depth c
      simp only [depthScanner] at ih
      rw [level_cons]
      omega

/-- A text is crossed when no closing bracket in it comes too early and no character in it halts the
scan at the depth it stands at. -/
theorem crosses_depthScanner (apart : ∀ c ∈ opening, closing.contains c = false)
    {depth deeper : Nat} {text : Text}
    (above : ∀ front, front <+: text → 0 ≤ depth + level opening closing front)
    (free : ∀ front c, front ++ [c] <+: text → ∀ reached : Nat,
      (reached : Int) = depth + level opening closing front → halts reached c = false)
    (ends : (deeper : Int) = depth + level opening closing text) :
    (depthScanner opening closing halts).Crosses depth text deeper := by
  induction text generalizing depth with
  | nil =>
      have same : deeper = depth := by
        rw [level_nil] at ends
        omega
      subst same
      exact .nil
  | cons c text ih =>
      have counted := countBracket_eq_level apart (above [c] (by simp))
      refine .cons (free [] c (by simp) depth (by simp [level_nil])) (ih ?_ ?_ ?_)
      · intro front leads
        have whole := above (c :: front) (List.prefix_cons_iff.mpr (.inr ⟨front, rfl, leads⟩))
        rw [level_cons] at whole
        simp only [depthScanner]
        omega
      · intro front d leads reached reaches
        apply free (c :: front) d (List.prefix_cons_iff.mpr (.inr ⟨front ++ [d], rfl, leads⟩)) reached
        simp only [depthScanner] at reaches
        rw [level_cons]
        omega
      · rw [level_cons] at ends
        simp only [depthScanner]
        omega

/-- The same for the characters outside quotes of a text that closes its quotes. -/
theorem crosses_of_unquoted (apart : ∀ c ∈ opening, closing.contains c = false)
    {depth deeper : Nat} {text : Text} (quotes : Quoting.outside.after text = .outside)
    (above : ∀ front, front <+: Quoting.outside.unquoted text →
      0 ≤ depth + level opening closing front)
    (free : ∀ front c, front ++ [c] <+: Quoting.outside.unquoted text → ∀ reached : Nat,
      (reached : Int) = depth + level opening closing front → halts reached c = false)
    (ends : (deeper : Int) = depth + level opening closing (Quoting.outside.unquoted text)) :
    (bareScanner opening closing halts).Crosses ⟨.outside, depth⟩ text ⟨.outside, deeper⟩ := by
  have crosses := crosses_bareScanner (crosses_depthScanner apart above free ends)
  rwa [quotes] at crosses

-- Characters that are neither quotes nor brackets nor halts leave no trace.
theorem crosses_of_neutral {depth : Nat} {text : Text}
    (neutral : ∀ c ∈ text, Quoting.isQuote c = false ∧ opening.contains c = false ∧
      closing.contains c = false ∧ halts depth c = false) :
    (bareScanner opening closing halts).Crosses ⟨.outside, depth⟩ text ⟨.outside, depth⟩ := by
  apply Scanner.crosses_of_forall
  · intro c member
    obtain ⟨_, _, _, passes⟩ := neutral c member
    simp [bareScanner, passes]
  · intro c member
    obtain ⟨unquoting, unopened, unclosed, _⟩ := neutral c member
    simp only [bareScanner, Nesting.next, Quoting.next, Quoting.bare, unquoting, unopened, unclosed]
    simp

end Crossing

end Stylesheet
