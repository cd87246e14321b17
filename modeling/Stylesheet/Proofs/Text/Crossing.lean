import Mathlib.Data.List.Infix
import Stylesheet.Text.Scanner

/-!
Texts that a scanner crosses: it gets through them without stopping and ends in a known state.
Crossings are put together like the texts themselves, so a scan of a long text is known from scans
of its parts, and the first character that stops it can be named.
-/

namespace Stylesheet

-- What is asked of every front of a text can be computed.
instance decidableForallPrefix (text : Text) (P : Text → Prop) [DecidablePred P] :
    Decidable (∀ front, front <+: text → P front) :=
  decidable_of_iff (∀ front ∈ text.inits, P front) (by simp only [List.mem_inits])

namespace Scanner

variable {State : Type} (scanner : Scanner State)

/-- From `first` the scanner crosses the text and ends in `last`. -/
inductive Crosses : (first : State) → Text → (last : State) → Prop where
  | nil {state : State} : Crosses state [] state
  | cons {first last : State} {c : Char} {text : Text} (passes : scanner.stop first c = false) :
      Crosses (scanner.step first c) text last → Crosses first (c :: text) last

variable {scanner} {first middle last : State} {text left right rest : Text} {c : Char}

theorem crosses_cons_iff :
    scanner.Crosses first (c :: text) last ↔
      scanner.stop first c = false ∧ scanner.Crosses (scanner.step first c) text last := by
  constructor
  · rintro (_ | ⟨passes, later⟩)
    exact ⟨passes, later⟩
  · rintro ⟨passes, later⟩
    exact .cons passes later

theorem crosses_nil_iff : scanner.Crosses first [] last ↔ first = last := by
  constructor
  · rintro ⟨⟩
    rfl
  · rintro rfl
    exact .nil

theorem crosses_append (head : scanner.Crosses first left middle)
    (tail : scanner.Crosses middle right last) : scanner.Crosses first (left ++ right) last := by
  induction head with
  | nil => exact tail
  | cons passes _ ih => exact .cons passes (ih tail)

theorem exists_crosses_of_append (crosses : scanner.Crosses first (left ++ right) last) :
    ∃ middle, scanner.Crosses first left middle ∧ scanner.Crosses middle right last := by
  induction left generalizing first with
  | nil => exact ⟨first, .nil, crosses⟩
  | cons c left ih =>
      obtain ⟨passes, later⟩ := crosses_cons_iff.mp crosses
      obtain ⟨middle, head, tail⟩ := ih later
      exact ⟨middle, .cons passes head, tail⟩

theorem crosses_intercalate {separator : Text} {texts : List Text}
    (between : scanner.Crosses first separator first)
    (each : ∀ text ∈ texts, scanner.Crosses first text first) :
    scanner.Crosses first (List.intercalate separator texts) first :=
  Text.intercalate_closed (P := fun text => scanner.Crosses first text first) .nil
    (fun _ _ => crosses_append) between each

-- A text of characters that leave the state as it is.
theorem crosses_of_forall (passes : ∀ c ∈ text, scanner.stop first c = false)
    (stays : ∀ c ∈ text, scanner.step first c = first) : scanner.Crosses first text first := by
  induction text with
  | nil => exact .nil
  | cons c text ih =>
      apply Crosses.cons (passes c List.mem_cons_self)
      rw [stays c List.mem_cons_self]
      exact ih (fun d member => passes d (List.mem_cons_of_mem c member))
        (fun d member => stays d (List.mem_cons_of_mem c member))

/-- A text is crossed when the state behind no front of it asks to stop at the next character. -/
theorem crosses_of_fronts
    (free : ∀ front c, front ++ [c] <+: text → scanner.stop (front.foldl scanner.step first) c = false) :
    scanner.Crosses first text (text.foldl scanner.step first) := by
  induction text generalizing first with
  | nil => exact .nil
  | cons c text ih =>
      refine .cons (free [] c (by simp)) (ih fun front d leads => ?_)
      exact free (c :: front) d (List.prefix_cons_iff.mpr (.inr ⟨front ++ [d], rfl, leads⟩))

theorem foldl_of_crosses (crosses : scanner.Crosses first text last) :
    text.foldl scanner.step first = last := by
  induction crosses with
  | nil => rfl
  | cons _ _ ih => exact ih

-- No front of a text that is crossed stops the scan.
theorem stop_of_crosses (crosses : scanner.Crosses first text last) {front : Text}
    (leads : front ++ [c] <+: text) : scanner.stop (front.foldl scanner.step first) c = false := by
  obtain ⟨rest, rfl⟩ := leads
  obtain ⟨_, head, _⟩ := exists_crosses_of_append crosses
  obtain ⟨middle, before, next⟩ := exists_crosses_of_append head
  rw [foldl_of_crosses before]
  exact (crosses_cons_iff.mp next).1

/-- What a scan passes is crossed. -/
theorem crosses_run (scanner : Scanner State) (first : State) (text : Text) :
    scanner.Crosses first (scanner.run first text).before (scanner.run first text).state := by
  induction text generalizing first with
  | nil => exact .nil
  | cons c text ih =>
      by_cases stops : scanner.stop first c = true
      · simp only [run, stops, if_true]
        exact .nil
      · simp only [run, stops, if_false, Bool.false_eq_true]
        exact .cons (Bool.eq_false_iff.mpr stops) (ih (scanner.step first c))

/-- A scan that has stopped stops at the same place when the text goes on. -/
theorem run_append (found : (scanner.run first text).rest = c :: rest) (more : Text) :
    scanner.run first (text ++ more) =
      { scanner.run first text with rest := c :: (rest ++ more) } := by
  induction text generalizing first with
  | nil => cases found
  | cons d text ih =>
      by_cases stops : scanner.stop first d
      · simp only [run, stops, if_true] at found
        obtain ⟨rfl, rfl⟩ := List.cons.inj found
        simp [run, stops]
      · simp only [run, stops, if_false, Bool.false_eq_true] at found
        simp [run, stops, ih found]

theorem run_of_crosses (crosses : scanner.Crosses first text last) :
    scanner.run first (text ++ rest) =
      { scanner.run last rest with before := text ++ (scanner.run last rest).before } := by
  induction crosses with
  | nil => rfl
  | cons passes _ ih => simp [run, passes, ih]

theorem run_at (crosses : scanner.Crosses first text last)
    (stops : scanner.stop last c = true) :
    scanner.run first (text ++ c :: rest) = ⟨text, last, c :: rest⟩ := by
  rw [run_of_crosses crosses]
  simp [run, stops]

theorem run_to_end (crosses : scanner.Crosses first text last) :
    scanner.run first text = ⟨text, last, []⟩ := by
  have whole : scanner.run first (text ++ []) = _ := run_of_crosses crosses
  simpa [run] using whole

theorem pieces_at (crosses : scanner.Crosses first text last)
    (stops : scanner.stop last c = true) :
    scanner.pieces first (text ++ c :: rest) =
      text :: scanner.pieces (scanner.step last c) rest := by
  rw [pieces_eq_run, run_at crosses stops]

theorem pieces_to_end (crosses : scanner.Crosses first text last) :
    scanner.pieces first text = [text] := by
  rw [pieces_eq_run, run_to_end crosses]

end Scanner

end Stylesheet
