import Mathlib.Data.List.TakeWhile
import Stylesheet.Text.Basic

/-!
Runs: the longest front of a list whose items all belong to one class. A run ends where the list
does or where the next item is of another class.
-/

namespace Stylesheet

variable {α : Type} {p : α → Bool}

theorem takeWhile_append_of_stop {back : List α} (stops : ∀ item ∈ back.head?, p item = false)
    (front : List α) : (front ++ back).takeWhile p = front.takeWhile p := by
  induction front with
  | nil =>
      cases back with
      | nil => rfl
      | cons item back => simp [stops item rfl]
  | cons first front ih =>
      by_cases passes : p first = true
      · simp [passes, ih]
      · simp [passes]

theorem dropWhile_append_of_stop {back : List α} (stops : ∀ item ∈ back.head?, p item = false)
    (front : List α) : (front ++ back).dropWhile p = front.dropWhile p ++ back := by
  induction front with
  | nil =>
      cases back with
      | nil => rfl
      | cons item back => simp [stops item rfl]
  | cons first front ih =>
      by_cases passes : p first = true
      · simp [passes, ih]
      · simp [passes]

section Run

variable {run rest : List α}

theorem takeWhile_run (inside : ∀ item ∈ run, p item = true)
    (stops : ∀ item ∈ rest.head?, p item = false) : (run ++ rest).takeWhile p = run := by
  rw [takeWhile_append_of_stop stops, List.takeWhile_eq_self_iff.mpr inside]

theorem dropWhile_run (inside : ∀ item ∈ run, p item = true)
    (stops : ∀ item ∈ rest.head?, p item = false) : (run ++ rest).dropWhile p = rest := by
  rw [dropWhile_append_of_stop stops, List.dropWhile_eq_nil_iff.mpr inside, List.nil_append]

end Run

/-- Every list is a run and what stops it. -/
theorem exists_run (p : α → Bool) (items : List α) :
    items = items.takeWhile p ++ items.dropWhile p ∧ (∀ item ∈ items.takeWhile p, p item = true) ∧
      ∀ item ∈ (items.dropWhile p).head?, p item = false := by
  refine ⟨List.takeWhile_append_dropWhile.symm, List.all_eq_true.mp List.all_takeWhile, ?_⟩
  intro item first
  have stops := List.head?_dropWhile_not p items
  rw [Option.mem_def.mp first] at stops
  simpa using stops

/-! A text up to the first of one character -/

section Until

variable {stop : Char} {front : Text} (absent : stop ∉ front)

include absent

theorem bne_of_absent : ∀ c ∈ front, (c != stop) = true :=
  fun _ member => bne_iff_ne.mpr fun same => absent (same ▸ member)

theorem takeWhile_until (rest : Text) : (front ++ stop :: rest).takeWhile (· != stop) = front :=
  takeWhile_run (bne_of_absent absent) (by simp)

theorem dropWhile_until (rest : Text) :
    (front ++ stop :: rest).dropWhile (· != stop) = stop :: rest :=
  dropWhile_run (bne_of_absent absent) (by simp)

theorem takeWhile_of_absent : front.takeWhile (· != stop) = front :=
  List.takeWhile_eq_self_iff.mpr (bne_of_absent absent)

theorem dropWhile_of_absent : front.dropWhile (· != stop) = [] :=
  List.dropWhile_eq_nil_iff.mpr (bne_of_absent absent)

end Until

/-- Letters and digits are classes apart. -/
theorem isDigit_of_isAlpha {c : Char} (letter : c.isAlpha = true) : c.isDigit = false := by
  have letters : c.isAlpha = (decide (c.val ≥ 'A'.val ∧ c.val ≤ 'Z'.val) ||
      decide (c.val ≥ 'a'.val) && decide (c.val ≤ 'z'.val)) := rfl
  have digits : c.isDigit = (decide (c.val ≥ '0'.val) && decide (c.val ≤ '9'.val)) := rfl
  simp only [letters, Bool.or_eq_true, Bool.and_eq_true, decide_eq_true_eq, ge_iff_le,
    UInt32.le_iff_toNat_le] at letter
  simp only [digits, Bool.and_eq_false_iff, decide_eq_false_iff_not, ge_iff_le,
    UInt32.le_iff_toNat_le]
  simp at letter ⊢
  omega

end Stylesheet
