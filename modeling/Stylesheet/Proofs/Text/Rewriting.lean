import Stylesheet.Text.Blank

/-!
What rewriting does to a text as a whole. Replacements of one character can be put together into
one. A class of characters is kept, every one of them and in order, where what is written holds the
same characters of the class as what it is written for. Trimming keeps every class without blanks.
-/

namespace Stylesheet

namespace Text

theorem replaceChar_self (text : Text) (c : Char) : text.replaceChar c [c] = text := by
  induction text with
  | nil => rfl
  | cons d text ih =>
      rw [replaceChar_cons, ih]
      split
      · next same => rw [same, List.singleton_append]
      · rfl

/-- A second replacement finds only what the first one has written. -/
theorem replaceChar_replaceChar (text : Text) (old : Char) (new next : Text) :
    (text.replaceChar old new).replaceChar old next =
      text.replaceChar old (new.replaceChar old next) := by
  induction text with
  | nil => rfl
  | cons c text ih =>
      rw [replaceChar_cons, replaceChar_cons, replaceChar_append, ih]
      by_cases same : c = old
      · rw [if_pos same, if_pos same]
      · rw [if_neg same, if_neg same, replaceChar_cons, if_neg same]
        rfl

theorem replaceChar_intercalate {separator : Text} {old : Char} (absent : old ∉ separator)
    (new : Text) (texts : List Text) :
    replaceChar (List.intercalate separator texts) old new =
      List.intercalate separator (texts.map fun text => text.replaceChar old new) := by
  induction texts with
  | nil => rfl
  | cons text texts ih =>
      cases texts with
      | nil => rw [List.map_singleton, List.intercalate_singleton, List.intercalate_singleton]
      | cons next texts =>
          rw [List.intercalate_cons_cons, replaceChar_append, replaceChar_append, ih,
            replaceChar_of_absent absent]
          exact (List.intercalate_cons_cons ..).symm

/-! Classes of characters -/

section Kept

variable {keep : Char → Bool}

theorem filter_replaceChar {old : Char} {new : Text} (same : new.filter keep = [old].filter keep)
    (text : Text) : (text.replaceChar old new).filter keep = text.filter keep := by
  induction text with
  | nil => rfl
  | cons c text ih =>
      rw [replaceChar_cons, List.filter_append, ih]
      by_cases hit : c = old
      · rw [if_pos hit, same, hit, ← List.filter_append, List.singleton_append]
      · rw [if_neg hit, ← List.filter_append, List.singleton_append]

/-- Behind the characters that are skipped, what is written stands for what it replaces. -/
theorem filter_replaceFrom {old new : Text} (filled : old ≠ [])
    (same : new.filter keep = old.filter keep) (skip : Nat) (text : Text) :
    (replaceFrom old new skip text).filter keep = (text.drop skip).filter keep := by
  induction text generalizing skip with
  | nil => simp [replaceFrom]
  | cons c text ih =>
      cases skip with
      | succ skip => exact ih skip
      | zero =>
          rw [replaceFrom, List.drop_zero]
          split
          · next rest found =>
            have whole := eq_of_after? found
            have positive := List.length_pos_iff.mpr filled
            have behind : text.drop (old.length - 1) = rest := by
              calc text.drop (old.length - 1)
                  = (c :: text).drop (old.length - 1 + 1) := rfl
                _ = (old ++ rest).drop old.length := by rw [whole, Nat.sub_add_cancel positive]
                _ = rest := List.drop_left
            rw [List.filter_append, ih, behind, same, whole, List.filter_append]
          · rw [List.filter_cons, List.filter_cons, ih, List.drop_zero]

theorem filter_replace {old new : Text} (filled : old ≠ [])
    (same : new.filter keep = old.filter keep) (text : Text) :
    (text.replace old new).filter keep = text.filter keep :=
  filter_replaceFrom filled same 0 text

variable (visible : ∀ c, isBlank c = true → keep c = false)

include visible

theorem filter_of_blank {blanks : Text} (allBlank : ∀ c ∈ blanks, isBlank c = true) :
    blanks.filter keep = [] := by
  apply List.filter_eq_nil_iff.mpr
  intro c member
  rw [visible c (allBlank c member)]
  exact Bool.false_ne_true

theorem filter_trimStart (text : Text) : text.trimStart.filter keep = text.filter keep := by
  obtain ⟨blanks, whole, allBlank⟩ := exists_append_trimStart text
  calc text.trimStart.filter keep
      = (blanks ++ text.trimStart).filter keep := by
        rw [List.filter_append, filter_of_blank visible allBlank, List.nil_append]
    _ = text.filter keep := by rw [whole]

theorem filter_trimEnd (text : Text) : text.trimEnd.filter keep = text.filter keep := by
  obtain ⟨blanks, whole, allBlank⟩ := exists_trimEnd_append text
  calc text.trimEnd.filter keep
      = (text.trimEnd ++ blanks).filter keep := by
        rw [List.filter_append, filter_of_blank visible allBlank, List.append_nil]
    _ = text.filter keep := by rw [whole]

theorem filter_trim (text : Text) : text.trim.filter keep = text.filter keep := by
  rw [trim, filter_trimEnd visible, filter_trimStart visible]

end Kept

end Text

end Stylesheet
