import Stylesheet.Invocation

/-!
Where invocations of a name start, and what a search for them passes over.
-/

namespace Stylesheet

theorem Text.after?_eq_some_iff {lead text rest : Text} :
    after? lead text = some rest ↔ text = lead ++ rest := by
  constructor
  · exact eq_of_after?
  · rintro rfl
    induction lead with
    | nil => rfl
    | cons c lead ih => simpa [after?] using ih

namespace Invocation

/-- An invocation of `name` starts at the head of the text: the marker, the name, and nothing that
makes the name longer. -/
def Heads (marker name text : Text) : Prop :=
  ∃ rest, text = marker ++ name ++ rest ∧ ∀ c ∈ rest.head?, isNameChar c = false

variable {marker name : Text}

theorem isNamed_iff {text : Text} :
    isNamed (some name) text = true ↔
      ∃ rest, text = name ++ rest ∧ ∀ c ∈ rest.head?, isNameChar c = false := by
  cases found : Text.after? name text with
  | none =>
      simp only [isNamed, found, Bool.false_eq_true, false_iff]
      rintro ⟨rest, rfl, _⟩
      cases found.symm.trans (Text.after?_eq_some_iff.mpr rfl)
  | some rest =>
      have whole := Text.eq_of_after? found
      have onlyRest : ∀ other, text = name ++ other → other = rest := fun other same =>
        List.append_cancel_left (same.symm.trans whole)
      cases rest with
      | nil =>
          simp only [isNamed, found, true_iff]
          exact ⟨[], whole, by simp⟩
      | cons c rest =>
          simp only [isNamed, found, Bool.not_eq_true']
          constructor
          · intro apart
            exact ⟨c :: rest, whole, by simpa using apart⟩
          · rintro ⟨other, same, apart⟩
            rw [onlyRest other same] at apart
            exact apart c rfl

theorem behind?_eq_some_iff {text behind : Text} :
    behind? marker (some name) text = some behind ↔
      text = marker ++ behind ∧
        ∃ rest, behind = name ++ rest ∧ ∀ c ∈ rest.head?, isNameChar c = false := by
  rw [behind?, Option.filter_eq_some_iff, Text.after?_eq_some_iff, isNamed_iff]

theorem behind?_eq_none_iff {text : Text} :
    behind? marker (some name) text = none ↔ ¬Heads marker name text := by
  constructor
  · rintro absent ⟨rest, rfl, apart⟩
    have found := behind?_eq_some_iff.mpr
      ⟨List.append_assoc marker name rest, rest, rfl, apart⟩
    cases absent.symm.trans found
  · intro nowhere
    cases found : behind? marker (some name) text with
    | none => rfl
    | some behind =>
        obtain ⟨rfl, rest, rfl, apart⟩ := behind?_eq_some_iff.mp found
        exact absurd ⟨rest, (List.append_assoc ..).symm, apart⟩ nowhere

instance (text : Text) : Decidable (Heads marker name text) :=
  match found : behind? marker (some name) text with
  | none => .isFalse (behind?_eq_none_iff.mp found)
  | some behind => .isTrue (by
      obtain ⟨rfl, rest, rfl, apart⟩ := behind?_eq_some_iff.mp found
      exact ⟨rest, (List.append_assoc ..).symm, apart⟩)

section Search

variable {wanted : Option Text}

/-- A search passes over a front in which nothing wanted starts. -/
theorem find?_append {front rest : Text}
    (absent : ∀ i < front.length, behind? marker wanted ((front ++ rest).drop i) = none) :
    find? marker wanted (front ++ rest) =
      (find? marker wanted rest).map fun found => (front ++ found.1, found.2) := by
  induction front with
  | nil => simp
  | cons c front ih =>
      have first : behind? marker wanted (c :: (front ++ rest)) = none :=
        absent 0 (Nat.zero_lt_succ _)
      have later := ih fun i bounded => absent (i + 1) (Nat.succ_lt_succ bounded)
      simp only [List.cons_append, find?, first, later, Option.map_map, Function.comp_def]

theorem find?_eq_none_iff {text : Text} :
    find? marker wanted text = none ↔ ∀ i, behind? marker wanted (text.drop i) = none := by
  induction text with
  | nil => simp [find?]
  | cons c text ih =>
      cases first : behind? marker wanted (c :: text) with
      | some behind =>
          simp only [find?, first, reduceCtorEq, false_iff]
          intro absent
          cases first.symm.trans (absent 0)
      | none =>
          simp only [find?, first, Option.map_eq_none_iff, ih]
          constructor
          · rintro absent (_ | i)
            · exact first
            · exact absent i
          · exact fun absent i => absent (i + 1)

/-- A search stops where something wanted starts and passes over nothing that is wanted. -/
theorem behind?_of_find? {text before behind : Text}
    (found : find? marker wanted text = some (before, behind)) :
    behind? marker wanted (text.drop before.length) = some behind ∧
      ∀ i < before.length, behind? marker wanted (text.drop i) = none := by
  induction text generalizing before with
  | nil =>
      obtain ⟨rest, first, same⟩ := Option.map_eq_some_iff.mp found
      obtain ⟨rfl, rfl⟩ := Prod.mk.inj same
      exact ⟨first, by simp⟩
  | cons c text ih =>
      cases first : behind? marker wanted (c :: text) with
      | some rest =>
          simp only [find?, first, Option.some.injEq, Prod.mk.injEq] at found
          obtain ⟨rfl, rfl⟩ := found
          exact ⟨first, by simp⟩
      | none =>
          simp only [find?, first] at found
          obtain ⟨⟨skipped, rest⟩, later, same⟩ := Option.map_eq_some_iff.mp found
          obtain ⟨rfl, rfl⟩ := Prod.mk.inj same
          obtain ⟨stops, passes⟩ := ih later
          refine ⟨stops, ?_⟩
          rintro (_ | i) bounded
          · exact first
          · exact passes i (Nat.lt_of_succ_lt_succ bounded)

theorem find?_name_eq_none_iff {text : Text} :
    find? marker (some name) text = none ↔ ∀ i, ¬Heads marker name (text.drop i) := by
  simp only [find?_eq_none_iff, behind?_eq_none_iff]

theorem find?_eq_head {text behind : Text} (found : behind? marker wanted text = some behind) :
    find? marker wanted text = some ([], behind) := by
  cases text with
  | nil => simp [find?, found]
  | cons c text => simp [find?, found]

end Search

end Invocation

end Stylesheet
