import Stylesheet.Expander.Substitute
import Stylesheet.Proofs.Invocation.Search

/-!
A pass over a text that is put together from parts.
-/

namespace Stylesheet

section Parts

variable {marker : Marker} {name : Option Text} (value : Invocation → Expansion Text)
  (written : Nat)

/-- A pass leaves a front in which nothing wanted starts as it is and goes on behind it. -/
theorem substitute_append_of_absent {front rest : Text}
    (absent : ∀ i < front.length,
      Invocation.behind? marker.text name ((front ++ rest).drop i) = none) :
    substitute marker name value written (front ++ rest) =
      (front ++ ·) <$> substitute marker name value (written + front.length) rest := by
  have whole := Invocation.find?_append absent
  cases found : Invocation.find? marker.text name rest with
  | none =>
      rw [found, Option.map_none] at whole
      rw [substitute_of_absent _ _ whole, substitute_of_absent _ _ found, map_pure]
  | some parts =>
      obtain ⟨before, behind⟩ := parts
      rw [found, Option.map_some] at whole
      have start : written + (front ++ before).length = written + front.length + before.length := by
        rw [List.length_append, Nat.add_assoc]
      rw [substitute_of_found _ _ whole, substitute_of_found _ _ found, start]
      cases Invocation.read (written + front.length + before.length + marker.text.length) behind with
      | error error => rfl
      | ok reading =>
          cases reading with
          | none => simp only [map_eq_pure_bind, bind_assoc, pure_bind, List.append_assoc]
          | some parts => simp only [map_eq_pure_bind, bind_assoc, pure_bind, List.append_assoc]

/-- What a pass does with an invocation at the head of a text. -/
theorem substitute_of_headed {text behind rest : Text} {invocation : Invocation}
    (headed : Invocation.behind? marker.text name text = some behind)
    (read : ∀ position, Invocation.read position behind = .ok (some (invocation, rest))) :
    substitute marker name value written text = do
      let replacement ← value invocation
      let later ← substitute marker name value (written + replacement.length) rest
      return replacement ++ later := by
  rw [substitute_of_found _ _ (Invocation.find?_eq_head headed), read]
  rfl

end Parts

end Stylesheet
