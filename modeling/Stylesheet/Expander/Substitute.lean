import Stylesheet.Expander.Memory
import Stylesheet.Expander.Settings

/-!
One pass over a text that puts the value of each invocation in its place. What has been put in is
not looked at again. A marker with no name behind it is plain text.

Passes are made in any kind of computation that those on the memory can be part of.
-/

namespace Stylesheet

variable {m : Type → Type} [Monad m] [MonadLiftT Expansion m]

/-- Replaces the invocations of `name`, or all of them. `written` is the length of what already
stands before the text, so that errors tell where in the document expanded so far they arise. -/
def substitute (marker : Marker) (name : Option Text) (value : Invocation → m Text)
    (written : Nat) (text : Text) : m Text :=
  match _ : Invocation.find? marker.text name text with
  | none => return text
  | some (before, behind) =>
    let start := written + before.length
    let position := start + marker.text.length
    match _ : Invocation.read position behind with
    | .error error => liftM (throw (.openInvocation error) : Expansion Text)
    | .ok none => do
      let later ← substitute marker name value position behind
      return before ++ marker.text ++ later
    | .ok (some (invocation, rest)) => do
      let replacement ← value invocation
      let later ← substitute marker name value (start + replacement.length) rest
      return before ++ replacement ++ later
termination_by text.length
decreasing_by
  all_goals
    have whole := Invocation.eq_of_find? ‹Invocation.find? _ _ text = some (before, behind)›
    have filled := List.length_pos_iff.mpr marker.filled
    rw [whole]
    simp only [List.length_append]
  · omega
  · have := Invocation.length_read ‹Invocation.read position behind = _›
    omega

/-! What a pass does with a text, without and with an invocation in it. -/

section Cases

variable {marker : Marker} {name : Option Text} (value : Invocation → m Text)
  (written : Nat) {text before behind : Text}

theorem substitute_of_absent (absent : Invocation.find? marker.text name text = none) :
    substitute marker name value written text = pure text := by
  rw [substitute]
  split
  · rfl
  · next found => simp [absent] at found

theorem substitute_of_found
    (found : Invocation.find? marker.text name text = some (before, behind)) :
    substitute marker name value written text =
      match Invocation.read (written + before.length + marker.text.length) behind with
      | .error error => liftM (throw (.openInvocation error) : Expansion Text)
      | .ok none => do
        let later ←
          substitute marker name value (written + before.length + marker.text.length) behind
        return before ++ marker.text ++ later
      | .ok (some (invocation, rest)) => do
        let replacement ← value invocation
        let later ← substitute marker name value (written + before.length + replacement.length) rest
        return before ++ replacement ++ later := by
  rw [substitute]
  split
  · next absent => simp [found] at absent
  · next first second same =>
    obtain ⟨rfl, rfl⟩ := Prod.mk.inj (Option.some.inj (found.symm.trans same))
    dsimp only
    split <;> simp_all

end Cases

end Stylesheet
