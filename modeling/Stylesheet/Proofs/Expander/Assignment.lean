import Stylesheet.Proofs.Expander.Contract
import Stylesheet.Proofs.Expander.Pass
import Stylesheet.Proofs.Invocation.Argument

/-!
An assignment may stand anywhere in a document. The first pass runs it where it meets it and takes
it out without a trace, so the document that the second pass sees does not tell where it stood.
-/

namespace Stylesheet

/-- An assignment as it is written. -/
def assignment (name value : Text) : Text :=
  "¤set(".toList ++ name ++ ',' :: value ++ [')']

-- An assignment writes and puts nothing in its place.
theorem runSet_eq_silent (arguments : List Text) :
    Function.runSet arguments = do
      let _ ← Function.runSet arguments
      return [] := by
  rcases arguments with _ | ⟨name, _ | ⟨value, _ | ⟨third, more⟩⟩⟩
  · rfl
  · rfl
  · rfl
  · rfl

theorem holds_nil (marker : Marker) : Text.holds marker.text [] = false := by
  have filled := marker.filled
  cases lead : marker.text with
  | nil => exact absurd lead filled
  | cons c lead => rfl

theorem invoke_assignment (settings : Settings) {functions : Table Function}
    (expand : Scope → Text → Expansion Text)
    (known : functions.get? "set".toList = some .set) (arguments : List Text) :
    invoke settings functions expand [] ⟨"set".toList, arguments, false⟩ = do
      let given ← prepare settings expand [] ⟨"set".toList, arguments, false⟩
      let _ ← Function.runSet given
      return [] := by
  have resolved : ∀ given, resolve settings functions expand [] "set".toList given = do
      let _ ← Function.runSet given
      return ⟨[], settings.isRaw "set".toList⟩ := by
    intro given
    simp only [resolve, Table.get?, known, Function.call, lift_self]
    conv_lhs => rw [runSet_eq_silent given, bind_assoc]
    simp only [pure_bind]
  have settled : settle settings expand [] ⟨[], settings.isRaw "set".toList⟩ = pure [] := by
    simp only [settle, holds_nil, Bool.and_false, Bool.false_eq_true, if_false]
  simp only [invoke, resolved, settled, bind_assoc, pure_bind, terminate, Bool.false_and,
    Bool.false_eq_true, if_false]

theorem behind?_assignment (name value rest : Text) :
    Invocation.behind? Marker.standard.text (some "set".toList) (assignment name value ++ rest) =
      some ("set".toList ++ '(' :: List.intercalate [','] [name, value] ++ ')' :: rest) := by
  apply Invocation.behind?_eq_some_iff.mpr
  refine ⟨?_, '(' :: List.intercalate [','] [name, value] ++ ')' :: rest, by simp, ?_⟩
  · simp [assignment, Marker.standard]
  · simp [isNameChar]

section Documents

variable {name value front back : Text}

theorem read_assignment (first : name.IsArgument) (second : value.IsArgument)
    {rest : Text} (follows : rest.Follows) (position : Nat) :
    Invocation.read position
        ("set".toList ++ '(' :: List.intercalate [','] [name, value] ++ ')' :: rest) =
      .ok (some (⟨"set".toList, [name, value], false⟩, rest)) := by
  have fits : ∀ each ∈ [name, value], each.IsArgument := by
    simp [first, second]
  exact Invocation.read_listed (by decide) (List.all_eq_true.mp rfl) fits follows position

/-- The pass that runs assignments takes one off the head of a text and goes on as if it had not
been there. -/
theorem substitute_assignment {evaluate : Invocation → Expansion Text} {action : Expansion Text}
    (silent : evaluate ⟨"set".toList, [name, value], false⟩ = action >>= fun _ => pure [])
    (first : name.IsArgument) (second : value.IsArgument) {rest : Text} (follows : rest.Follows)
    (written : Nat) :
    substitute .standard (some "set".toList) evaluate written (assignment name value ++ rest) =
      action >>= fun _ => substitute .standard (some "set".toList) evaluate written rest := by
  rw [substitute_of_headed evaluate written (behind?_assignment name value rest)
    (read_assignment first second follows), silent]
  simp

theorem substitute_assignment_append {evaluate : Invocation → Expansion Text}
    {action : Expansion Text}
    (silent : evaluate ⟨"set".toList, [name, value], false⟩ = action >>= fun _ => pure [])
    (first : name.IsArgument) (second : value.IsArgument)
    (apart : ∀ i < front.length, ¬Invocation.Heads Marker.standard.text "set".toList
      ((front ++ (assignment name value ++ back)).drop i))
    (without : ∀ i < front.length,
      ¬Invocation.Heads Marker.standard.text "set".toList ((front ++ back).drop i))
    (behind : back.Follows) (across : (front ++ back).Follows) :
    substitute .standard (some "set".toList) evaluate 0
        (front ++ (assignment name value ++ back)) =
      substitute .standard (some "set".toList) evaluate 0
        (assignment name value ++ (front ++ back)) := by
  have skips := substitute_append_of_absent evaluate 0 fun i bounded =>
    Invocation.behind?_eq_none_iff.mpr (apart i bounded)
  have skipsWithout := substitute_append_of_absent evaluate 0 fun i bounded =>
    Invocation.behind?_eq_none_iff.mpr (without i bounded)
  calc substitute .standard (some "set".toList) evaluate 0
        (front ++ (assignment name value ++ back))
      = (front ++ ·) <$> substitute .standard (some "set".toList) evaluate (0 + front.length)
          (assignment name value ++ back) := skips
    _ = action >>= fun _ => (front ++ ·) <$>
          substitute .standard (some "set".toList) evaluate (0 + front.length) back := by
        rw [substitute_assignment silent first second behind]
        simp only [map_eq_pure_bind, bind_assoc]
    _ = action >>= fun _ => substitute .standard (some "set".toList) evaluate 0 (front ++ back) := by
        rw [skipsWithout]
    _ = substitute .standard (some "set".toList) evaluate 0
          (assignment name value ++ (front ++ back)) :=
        (substitute_assignment silent first second across 0).symm

end Documents

namespace Expander

/-- Moving an assignment to the head of a document changes neither what the document expands to or
fails with nor the memory it leaves, as long as no other assignment comes before it. -/
theorem expand_assignment_moved (expander : Expander) (name value front back : Text)
    (standard : expander.settings.marker = .standard)
    (known : expander.functions.get? "set".toList = some .set)
    (first : name.IsArgument) (second : value.IsArgument)
    (apart : ∀ i < front.length, ¬Invocation.Heads Marker.standard.text "set".toList
      ((front ++ assignment name value ++ back).drop i))
    (without : ∀ i < front.length,
      ¬Invocation.Heads Marker.standard.text "set".toList ((front ++ back).drop i))
    (behind : back.Follows) (across : (front ++ back).Follows) :
    expander.perform (.expand (front ++ assignment name value ++ back)) =
      expander.perform (.expand (assignment name value ++ front ++ back)) := by
  rw [List.append_assoc] at apart ⊢
  rw [List.append_assoc]
  have same : expander.expansion (front ++ (assignment name value ++ back)) =
      expander.expansion (assignment name value ++ (front ++ back)) := by
    simp only [expansion, expandIn]
    cases expander.settings.depthLimit.toNat with
    | zero => rfl
    | succ levels =>
        have silent := invoke_assignment expander.settings
          (expandAt expander.settings expander.functions levels) known [name, value]
        rw [← bind_assoc] at silent
        simp only [expandAt, expandPasses, standard]
        rw [substitute_assignment_append silent first second apart without behind across]
  rw [perform_expand, perform_expand, same]

/-- An assignment whose value has a comma in parentheses and one in quotes, behind a use of the
variable and before one more use and another assignment. -/
theorem expand_assignment_moved_late :
    ((new .plain .standard).perform (.expand ("¤w; ".toList ++
      assignment "w".toList "(1, ',')".toList ++ "¤w ¤set(v, 3)¤v.".toList))).1 =
        .ok (.text "(1, ','); (1, ',') 3.".toList) ∧
    ((new .plain .standard).perform (.expand (assignment "w".toList "(1, ',')".toList ++
      "¤w; ".toList ++ "¤w ¤set(v, 3)¤v.".toList))).1 =
        .ok (.text "(1, ','); (1, ',') 3.".toList) := by
  have moved := expand_assignment_moved (new .plain .standard) "w".toList "(1, ',')".toList
    "¤w; ".toList "¤w ¤set(v, 3)¤v.".toList rfl rfl (by decide +kernel) (by decide +kernel)
    (by decide +kernel) (by decide +kernel) ⟨⟨_, _, rfl, by decide⟩, by decide⟩
    ⟨⟨_, _, rfl, by decide⟩, by decide⟩
  have late : ((new .plain .standard).perform (.expand ("¤w; ".toList ++
      assignment "w".toList "(1, ',')".toList ++ "¤w ¤set(v, 3)¤v.".toList))).1 =
        .ok (.text "(1, ','); (1, ',') 3.".toList) := by
    decide +kernel
  exact ⟨late, moved ▸ late⟩

end Expander

end Stylesheet
