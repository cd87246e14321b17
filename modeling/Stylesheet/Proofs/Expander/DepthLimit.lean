import Stylesheet.Proofs.Expander.Contract
import Stylesheet.Proofs.Expander.SideBySide

/-!
The limit on the depth of expansion decides only whether expansion fails for depth. Two runs from
the same memory that differ in nothing but the limit go side by side: the one with the lower limit
may stop early, and where it does not, the other one does the same and leaves the same memory.
-/

namespace Stylesheet

/-- The computation `deep` ends as `shallow` does and leaves the same memory, wherever `shallow`
does not run out of levels. -/
def Deepens {α : Type} (shallow deep : Expansion α) : Prop :=
  ∀ memory, deep memory = shallow memory ∨
    ∃ limit later, shallow memory = .error (.tooDeep limit) later

section Computations

variable {α β : Type}

theorem deepens_refl (action : Expansion α) : Deepens action action :=
  fun _ => Or.inl rfl

theorem deepens_bind {shallow deep : Expansion α} {next follow : α → Expansion β}
    (first : Deepens shallow deep) (rest : ∀ value, Deepens (next value) (follow value)) :
    Deepens (shallow >>= next) (deep >>= follow) := by
  intro memory
  simp only [bind, EStateM.bind]
  rcases first memory with same | ⟨limit, later, stopped⟩
  · rw [same]
    cases shallow memory with
    | ok value later => exact rest value later
    | error error later => exact Or.inl rfl
  · right
    exact ⟨limit, later, by rw [stopped]⟩

end Computations

def deepening : Simulation Expansion Expansion where
  Relates := Deepens
  returned _ := deepens_refl _
  failed _ := deepens_refl _
  followed := deepens_bind
  read tail := deepens_bind (deepens_refl _) fun memory => tail memory memory rfl rfl

/-- More levels change nothing but an expansion that runs out of them. -/
theorem deepens_expandAt (settings : Settings) (limit : Int) (functions : Table Function)
    (few many : Nat) (bounded : few ≤ many) (scope : Scope) (text : Text) :
    Deepens (expandAt settings functions few scope text)
      (expandAt { settings with depthLimit := limit } functions many scope text) := by
  induction few generalizing many scope text with
  | zero => exact fun memory => Or.inr ⟨settings.depthLimit, memory, rfl⟩
  | succ few ih =>
      obtain ⟨more, rfl⟩ : ∃ more, many = more + 1 := ⟨many - 1, by omega⟩
      have inner := ih more (by omega)
      apply deepening.expandPasses settings limit inner _ scope text
      intro name function _ other arguments
      cases function with
      | loop => exact absurd rfl other
      -- No other function expands anything, and none reads the limit.
      | _ => exact deepens_refl _

namespace Expander

def withLimit (expander : Expander) (limit : Int) : Expander :=
  { expander with settings := { expander.settings with depthLimit := limit } }

/-- A run that does not fail for depth answers the same under every higher limit, and leaves the
same memory. -/
theorem expand_withLimit_of_le (expander : Expander) (source : Text) {lower higher : Int}
    (bounded : lower ≤ higher)
    (ended : ∀ limit,
      ((expander.withLimit lower).perform (.expand source)).1 ≠ .error (.tooDeep limit)) :
    (expander.withLimit higher).perform (.expand source) =
      (((expander.withLimit lower).perform (.expand source)).1,
        ((expander.withLimit lower).perform (.expand source)).2.withLimit higher) := by
  have levels : lower.toNat ≤ higher.toNat := by omega
  have deepens := deepens_expandAt { expander.settings with depthLimit := lower } higher
    expander.functions lower.toNat higher.toNat levels [] source expander.memory
  rcases deepens with same | ⟨limit, later, stopped⟩
  · cases outcome : expandAt { expander.settings with depthLimit := lower } expander.functions
        lower.toNat [] source expander.memory with
    | ok text later =>
        have low : (expander.withLimit lower).perform (.expand source) =
            (.ok (.text text), { expander.withLimit lower with memory := later }) :=
          perform_expand_of_ok outcome
        have high : (expander.withLimit higher).perform (.expand source) =
            (.ok (.text text), { expander.withLimit higher with memory := later }) :=
          perform_expand_of_ok (same.trans outcome)
        rw [low, high]
        rfl
    | error error later =>
        have low : (expander.withLimit lower).perform (.expand source) =
            (.error error, { expander.withLimit lower with memory := later }) :=
          perform_expand_of_error outcome
        have high : (expander.withLimit higher).perform (.expand source) =
            (.error error, { expander.withLimit higher with memory := later }) :=
          perform_expand_of_error (same.trans outcome)
        rw [low, high]
        rfl
  · have low : (expander.withLimit lower).perform (.expand source) =
        (.error (.tooDeep limit), { expander.withLimit lower with memory := later }) :=
      perform_expand_of_error stopped
    exact absurd (congrArg Prod.fst low) (ended limit)

/-- A macro whose body calls a function on its parameter needs three levels. -/
theorem expand_withLimit_of_le_nested :
    (((new .script .standard).withLimit 3).perform
      (.expand "¤define(m, a, ¤echo(¤a))¤m(1);".toList)).1 = .ok (.text "1;".toList) ∧
    (((new .script .standard).withLimit 7).perform
      (.expand "¤define(m, a, ¤echo(¤a))¤m(1);".toList)).1 = .ok (.text "1;".toList) := by
  have shallow : (((new .script .standard).withLimit 3).perform
      (.expand "¤define(m, a, ¤echo(¤a))¤m(1);".toList)).1 = .ok (.text "1;".toList) := by
    decide +kernel
  have ended : ∀ limit, (((new .script .standard).withLimit 3).perform
      (.expand "¤define(m, a, ¤echo(¤a))¤m(1);".toList)).1 ≠ .error (.tooDeep limit) := by
    intro limit stopped
    rw [shallow] at stopped
    cases stopped
  have deep := expand_withLimit_of_le (new .script .standard)
    "¤define(m, a, ¤echo(¤a))¤m(1);".toList (show (3 : Int) ≤ 7 by decide) ended
  rw [deep]
  exact ⟨shallow, shallow⟩

end Expander

end Stylesheet
