import Stylesheet.Expander.Basic

/-!
Contracts of computations on the memory. A contract says what holds of the memory before, how the
memory may change, and what holds of the value and the memory afterwards. A computation that fails
has changed the memory too, so the way it may change is part of the contract in both endings.
-/

namespace Stylesheet

/-- A way in which the memory may change. No change is one, and changes can follow each other. -/
structure Change where
  allows : Memory → Memory → Prop
  refl : ∀ memory, allows memory memory
  trans : ∀ {first second third}, allows first second → allows second third → allows first third

/-- Facts about the memory that no change takes back. -/
def Change.Keeps (change : Change) (fact : Memory → Prop) : Prop :=
  ∀ {first second}, change.allows first second → fact first → fact second

/-- From every memory that satisfies `before`, the computation changes the memory as allowed, and
the value it returns, if it does, satisfies `after`. -/
def Meets {α : Type} (change : Change) (before : Memory → Prop) (after : α → Memory → Prop)
    (action : Expansion α) : Prop :=
  ∀ memory, before memory →
    match action memory with
    | .ok value later => change.allows memory later ∧ after value later
    | .error _ later => change.allows memory later

section Rules

variable {α β : Type} {change : Change} {before : Memory → Prop}

theorem meets_pure {after : α → Memory → Prop} (value : α)
    (holds : ∀ memory, before memory → after value memory) :
    Meets change before after (pure value) :=
  fun memory valid => ⟨change.refl memory, holds memory valid⟩

theorem meets_throw {after : α → Memory → Prop} (error : Error) :
    Meets change before after (throw error) :=
  fun memory _ => change.refl memory

/-- What is read is the memory as it stands. -/
theorem meets_get_bind {after : β → Memory → Prop} {next : Memory → Expansion β}
    (tail : ∀ memory, before memory → Meets change (· = memory) after (next memory)) :
    Meets change before after (EStateM.get >>= next) :=
  fun memory valid => tail memory valid memory rfl

theorem meets_modify {after : PUnit → Memory → Prop} (write : Memory → Memory)
    (allowed : ∀ memory, before memory → change.allows memory (write memory))
    (holds : ∀ memory, before memory → after ⟨⟩ (write memory)) :
    Meets change before after (modify write) :=
  fun memory valid => ⟨allowed memory valid, holds memory valid⟩

theorem meets_bind {middle : α → Memory → Prop} {after : β → Memory → Prop}
    {first : Expansion α} {next : α → Expansion β} (head : Meets change before middle first)
    (tail : ∀ value, Meets change (middle value) after (next value)) :
    Meets change before after (first >>= next) := by
  intro memory valid
  have begun := head memory valid
  simp only [bind, EStateM.bind]
  cases ended : first memory with
  | error error later => simpa [ended] using begun
  | ok value later =>
      rw [ended] at begun
      have continued := tail value later begun.2
      simp only
      cases finished : next value later with
      | error error last =>
          rw [finished] at continued
          exact change.trans begun.1 continued
      | ok result last =>
          rw [finished] at continued
          exact ⟨change.trans begun.1 continued.1, continued.2⟩

theorem meets_weaken {wider : Memory → Prop} {stronger after : α → Memory → Prop}
    {action : Expansion α} (meets : Meets change wider stronger action)
    (narrows : ∀ memory, before memory → wider memory)
    (implies : ∀ value memory, stronger value memory → after value memory) :
    Meets change before after action := by
  intro memory valid
  have ends := meets memory (narrows memory valid)
  cases ended : action memory with
  | error error later => simpa [ended] using ends
  | ok value later =>
      rw [ended] at ends
      exact ⟨ends.1, implies value later ends.2⟩

/-- A fact that is not about the memory can be assumed for good. -/
theorem meets_given {after : α → Memory → Prop} {fact : Prop} {action : Expansion α}
    (meets : fact → Meets change before after action) :
    Meets change (fun memory => before memory ∧ fact) after action :=
  fun memory valid => meets valid.2 memory valid.1

/-- What no change takes back still holds afterwards. -/
theorem meets_frame {after : α → Memory → Prop} {fact : Memory → Prop} {action : Expansion α}
    (kept : change.Keeps fact) (meets : Meets change before after action) :
    Meets change (fun memory => before memory ∧ fact memory)
      (fun value memory => after value memory ∧ fact memory) action := by
  intro memory valid
  have ends := meets memory valid.1
  cases ended : action memory with
  | error error later => simpa [ended] using ends
  | ok value later =>
      rw [ended] at ends
      exact ⟨ends.1, ends.2, kept ends.1 valid.2⟩

/-- A row of computations: what holds of each value holds of all of them in the end. -/
theorem meets_mapM {after : β → Memory → Prop} {action : α → Expansion β} (items : List α)
    (stable : change.Keeps before) (kept : ∀ value, change.Keeps (after value))
    (each : ∀ item ∈ items, Meets change before after (action item)) :
    Meets change before (fun values memory => ∀ value ∈ values, after value memory)
      (items.mapM action) := by
  induction items with
  | nil =>
      rw [List.mapM_nil]
      exact meets_pure [] fun memory _ value member => absurd member List.not_mem_nil
  | cons item items ih =>
      rw [List.mapM_cons]
      have first := each item List.mem_cons_self
      have others := ih fun other member => each other (List.mem_cons_of_mem item member)
      have started : Meets change before
          (fun value memory => after value memory ∧ before memory) (action item) :=
        meets_weaken (meets_frame stable first) (fun _ valid => ⟨valid, valid⟩) fun _ _ ends => ends
      apply meets_bind started
      intro value
      apply meets_bind (meets_weaken (meets_frame (kept value) others)
        (fun _ valid => ⟨valid.2, valid.1⟩) fun _ _ ends => ends)
      intro values
      apply meets_pure
      intro memory ends found member
      rcases List.mem_cons.mp member with same | later
      · exact same ▸ ends.2
      · exact ends.1 found later

end Rules

/-! What two computations in a row come to -/

section Sequence

variable {α β : Type} {first : Expansion α} {next : α → Expansion β} {memory later : Memory}

theorem bind_of_ok {value : α} (returned : first memory = .ok value later) :
    (first >>= next) memory = next value later := by
  simp only [bind, EStateM.bind, returned]

theorem lift_self (action : Expansion α) : (liftM action : Expansion α) = action := rfl

theorem get_bind (next : Memory → Expansion β) (memory : Memory) :
    (liftM currentMemory >>= next) memory = next memory memory := rfl

theorem bind_of_error {error : Error} (stopped : first memory = .error error later) :
    (first >>= next) memory = .error error later := by
  simp only [bind, EStateM.bind, stopped]

end Sequence

/-! The same on an expander, which keeps the memory that is left -/

namespace Expander

section Runs

variable {α β : Type} {expander later : Expander} {first : Expansion α} {next : α → Expansion β}

theorem exists_memory_of_run {outcome : Except Error α} (ran : expander.run first = (outcome, later)) :
    ∃ memory, later = { expander with memory } := by
  unfold run at ran
  split at ran
  · next value memory _ => exact ⟨memory, (Prod.mk.inj ran).2.symm⟩
  · next error memory _ => exact ⟨memory, (Prod.mk.inj ran).2.symm⟩

theorem run_bind_of_ok {value : α} (returned : expander.run first = (.ok value, later)) :
    expander.run (first >>= next) = later.run (next value) := by
  unfold run EStateM.run at returned
  cases ended : first expander.memory with
  | error error memory =>
      rw [ended] at returned
      cases (Prod.mk.inj returned).1
  | ok found memory =>
      rw [ended] at returned
      obtain ⟨same, rfl⟩ := Prod.mk.inj returned
      cases same
      simp only [run, EStateM.run, bind_of_ok ended]

theorem run_bind_of_error {error : Error} (stopped : expander.run first = (.error error, later)) :
    expander.run (first >>= next) = (.error error, later) := by
  unfold run EStateM.run at stopped
  cases ended : first expander.memory with
  | error found memory =>
      rw [ended] at stopped
      obtain ⟨same, rfl⟩ := Prod.mk.inj stopped
      cases same
      simp only [run, EStateM.run, bind_of_error ended]
  | ok value memory =>
      rw [ended] at stopped
      cases (Prod.mk.inj stopped).1

end Runs

end Expander

/-! The step that expands a document runs the expansion and keeps the memory it leaves -/

theorem perform_expand (expander : Expander) (source : Text) :
    expander.perform (.expand source) = expander.run (.text <$> expander.expansion source) := rfl

theorem perform_expand_of_ok {expander : Expander} {source text : Text} {memory : Memory}
    (returned : expander.expansion source expander.memory = .ok text memory) :
    expander.perform (.expand source) = (.ok (.text text), { expander with memory }) := by
  simp only [perform_expand, Expander.run, EStateM.run, Functor.map, EStateM.map, returned]

theorem perform_expand_of_error {expander : Expander} {source : Text} {error : Error}
    {memory : Memory}
    (stopped : expander.expansion source expander.memory = .error error memory) :
    expander.perform (.expand source) = (.error error, { expander with memory }) := by
  simp only [perform_expand, Expander.run, EStateM.run, Functor.map, EStateM.map, stopped]

/-- A text that expansion returns as it is, on every level but the last, is a document that does
not change and changes nothing. -/
theorem perform_expand_of_fixed {expander : Expander} {text : Text}
    (room : 0 < expander.settings.depthLimit)
    (fixed : ∀ levels,
      expandAt expander.settings expander.functions (levels + 1) [] text = pure text) :
    expander.perform (.expand text) = (.ok (.text text), expander) := by
  obtain ⟨levels, enough⟩ : ∃ levels, expander.settings.depthLimit.toNat = levels + 1 :=
    ⟨expander.settings.depthLimit.toNat - 1, by omega⟩
  have returned : expander.expansion text = pure text := by
    rw [Expander.expansion, Expander.expandIn, enough]
    exact fixed levels
  exact perform_expand_of_ok (by rw [returned]; rfl)

-- Outcomes of runs can be compared.
instance decidableEqOutcome {ε α : Type} [DecidableEq ε] [DecidableEq α] : DecidableEq (Except ε α)
  | .ok first, .ok second => decidable_of_iff (first = second) (by simp)
  | .error first, .error second => decidable_of_iff (first = second) (by simp)
  | .ok _, .error _ => .isFalse (by simp)
  | .error _, .ok _ => .isFalse (by simp)

end Stylesheet
