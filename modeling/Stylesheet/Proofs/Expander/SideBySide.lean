import Stylesheet.Expander.Basic

/-!
Two evaluations side by side. They may be computations of two kinds, as long as those on the memory
can be part of both. A relation between computations that holds of equal values and errors, goes
through sequences and cannot tell memories with the same tables apart is a simulation: it holds of
two evaluations if it holds of the texts they expand one level down and of the functions they call.
-/

namespace Stylesheet

structure Simulation (m n : Type → Type) [Monad m] [MonadLiftT Expansion m] [Monad n]
    [MonadLiftT Expansion n] where
  Relates {α : Type} : m α → n α → Prop
  returned {α : Type} (value : α) : Relates (pure value) (pure value)
  failed (error : Error) :
    Relates (liftM (throw error : Expansion Text)) (liftM (throw error : Expansion Text))
  followed {α β : Type} {first : m α} {other : n α} {next : α → m β} {follow : α → n β}
    (head : Relates first other) (tail : ∀ value, Relates (next value) (follow value)) :
    Relates (first >>= next) (other >>= follow)
  read {β : Type} {next : Memory → m β} {follow : Memory → n β}
    (tail : ∀ one two : Memory, one.globals = two.globals → one.definitions = two.definitions →
      Relates (next one) (follow two)) :
    Relates (liftM currentMemory >>= next) (liftM currentMemory >>= follow)

namespace Simulation

section

variable {m n : Type → Type} [Monad m] [MonadLiftT Expansion m] [Monad n] [MonadLiftT Expansion n]
  (simulation : Simulation m n)

theorem substitute (marker : Marker) (name : Option Text) {first : Invocation → m Text}
    {other : Invocation → n Text}
    (values : ∀ invocation, simulation.Relates (first invocation) (other invocation))
    (written : Nat) (text : Text) :
    simulation.Relates (Stylesheet.substitute marker name first written text)
      (Stylesheet.substitute marker name other written text) := by
  induction written, text using Stylesheet.substitute.induct marker name with
  | case1 written text absent =>
      rw [substitute_of_absent _ _ absent, substitute_of_absent _ _ absent]
      exact simulation.returned _
  | case2 written text before behind found start position error read =>
      rw [substitute_of_found _ _ found, substitute_of_found _ _ found, read]
      exact simulation.failed _
  | case3 written text before behind found start position read ih =>
      rw [substitute_of_found _ _ found, substitute_of_found _ _ found, read]
      exact simulation.followed ih fun later => simulation.returned _
  | case4 written text before behind found start position invocation rest read ih =>
      rw [substitute_of_found _ _ found, substitute_of_found _ _ found, read]
      apply simulation.followed (values invocation)
      intro replacement
      exact simulation.followed (ih replacement) fun later => simulation.returned _

variable [LawfulMonad m] [LawfulMonad n]

theorem mapped {α β : Type} (f : α → β) {first : m α} {other : n α}
    (head : simulation.Relates first other) :
    simulation.Relates (f <$> first) (f <$> other) := by
  rw [map_eq_pure_bind, map_eq_pure_bind]
  exact simulation.followed head fun value => simulation.returned _

theorem mapM {α β : Type} {left : α → m β} {right : α → n β} (items : List α)
    (each : ∀ item, simulation.Relates (left item) (right item)) :
    simulation.Relates (items.mapM left) (items.mapM right) := by
  induction items with
  | nil => exact simulation.returned []
  | cons item items ih =>
      rw [List.mapM_cons, List.mapM_cons]
      apply simulation.followed (each item)
      intro value
      exact simulation.followed ih fun values => simulation.returned _

end

/-!
The evaluator. The settings of the two sides have all but the limit in common; `left` and `right`
expand the texts one level down.
-/

section Evaluator

variable {m n : Type → Type} [Monad m] [MonadLiftT Expansion m] [Monad n] [MonadLiftT Expansion n]
  [LawfulMonad m] [LawfulMonad n] (simulation : Simulation m n) (settings : Settings) (limit : Int)
  {functions : Table Function} {left : Scope → Text → m Text} {right : Scope → Text → n Text}
  (inner : ∀ scope text, simulation.Relates (left scope text) (right scope text))

include inner

theorem runLoop (arguments : List Text) :
    simulation.Relates (Function.runLoop left arguments) (Function.runLoop right arguments) := by
  rcases arguments with _ | ⟨name, _ | ⟨second, more⟩⟩
  · exact simulation.failed _
  · exact simulation.failed _
  · apply simulation.read
    intro one two _ definitions
    rw [definitions]
    cases two.definitions.get? name with
    | none => exact simulation.failed _
    | some definition =>
        apply simulation.followed (simulation.mapM _ fun row => inner _ _)
        exact fun texts => simulation.returned _

theorem prepare (scope : Scope) (invocation : Invocation) :
    simulation.Relates (Stylesheet.prepare settings left scope invocation)
      (Stylesheet.prepare { settings with depthLimit := limit } right scope invocation) := by
  have same : { settings with depthLimit := limit }.isRaw invocation.name =
      settings.isRaw invocation.name := rfl
  simp only [Stylesheet.prepare, same]
  cases settings.isRaw invocation.name with
  | true => exact simulation.returned _
  | false => exact simulation.mapM _ (inner scope)

omit [LawfulMonad m] [LawfulMonad n] in
theorem settle (scope : Scope) (resolved : Resolved) :
    simulation.Relates (Stylesheet.settle settings left scope resolved)
      (Stylesheet.settle { settings with depthLimit := limit } right scope resolved) := by
  simp only [Stylesheet.settle]
  cases !resolved.settled && Text.holds settings.marker.text resolved.text with
  | true => exact inner _ _
  | false => exact simulation.returned _

-- Of the functions only the one that calls macros expands anything.
variable (plain : ∀ {name function}, functions.get? name = some function → function ≠ .loop →
  ∀ arguments, simulation.Relates (function.call settings left arguments)
    (function.call { settings with depthLimit := limit } right arguments))

include plain

theorem call {name : Text} {function : Function} (found : functions.get? name = some function)
    (arguments : List Text) :
    simulation.Relates (function.call settings left arguments)
      (function.call { settings with depthLimit := limit } right arguments) := by
  by_cases looping : function = .loop
  · rw [looping]
    exact simulation.runLoop inner arguments
  · exact plain found looping arguments

theorem resolve (scope : Scope) (name : Text) (arguments : List Text) :
    simulation.Relates (Stylesheet.resolve settings functions left scope name arguments)
      (Stylesheet.resolve { settings with depthLimit := limit } functions right scope name
        arguments) := by
  unfold Stylesheet.resolve
  cases scope.get? name with
  | some value => exact simulation.returned _
  | none =>
      cases found : functions.get? name with
      | some function =>
          apply simulation.followed (simulation.call settings limit inner plain found arguments)
          exact fun text => simulation.returned _
      | none =>
          apply simulation.read
          intro one two globals definitions
          rw [globals, definitions]
          cases two.globals.get? name with
          | some value => exact simulation.returned _
          | none =>
              cases two.definitions.get? name with
              | some definition =>
                  exact simulation.followed (inner _ _) fun text => simulation.returned _
              | none => exact simulation.returned _

theorem invoke (scope : Scope) (invocation : Invocation) :
    simulation.Relates (Stylesheet.invoke settings functions left scope invocation)
      (Stylesheet.invoke { settings with depthLimit := limit } functions right scope
        invocation) := by
  apply simulation.followed (simulation.prepare settings limit inner scope invocation)
  intro arguments
  apply simulation.followed (simulation.resolve settings limit inner plain scope _ arguments)
  intro resolved
  apply simulation.followed (simulation.settle settings limit inner scope resolved)
  exact fun value => simulation.returned _

theorem expandPasses (scope : Scope) (text : Text) :
    simulation.Relates (Stylesheet.expandPasses settings functions left scope text)
      (Stylesheet.expandPasses { settings with depthLimit := limit } functions right scope
        text) := by
  have values := simulation.invoke settings limit inner plain scope
  apply simulation.followed (simulation.substitute settings.marker _ values 0 text)
  intro assigned
  exact simulation.substitute settings.marker _ values 0 assigned

end Evaluator

/-- A simulation holds of what a step answers on two sides, if it holds of the texts they expand, of
the functions they call, and of what else a step can write. -/
theorem answer {m n : Type → Type} [Monad m] [MonadLiftT Expansion m] [Monad n]
    [MonadLiftT Expansion n] [LawfulMonad m] [LawfulMonad n] (simulation : Simulation m n)
    (expander : Expander) {left : Scope → Text → m Text} {right : Scope → Text → n Text}
    (inner : ∀ scope text, simulation.Relates (left scope text) (right scope text))
    (plain : ∀ {name function}, expander.functions.get? name = some function →
      function ≠ .loop → ∀ arguments,
        simulation.Relates (function.call expander.settings left arguments)
          (function.call expander.settings right arguments))
    (flattens : ∀ text, simulation.Relates (liftM (Expander.flatten text))
      (liftM (Expander.flatten text)))
    (assigns : ∀ name value,
      simulation.Relates (liftM (modify (Memory.setVariable name value) : Expansion Unit))
        (liftM (modify (Memory.setVariable name value) : Expansion Unit)))
    (step : Expander.Step) :
    simulation.Relates (expander.answer left step) (expander.answer right step) := by
  cases step with
  | expand source => exact simulation.mapped _ (inner [] source)
  | expandAndFlatten source =>
      exact simulation.mapped _ (simulation.followed (inner [] source) flattens)
  | setVariable name value =>
      exact simulation.followed (assigns name value) fun _ => simulation.returned _
  | setFunction name function => exact simulation.returned _
  | expandBody definition arguments => exact simulation.mapped _ (inner _ _)
  | call name arguments =>
      simp only [Expander.answer]
      cases found : expander.functions.get? name with
      | none => exact simulation.returned _
      | some function =>
          exact simulation.mapped _ (simulation.call expander.settings
            expander.settings.depthLimit inner plain found arguments)
  | functionNames => exact simulation.returned _

end Simulation

end Stylesheet
