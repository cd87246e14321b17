import Mathlib.Logic.Relation
import Stylesheet.Proofs.Expander.Contract
import Stylesheet.Proofs.Expander.SideBySide

/-!
What expansion can do to the memory. Whatever a document holds and however its expansion ends, the
memory changes by a row of writes, of which there are five kinds; loops are written only where some
name is registered for them. What every write keeps is kept by every step of a session.
-/

namespace Stylesheet

/-! The generated names of loops -/

def loopCounter (number : Nat) : Text := "foreach_loop_counter_".toList ++ Text.ofNat number

def loopTemporary (number : Nat) : Text := "foreach_loop_temporary_".toList ++ Text.ofNat number

namespace Memory

/-- Numbers the two names of a loop and logs them. -/
def numberLoop (memory : Memory) : Memory :=
  memory.countName.countName.record
    (.looped (loopCounter (memory.generated + 1)) (loopTemporary (memory.generated + 2)))

/-- One write, which may be a loop where `looping` says so. -/
inductive Write (looping : Prop) : Memory → Memory → Prop where
  | assign (memory : Memory) (name value : Text) :
      Write looping memory (memory.setVariable name value)
  | define (memory : Memory) (definition : Definition) :
      Write looping memory (memory.define definition)
  | loop (allowed : looping) (memory : Memory) : Write looping memory memory.numberLoop
  | read (memory : Memory) (count : Nat) : Write looping memory (memory.record (.read count))
  | flatten (memory : Memory) (count : Nat) :
      Write looping memory (memory.record (.flattened count))

/-- A row of writes. -/
abbrev Written (looping : Prop) : Memory → Memory → Prop := Relation.ReflTransGen (Write looping)

variable {looping : Prop} {before after : Memory}

/-- What every write keeps is kept by a row of them. -/
theorem Written.keeps {fact : Memory → Prop}
    (kept : ∀ {first second : Memory}, Write looping first second → fact first → fact second)
    (written : Written looping before after) (holds : fact before) : fact after := by
  induction written with
  | refl => exact holds
  | tail _ write ih => exact kept write ih

theorem Written.weaken {wider : Prop} (implies : looping → wider)
    (written : Written looping before after) : Written wider before after := by
  refine Relation.ReflTransGen.mono ?_ _ _ written
  intro first second write
  cases write with
  | assign _ name value => exact .assign first name value
  | define _ definition => exact .define first definition
  | loop allowed => exact .loop (implies allowed) first
  | read _ count => exact .read first count
  | flatten _ count => exact .flatten first count

end Memory

def writing (looping : Prop) : Change where
  allows := Memory.Written looping
  refl _ := .refl
  trans := Relation.ReflTransGen.trans

/-- The computation changes the memory by writes only. -/
def Writes {α : Type} (looping : Prop) (action : Expansion α) : Prop :=
  Meets (writing looping) (fun _ => True) (fun _ _ => True) action

section Rules

variable {looping : Prop} {α β : Type}

theorem writes_pure (value : α) : Writes looping (pure value) :=
  meets_pure value fun _ _ => trivial

theorem writes_throw (error : Error) : Writes looping (throw error : Expansion α) :=
  meets_throw error

theorem writes_bind {first : Expansion α} {next : α → Expansion β} (head : Writes looping first)
    (tail : ∀ value, Writes looping (next value)) : Writes looping (first >>= next) :=
  meets_bind head tail

theorem writes_get_bind {next : Memory → Expansion α}
    (tail : ∀ memory, Writes looping (next memory)) : Writes looping (EStateM.get >>= next) :=
  meets_get_bind fun memory _ =>
    meets_weaken (tail memory) (fun _ _ => trivial) fun _ _ _ => trivial

theorem writes_modify {write : Memory → Memory}
    (one : ∀ memory, Memory.Write looping memory (write memory)) : Writes looping (modify write) :=
  meets_modify write (fun memory _ => .single (one memory)) fun _ _ => trivial

end Rules

/-! The functions -/

/-- A loop is written with the next two numbers, or the arguments are refused and nothing else
happens. -/
theorem runForeach_cases (arguments : List Text) (memory : Memory) :
    (∃ item array code, Function.runForeach arguments memory =
      .ok (foreachLoop (loopTemporary (memory.generated + 2)) (loopCounter (memory.generated + 1))
        item array code) memory.numberLoop) ∨
    ∃ expected got, Function.runForeach arguments memory =
      .error (.argumentCount "foreach".toList expected got) memory := by
  rcases arguments with _ | ⟨first, _ | ⟨second, more⟩⟩
  · exact .inr ⟨_, _, rfl⟩
  · exact .inr ⟨_, _, rfl⟩
  · cases shape : (List.intercalate [',', ' '] (first :: second :: more).dropLast).dropWhile
        (· != ';') with
    | nil =>
        right
        simp only [Function.runForeach, shape]
        exact ⟨_, _, rfl⟩
    | cons separator array =>
        left
        simp only [Function.runForeach, shape]
        exact ⟨_, _, _, rfl⟩

section Functions

variable {looping : Prop}

theorem writes_runForeach (allowed : looping) (arguments : List Text) :
    Writes looping (Function.runForeach arguments) := by
  intro memory _
  rcases runForeach_cases arguments memory with ⟨item, array, code, written⟩ | ⟨_, _, refused⟩
  · rw [written]
    exact ⟨.single (.loop allowed memory), trivial⟩
  · rw [refused]
    exact (writing looping).refl memory

theorem writes_readLiteral {α : Type} (literal : Except LiteralError α) :
    Writes looping (Function.readLiteral literal) := by
  cases literal with
  | ok value => exact writes_pure value
  | error error => exact writes_throw _

theorem writes_runAdjust (adjustment : Adjustment) (arguments : List Text) :
    Writes looping (Function.runAdjust adjustment arguments) := by
  rcases arguments with _ | ⟨color, _ | ⟨amount, _ | ⟨third, more⟩⟩⟩
  · exact writes_throw _
  · exact writes_throw _
  · apply writes_bind (writes_readLiteral _)
    intro base
    apply writes_bind (writes_readLiteral _)
    intro distance
    exact writes_pure _
  · exact writes_throw _

theorem writes_runGet (arguments : List Text) : Writes looping (Function.runGet arguments) := by
  rcases arguments with _ | ⟨name, _ | ⟨second, more⟩⟩
  · exact writes_throw _
  · exact writes_get_bind fun memory => writes_pure _
  · exact writes_throw _

theorem writes_runSet (arguments : List Text) : Writes looping (Function.runSet arguments) := by
  rcases arguments with _ | ⟨name, _ | ⟨value, _ | ⟨third, more⟩⟩⟩
  · exact writes_throw _
  · exact writes_throw _
  · apply writes_bind (writes_modify fun memory => .assign memory name value)
    exact fun _ => writes_pure _
  · exact writes_throw _

theorem writes_runDefine (arguments : List Text) :
    Writes looping (Function.runDefine arguments) := by
  rcases arguments with _ | ⟨name, _ | ⟨second, more⟩⟩
  · exact writes_throw _
  · exact writes_throw _
  · apply writes_bind (writes_modify fun memory => .define memory _)
    exact fun _ => writes_pure _

end Functions

/-! The evaluator -/

/-- Some name is registered for the function that writes loops. -/
def WritesLoops (functions : Table Function) : Prop := ∃ name, functions.get? name = some .foreach

/-- What a computation does alone is said of it next to any other. -/
def writesAlone (looping : Prop) : Simulation Expansion Expansion where
  Relates action _ := Writes looping action
  returned := writes_pure
  failed := writes_throw
  followed := writes_bind
  read tail := writes_get_bind fun memory => tail memory memory rfl rfl

theorem writes_call (settings : Settings) (expand : Scope → Text → Expansion Text)
    {functions : Table Function} {name : Text} {function : Function}
    (found : functions.get? name = some function) (other : function ≠ .loop)
    (arguments : List Text) :
    Writes (WritesLoops functions) (function.call settings expand arguments) := by
  cases function with
  | get => exact writes_runGet arguments
  | set => exact writes_runSet arguments
  | define => exact writes_runDefine arguments
  | loop => exact absurd rfl other
  | echo => exact writes_pure _
  | prefixed =>
      cases arguments with
      | nil => exact writes_throw _
      | cons first more => exact writes_pure _
  | adjust adjustment => exact writes_runAdjust adjustment arguments
  | foreach => exact writes_runForeach ⟨name, found⟩ arguments
  | host run =>
      simp only [Function.call]
      cases run arguments with
      | ok value => exact writes_pure value
      | error error => exact writes_throw error

theorem writes_expandAt (settings : Settings) (functions : Table Function) (levels : Nat)
    (scope : Scope) (text : Text) :
    Writes (WritesLoops functions) (expandAt settings functions levels scope text) := by
  induction levels generalizing scope text with
  | zero => exact writes_throw _
  | succ levels ih =>
      have inner : ∀ scope text, (writesAlone (WritesLoops functions)).Relates
          (expandAt settings functions levels scope text)
          (expandAt settings functions levels scope text) := ih
      exact (writesAlone _).expandPasses settings settings.depthLimit inner
        (writes_call settings _) scope text

namespace Expander

/-! The steps of a session -/

theorem writes_readNodes {looping : Prop} (text : Text) : Writes looping (readNodes text) := by
  unfold readNodes
  cases Node.read text with
  | error error => exact writes_throw _
  | ok nodes =>
      apply writes_bind (writes_modify fun memory => .read memory nodes.length)
      exact fun _ => writes_pure nodes

theorem writes_flatten {looping : Prop} (text : Text) : Writes looping (flatten text) := by
  apply writes_bind (writes_readNodes text)
  intro nodes
  apply writes_bind (writes_modify fun memory => .flatten memory _)
  exact fun _ => writes_pure _

theorem writes_answer (expander : Expander) (step : Step) :
    Writes (WritesLoops expander.functions) (expander.answer expander.expandIn step) := by
  have inner : ∀ scope text, (writesAlone (WritesLoops expander.functions)).Relates
      (expander.expandIn scope text) (expander.expandIn scope text) :=
    writes_expandAt expander.settings expander.functions expander.settings.depthLimit.toNat
  refine (writesAlone _).answer expander inner (writes_call _ _) writes_flatten ?_ step
  exact fun name value => writes_modify fun memory => .assign memory name value

theorem written_run {looping : Prop} {α : Type} {action : Expansion α}
    (writes : Writes looping action) (expander : Expander) :
    Memory.Written looping expander.memory (expander.run action).2.memory := by
  have ends := writes expander.memory trivial
  cases ended : action expander.memory with
  | ok value later =>
      rw [ended] at ends
      simp only [run, EStateM.run, ended]
      exact ends.1
  | error error later =>
      rw [ended] at ends
      simp only [run, EStateM.run, ended]
      exact ends

/-- However a step ends, it has changed the memory by writes only. -/
theorem written_perform (expander : Expander) (step : Step) :
    Memory.Written (WritesLoops expander.functions) expander.memory
      (expander.perform step).2.memory :=
  written_run (expander.writes_answer step)
    { expander with functions := step.register expander.functions }

theorem run_eq {α : Type} (expander : Expander) (action : Expansion α) :
    (expander.run action).2 = { expander with memory := (expander.run action).2.memory } := by
  unfold run
  cases EStateM.run action expander.memory <;> rfl

/-- What a step leaves of the expander besides the memory. -/
theorem perform_eq (expander : Expander) (step : Step) :
    (expander.perform step).2 =
      ⟨expander.settings, step.register expander.functions,
        (expander.perform step).2.memory⟩ :=
  run_eq { expander with functions := step.register expander.functions } _

/-- The expander after a row of steps. -/
def after (expander : Expander) (steps : List Step) : Expander :=
  steps.foldl (fun current step => (current.perform step).2) expander

theorem after_append (expander : Expander) (earlier later : List Step) :
    expander.after (earlier ++ later) = (expander.after earlier).after later :=
  List.foldl_append

/-- The last step of a session is performed by the expander that the steps before it leave. -/
theorem getLast?_session (expander : Expander) (earlier : List Step) (step : Step) :
    (expander.session (earlier ++ [step])).getLast? =
      some ((expander.after earlier).perform step) := by
  induction earlier generalizing expander with
  | nil => rfl
  | cons first earlier ih =>
      have later := ih (expander.perform first).2
      simp only [List.cons_append, session, after, List.foldl_cons]
      rw [List.getLast?_cons, later]
      rfl

theorem written_after (expander : Expander) (steps : List Step) :
    Memory.Written True expander.memory (expander.after steps).memory := by
  induction steps generalizing expander with
  | nil => exact .refl
  | cons step steps ih =>
      have first := (expander.written_perform step).weaken fun _ => trivial
      exact first.trans (ih (expander.perform step).2)

end Expander

end Stylesheet
