import Stylesheet.Proofs.Expander.Counter
import Stylesheet.Proofs.Expander.Writes

/-!
What a session keeps in order. A session runs here with the counter of the expansions that are under
way as part of its state, and every step answers what it answers without one. After a step the
counter is back at zero, whether the step failed or not, and nothing else of the step is left than
what it wrote: the next step does what it would do on a new expander that has been given the same
tables and the same number of generated names.
-/

namespace Stylesheet

/-! Tables and memories only grow -/

def Table.names {Value : Type} (table : Table Value) : List Text := table.map (·.1)

theorem Table.names_subset_put {Value : Type} (table : Table Value) (name : Text) (value : Value) :
    table.names ⊆ Table.names (put name value table) := by
  induction table with
  | nil => exact List.nil_subset _
  | cons entry table ih =>
      by_cases same : entry.1 = name
      · simp [put, names, same]
      · simp only [put, same, if_false]
        exact List.cons_subset_cons entry.1 ih

namespace Memory

/-- Every macro is registered under the name of its own definition. -/
def Registered (memory : Memory) : Prop :=
  ∀ entry ∈ memory.definitions, entry.2.name = entry.1

/-- No variable and no macro is lost. -/
structure Outgrows (before after : Memory) : Prop where
  globals : before.globals.names ⊆ after.globals.names
  definitions : before.definitions.names ⊆ after.definitions.names

theorem registered_of_write {looping : Prop} {before after : Memory}
    (write : Write looping before after) (registered : before.Registered) : after.Registered := by
  cases write with
  | define _ definition =>
      intro entry member
      rcases Table.mem_put member with new | old
      · rw [new]
      · exact registered entry old
  | _ => exact registered

theorem outgrows_of_write {looping : Prop} {start before after : Memory}
    (write : Write looping before after) (grown : Outgrows start before) :
    Outgrows start after := by
  cases write with
  | assign _ name value =>
      have kept := List.Subset.trans grown.globals (Table.names_subset_put _ name value)
      exact ⟨kept, grown.definitions⟩
  | define _ definition =>
      have kept := List.Subset.trans grown.definitions
        (Table.names_subset_put _ definition.name definition)
      exact ⟨grown.globals, kept⟩
  | _ => exact ⟨grown.globals, grown.definitions⟩

end Memory

namespace Expander

theorem settings_after (expander : Expander) (steps : List Step) :
    (expander.after steps).settings = expander.settings := by
  induction steps generalizing expander with
  | nil => rfl
  | cons step steps ih =>
      have first := congrArg Expander.settings (expander.perform_eq step)
      exact (ih (expander.perform step).2).trans first

theorem registered_after (dialect : Dialect) (settings : Settings) (steps : List Step) :
    ((new dialect settings).after steps).memory.Registered := by
  have empty : (new dialect settings).memory.Registered :=
    fun entry member => absurd member List.not_mem_nil
  exact (written_after _ steps).keeps Memory.registered_of_write empty

theorem outgrows_perform (expander : Expander) (step : Step) :
    Memory.Outgrows expander.memory (expander.perform step).2.memory := by
  have start : Memory.Outgrows expander.memory expander.memory :=
    ⟨List.Subset.refl _, List.Subset.refl _⟩
  exact (expander.written_perform step).keeps Memory.outgrows_of_write start

/-- A new expander with the tables and the number of generated names of an old one. -/
def renewed (dialect : Dialect) (settings : Settings) (old : Expander) : Expander :=
  { new dialect settings with
    functions := old.functions
    memory := { Memory.empty with
      globals := old.memory.globals
      definitions := old.memory.definitions
      generated := old.memory.generated } }

end Expander

/-! Sessions that count -/

/-- An expander, and how many of its expansions are under way. -/
structure Tracked where
  expander : Expander
  depth : Int

namespace Tracked

open Expander (Step Answer renewed)

def new (dialect : Dialect) (settings : Settings) : Tracked := ⟨.new dialect settings, 0⟩

def run {α : Type} (tracked : Tracked) (action : Counting α) : Except Error α × Tracked :=
  match EStateM.run action ⟨tracked.expander.memory, tracked.depth⟩ with
  | .ok value state => (.ok value, ⟨{ tracked.expander with memory := state.memory }, state.depth⟩)
  | .error error state =>
    (.error error, ⟨{ tracked.expander with memory := state.memory }, state.depth⟩)

def expandIn (tracked : Tracked) : Scope → Text → Counting Text :=
  Counting.expandAt tracked.expander.settings tracked.expander.functions
    ((tracked.expander.settings.depthLimit - tracked.depth).toNat + 1)

def perform (tracked : Tracked) (step : Step) : Except Error Answer × Tracked :=
  { tracked with expander.functions := step.register tracked.expander.functions }.run
    (tracked.expander.answer tracked.expandIn step)

/-- What a row of steps leaves. -/
def after (tracked : Tracked) (steps : List Step) : Tracked :=
  steps.foldl (fun current step => (current.perform step).2) tracked

/-- The same with earlier events in front of those in the log. -/
def withEarlier (early : List Event) (tracked : Tracked) : Tracked :=
  { tracked with expander.memory := tracked.expander.memory.withEarlier early }

/-! Counting changes no answer -/

section Runs

variable {α : Type} {early : List Event} {depth : Int}

theorem run_of_mirrors {counted : Counting α} {plain : Expansion α} (expander : Expander)
    (mirrors : Mirrors (Counting.seen early depth) counted plain) :
    (withEarlier early ⟨expander, depth⟩).run counted =
      ((expander.run plain).1, withEarlier early ⟨(expander.run plain).2, depth⟩) := by
  cases ended : plain expander.memory with
  | ok value later =>
      have same : counted ⟨expander.memory.withEarlier early, depth⟩ =
          .ok value ⟨later.withEarlier early, depth⟩ :=
        (mirrors expander.memory).trans (congrArg (embedded (Counting.seen early depth)) ended)
      simp only [run, withEarlier, Expander.run, EStateM.run, ended, same]
  | error error later =>
      have same : counted ⟨expander.memory.withEarlier early, depth⟩ =
          .error error ⟨later.withEarlier early, depth⟩ :=
        (mirrors expander.memory).trans (congrArg (embedded (Counting.seen early depth)) ended)
      simp only [run, withEarlier, Expander.run, EStateM.run, ended, same]

end Runs

section Steps

variable (early : List Event) (expander : Expander)

theorem mirrors_expandIn (scope : Scope) (text : Text) :
    Mirrors (Counting.seen early 0) ((withEarlier early ⟨expander, 0⟩).expandIn scope text)
      (expander.expandIn scope text) := by
  have levels : expander.expandIn scope text = expandAt expander.settings expander.functions
      (expander.settings.depthLimit - 0).toNat scope text := by
    rw [Int.sub_zero]
    rfl
  rw [levels]
  exact Counting.mirrors_expandAt expander.settings expander.functions early 0 _
    (Nat.lt_succ_self _) scope text

theorem ignoresLog_readNodes (text : Text) : IgnoresLog (Expander.readNodes text) := by
  intro early
  unfold Expander.readNodes
  cases Node.read text with
  | error error => exact mirrors_throw _
  | ok nodes => exact mirrors_bind (ignoresLog_record _ early) fun _ => mirrors_pure _

theorem ignoresLog_flatten (text : Text) : IgnoresLog (Expander.flatten text) := by
  intro early
  apply mirrors_bind (ignoresLog_readNodes text early)
  intro nodes
  exact mirrors_bind (ignoresLog_record _ early) fun _ => mirrors_pure _

theorem mirrors_answer (step : Step) :
    Mirrors (Counting.seen early 0)
      (expander.answer (withEarlier early ⟨expander, 0⟩).expandIn step)
      (expander.answer expander.expandIn step) := by
  apply (Counting.mirroring early 0).answer expander (mirrors_expandIn early expander)
  · exact fun _ other => Counting.mirrors_call expander.settings _ _ other
  · exact fun text => Counting.mirrors_lift (ignoresLog_flatten text)
  · exact fun name value => Counting.mirrors_lift (ignoresLog_modify fun _ _ => rfl)

/-- A step that finds the counter at zero answers as it does without a counter, whatever the log
held before, and leaves the counter at zero. -/
theorem perform_withEarlier (step : Step) :
    (withEarlier early ⟨expander, 0⟩).perform step =
      ((expander.perform step).1, withEarlier early ⟨(expander.perform step).2, 0⟩) :=
  run_of_mirrors { expander with functions := step.register expander.functions }
    (mirrors_answer early expander step)

end Steps

theorem perform_eq (expander : Expander) (step : Step) :
    (mk expander 0).perform step = ((expander.perform step).1, ⟨(expander.perform step).2, 0⟩) :=
  perform_withEarlier [] expander step

theorem after_eq (expander : Expander) (steps : List Step) :
    (mk expander 0).after steps = ⟨expander.after steps, 0⟩ := by
  induction steps generalizing expander with
  | nil => rfl
  | cons step steps ih =>
      have rest := ih (expander.perform step).2
      simp only [after, Expander.after, List.foldl_cons] at rest ⊢
      rw [perform_eq, rest]

/-! What is left after a step -/

theorem withEarlier_renewed (dialect : Dialect) (expander : Expander) :
    withEarlier expander.memory.log ⟨renewed dialect expander.settings expander, 0⟩ =
      ⟨expander, 0⟩ := by
  simp only [withEarlier, renewed, Memory.withEarlier, Memory.empty, Expander.new, List.append_nil]

/-- A step that finds the counter at zero does what it does on a new expander. -/
theorem perform_renewed (dialect : Dialect) (expander : Expander) (next : Step) :
    (mk expander 0).perform next =
      (((mk (renewed dialect expander.settings expander) 0).perform next).1,
        withEarlier expander.memory.log
          ((mk (renewed dialect expander.settings expander) 0).perform next).2) := by
  have earlier := perform_withEarlier expander.memory.log
    (renewed dialect expander.settings expander) next
  rw [withEarlier_renewed] at earlier
  rw [perform_eq (renewed dialect expander.settings expander) next]
  exact earlier

/-- A step that leaves an expander, which was new with these settings once, in order. -/
structure Orderly (dialect : Dialect) (settings : Settings) (before : Tracked) (step : Step)
    (left : Tracked) : Prop where
  unwound : left.depth = 0
  registered : left.expander.memory.Registered
  outgrows : Memory.Outgrows before.expander.memory left.expander.memory
  registry : left.expander.functions = step.register before.expander.functions
  configured : left.expander.settings = settings
  /-- The next step answers and writes as on a new expander; only the log has older events. -/
  renewed : ∀ next,
    left.perform next =
      (((mk (left.expander.renewed dialect settings) 0).perform next).1,
        withEarlier left.expander.memory.log
          ((mk (left.expander.renewed dialect settings) 0).perform next).2)

/-- Whatever the steps of a session are and however they end, each step answers as it does without a
counter and leaves things in order. -/
theorem orderly_after (dialect : Dialect) (settings : Settings) (earlier : List Step)
    (step : Step) :
    Orderly dialect settings ((new dialect settings).after earlier) step
      ((new dialect settings).after (earlier ++ [step])) ∧
    ((Expander.new dialect settings).session (earlier ++ [step])).getLast? =
      some ((((new dialect settings).after earlier).perform step).1,
        ((new dialect settings).after (earlier ++ [step])).expander) := by
  -- The counter is zero all along, so all of it can be said of the expander alone.
  have before := after_eq (Expander.new dialect settings) earlier
  have left := after_eq (Expander.new dialect settings) (earlier ++ [step])
  have configured := Expander.settings_after (Expander.new dialect settings) (earlier ++ [step])
  have registered := Expander.registered_after dialect settings (earlier ++ [step])
  rw [new, before, left, Expander.getLast?_session, perform_eq]
  rw [Expander.after_append] at configured registered ⊢
  generalize (Expander.new dialect settings).after earlier = expander at configured registered ⊢
  refine ⟨⟨rfl, registered, expander.outgrows_perform step, ?_, configured, ?_⟩, rfl⟩
  · exact congrArg Expander.functions (expander.perform_eq step)
  · intro next
    have renewal := perform_renewed dialect (expander.after [step]) next
    rw [configured] at renewal
    exact renewal

end Tracked

end Stylesheet
