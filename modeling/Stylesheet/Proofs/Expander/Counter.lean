import Stylesheet.Proofs.Expander.SideBySide

/-!
Expansion with a counter in the place of a bound. Here the state holds, beside the memory, how many
expansions are under way; entering one counts up, leaving it counts down whichever way it ends, and
an expansion that finds the counter past the limit fails. What it does to the memory is what
expansion with a bound on the levels does, the counter is left as it was found, and what the log
held before makes no difference.
-/

namespace Stylesheet

/-- The memory, and how many expansions are under way. -/
structure Counted where
  memory : Memory
  depth : Int
  deriving DecidableEq

abbrev Counting := EStateM Error Counted

namespace Counting

/-- A computation that has nothing to do with the counter. -/
def onMemory {α : Type} (action : Expansion α) : Counting α := fun state =>
  match action state.memory with
  | .ok value memory => .ok value { state with memory }
  | .error error memory => .error error { state with memory }

instance : MonadLift Expansion Counting := ⟨onMemory⟩

def count (change : Int) : Counting Unit :=
  modify fun state => { state with depth := state.depth + change }

/-- Counts a computation as under way while it runs. -/
def nested {α : Type} (action : Counting α) : Counting α := do
  count 1
  try action
  finally count (-1)

/-- Fails where the counter is past the limit. -/
def checkDepth (settings : Settings) : Counting Unit := do
  if settings.depthLimit < (← EStateM.get).depth then throw (.tooDeep settings.depthLimit)

/-- Expands a text. It is the counter that ends a recursion that goes too deep: there is `room` for
more levels than the limit allows. -/
def expandAt (settings : Settings) (functions : Table Function) :
    (room : Nat) → Scope → Text → Counting Text
  | 0, _, _ => throw (.tooDeep settings.depthLimit)
  | room + 1, scope, text => nested do
    checkDepth settings
    expandPasses settings functions (expandAt settings functions room) scope text

end Counting

/-! The memory as part of a state -/

section Mirrors

variable {State α β : Type} {embed : Memory → State}

/-- The same outcome, with the memory as part of a state. -/
def embedded (embed : Memory → State) :
    EStateM.Result Error Memory α → EStateM.Result Error State α
  | .ok value memory => .ok value (embed memory)
  | .error error memory => .error error (embed memory)

/-- `action` does with the memory that is part of its state what `plain` does with the memory, and
leaves the rest of the state as it was. -/
def Mirrors (embed : Memory → State) (action : EStateM Error State α) (plain : Expansion α) :
    Prop :=
  ∀ memory, action (embed memory) = embedded embed (plain memory)

theorem mirrors_pure (value : α) : Mirrors embed (pure value) (pure value) :=
  fun _ => rfl

theorem mirrors_throw (error : Error) :
    Mirrors embed (throw error : EStateM Error State α) (throw error) :=
  fun _ => rfl

theorem mirrors_bind {action : EStateM Error State α} {plain : Expansion α}
    {next : α → EStateM Error State β} {follow : α → Expansion β}
    (first : Mirrors embed action plain)
    (rest : ∀ value, Mirrors embed (next value) (follow value)) :
    Mirrors embed (action >>= next) (plain >>= follow) := by
  intro memory
  simp only [bind, EStateM.bind, first memory]
  cases plain memory with
  | ok value later => exact rest value later
  | error error later => rfl

theorem mirrors_get_bind {next : State → EStateM Error State β} {follow : Memory → Expansion β}
    (rest : ∀ memory, Mirrors embed (next (embed memory)) (follow memory)) :
    Mirrors embed (EStateM.get >>= next) (EStateM.get >>= follow) :=
  fun memory => rest memory memory

end Mirrors

/-! What the log held before -/

/-- The memory with earlier events in front of those in its log. -/
def Memory.withEarlier (early : List Event) (memory : Memory) : Memory :=
  { memory with log := early ++ memory.log }

theorem Memory.record_withEarlier (early : List Event) (event : Event) (memory : Memory) :
    (memory.withEarlier early).record event = (memory.record event).withEarlier early := by
  simp only [record, withEarlier, List.append_assoc]

/-- The computation does the same whatever the log held before. -/
def IgnoresLog {α : Type} (action : Expansion α) : Prop :=
  ∀ early, Mirrors (Memory.withEarlier early) action action

section Log

theorem ignoresLog_modify {write : Memory → Memory}
    (commutes : ∀ early memory,
      write (memory.withEarlier early) = (write memory).withEarlier early) :
    IgnoresLog (modify write) := by
  intro early memory
  have written : (modify write : Expansion PUnit) (memory.withEarlier early) =
      .ok ⟨⟩ (write (memory.withEarlier early)) := rfl
  rw [written, commutes]
  rfl

theorem ignoresLog_record (event : Event) : IgnoresLog (modify (Memory.record event)) :=
  ignoresLog_modify fun early => Memory.record_withEarlier early event

theorem ignoresLog_runGet (arguments : List Text) : IgnoresLog (Function.runGet arguments) := by
  intro early
  rcases arguments with _ | ⟨name, _ | ⟨second, more⟩⟩
  · exact mirrors_throw _
  · exact mirrors_get_bind fun memory => mirrors_pure _
  · exact mirrors_throw _

theorem ignoresLog_runSet (arguments : List Text) : IgnoresLog (Function.runSet arguments) := by
  intro early
  rcases arguments with _ | ⟨name, _ | ⟨value, _ | ⟨third, more⟩⟩⟩
  · exact mirrors_throw _
  · exact mirrors_throw _
  · exact mirrors_bind (ignoresLog_modify (fun _ _ => rfl) early) fun _ => mirrors_pure _
  · exact mirrors_throw _

theorem ignoresLog_runDefine (arguments : List Text) :
    IgnoresLog (Function.runDefine arguments) := by
  intro early
  rcases arguments with _ | ⟨name, _ | ⟨second, more⟩⟩
  · exact mirrors_throw _
  · exact mirrors_throw _
  · apply mirrors_bind
    · apply ignoresLog_modify
      intro early memory
      exact Memory.record_withEarlier early _ { memory with definitions := _ }
    · exact fun _ => mirrors_pure _

theorem ignoresLog_freshName (stem : Text) : IgnoresLog (Function.freshName stem) := by
  intro early
  apply mirrors_bind
  · exact ignoresLog_modify (fun _ _ => rfl) early
  · exact fun _ => mirrors_get_bind fun memory => mirrors_pure _

theorem ignoresLog_runForeach (arguments : List Text) :
    IgnoresLog (Function.runForeach arguments) := by
  intro early
  rcases arguments with _ | ⟨first, _ | ⟨second, more⟩⟩
  · exact mirrors_throw _
  · exact mirrors_throw _
  · unfold Function.runForeach
    dsimp only
    cases (List.intercalate [',', ' '] (first :: second :: more).dropLast).dropWhile (· != ';') with
    | nil => exact mirrors_throw _
    | cons separator array =>
        apply mirrors_bind (ignoresLog_freshName _ early)
        intro counter
        apply mirrors_bind (ignoresLog_freshName _ early)
        intro temporary
        apply mirrors_bind (ignoresLog_record _ early)
        exact fun _ => mirrors_pure _

theorem ignoresLog_readLiteral {α : Type} (literal : Except LiteralError α) :
    IgnoresLog (Function.readLiteral literal) := by
  intro early
  cases literal with
  | ok value => exact mirrors_pure value
  | error error => exact mirrors_throw _

theorem ignoresLog_runAdjust (adjustment : Adjustment) (arguments : List Text) :
    IgnoresLog (Function.runAdjust adjustment arguments) := by
  intro early
  rcases arguments with _ | ⟨color, _ | ⟨amount, _ | ⟨third, more⟩⟩⟩
  · exact mirrors_throw _
  · exact mirrors_throw _
  · apply mirrors_bind (ignoresLog_readLiteral _ early)
    intro base
    apply mirrors_bind (ignoresLog_readLiteral _ early)
    exact fun distance => mirrors_pure _
  · exact mirrors_throw _

end Log

namespace Counting

/-- The memory with earlier events in its log, at a given depth. -/
def seen (early : List Event) (depth : Int) (memory : Memory) : Counted :=
  ⟨memory.withEarlier early, depth⟩

section Lift

variable {α : Type} {early : List Event} {depth : Int}

theorem mirrors_lift {action : Expansion α} (ignores : IgnoresLog action) :
    Mirrors (seen early depth) (liftM action) action := by
  intro memory
  have lifted : (liftM action : Counting α) = onMemory action := rfl
  simp only [lifted, onMemory, seen, ignores early memory]
  cases action memory with
  | ok value later => rfl
  | error error later => rfl

theorem nested_eq (action : Counting α) (state : Counted) :
    nested action state =
      tryFinally action (count (-1)) { state with depth := state.depth + 1 } :=
  rfl

theorem nested_of_ok {action : Counting α} {state later : Counted} {value : α}
    (ended : action { state with depth := state.depth + 1 } = .ok value later) :
    nested action state = .ok value { later with depth := later.depth + -1 } := by
  rw [nested_eq]
  simp only [tryFinally, tryFinally', Functor.map, EStateM.map, ended]
  rfl

theorem nested_of_error {action : Counting α} {state later : Counted} {error : Error}
    (ended : action { state with depth := state.depth + 1 } = .error error later) :
    nested action state = .error error { later with depth := later.depth + -1 } := by
  rw [nested_eq]
  simp only [tryFinally, tryFinally', Functor.map, EStateM.map, ended]
  rfl

/-- However a nested computation ends, the counter is set back. -/
theorem mirrors_nested {action : Counting α} {plain : Expansion α}
    (inner : Mirrors (seen early (depth + 1)) action plain) :
    Mirrors (seen early depth) (nested action) plain := by
  intro memory
  have balanced : depth + 1 + -1 = depth := by omega
  have begun := inner memory
  cases ended : plain memory with
  | ok value later =>
      rw [ended] at begun
      rw [nested_of_ok begun]
      simp only [embedded, seen, balanced]
  | error error later =>
      rw [ended] at begun
      rw [nested_of_error begun]
      simp only [embedded, seen, balanced]

end Lift

/-! The evaluator -/

def mirroring (early : List Event) (depth : Int) : Simulation Counting Expansion where
  Relates := Mirrors (seen early depth)
  returned := mirrors_pure
  failed _ := fun _ => rfl
  followed := mirrors_bind
  read tail := fun memory => tail (memory.withEarlier early) memory rfl rfl memory

theorem mirrors_call (settings : Settings) {early : List Event} {depth : Int}
    (counted : Scope → Text → Counting Text) (plain : Scope → Text → Expansion Text)
    {function : Function} (other : function ≠ .loop) (arguments : List Text) :
    Mirrors (seen early depth) (function.call settings counted arguments)
      (function.call settings plain arguments) := by
  cases function with
  | get => exact mirrors_lift (ignoresLog_runGet arguments)
  | set => exact mirrors_lift (ignoresLog_runSet arguments)
  | define => exact mirrors_lift (ignoresLog_runDefine arguments)
  | loop => exact absurd rfl other
  | echo => exact mirrors_pure _
  | prefixed =>
      cases arguments with
      | nil => exact mirrors_throw _
      | cons first more => exact mirrors_pure _
  | adjust adjustment => exact mirrors_lift (ignoresLog_runAdjust adjustment arguments)
  | foreach => exact mirrors_lift (ignoresLog_runForeach arguments)
  | host run =>
      simp only [Function.call]
      cases run arguments with
      | ok value => exact mirrors_pure value
      | error error => exact mirrors_throw error

theorem checkDepth_bind {α : Type} (settings : Settings) (action : Counting α) (state : Counted) :
    (checkDepth settings >>= fun _ => action) state =
      if settings.depthLimit < state.depth then .error (.tooDeep settings.depthLimit) state
      else action state := by
  have read : (checkDepth settings >>= fun _ => action) state =
      ((if settings.depthLimit < state.depth then throw (.tooDeep settings.depthLimit)
        else pure () : Counting Unit) >>= fun _ => action) state := rfl
  rw [read]
  by_cases past : settings.depthLimit < state.depth
  · rw [if_pos past, if_pos past]
    rfl
  · rw [if_neg past, if_neg past]
    rfl

/-- The levels that are left are what the limit leaves above the counter. -/
theorem mirrors_expandAt (settings : Settings) (functions : Table Function) (early : List Event)
    (depth : Int) (room : Nat) (enough : (settings.depthLimit - depth).toNat < room)
    (scope : Scope) (text : Text) :
    Mirrors (seen early depth) (expandAt settings functions room scope text)
      (Stylesheet.expandAt settings functions (settings.depthLimit - depth).toNat scope text) := by
  -- One level down the counter is one higher and the room one less, so it is still enough.
  induction room generalizing depth scope text with
  | zero => omega
  | succ room ih =>
      apply mirrors_nested
      intro memory
      rw [checkDepth_bind]
      by_cases past : settings.depthLimit < (seen early (depth + 1) memory).depth
      · have reached : settings.depthLimit < depth + 1 := past
        have spent : (settings.depthLimit - depth).toNat = 0 := by omega
        rw [if_pos past, spent]
        rfl
      · have within : ¬settings.depthLimit < depth + 1 := past
        have more : (settings.depthLimit - depth).toNat =
            (settings.depthLimit - (depth + 1)).toNat + 1 := by omega
        rw [if_neg past, more]
        have inner := ih (depth + 1) (by omega)
        exact (mirroring early (depth + 1)).expandPasses settings settings.depthLimit inner
          (fun _ other => mirrors_call settings _ _ other) scope text memory

end Counting

end Stylesheet
