import Stylesheet.Error
import Stylesheet.Expander.Table

/-!
What expansion reads and writes: the variables and definitions made so far, the number of generated
names, and a log of what happened. All of it outlives an error.
-/

namespace Stylesheet

structure Definition where
  name : Text
  parameters : List Text
  body : Text
  deriving DecidableEq

/-- What the log keeps, in the order it happens. -/
inductive Event where
  | defined (name : Text) (parameters : List Text)
  /-- A loop was written with these generated names. -/
  | looped (counter temporary : Text)
  | read (count : Nat)
  | flattened (count : Nat)
  deriving DecidableEq

structure Memory where
  globals : Table Text
  definitions : Table Definition
  generated : Nat
  log : List Event
  deriving DecidableEq

namespace Memory

def empty : Memory := ⟨[], [], 0, []⟩

def setVariable (name value : Text) (memory : Memory) : Memory :=
  { memory with globals := memory.globals.put name value }

def countName (memory : Memory) : Memory := { memory with generated := memory.generated + 1 }

def record (event : Event) (memory : Memory) : Memory :=
  { memory with log := memory.log ++ [event] }

def define (definition : Definition) (memory : Memory) : Memory :=
  { memory with definitions := memory.definitions.put definition.name definition }.record
    (.defined definition.name definition.parameters)

end Memory

/-- A computation on the memory that may fail and keeps what it has written even then. -/
abbrev Expansion := EStateM Error Memory

abbrev currentMemory : Expansion Memory := EStateM.get

end Stylesheet
