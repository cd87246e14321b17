import Stylesheet.Color.Chain
import Stylesheet.Expander.Memory
import Stylesheet.Expander.Settings

/-!
The functions that an invocation can call. Arguments arrive as texts; the result is a text again.
-/

namespace Stylesheet

inductive Function where
  | get
  | set
  | define
  | loop
  | echo
  | prefixed
  | adjust (adjustment : Adjustment)
  | foreach
  /-- A function that the surrounding program supplies. It is taken to map its arguments to a text
  or to one of the errors of this library: it sees and changes neither the memory nor the functions,
  and every call with the same arguments gives the same. -/
  | host (run : List Text → Except Error Text)

/-- The values of names inside the body of a macro. -/
abbrev Scope := Table Text

/-- Cuts a list into rows of `size` items; the last one may be shorter. -/
def chunks {α : Type} (size : Nat) (items : List α) : List (List α) :=
  if items.isEmpty then []
  else
    let taken := max 1 size
    items.take taken :: chunks size (items.drop taken)
termination_by items.length
decreasing_by
  have : 0 < items.length := by simpa [List.length_pos_iff] using ‹¬items.isEmpty = true›
  simp only [List.length_drop]
  omega

theorem flatten_chunks {α : Type} (size : Nat) (items : List α) :
    (chunks size items).flatten = items := by
  fun_induction chunks size items with
  | case1 items empty => simpa using empty.symm
  | case2 items filled taken ih => rw [List.flatten_cons, ih, List.take_append_drop]

/-- A loop over the items of an array. The array goes into a variable first, so it is evaluated
once, and a null array has no items. -/
def foreachLoop (temporary counter item array code : Text) : Text :=
  "\nvar ".toList ++ temporary ++ " = ".toList ++ array ++ ";\nif(".toList ++ temporary ++
    " != null)\nfor(var ".toList ++ counter ++ " = 0; ".toList ++ counter ++ " < ".toList ++
    temporary ++ ".length; ".toList ++ counter ++ "++) \x7b\n\tvar ".toList ++ item ++
    " = ".toList ++ temporary ++ "[".toList ++ counter ++ "];\n\t".toList ++ code ++
    "\n\x7d".toList

namespace Function

def refuse (function expected : String) (got : Nat) : Expansion Text :=
  throw (.argumentCount function.toList expected.toList got)

def runGet : List Text → Expansion Text
  | [name] => do return ((← currentMemory).globals.get? name).getD []
  | arguments => refuse "get" "1" arguments.length

def runSet : List Text → Expansion Text
  | [name, value] => do
    modify (Memory.setVariable name value)
    return []
  | arguments => refuse "set" "2" arguments.length

def runDefine : List Text → Expansion Text
  | name :: second :: more => do
    let parameters := (second :: more).dropLast
    let body := (second :: more).getLast (by simp)
    modify (Memory.define ⟨name, parameters, body⟩)
    return []
  | arguments => throw (.shortDefinition arguments)

section

variable {m : Type → Type} [Monad m] [MonadLiftT Expansion m] (expand : Scope → Text → m Text)

/-- Expands a macro body with its parameters bound; a parameter without an argument stays free. -/
def expandBody (definition : Definition) (arguments : List Text) : m Text :=
  expand (Table.ofEntries (definition.parameters.zip arguments)) definition.body

/-- Calls a macro with as many arguments at a time as it has parameters, one if it has none. -/
def runLoop : List Text → m Text
  | name :: second :: more => do
    let memory ← currentMemory
    match memory.definitions.get? name with
    | none => (throw (.undefined name) : Expansion Text)
    | some definition =>
      let rows := chunks definition.parameters.length (second :: more)
      return (← rows.mapM (expandBody expand definition)).flatten
  | arguments => refuse "loop" "at least 2" arguments.length

end

def runPrefixed (settings : Settings) : List Text → Expansion Text
  | [] => refuse "prefixed" "1" 0
  | arguments =>
    let declaration := List.intercalate [',', ' '] arguments
    return settings.vendorPrefixes.flatMap fun vendor => vendor ++ declaration ++ [';']

def readLiteral {α : Type} : Except LiteralError α → Expansion α
  | .ok value => return value
  | .error error => throw (.literal error)

def runAdjust (adjustment : Adjustment) : List Text → Expansion Text
  | [color, amount] => do
    let color ← readLiteral (Color.read color)
    let amount ← readLiteral (Amount.read amount)
    return (adjustment.apply color amount.toFloat).print
  | arguments => throw (.argumentCount adjustment.name "2".toList arguments.length)

def freshName (stem : Text) : Expansion Text := do
  modify Memory.countName
  return stem ++ Text.ofNat (← currentMemory).generated

def runForeach : List Text → Expansion Text
  | first :: second :: more => do
    let arguments := first :: second :: more
    let head := List.intercalate [',', ' '] arguments.dropLast
    match head.dropWhile (· != ';') with
    | [] => refuse "foreach" "'variable; array'" (arguments.length - 1)
    | _ :: array =>
      let counter ← freshName "foreach_loop_counter_".toList
      let temporary ← freshName "foreach_loop_temporary_".toList
      modify (Memory.record (.looped counter temporary))
      let item := Text.trim (head.takeWhile (· != ';'))
      return foreachLoop temporary counter item (Text.trim array) (arguments.getLast (by simp))
  | arguments => refuse "foreach" "a loop head and code" arguments.length

/-- Calls a function; `expand` expands the text it asks for. -/
def call {m : Type → Type} [Monad m] [MonadLiftT Expansion m] (settings : Settings)
    (expand : Scope → Text → m Text) (function : Function) (arguments : List Text) : m Text :=
  match function with
  | get => runGet arguments
  | set => runSet arguments
  | define => runDefine arguments
  | loop => runLoop expand arguments
  | echo => return List.intercalate [',', ' '] arguments
  | prefixed => runPrefixed settings arguments
  | adjust adjustment => runAdjust adjustment arguments
  | foreach => runForeach arguments
  | host run =>
    match run arguments with
    | .ok value => return value
    | .error error => (throw error : Expansion Text)

/-! Simple functions for a surrounding program to supply. -/

def first : Function := host fun arguments => .ok (arguments.headD [])

def count : Function := host fun arguments => .ok (Text.ofNat arguments.length)

def join (separator : Text) : Function := host fun arguments =>
  .ok (List.intercalate separator arguments)

def constant (text : Text) : Function := host fun _ => .ok text

end Function

end Stylesheet
