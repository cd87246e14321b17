import Stylesheet.Expander.Invoke
import Stylesheet.Node.Layout
import Stylesheet.Node.Printer
import Stylesheet.Node.Reader

/-!
Expanders: settings, the functions that are registered, and a memory that lasts from one document
to the next. A session is a list of steps on one expander; an error in a step ends that step only.
-/

namespace Stylesheet

inductive Dialect where
  | plain
  | css
  | script
  deriving DecidableEq

namespace Dialect

def common : Table Function :=
  [("get".toList, .get), ("set".toList, .set), ("define".toList, .define),
   ("loop".toList, .loop), ("echo".toList, .echo)]

def functions : Dialect → Table Function
  | plain => common
  | css =>
    common ++ [("prefixed".toList, .prefixed)] ++
      Adjustment.all.map fun adjustment => (adjustment.name, .adjust adjustment)
  | script => common ++ [("foreach".toList, .foreach)]

end Dialect

structure Expander where
  settings : Settings
  functions : Table Function
  memory : Memory

namespace Expander

def new (dialect : Dialect) (settings : Settings) : Expander :=
  ⟨settings, dialect.functions, .empty⟩

def setVariable (expander : Expander) (name value : Text) : Expander :=
  { expander with memory := expander.memory.setVariable name value }

def setFunction (expander : Expander) (name : Text) (function : Function) : Expander :=
  { expander with functions := expander.functions.put name function }

def functionNames (expander : Expander) : List Text := expander.functions.sorted.map (·.1)

/-- Runs a computation on the memory of the expander and keeps the memory it leaves. -/
def run {α : Type} (expander : Expander) (action : Expansion α) : Except Error α × Expander :=
  match EStateM.run action expander.memory with
  | .ok value memory => (.ok value, { expander with memory })
  | .error error memory => (.error error, { expander with memory })

/-- Expands a text in a scope, with all levels left. -/
def expandIn (expander : Expander) : Scope → Text → Expansion Text :=
  expandAt expander.settings expander.functions expander.settings.depthLimit.toNat

def expansion (expander : Expander) (source : Text) : Expansion Text :=
  expander.expandIn [] source

def readNodes (text : Text) : Expansion (List Node) :=
  match Node.read text with
  | .ok nodes => do
    modify (Memory.record (.read nodes.length))
    return nodes
  | .error error => throw (.braces error)

/-- Flattens the rule sets of a stylesheet and logs how many there are. -/
def flatten (text : Text) : Expansion Text := do
  let nodes := Node.flattenAll (← readNodes text)
  modify (Memory.record (.flattened nodes.length))
  return Node.printAll nodes

def flatExpansion (expander : Expander) (source : Text) : Expansion Text := do
  flatten (← expander.expansion source)

inductive Step where
  | expand (source : Text)
  | expandAndFlatten (source : Text)
  | setVariable (name value : Text)
  | setFunction (name : Text) (function : Function)
  | expandBody (definition : Definition) (arguments : List Text)
  | call (name : Text) (arguments : List Text)
  | functionNames

inductive Answer where
  | done
  | text (text : Text)
  | names (names : List Text)
  | noFunction
  deriving DecidableEq

/-- The functions after a step: only registering one changes them. -/
def Step.register (functions : Table Function) : Step → Table Function
  | setFunction name function => functions.put name function
  | _ => functions

/-- What a step answers; `expand` expands the texts it asks for. -/
def answer {m : Type → Type} [Monad m] [MonadLiftT Expansion m] (expander : Expander)
    (expand : Scope → Text → m Text) : Step → m Answer
  | .expand source => .text <$> expand [] source
  | .expandAndFlatten source => .text <$> do flatten (← expand [] source)
  | .setVariable name value => do
    (modify (Memory.setVariable name value) : Expansion Unit)
    return .done
  | .setFunction _ _ => return .done
  | .expandBody definition arguments =>
    .text <$> Function.expandBody expand definition arguments
  | .call name arguments =>
    match expander.functions.get? name with
    | some function => .text <$> function.call expander.settings expand arguments
    | none => return .noFunction
  | .functionNames => return .names expander.functionNames

def perform (expander : Expander) (step : Step) : Except Error Answer × Expander :=
  { expander with functions := step.register expander.functions }.run
    (expander.answer expander.expandIn step)

/-- What each step of a session answers, with the expander it leaves. -/
def session (expander : Expander) : List Step → List (Except Error Answer × Expander)
  | [] => []
  | step :: steps =>
    let performed := expander.perform step
    performed :: performed.2.session steps

end Expander

end Stylesheet
