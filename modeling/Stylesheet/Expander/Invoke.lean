import Stylesheet.Expander.Function
import Stylesheet.Expander.Substitute

/-!
The value of an invocation, and the expansion of a text.

A name means, in this order, a parameter of the macro that is being expanded, a function, a
variable, a macro; any other name means the empty text. Text that is stored unexpanded expands where
it is used. Every expansion inside another counts as one level deeper, and there is a limit on how
deep it goes: expansion recurs on the levels that are left.

How the levels are kept is known to `expandAt` alone. All else is written for any kind of
computation that those on the memory can be part of, with `expand` for the texts one level down.
-/

namespace Stylesheet

/-- An argument without the blanks around it and without one pair of quotes around the rest. -/
def bareArgument (argument : Text) : Text :=
  match argument.trim with
  | [] => []
  | c :: rest =>
    if isArgumentQuote c && rest.getLast? == some c then rest.dropLast else c :: rest

/-- Ends a value with one semicolon where the invocation had one. No value, no semicolon. -/
def terminate (terminated : Bool) (value : Text) : Text :=
  if terminated && !value.isEmpty && !value.endsWith ';' then value ++ [';'] else value

structure Resolved where
  text : Text
  settled : Bool
  deriving DecidableEq

section

variable {m : Type → Type} [Monad m] [MonadLiftT Expansion m] (settings : Settings)
  (functions : Table Function) (expand : Scope → Text → m Text)

def resolve (scope : Scope) (name : Text) (arguments : List Text) : m Resolved := do
  let raw := settings.isRaw name
  match scope.get? name with
  | some value => return ⟨value, false⟩
  | none =>
    match functions.get? name with
    | some function => return ⟨← function.call settings expand arguments, raw⟩
    | none =>
      let memory ← currentMemory
      match memory.globals.get? name with
      | some value => return ⟨value, raw⟩
      | none =>
        match memory.definitions.get? name with
        | some definition => return ⟨← Function.expandBody expand definition arguments, true⟩
        | none => return ⟨[], raw⟩

def prepare (scope : Scope) (invocation : Invocation) : m (List Text) :=
  let bare := invocation.arguments.map bareArgument
  if settings.isRaw invocation.name then return bare else bare.mapM (expand scope)

def settle (scope : Scope) (resolved : Resolved) : m Text :=
  if !resolved.settled && Text.holds settings.marker.text resolved.text then
    expand scope resolved.text
  else return resolved.text

def invoke (scope : Scope) (invocation : Invocation) : m Text := do
  let arguments ← prepare settings expand scope invocation
  let resolved ← resolve settings functions expand scope invocation.name arguments
  let value ← settle settings expand scope resolved
  return terminate invocation.terminated value

/-- Expands a text by two passes. Assignments anywhere in the text run first, so the last one counts
for all of it; then everything else expands. -/
def expandPasses (scope : Scope) (text : Text) : m Text := do
  let value := invoke settings functions expand scope
  let assigned ← substitute settings.marker (some "set".toList) value 0 text
  substitute settings.marker none value 0 assigned

end

def expandAt (settings : Settings) (functions : Table Function) :
    (levels : Nat) → Scope → Text → Expansion Text
  | 0, _, _ => throw (.tooDeep settings.depthLimit)
  | levels + 1, scope, text =>
    expandPasses settings functions (expandAt settings functions levels) scope text

end Stylesheet
