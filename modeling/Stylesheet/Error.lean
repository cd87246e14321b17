import Stylesheet.Color.Literal
import Stylesheet.Invocation
import Stylesheet.Node.Basic

/-!
Everything that can go wrong while a document is expanded and flattened.
-/

namespace Stylesheet

inductive Error where
  | openInvocation (error : OpenError)
  | tooDeep (limit : Int)
  /-- A definition without a name or without a body. -/
  | shortDefinition (arguments : List Text)
  | undefined (name : Text)
  | argumentCount (function expected : Text) (got : Nat)
  | literal (error : LiteralError)
  | braces (error : BraceError)
  deriving DecidableEq

def Error.message : Error → Text
  | openInvocation error => error.message
  | tooDeep limit =>
    "too much recursion depth in macro expansion (limit ".toList ++ Text.ofInt limit ++ [')']
  | shortDefinition arguments =>
    "define requires at least a macro name and definition, got ".toList ++
      Text.quotedList arguments
  | undefined name => "undefined macro: ".toList ++ name.quoted
  | argumentCount function expected got =>
    function ++ " requires ".toList ++ expected ++ " argument(s), got ".toList ++ Text.ofNat got
  | literal error => error.message
  | braces error => error.message

end Stylesheet
