import Stylesheet.Text.Printable

/-!
Text as messages quote it. Single quotes surround it, or double ones when it holds a single quote
and no double one; the backslash, the surrounding quote and every unprintable character are written
as escapes.
-/

namespace Stylesheet

namespace Text

def hexDigits (width n : Nat) : Text :=
  let digits := Nat.toDigits 16 n
  List.replicate (width - digits.length) '0' ++ digits

/-- A code point behind the shortest escape that holds it. -/
def codePointEscape (code : Nat) : Text :=
  if code < 0x100 then ['\\', 'x'] ++ hexDigits 2 code
  else if code < 0x10000 then ['\\', 'u'] ++ hexDigits 4 code
  else ['\\', 'U'] ++ hexDigits 8 code

def quotedChar (quote c : Char) : Text :=
  if c = '\\' then ['\\', '\\']
  else if c = quote then ['\\', quote]
  else if c = '\n' then ['\\', 'n']
  else if c = '\r' then ['\\', 'r']
  else if c = '\t' then ['\\', 't']
  else if isPrintable c then [c]
  else codePointEscape c.toNat

def quoteFor (text : Text) : Char :=
  if text.contains '\x27' && !text.contains '\x22' then '\x22' else '\x27'

def quoted (text : Text) : Text :=
  let quote := quoteFor text
  quote :: text.flatMap (quotedChar quote) ++ [quote]

def quotedList (texts : List Text) : Text :=
  '[' :: List.intercalate [',', ' '] (texts.map quoted) ++ [']']

/-- A row of quoted texts in parentheses; a row of one keeps a comma behind its item. -/
def quotedRow : List Text → Text
  | [text] => '(' :: quoted text ++ [',', ')']
  | texts => '(' :: List.intercalate [',', ' '] (texts.map quoted) ++ [')']

end Text

end Stylesheet
