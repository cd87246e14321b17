/-!
Text as the list of its characters. Positions and lengths count characters, and every operation
below is a recursion on the list. A class of characters is given by the code points it holds.
-/

namespace Stylesheet

abbrev Text := List Char

/-- A class of characters, as the code point ranges it holds, both ends included. -/
abbrev CharRanges := List (Nat × Nat)

def CharRanges.contains (ranges : CharRanges) (c : Char) : Bool :=
  ranges.any fun range => range.1 ≤ c.toNat && c.toNat ≤ range.2

/-- The characters of a name: the letters and digits of ASCII and the underscore. -/
def isNameChar (c : Char) : Bool := c.isAlphanum || c == '_'

namespace Text

/-- What follows `lead` in a text that starts with it. -/
def after? : (lead text : Text) → Option Text
  | [], text => some text
  | _ :: _, [] => none
  | c :: lead, d :: text => if c = d then after? lead text else none

theorem eq_of_after? {lead text rest : Text} (found : after? lead text = some rest) :
    text = lead ++ rest := by
  induction lead generalizing text with
  | nil => simpa [after?] using found
  | cons c lead ih =>
    cases text with
    | nil => simp [after?] at found
    | cons d text =>
      by_cases same : c = d
      · subst same
        simp only [after?, if_true] at found
        simp [ih found]
      · simp [after?, same] at found

def holds (part : Text) : Text → Bool
  | [] => (after? part []).isSome
  | c :: rest => (after? part (c :: rest)).isSome || holds part rest

def replaceChar (text : Text) (old : Char) (new : Text) : Text :=
  text.flatMap fun c => if c = old then new else [c]

theorem replaceChar_cons (c : Char) (text : Text) (old : Char) (new : Text) :
    replaceChar (c :: text) old new = (if c = old then new else [c]) ++ replaceChar text old new :=
  rfl

theorem replaceChar_append (left right : Text) (old : Char) (new : Text) :
    replaceChar (left ++ right) old new = replaceChar left old new ++ replaceChar right old new :=
  List.flatMap_append

theorem replaceChar_of_absent {text : Text} {old : Char} (absent : old ∉ text) (new : Text) :
    replaceChar text old new = text := by
  induction text with
  | nil => rfl
  | cons c text ih =>
    rw [List.mem_cons, not_or] at absent
    rw [replaceChar_cons, if_neg (Ne.symm absent.1), ih absent.2, List.singleton_append]

/-- What holds of the parts of a list of texts and survives appending holds of the list joined by
a separator. -/
theorem intercalate_closed {P : Text → Prop} (nil : P [])
    (append : ∀ left right, P left → P right → P (left ++ right)) {separator : Text}
    (between : P separator) {texts : List Text} (each : ∀ text ∈ texts, P text) :
    P (List.intercalate separator texts) := by
  induction texts with
  | nil => exact nil
  | cons text texts ih =>
    have first := each text List.mem_cons_self
    have rest := ih fun other later => each other (List.mem_cons_of_mem text later)
    cases texts with
    | nil => rwa [List.intercalate_singleton]
    | cons next texts =>
      rw [List.intercalate_cons_cons]
      exact append _ _ (append _ _ first between) rest

/-- Skips `skip` characters, then writes `new` for each occurrence of `old`, leftmost first and
without overlap. -/
def replaceFrom (old new : Text) : (skip : Nat) → Text → Text
  | _, [] => []
  | skip + 1, _ :: rest => replaceFrom old new skip rest
  | 0, c :: rest =>
    match after? old (c :: rest) with
    | some _ => new ++ replaceFrom old new (old.length - 1) rest
    | none => c :: replaceFrom old new 0 rest

def replace (text old new : Text) : Text := replaceFrom old new 0 text

def endsWith (text : Text) (c : Char) : Bool := text.getLast? == some c

def ofNat (n : Nat) : Text := Nat.toDigits 10 n

def ofInt : Int → Text
  | .ofNat n => ofNat n
  | .negSucc n => '-' :: ofNat (n + 1)

/-- Turns a carriage return, alone or before a line feed, into a line feed. -/
def unixLines : Text → Text
  | [] => []
  | '\r' :: '\n' :: rest => '\n' :: unixLines rest
  | c :: rest => (if c = '\r' then '\n' else c) :: unixLines rest

def lineEndRanges : CharRanges :=
  [(0xA, 0xD), (0x1C, 0x1E), (0x85, 0x85), (0x2028, 0x2029)]

def firstLine (text : Text) : Text := text.takeWhile fun c => !lineEndRanges.contains c

/-- The order of texts: by the code points of their characters, first difference first. -/
def precedes (left right : Text) : Bool := decide (left < right)

end Text

end Stylesheet
