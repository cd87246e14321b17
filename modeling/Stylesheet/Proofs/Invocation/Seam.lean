import Stylesheet.Proofs.Invocation.Reading
import Stylesheet.Proofs.Text.Crossing
import Stylesheet.Proofs.Text.Run

/-!
Seams: places where a text can go on and every invocation before them is read as if the text ended
there. Reading looks ahead for more of a name, for blanks, for a list, for a block, for a semicolon
and for the end of the text; none of these is to be found across a seam.
-/

namespace Stylesheet

/-- Whether a character goes on with no invocation before it. -/
def isNeutral (c : Char) : Bool :=
  !isNameChar c && !isGapChar c && c != '(' && c != '{' && c != ';'

/-- `back` can follow `front` without being taken for a part of it. -/
structure Seam (front back : Text) : Prop where
  noGap : ∀ c ∈ front.getLast?, isGapChar c = false
  neutral : ∀ c ∈ back.head?, isNeutral c = true

namespace Seam

variable {front back : Text}

theorem suffix {rest : Text} (seam : Seam front back) (behind : rest <:+ front) :
    Seam rest back := by
  refine ⟨fun c last => seam.noGap c ?_, seam.neutral⟩
  obtain ⟨lead, rfl⟩ := behind
  rw [Option.mem_def] at last
  rw [Option.mem_def, List.getLast?_append, last, Option.some_or]

theorem notName (seam : Seam front back) : ∀ c ∈ back.head?, isNameChar c = false := by
  intro c first
  have neutral := seam.neutral c first
  simp only [isNeutral, Bool.and_eq_true, Bool.not_eq_true'] at neutral
  exact neutral.1.1.1.1

theorem notGap (seam : Seam front back) : ∀ c ∈ back.head?, isGapChar c = false := by
  intro c first
  have neutral := seam.neutral c first
  simp only [isNeutral, Bool.and_eq_true, Bool.not_eq_true'] at neutral
  exact neutral.1.1.1.2

theorem head?_ne (seam : Seam front back) {c : Char} (special : isNeutral c = false) :
    back.head? ≠ some c := by
  intro first
  cases special.symm.trans (seam.neutral c first)

theorem first_ne {c d : Char} (seam : Seam front (c :: back)) (special : isNeutral d = false) :
    c ≠ d := by
  rintro rfl
  exact seam.head?_ne special rfl

-- Blanks before a seam would end the text before it.
theorem eq_nil_of_gaps (seam : Seam front back) (gaps : front.dropWhile isGapChar = []) :
    front = [] := by
  cases last : front.getLast? with
  | none => exact List.getLast?_eq_none_iff.mp last
  | some c =>
      have visible := seam.noGap c last
      have whole := List.takeWhile_append_dropWhile (p := isGapChar) (l := front)
      rw [gaps, List.append_nil] at whole
      have gap := List.all_eq_true.mp List.all_takeWhile c (whole ▸ List.mem_of_getLast? last)
      cases visible.symm.trans gap

end Seam

namespace Invocation

variable {text back : Text} {position : Nat}

theorem list?_append {rest : Text} {arguments : List Text}
    (read : list? text = some (arguments, rest)) (back : Text) :
    list? (text ++ back) = some (arguments, rest ++ back) := by
  cases text with
  | nil => cases read
  | cons c text =>
      simp only [list?] at read
      split at read
      · cases read
      · next stopped remaining found =>
        obtain ⟨rfl, rfl⟩ := Prod.mk.inj (Option.some.inj read)
        simp only [List.cons_append, list?, Scanner.run_append found]

theorem block?_append {block rest : Text} (read : block? text = some (block, rest))
    (back : Text) : block? (text ++ back) = some (block, rest ++ back) := by
  cases text with
  | nil => cases read
  | cons c text =>
      simp only [block?] at read
      split at read
      · cases read
      · next stopped remaining found =>
        obtain ⟨rfl, rfl⟩ := Prod.mk.inj (Option.some.inj read)
        simp only [List.cons_append, block?, Scanner.run_append found]

theorem listTail_append (seam : Seam text back) {tail : Tail}
    (read : listTail position text = .ok tail) (other : Nat) :
    listTail other (text ++ back) = .ok ⟨tail.arguments, tail.rest ++ back⟩ := by
  have dropped := dropWhile_append_of_stop seam.notGap text
  cases listAhead text with
  | closed opens listed =>
      rw [listTail_of_list? opens listed] at read
      obtain rfl := Except.ok.inj read
      rw [opens] at dropped
      exact listTail_of_list? dropped (list?_append listed back)
  | unclosed opens unclosed =>
      rw [listTail_of_unclosed opens unclosed] at read
      cases read
  | none noList =>
      rw [listTail_of_none noList] at read
      obtain rfl := Except.ok.inj read
      apply listTail_of_none
      rw [dropped]
      cases shape : text.dropWhile isGapChar with
      | nil => exact seam.head?_ne (by decide)
      | cons c rest => simpa [shape] using noList

theorem blockTail_append (seam : Seam text back) {tail : Tail}
    (read : blockTail position text = .ok tail) (other : Nat) :
    blockTail other (text ++ back) = .ok ⟨tail.arguments, tail.rest ++ back⟩ := by
  have dropped := dropWhile_append_of_stop seam.notGap text
  cases blockAhead text with
  | closed opens closed =>
      rw [blockTail_of_block? opens closed] at read
      obtain rfl := Except.ok.inj read
      rw [opens] at dropped
      exact blockTail_of_block? dropped (block?_append closed back)
  | unclosed opens unclosed =>
      rw [blockTail_of_unclosed opens unclosed] at read
      cases read
  | gaps gaps =>
      rw [blockTail_of_gaps gaps] at read
      obtain rfl := Except.ok.inj read
      obtain rfl := seam.eq_nil_of_gaps gaps
      rw [gaps, List.nil_append] at dropped
      cases back with
      | nil => exact blockTail_of_gaps dropped
      | cons c back =>
          have noBlock : c ≠ '{' := seam.first_ne (by decide)
          exact blockTail_of_none dropped noBlock
  | none visible noBlock =>
      rw [blockTail_of_none visible noBlock] at read
      obtain rfl := Except.ok.inj read
      rw [visible] at dropped
      exact blockTail_of_none dropped noBlock

theorem ended_append (seam : Seam text back) (name : Text) (arguments : List Text) :
    ended name arguments (text ++ back) =
      ((ended name arguments text).1, (ended name arguments text).2 ++ back) := by
  cases text with
  | nil =>
      cases back with
      | nil => rfl
      | cons c back =>
          have noSemicolon : c ≠ ';' := seam.first_ne (by decide)
          simp [ended, noSemicolon]
  | cons c text =>
      by_cases semicolon : c = ';'
      · subst semicolon
        rfl
      · simp [ended, semicolon]

/-- An invocation before a seam is read as if the text ended at the seam. -/
theorem read_append (seam : Seam text back) {rest : Text} {invocation : Invocation}
    (found : read position text = .ok (some (invocation, rest))) (other : Nat) :
    read other (text ++ back) = .ok (some (invocation, rest ++ back)) := by
  obtain ⟨named, list, block, listed, blocked, ends⟩ := exists_tails_of_read found
  have taken := takeWhile_append_of_stop seam.notName text
  have dropped := dropWhile_append_of_stop seam.notName text
  have behindName := seam.suffix (List.dropWhile_suffix isNameChar)
  have behindList := behindName.suffix (suffix_listTail listed)
  have behindBlock := behindList.suffix (suffix_blockTail blocked)
  rw [read_of_named (taken ▸ named), taken, dropped, listTail_append behindName listed]
  simp only [bind, Except.bind, blockTail_append behindList blocked, ended_append behindBlock, ends]
  rfl

theorem read_append_of_none (seam : Seam text back) (unnamed : read position text = .ok none)
    (other : Nat) : read other (text ++ back) = .ok none := by
  have taken := takeWhile_append_of_stop seam.notName text
  by_cases named : text.takeWhile isNameChar = []
  · exact read_of_unnamed (taken.trans named)
  · rw [read_of_named named] at unnamed
    simp only [bind, Except.bind] at unnamed
    split at unnamed
    · cases unnamed
    · split at unnamed <;> cases unnamed

end Invocation

end Stylesheet
