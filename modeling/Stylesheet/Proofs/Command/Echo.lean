import Stylesheet.Command.Report
import Stylesheet.Proofs.Text.Run

/-!
How a message is written: without the control sequences of a terminal, and with a line end behind
it. A line end is no part of a control sequence, so it neither finishes one that the message leaves
open nor goes with one.
-/

namespace Stylesheet.Command

/-- A control sequence: an escape, a bracket, any parameters, a letter. -/
inductive IsSequence : Text → Prop where
  | intro (parameters : Text) (letter : Char)
      (inside : ∀ c ∈ parameters, isSequencePart c = true) (final : letter.isAlpha = true) :
      IsSequence ('\x1b' :: '[' :: (parameters ++ [letter]))

/-- `Strips text plain`: the text without its control sequences. They are looked for from the left,
and every character that starts none stays. -/
inductive Strips : (text plain : Text) → Prop where
  | nil : Strips [] []
  | sequence {control text plain : Text} (found : IsSequence control) (rest : Strips text plain) :
      Strips (control ++ text) plain
  | char {c : Char} {text plain : Text}
      (other : ∀ control, IsSequence control → ¬control <+: c :: text) (rest : Strips text plain) :
      Strips (c :: text) (c :: plain)

section Sequences

variable {text rest plain : Text} {c : Char}

theorem isSequencePart_of_isAlpha (letter : c.isAlpha = true) : isSequencePart c = false := by
  have digit := isDigit_of_isAlpha letter
  have semicolon : c ≠ ';' := by
    rintro rfl
    cases letter
  have question : c ≠ '?' := by
    rintro rfl
    cases letter
  simp [isSequencePart, digit, semicolon, question]

theorem afterSequence?_eq_some_iff :
    afterSequence? text = some rest ↔
      ∃ control, IsSequence control ∧ '\x1b' :: '[' :: text = control ++ rest := by
  constructor
  · intro found
    obtain ⟨whole, inside, _⟩ := exists_run isSequencePart text
    unfold afterSequence? at found
    split at found
    · next c behind shape =>
      split at found
      · next letter =>
        obtain rfl := Option.some.inj found
        refine ⟨_, .intro _ c inside letter, ?_⟩
        rw [shape] at whole
        simpa using whole
      · cases found
    · cases found
  · rintro ⟨_, ⟨parameters, letter, inside, final⟩, whole⟩
    simp only [List.cons_append, List.cons.injEq, true_and, List.append_assoc, List.nil_append]
      at whole
    have stops : ∀ d ∈ (letter :: rest).head?, isSequencePart d = false := by
      rintro d ⟨⟩
      exact isSequencePart_of_isAlpha final
    rw [whole, afterSequence?, dropWhile_run inside stops]
    exact if_pos final

theorem afterSequence?_eq_none_iff :
    afterSequence? text = none ↔
      ∀ control, IsSequence control → ¬control <+: '\x1b' :: '[' :: text := by
  constructor
  · rintro missed control found ⟨behind, whole⟩
    have after := afterSequence?_eq_some_iff.mpr ⟨control, found, whole.symm⟩
    cases missed.symm.trans after
  · intro none
    cases after : afterSequence? text with
    | none => rfl
    | some behind =>
        obtain ⟨control, found, whole⟩ := afterSequence?_eq_some_iff.mp after
        exact absurd ⟨behind, whole.symm⟩ (none control found)

theorem stripSequences_of_sequence (found : afterSequence? text = some rest) :
    stripSequences ('\x1b' :: '[' :: text) = stripSequences rest := by
  rw [stripSequences]
  split
  · next remaining same =>
    rw [Option.some.inj (found.symm.trans same)]
  · next missed => cases found.symm.trans missed

theorem stripSequences_of_char (other : ∀ control, IsSequence control → ¬control <+: c :: text) :
    stripSequences (c :: text) = c :: stripSequences text := by
  by_cases opens : c = '\x1b' ∧ ∃ more, text = '[' :: more
  · obtain ⟨rfl, more, rfl⟩ := opens
    have missed := afterSequence?_eq_none_iff.mpr other
    rw [stripSequences]
    split
    · next found => cases missed.symm.trans found
    · rfl
  · rw [stripSequences]
    intro more escape bracket
    exact opens ⟨escape, more, bracket⟩

/-- What is stripped is what is left without the control sequences, and nothing else is. -/
theorem eq_of_strips (strips : Strips text plain) : plain = stripSequences text := by
  induction strips with
  | nil => rw [stripSequences]
  | @sequence control text plain found rest ih =>
      obtain ⟨parameters, letter, inside, final⟩ := found
      have after : afterSequence? (parameters ++ [letter] ++ text) = some text :=
        afterSequence?_eq_some_iff.mpr ⟨_, .intro parameters letter inside final, rfl⟩
      exact ih.trans (stripSequences_of_sequence after).symm
  | char other rest ih => rw [ih, stripSequences_of_char other]

theorem strips_stripSequences (text : Text) : Strips text (stripSequences text) := by
  induction text using stripSequences.induct with
  | case1 rest remaining after ih =>
      obtain ⟨control, found, whole⟩ := afterSequence?_eq_some_iff.mp after
      rw [stripSequences_of_sequence after, whole]
      exact .sequence found ih
  | case2 rest missed ih =>
      have other := afterSequence?_eq_none_iff.mp missed
      rw [stripSequences_of_char other]
      exact .char other ih
  | case3 c rest plainStart ih =>
      have other : ∀ control, IsSequence control → ¬control <+: c :: rest := by
        rintro _ ⟨parameters, letter, _, _⟩ ⟨behind, whole⟩
        obtain ⟨escape, bracket⟩ := List.cons.inj whole
        exact plainStart _ escape.symm bracket.symm
      rw [stripSequences_of_char other]
      exact .char other ih
  | case4 =>
      rw [stripSequences]
      exact .nil

theorem Strips.line (strips : Strips text plain) : Strips (text ++ ['\n']) (plain ++ ['\n']) := by
  induction strips with
  | nil =>
      refine .char ?_ .nil
      rintro _ ⟨parameters, letter, _, _⟩ ⟨behind, whole⟩
      cases whole
  | sequence found rest ih =>
      rw [List.append_assoc]
      exact .sequence found ih
  | @char c text plain other rest ih =>
      refine .char ?_ ih
      intro control found within
      -- A control sequence ends with a letter, so it does not reach the line end.
      rcases List.prefix_concat_iff.mp (show control <+: (c :: text) ++ ['\n'] from within) with
        whole | inside
      · obtain ⟨parameters, letter, _, final⟩ := found
        rw [← List.cons_append, ← List.cons_append] at whole
        obtain rfl : letter = '\n' := List.singleton_inj.mp (List.append_inj_right' whole rfl)
        cases final
      · exact other control found inside

end Sequences

theorem echo_of_strips {message plain : Text} (strips : Strips message plain) :
    echo message = plain ++ ['\n'] :=
  (eq_of_strips strips.line).symm

end Stylesheet.Command
