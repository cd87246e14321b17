import Stylesheet.Command.Run
import Stylesheet.Proofs.Text.Run

/-!
Command lines as they are written. An option stands in one of several forms, options and other words
stand in any order, and two dashes make words of all that follows. Where the options of a table can
be told apart, a line is read as it was written.
-/

namespace Stylesheet.Command

section Lines

variable {Key : Type}

/-- The options of a table can be told apart: long names have two dashes and a name behind them,
no equals sign, and no dash is a short name; no name is given twice. -/
structure Distinguishable (switches : List (Switch Key)) : Prop where
  dashes : ∀ switch ∈ switches, switch.long.take 2 = ['-', '-'] ∧ 2 < switch.long.length
  unequal : ∀ switch ∈ switches, '=' ∉ switch.long
  noDash : ∀ switch ∈ switches, switch.short ≠ some '-'
  longOnce : switches.Pairwise fun one other => one.long ≠ other.long
  shortOnce : switches.Pairwise fun one other => one.short = none ∨ one.short ≠ other.short

/-- The words that give an option: a long or a short name, and the value in a word of its own or in
the same word. -/
inductive Written (switches : List (Switch Key)) : Key × Text → List Text → Prop where
  | long {switch : Switch Key} (known : switch ∈ switches) (bare : switch.takesValue = false) :
      Written switches (switch.key, []) [switch.long]
  | short {switch : Switch Key} {c : Char} (known : switch ∈ switches)
      (bare : switch.takesValue = false) (named : switch.short = some c) :
      Written switches (switch.key, []) [['-', c]]
  | longApart {switch : Switch Key} (value : Text) (known : switch ∈ switches)
      (valued : switch.takesValue = true) :
      Written switches (switch.key, value) [switch.long, value]
  | longJoined {switch : Switch Key} (value : Text) (known : switch ∈ switches)
      (valued : switch.takesValue = true) :
      Written switches (switch.key, value) [switch.long ++ '=' :: value]
  | shortApart {switch : Switch Key} {c : Char} (value : Text) (known : switch ∈ switches)
      (valued : switch.takesValue = true) (named : switch.short = some c) :
      Written switches (switch.key, value) [['-', c], value]
  | shortJoined {switch : Switch Key} {c : Char} {value : Text} (known : switch ∈ switches)
      (valued : switch.takesValue = true) (named : switch.short = some c) (filled : value ≠ []) :
      Written switches (switch.key, value) ['-' :: c :: value]

/-- A line that gives options and other words, each in their order. -/
inductive Line (switches : List (Switch Key)) :
    (options : List (Key × Text)) → (words line : List Text) → Prop where
  | nil : Line switches [] [] []
  | ended (words : List Text) : Line switches [] words (['-', '-'] :: words)
  | option {option : Key × Text} {options : List (Key × Text)} {spelled words line : List Text}
      (written : Written switches option spelled) (rest : Line switches options words line) :
      Line switches (option :: options) words (spelled ++ line)
  | word {word : Text} {options : List (Key × Text)} {words line : List Text}
      (plain : isSwitchWord word = false) (rest : Line switches options words line) :
      Line switches options (word :: words) (word :: line)

/-! Finding an option by its name -/

/-- What only one member of a list has is found. -/
theorem find?_of_apart {α : Type} {apart : α → α → Prop} {p : α → Bool} {items : List α} {item : α}
    (once : items.Pairwise apart) (exclusive : ∀ one other, apart one other → p one = true →
      p other = false) (member : item ∈ items) (holds : p item = true) :
    items.find? p = some item := by
  induction once with
  | nil => cases member
  | @cons first items differs _ ih =>
      rcases List.mem_cons.mp member with rfl | later
      · exact List.find?_cons_of_pos holds
      · cases hit : p first with
        | false =>
            rw [List.find?_cons_of_neg (by simp [hit])]
            exact ih later
        | true => cases holds.symm.trans (exclusive first item (differs item later) hit)

variable {switches : List (Switch Key)} {switch : Switch Key} {c : Char}

theorem Distinguishable.find?_long (table : Distinguishable switches) (known : switch ∈ switches) :
    switches.find? (·.long == switch.long) = some switch := by
  refine find?_of_apart table.longOnce ?_ known (beq_self_eq_true switch.long)
  intro one other differs hit
  rw [beq_eq_false_iff_ne, ← beq_iff_eq.mp hit]
  exact differs.symm

theorem Distinguishable.find?_short (table : Distinguishable switches) (known : switch ∈ switches)
    (named : switch.short = some c) : switches.find? (·.short == some c) = some switch := by
  refine find?_of_apart table.shortOnce ?_ known ?_
  · intro one other differs hit
    have short := beq_iff_eq.mp hit
    rw [beq_eq_false_iff_ne, ← short]
    rcases differs with unnamed | differs
    · cases unnamed.symm.trans short
    · exact differs.symm
  · exact beq_iff_eq.mpr named

/-- A long name as the characters it starts with. -/
theorem Distinguishable.exists_long (table : Distinguishable switches) (known : switch ∈ switches) :
    ∃ c letters, switch.long = '-' :: '-' :: c :: letters := by
  obtain ⟨dashes, longer⟩ := table.dashes switch known
  rcases long : switch.long with _ | ⟨first, _ | ⟨second, _ | ⟨third, letters⟩⟩⟩
  · simp [long] at longer
  · simp [long] at longer
  · simp [long] at longer
  · rw [long] at dashes
    simp only [List.take_succ_cons, List.take_zero, List.cons.injEq, and_true] at dashes
    exact ⟨third, letters, by rw [dashes.1, dashes.2]⟩

/-! Reading one word -/

theorem Distinguishable.takeWord_long (table : Distinguishable switches)
    (known : switch ∈ switches) :
    takeWord switches switch.long =
      if switch.takesValue then .ok ⟨[], some (switch.key, switch.long)⟩
      else .ok ⟨[(switch.key, [])], none⟩ := by
  have absent := table.unequal switch known
  simp only [takeWord, takeWhile_of_absent absent, dropWhile_of_absent absent,
    table.find?_long known]
  rfl

theorem Distinguishable.takeWord_joined (table : Distinguishable switches)
    (known : switch ∈ switches) (valued : switch.takesValue = true) (value : Text) :
    takeWord switches (switch.long ++ '=' :: value) = .ok ⟨[(switch.key, value)], none⟩ := by
  have absent := table.unequal switch known
  simp only [takeWord, takeWhile_until absent, dropWhile_until absent, table.find?_long known,
    List.tail?_cons, valued, if_true]

theorem Distinguishable.takeWord_short (table : Distinguishable switches) (single : c ≠ '-')
    (more : Text) : takeWord switches ('-' :: c :: more) = takeShort switches (c :: more) := by
  have unknown : switches.find? (·.long == ('-' :: c :: more).takeWhile (· != '=')) = none := by
    apply List.find?_eq_none.mpr
    intro other known same
    obtain ⟨d, letters, long⟩ := table.exists_long known
    have front : other.long <+: '-' :: c :: more :=
      (beq_iff_eq.mp same).symm ▸ List.takeWhile_prefix _
    rw [long, List.cons_prefix_cons, List.cons_prefix_cons] at front
    exact single front.2.1.symm
  have dashes : Text.after? ['-', '-'] ('-' :: c :: more) = none := by
    simp [Text.after?, single.symm]
  simp only [takeWord, unknown, dashes, Option.isSome_none, Bool.false_eq_true, if_false,
    List.drop_succ_cons, List.drop_zero]

section Short

variable (table : Distinguishable switches) (known : switch ∈ switches)
  (named : switch.short = some c)

include table known named

theorem Distinguishable.takeShort_bare (bare : switch.takesValue = false) :
    takeShort switches [c] = .ok ⟨[(switch.key, [])], none⟩ := by
  simp only [takeShort, table.find?_short known named, bare, Bool.false_eq_true, if_false]
  rfl

theorem Distinguishable.takeShort_apart (valued : switch.takesValue = true) :
    takeShort switches [c] = .ok ⟨[], some (switch.key, ['-', c])⟩ := by
  simp only [takeShort, table.find?_short known named, valued, if_true, List.isEmpty_nil]

theorem Distinguishable.takeShort_joined (valued : switch.takesValue = true) {value : Text}
    (filled : value ≠ []) : takeShort switches (c :: value) = .ok ⟨[(switch.key, value)], none⟩ := by
  simp only [takeShort, table.find?_short known named, valued, if_true, List.isEmpty_iff, filled,
    if_false]

end Short

/-! Reading a line -/

section Reading

variable {mixed : Bool} {word value : Text} {line : List Text} {later : Given Key}
  {options : List (Key × Text)}

/-- A word that is read as an option. -/
structure IsOption (word : Text) : Prop where
  single : word ≠ ['-', '-']
  dashed : isSwitchWord word = true

theorem Distinguishable.isOption_long (table : Distinguishable switches) (known : switch ∈ switches)
    (more : Text) : IsOption (switch.long ++ more) := by
  obtain ⟨d, letters, long⟩ := table.exists_long known
  rw [long]
  exact ⟨by simp, by simp [isSwitchWord]⟩

theorem isOption_short (single : c ≠ '-') (more : Text) : IsOption ('-' :: c :: more) :=
  ⟨by simp [single], by simp [isSwitchWord]⟩

theorem Distinguishable.ne_dash (table : Distinguishable switches) (known : switch ∈ switches)
    (named : switch.short = some c) : c ≠ '-' := by
  rintro rfl
  exact table.noDash switch known named

theorem IsOption.readWords_of_taken (isOption : IsOption word)
    (taken : takeWord switches word = .ok ⟨options, none⟩)
    (read : readWords switches mixed line = .ok later) :
    readWords switches mixed (word :: line) =
      .ok { later with options := options ++ later.options } := by
  rw [readWords, if_neg isOption.single, if_pos isOption.dashed, taken]
  simp only [read]
  rfl

theorem IsOption.readWords_of_pending (isOption : IsOption word) {key : Key} {name : Text}
    (taken : takeWord switches word = .ok ⟨options, some (key, name)⟩)
    (read : readWords switches mixed line = .ok later) :
    readWords switches mixed (word :: value :: line) =
      .ok { later with options := options ++ (key, value) :: later.options } := by
  rw [readWords, if_neg isOption.single, if_pos isOption.dashed, taken]
  simp only [read]
  rfl

/-- An option at the head of a line is read in front of all others. -/
theorem Distinguishable.readWords_of_written (table : Distinguishable switches)
    {option : Key × Text} {spelled : List Text} (written : Written switches option spelled)
    (read : readWords switches mixed line = .ok later) :
    readWords switches mixed (spelled ++ line) =
      .ok { later with options := option :: later.options } := by
  cases written with
  | @long switch known bare =>
      have taken := table.takeWord_long known
      rw [bare, if_neg Bool.false_ne_true] at taken
      have isOption := table.isOption_long known []
      rw [List.append_nil] at isOption
      exact isOption.readWords_of_taken taken read
  | short known bare named =>
      have single := table.ne_dash known named
      have taken := (table.takeWord_short single []).trans (table.takeShort_bare known named bare)
      exact (isOption_short single []).readWords_of_taken taken read
  | @longApart switch value known valued =>
      have taken := table.takeWord_long known
      rw [valued, if_pos rfl] at taken
      have isOption := table.isOption_long known []
      rw [List.append_nil] at isOption
      exact isOption.readWords_of_pending taken read
  | longJoined value known valued =>
      have taken := table.takeWord_joined known valued value
      exact (table.isOption_long known _).readWords_of_taken taken read
  | shortApart value known valued named =>
      have single := table.ne_dash known named
      have taken := (table.takeWord_short single []).trans
        (table.takeShort_apart known named valued)
      exact (isOption_short single []).readWords_of_pending taken read
  | shortJoined known valued named filled =>
      have single := table.ne_dash known named
      have taken := (table.takeWord_short single _).trans
        (table.takeShort_joined known named valued filled)
      exact (isOption_short single _).readWords_of_taken taken read

theorem Distinguishable.readWords_of_line (table : Distinguishable switches)
    {words : List Text} (written : Line switches options words line) :
    readWords switches true line = .ok ⟨options, words⟩ := by
  induction written with
  | nil => rfl
  | ended words => rw [readWords, if_pos rfl]
  | option written rest ih => exact table.readWords_of_written written ih
  | @word word options words line plain rest ih =>
      have other : word ≠ ['-', '-'] := by
        rintro rfl
        cases plain
      rw [readWords, if_neg other, plain, if_neg Bool.false_ne_true, if_pos rfl]
      simp only [ih]
      rfl

end Reading

end Lines

/-! Calling a command -/

theorem distinguishable_main : Distinguishable mainSwitches where
  dashes := by decide
  unequal := by decide
  noDash := by decide
  longOnce := by decide
  shortOnce := by decide

/-- The words that call a command with a line behind its name. The program may be told before that
to show its log. -/
inductive Calls (command : Text) (line : List Text) : (verbose : Bool) → (words : List Text) → Prop
    where
  | plain : Calls command line false (command :: line)
  | verbose {flag : Text} {before : Bool} {words : List Text}
      (written : Written mainSwitches (.verbose, []) [flag])
      (rest : Calls command line before words) : Calls command line true (flag :: words)

section Calling

variable {command : Text} {line words : List Text} {verbose : Bool}

theorem Calls.exists_options (called : Calls command line verbose words)
    (plain : isSwitchWord command = false) :
    ∃ options, readWords mainSwitches false words = .ok ⟨options, command :: line⟩ ∧
      (∀ option ∈ options, option.1 = .verbose) ∧
      Given.has ⟨options, command :: line⟩ .verbose = verbose := by
  induction called with
  | plain =>
      have other : command ≠ ['-', '-'] := by
        rintro rfl
        cases plain
      refine ⟨[], ?_, by simp, rfl⟩
      rw [readWords, if_neg other, plain, if_neg Bool.false_ne_true, if_neg Bool.false_ne_true]
  | verbose written rest ih =>
      obtain ⟨options, read, only, _⟩ := ih
      refine ⟨_, distinguishable_main.readWords_of_written written read, ?_, ?_⟩
      · exact List.forall_mem_cons.mpr ⟨rfl, only⟩
      · simp [Given.has]

theorem Calls.run_eq (called : Calls command line verbose words)
    (plain : isSwitchWord command = false) (files : Files) :
    run files words = runNamed files verbose command line := by
  obtain ⟨options, read, only, shown⟩ := called.exists_options plain
  have filled : words.isEmpty = false := by
    cases called with
    | plain => rfl
    | verbose => rfl
  have asked : options.find? (fun option => option.1 ≠ .verbose) = none := by
    apply List.find?_eq_none.mpr
    intro option member
    simp [only option member]
  simp only [run, filled, Bool.false_eq_true, if_false, read, asked, shown]

end Calling

end Stylesheet.Command
