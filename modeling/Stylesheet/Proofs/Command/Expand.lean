import Mathlib.Data.List.Forall2
import Mathlib.Data.List.Induction
import Stylesheet.Proofs.Command.Echo
import Stylesheet.Proofs.Command.Line
import Stylesheet.Proofs.Expander.Contract

/-!
Expanding a file from the command line. The options of a call, in whatever order and form they are
written, describe an expander and what is asked of it. What the program reports is what that
expander answers for the text of the file: its output, or its error, or neither if a variable is not
given as a name and a value.
-/

namespace Stylesheet.Command

/-! What a call asks for -/

inductive Request where
  | css
  | script
  | flatten
  | keepNested
  | define (item : Text)
  | depthLimit (numeral : Text) (limit : Int) (reads : Text.integer? numeral = some limit)

namespace Request

/-- The option that makes a request, with its value. -/
def option : Request → ExpandKey × Text
  | css => (.language, "css".toList)
  | script => (.language, "js".toList)
  | flatten => (.flatten, [])
  | keepNested => (.keepNested, [])
  | define item => (.define, item)
  | depthLimit numeral _ _ => (.maxDepth, numeral)

def dialect? : Request → Option Dialect
  | css => some .css
  | script => some .script
  | _ => none

def flattens? : Request → Option Bool
  | flatten => some true
  | keepNested => some false
  | _ => none

def item? : Request → Option Text
  | define item => some item
  | _ => none

def limit? : Request → Option Int
  | depthLimit _ limit _ => some limit
  | _ => none

/-- What is asked for last, or else what is so without being asked for. -/
def last {α : Type} (asked? : Request → Option α) (unasked : α) (requests : List Request) : α :=
  (requests.filterMap asked?).getLast?.getD unasked

end Request

/-- What a call of the command asks for, in the order of its options. -/
abbrev Requests := List Request

namespace Requests

variable (requests : Requests)

def dialect : Dialect := Request.last Request.dialect? .css requests

def limit : Int := Request.last Request.limit? Settings.standard.depthLimit requests

def flattens : Bool := Request.last Request.flattens? true requests

def items : List Text := requests.filterMap Request.item?

/-- A fresh expander of the language and the depth limit that are asked for, with variables set one
after the other. -/
def library (definitions : List (Text × Text)) : Expander :=
  definitions.foldl (fun expander definition => expander.setVariable definition.1 definition.2)
    (.new requests.dialect { Settings.standard with depthLimit := requests.limit })

/-- What the expander is to do with a text. Only stylesheets are flattened. -/
def step (text : Text) : Expander.Step :=
  if requests.dialect = .css ∧ requests.flattens = true then .expandAndFlatten text else .expand text

end Requests

/-- The item sets a variable: what stands in front of its first equals sign is the name, less the
blanks around it, and all that stands behind it is the value. -/
structure Assigns (item : Text) (definition : Text × Text) : Prop where
  split : ∃ front, item = front ++ '=' :: definition.2 ∧ '=' ∉ front ∧ definition.1 = front.trim
  named : definition.1 ≠ []

/-- The value that the last of the definitions of a name gives it. -/
def lastValue? (name : Text) (definitions : List (Text × Text)) : Option Text :=
  (definitions.filter fun definition => definition.1 = name).getLast?.map (·.2)

/-- The item has no equals sign, or nothing but blanks in front of the first one. -/
inductive Unassigning (item : Text) : Prop where
  | unequal (absent : '=' ∉ item)
  | unnamed (front value : Text) (whole : item = front ++ '=' :: value) (first : '=' ∉ front)
      (blank : front.isBlankText = true)

/-- What is reported of an expander's answer: the text that it returns, or its error, plain and on a
line of its own. The log of the expander goes to the other stream, if it is to be shown. -/
inductive Reports (verbose : Bool) : Except Error Expander.Answer × Expander → Report → Prop where
  | text {output plain : Text} {after : Expander} (strips : Strips output plain) :
      Reports verbose (.ok (.text output), after) ⟨0, plain ++ ['\n'], logText verbose after⟩
  | error {error : Error} {plain : Text} {after : Expander}
      (strips : Strips ("Error: ".toList ++ error.message) plain) :
      Reports verbose (.error error, after) ⟨1, [], logText verbose after ++ (plain ++ ['\n'])⟩

/-! Reading the options -/

section Options

variable (requests : Requests) (words : List Text)

/-- Options of one kind are read as what the requests behind them ask for. -/
theorem filter_of_requests {α β : Type} (isAsked : ExpandKey × Text → Bool)
    (asked? : Request → Option α) (read : ExpandKey × Text → β) (found : α → β)
    (agrees : ∀ request : Request, (asked? request).map found =
      if isAsked request.option then some (read request.option) else none) :
    ((requests.map Request.option).filter isAsked).map read =
      (requests.filterMap asked?).map found := by
  induction requests with
  | nil => rfl
  | cons request requests ih =>
      have first := agrees request
      rw [List.map_cons]
      cases hit : isAsked request.option with
      | true =>
          rw [hit, if_pos rfl] at first
          obtain ⟨value, asked, same⟩ := Option.map_eq_some_iff.mp first
          rw [List.filter_cons_of_pos hit, List.map_cons, ih, ← same,
            List.filterMap_cons_some asked, List.map_cons]
      | false =>
          rw [hit, if_neg Bool.false_ne_true, Option.map_eq_none_iff] at first
          rw [List.filter_cons_of_neg (by simp [hit]), ih, List.filterMap_cons_none first]

theorem values_define :
    (Given.mk (requests.map Request.option) words).values .define = requests.items := by
  have read := filter_of_requests requests (fun option => option.1 = .define) Request.item? Prod.snd
    id (by intro request; cases request <;> rfl)
  rwa [List.map_id] at read

/-- Of an option that may be given more than once the last one is read. -/
theorem read_last {α : Type} (key : ExpandKey) (asked? : Request → Option α)
    (read : Text → Except Text α) (unasked : α)
    (agrees : ∀ request : Request, (asked? request).map Except.ok =
      if request.option.1 = key then some (read request.option.2) else none) :
    (((Given.mk (requests.map Request.option) words).value? key).map read).getD (.ok unasked) =
      .ok (Request.last asked? unasked requests) := by
  have values : ((Given.mk (requests.map Request.option) words).values key).map read =
      (requests.filterMap asked?).map Except.ok := by
    rw [Given.values, List.map_map]
    apply filter_of_requests
    intro request
    rw [agrees]
    simp only [decide_eq_true_eq, Function.comp_def]
  rw [Given.value?, ← List.getLast?_map, values, List.getLast?_map, Request.last]
  cases (requests.filterMap asked?).getLast? with
  | none => rfl
  | some value => rfl

theorem readSetup_of_requests :
    readSetup ⟨requests.map Request.option, words⟩ = .ok (requests.dialect, requests.limit) := by
  have dialect := read_last requests words .language Request.dialect? readDialect .css
    (by intro request; cases request <;> rfl)
  have depth := read_last requests words .maxDepth Request.limit? readDepth
    Settings.standard.depthLimit (by
      intro request
      cases request with
      | depthLimit numeral limit reads => simp [Request.limit?, Request.option, readDepth, reads]
      | _ => rfl)
  simp only [readSetup, dialect, depth]
  cases (requests.map Request.option).find? fun entry =>
      entry.1 = .language ∨ entry.1 = .maxDepth with
  | none => rfl
  | some option =>
      obtain ⟨key, value⟩ := option
      cases key <;> rfl

theorem flattens_of_requests :
    flattens ⟨requests.map Request.option, words⟩ = requests.flattens := by
  have read := filter_of_requests requests
    (fun option => option.1 = .flatten ∨ option.1 = .keepNested) Request.flattens?
    (fun option => decide (option.1 ≠ .keepNested)) id (by intro request; cases request <;> rfl)
  rw [List.map_id] at read
  rw [Requests.flattens, Request.last, ← read, List.getLast?_map, flattens]
  cases ((requests.map Request.option).filter fun option =>
      option.1 = .flatten ∨ option.1 = .keepNested).getLast? with
  | none => rfl
  | some option =>
      obtain ⟨key, value⟩ := option
      cases key <;> rfl

end Options

/-! Reading the variables -/

section Definitions

variable {item : Text}

theorem trim_eq_nil_iff {text : Text} : text.trim = [] ↔ text.isBlankText = true := by
  constructor
  · intro empty
    obtain ⟨before, whole, first⟩ := Text.exists_append_trimStart text
    obtain ⟨behind, rest, last⟩ := Text.exists_trimEnd_append text.trimStart
    rw [← Text.trim, empty, List.nil_append] at rest
    rw [← whole, ← rest]
    exact List.all_eq_true.mpr fun c member => (List.mem_append.mp member).elim (first c) (last c)
  · intro blank
    rw [Text.trim, Text.trimStart_of_blank (List.all_eq_true.mp blank)]
    rfl

theorem readDefinition_of_split {front value : Text} (first : '=' ∉ front) :
    readDefinition (front ++ '=' :: value) =
      if front.isBlankText then
        .error ("Invalid value for --define: expected NAME=VALUE, got ".toList ++
          Text.quoted (front ++ '=' :: value))
      else .ok (front.trim, value) := by
  simp only [readDefinition, takeWhile_until first, dropWhile_until first]
  cases blank : front.isBlankText with
  | true =>
      rw [trim_eq_nil_iff.mpr blank]
      rfl
  | false =>
      have named : front.trim.isEmpty = false := by
        rw [Bool.eq_false_iff, ne_eq, List.isEmpty_iff, trim_eq_nil_iff, blank]
        exact Bool.false_ne_true
      rw [named]
      rfl

theorem readDefinition_of_unassigning (faulty : Unassigning item) :
    ∃ message, readDefinition item = .error message := by
  cases faulty with
  | unequal absent =>
      simp only [readDefinition, dropWhile_of_absent absent]
      exact ⟨_, rfl⟩
  | unnamed front value whole first blank =>
      rw [whole, readDefinition_of_split first, if_pos blank]
      exact ⟨_, rfl⟩

theorem exists_definition (sound : ¬Unassigning item) :
    ∃ definition, readDefinition item = .ok definition ∧ Assigns item definition := by
  by_cases equal : '=' ∈ item
  · obtain ⟨front, value, whole, first⟩ := List.eq_append_cons_of_mem equal
    have named : ¬Text.isBlankText front = true := fun blank =>
      sound (.unnamed front value whole first blank)
    refine ⟨(Text.trim front, value), ?_, ⟨front, whole, first, rfl⟩, mt trim_eq_nil_iff.mp named⟩
    rw [whole, readDefinition_of_split first, if_neg named]
  · exact absurd (.unequal equal) sound

/-- One item that sets no variable is enough to refuse all. -/
theorem mapM_readDefinition_of_unassigning {items : List Text}
    (faulty : ∃ item ∈ items, Unassigning item) :
    ∃ message, items.mapM readDefinition = .error message := by
  induction items with
  | nil => simp at faulty
  | cons item items ih =>
      rw [List.mapM_cons]
      cases read : readDefinition item with
      | error message => exact ⟨message, rfl⟩
      | ok definition =>
          obtain ⟨other, member, bad⟩ := faulty
          rcases List.mem_cons.mp member with rfl | later
          · obtain ⟨message, refused⟩ := readDefinition_of_unassigning bad
            cases read.symm.trans refused
          · obtain ⟨message, refused⟩ := ih ⟨other, later, bad⟩
            exact ⟨message, by rw [refused]; rfl⟩

theorem mapM_readDefinition_of_assigning {items : List Text}
    (sound : ∀ item ∈ items, ¬Unassigning item) :
    ∃ definitions, items.mapM readDefinition = .ok definitions ∧
      List.Forall₂ Assigns items definitions := by
  induction items with
  | nil => exact ⟨[], rfl, .nil⟩
  | cons item items ih =>
      obtain ⟨definition, read, assigns⟩ := exists_definition (sound item List.mem_cons_self)
      obtain ⟨definitions, later, all⟩ :=
        ih fun other member => sound other (List.mem_cons_of_mem item member)
      refine ⟨definition :: definitions, ?_, .cons assigns all⟩
      rw [List.mapM_cons, read, later]
      rfl

end Definitions

/-! Running the command -/

theorem distinguishable_expand : Distinguishable expandSwitches where
  dashes := by decide
  unequal := by decide
  noDash := by decide
  longOnce := by decide
  shortOnce := by decide

section Running

variable {files : Files} {requests : Requests} {source content : Text} {verbose : Bool}
  {line : List Text}

theorem noHelp (requests : Requests) (words : List Text) :
    Given.has ⟨requests.map Request.option, words⟩ .help = false := by
  rw [Given.has, List.any_map, List.any_eq_false]
  intro request _
  cases request <;> exact Bool.false_ne_true

theorem runNamed_of_error {message : Text}
    (written : Line expandSwitches (requests.map Request.option) [source] line)
    (refused : expandJob files verbose ⟨requests.map Request.option, [source]⟩ = .error message) :
    runNamed files verbose "expand".toList line = Page.expand.refuse message := by
  rw [runNamed, if_pos rfl, runCommand, distinguishable_expand.readWords_of_line written]
  simp only [noHelp, refused, Bool.false_eq_true, if_false]

theorem runNamed_of_ok {report : Report}
    (written : Line expandSwitches (requests.map Request.option) [source] line)
    (done : expandJob files verbose ⟨requests.map Request.option, [source]⟩ = .ok report) :
    runNamed files verbose "expand".toList line = report := by
  rw [runNamed, if_pos rfl, runCommand, distinguishable_expand.readWords_of_line written]
  simp only [noHelp, done, Bool.false_eq_true, if_false]

theorem fileText_of_file (stands : files source = some (.file content)) (role : String) :
    fileText files role [source] = .ok content.unixLines := by
  simp only [fileText, stands]

/-- The computation that the command runs on an expander. -/
def Requests.action (requests : Requests) (expander : Expander) (text : Text) : Expansion Text :=
  if requests.dialect = .css && requests.flattens then expander.flatExpansion text
  else expander.expansion text

theorem perform_step (requests : Requests) (expander : Expander) (text : Text) :
    expander.perform (requests.step text) =
      expander.run (.text <$> requests.action expander text) := by
  by_cases flat : requests.dialect = .css ∧ requests.flattens = true
  · rw [Requests.step, if_pos flat, Requests.action, if_pos (by simpa using flat)]
    rfl
  · rw [Requests.step, if_neg flat, Requests.action, if_neg (by simpa using flat)]
    rfl

theorem expandJob_of_error {message : Text} (stands : files source = some (.file content))
    (refused : requests.items.mapM readDefinition = .error message) :
    expandJob files verbose ⟨requests.map Request.option, [source]⟩ = .error message := by
  rw [expandJob, readSetup_of_requests, fileText_of_file stands, values_define, refused]
  rfl

theorem expandJob_of_ok {definitions : List (Text × Text)}
    (stands : files source = some (.file content))
    (read : requests.items.mapM readDefinition = .ok definitions) :
    expandJob files verbose ⟨requests.map Request.option, [source]⟩ =
      .ok (report verbose (requests.library definitions)
        (requests.action (requests.library definitions) content.unixLines >>= fun output =>
          pure [output])) := by
  rw [expandJob, readSetup_of_requests, fileText_of_file stands, values_define,
    flattens_of_requests, read]
  rfl

theorem reports_report (verbose : Bool) (expander : Expander) (action : Expansion Text) :
    Reports verbose (expander.run (.text <$> action))
      (report verbose expander (action >>= fun output => pure [output])) := by
  rw [map_eq_pure_bind, report]
  cases ran : expander.run action with
  | mk outcome after =>
      cases outcome with
      | ok output =>
          rw [Expander.run_bind_of_ok ran, Expander.run_bind_of_ok ran]
          have strips := strips_stripSequences output
          have line : ([output] : List Text).flatMap echo = stripSequences output ++ ['\n'] := by
            rw [List.flatMap_singleton, echo_of_strips strips]
          change Reports verbose (.ok (.text output), after)
            ⟨0, [output].flatMap echo, logText verbose after⟩
          rw [line]
          exact .text strips
      | error error =>
          rw [Expander.run_bind_of_error ran, Expander.run_bind_of_error ran]
          have strips := strips_stripSequences ("Error: ".toList ++ error.message)
          change Reports verbose (.error error, after)
            ⟨1, [], logText verbose after ++ echo ("Error: ".toList ++ error.message)⟩
          rw [echo_of_strips strips]
          exact .error strips

/-- The variables of the expander are those defined, each with the value that it is given last. -/
theorem get?_library (requests : Requests) (definitions : List (Text × Text)) (name : Text) :
    (requests.library definitions).memory.globals.get? name = lastValue? name definitions := by
  induction definitions using List.reverseRecOn with
  | nil => rfl
  | append_singleton definitions definition ih =>
      have set : (requests.library (definitions ++ [definition])).memory.globals =
          (requests.library definitions).memory.globals.put definition.1 definition.2 := by
        rw [Requests.library, List.foldl_append]
        rfl
      rw [set, lastValue?, List.filter_append]
      by_cases same : definition.1 = name
      · subst same
        rw [Table.get?_put_self, List.filter_cons_of_pos (by simp), List.filter_nil,
          List.getLast?_concat]
        rfl
      · rw [Table.get?_put_other _ _ (Ne.symm same), ih,
          List.filter_cons_of_neg (by simpa using same), List.filter_nil, List.append_nil]
        rfl

end Running

/-- The command agrees with the library. For every file and every call that names it, with options
in any order and form, the report is that of a fresh expander with the language, the limit and the
variables that the options ask for, on the text of the file with its line ends as line feeds. Where
an item sets no variable the call is refused. -/
theorem run_agrees_with_library {files : Files} {source content : Text} {requests : Requests}
    {verbose : Bool} {line words : List Text}
    (written : Line expandSwitches (requests.map Request.option) [source] line)
    (called : Calls "expand".toList line verbose words)
    (stands : files source = some (.file content)) :
    ((∃ item ∈ requests.items, Unassigning item) →
        (run files words).exit = 2 ∧ (run files words).out = []) ∧
      ((∀ item ∈ requests.items, ¬Unassigning item) →
        ∃ definitions, List.Forall₂ Assigns requests.items definitions ∧
          (∀ name, (requests.library definitions).memory.globals.get? name =
            lastValue? name definitions) ∧
          Reports verbose
            ((requests.library definitions).perform (requests.step content.unixLines))
            (run files words)) := by
  rw [called.run_eq rfl]
  constructor
  · intro faulty
    obtain ⟨message, refused⟩ := mapM_readDefinition_of_unassigning faulty
    rw [runNamed_of_error written (expandJob_of_error stands refused)]
    exact ⟨rfl, rfl⟩
  · intro sound
    obtain ⟨definitions, read, assigns⟩ := mapM_readDefinition_of_assigning sound
    refine ⟨definitions, assigns, get?_library requests definitions, ?_⟩
    rw [runNamed_of_ok written (expandJob_of_ok stands read), perform_step]
    exact reports_report verbose _ _

def mixedLines : Text := "a \x7b\r\n b: ¤c;\r\x7d".toList

def onlyFile : Files := fun path => if path = "in.css".toList then some (.file mixedLines) else none

/-- One variable is set twice, the first time with blanks around its name and an equals sign in its
value. -/
def overridingRequests : Requests :=
  [.define " c =1=2".toList, .css, .keepNested, .define "c=3".toList,
    .depthLimit " 7".toList 7 (by decide)]

def overridingLine : List Text :=
  ["-D".toList, " c =1=2".toList, "--language=css".toList, "in.css".toList, "--no-denest".toList,
    "-Dc=3".toList, "--max-depth".toList, " 7".toList]

theorem written_overridingLine :
    Line expandSwitches (overridingRequests.map Request.option) ["in.css".toList] overridingLine :=
  .option (.shortApart _ (.tail _ (.tail _ (.tail _ (.head _)))) rfl rfl) <|
    .option (.longJoined _ (.head _) rfl) <|
      .word rfl <|
        .option (.long (.tail _ (.tail _ (.head _))) rfl) <|
          .option (.shortJoined (.tail _ (.tail _ (.tail _ (.head _)))) rfl rfl (by decide)) <|
            .option (.longApart _ (.tail _ (.tail _ (.tail _ (.tail _ (.head _))))) rfl) .nil

theorem written_unnamed :
    Line expandSwitches ([Request.define " =x".toList].map Request.option) ["in.css".toList]
      ["--define= =x".toList, "--".toList, "in.css".toList] :=
  .option (.longJoined _ (.tail _ (.tail _ (.tail _ (.head _)))) rfl) (.ended _)

theorem run_agrees_with_library_overridingLine :
    (∃ definitions, List.Forall₂ Assigns [" c =1=2".toList, "c=3".toList] definitions ∧
      (∀ name, (overridingRequests.library definitions).memory.globals.get? name =
        lastValue? name definitions) ∧
      Reports true
        ((overridingRequests.library definitions).perform
          (.expand "a \x7b\n b: ¤c;\n\x7d".toList))
        (run onlyFile ("-v".toList :: "expand".toList :: overridingLine))) ∧
      (run onlyFile
        ["expand".toList, "--define= =x".toList, "--".toList, "in.css".toList]).exit = 2 := by
  have stands : onlyFile "in.css".toList = some (.file mixedLines) := rfl
  have called : Calls "expand".toList overridingLine true
      ("-v".toList :: "expand".toList :: overridingLine) :=
    .verbose (.short (.tail _ (.head _)) rfl rfl) .plain
  constructor
  · refine (run_agrees_with_library written_overridingLine called stands).2 ?_
    have first : readDefinition " c =1=2".toList = .ok (['c'], "1=2".toList) := by decide
    have second : readDefinition "c=3".toList = .ok (['c'], ['3']) := by decide
    intro item member bad
    obtain ⟨message, refused⟩ := readDefinition_of_unassigning bad
    rcases List.mem_cons.mp member with rfl | member
    · cases first.symm.trans refused
    · cases List.mem_singleton.mp member
      cases second.symm.trans refused
  · refine ((run_agrees_with_library written_unnamed .plain stands).1 ?_).1
    exact ⟨" =x".toList, List.mem_singleton_self _, .unnamed [' '] ['x'] rfl (by decide) rfl⟩

end Stylesheet.Command
