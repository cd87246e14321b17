import Stylesheet.Command.File
import Stylesheet.Command.Page
import Stylesheet.Expander.Basic
import Stylesheet.Node.Layout
import Stylesheet.Text.Alphanumeric
import Stylesheet.Text.Integer

/-!
The commands. Each is a function of the words of the command line and the files they name.

Faults are looked for in a fixed order: options that cannot be told apart, then a request for help,
then the values of the options in the order they are given, the file, words too many, and last what
the command itself asks of its options.
-/

namespace Stylesheet.Command

/-- The file that the first word names; more words are refused after it. `role` is the name that
the help gives to the file. -/
def fileText (files : Files) (role : String) (words : List Text) : Except Text Text := do
  match words with
  | [] => .error ("Missing argument '".toList ++ role.toList ++ "'.".toList)
  | name :: extra =>
    let invalid (fault : String) : Except Text Text :=
      .error ("Invalid value for '".toList ++ role.toList ++ "': File ".toList ++ name.quoted ++
        fault.toList)
    match files name, extra with
    | none, _ => invalid " does not exist."
    | some .directory, _ => invalid " is a directory."
    | some (.file content), [] => .ok content.unixLines
    | some (.file _), [word] => .error ("Got unexpected extra argument (".toList ++ word ++ [')'])
    | some (.file _), words =>
      .error ("Got unexpected extra arguments (".toList ++ List.intercalate [' '] words ++ [')'])

def logText (verbose : Bool) (expander : Expander) : Text :=
  if verbose then expander.memory.log.flatMap logLine else []

def report (verbose : Bool) (expander : Expander) (action : Expansion (List Text)) : Report :=
  match expander.run action with
  | (.ok messages, after) => .success messages (logText verbose after)
  | (.error error, after) => .failure error (logText verbose after)

/-- Reads the options of a command, shows its help where that is asked for, and does the job. -/
def runCommand {Key : Type} [DecidableEq Key] (page : Page) (switches : List (Switch Key))
    (help : Key) (job : Given Key → Except Text Report) (words : List Text) : Report :=
  match readWords switches true words with
  | .error fault => page.refuseSwitch fault
  | .ok given =>
    if given.has help then page.help
    else
      match job given with
      | .error message => page.refuse message
      | .ok report => report

/-! Expanding a file -/

inductive ExpandKey where
  | language
  | flatten
  | keepNested
  | define
  | maxDepth
  | help
  deriving DecidableEq

def expandSwitches : List (Switch ExpandKey) :=
  [⟨.language, "--language".toList, none, true⟩,
   ⟨.flatten, "--denest".toList, none, false⟩,
   ⟨.keepNested, "--no-denest".toList, none, false⟩,
   ⟨.define, "--define".toList, some 'D', true⟩,
   ⟨.maxDepth, "--max-depth".toList, none, true⟩,
   ⟨.help, "--help".toList, none, false⟩]

def readDialect (value : Text) : Except Text Dialect :=
  if value = "css".toList then .ok .css
  else if value = "js".toList then .ok .script
  else
    .error ("Invalid value for '--language': ".toList ++ value.quoted ++
      " is not one of 'css', 'js'.".toList)

def readDepth (value : Text) : Except Text Int :=
  match Text.integer? value with
  | some limit => .ok limit
  | none =>
    .error ("Invalid value for '--max-depth': ".toList ++ value.quoted ++
      " is not a valid integer.".toList)

/-- The dialect and the depth limit that the options ask for. Of two bad values the one of the
option that is given first is reported. -/
def readSetup (given : Given ExpandKey) : Except Text (Dialect × Int) :=
  let dialect := ((given.value? .language).map readDialect).getD (.ok .css)
  let depth := ((given.value? .maxDepth).map readDepth).getD (.ok Settings.standard.depthLimit)
  match given.options.find? fun entry => entry.1 = .language ∨ entry.1 = .maxDepth with
  | some (.maxDepth, _) => do
    let limit ← depth
    return (← dialect, limit)
  | _ => do
    let chosen ← dialect
    return (chosen, ← depth)

/-- Whether nested rule sets are flattened; of several options that say so the last counts. -/
def flattens (given : Given ExpandKey) : Bool :=
  match (given.options.filter fun entry => entry.1 = .flatten ∨ entry.1 = .keepNested).getLast? with
  | some (.keepNested, _) => false
  | _ => true

/-- A variable that the command line sets: a name, an equals sign and a value. -/
def readDefinition (item : Text) : Except Text (Text × Text) :=
  let name := Text.trim (item.takeWhile (· != '='))
  match item.dropWhile (· != '='), name.isEmpty with
  | _ :: value, false => .ok (name, value)
  | _, _ =>
    .error ("Invalid value for --define: expected NAME=VALUE, got ".toList ++ item.quoted)

def expandJob (files : Files) (verbose : Bool) (given : Given ExpandKey) : Except Text Report := do
  let (dialect, depthLimit) ← readSetup given
  let source ← fileText files "SOURCE" given.words
  let definitions ← (given.values .define).mapM readDefinition
  let fresh := Expander.new dialect { Settings.standard with depthLimit }
  let expander := definitions.foldl (fun expander entry => expander.setVariable entry.1 entry.2) fresh
  let action :=
    if dialect = .css && flattens given then expander.flatExpansion source
    else expander.expansion source
  return report verbose expander (do return [← action])

/-! Showing the nodes of a file -/

inductive InspectKey where
  | raw
  | help
  deriving DecidableEq

def inspectSwitches : List (Switch InspectKey) :=
  [⟨.raw, "--raw".toList, none, false⟩, ⟨.help, "--help".toList, none, false⟩]

mutual

/-- A line for a node and, moved in by two spaces, the lines for what it holds. -/
def outline (indent : Text) : Node → List Text
  | .atRule content => [indent ++ "AtRule ".toList ++ content.firstLine]
  | .rule content => [indent ++ "Rule ".toList ++ content]
  | .ruleSet selectors contents =>
    (indent ++ "RuleSet [".toList ++ List.intercalate [',', ' '] selectors ++ "] (".toList ++
        Text.ofNat contents.length ++ " item(s))".toList) ::
      outlineAll (indent ++ [' ', ' ']) contents

def outlineAll (indent : Text) : List Node → List Text
  | [] => []
  | node :: nodes => outline indent node ++ outlineAll indent nodes

end

def inspectJob (files : Files) (verbose : Bool) (given : Given InspectKey) :
    Except Text Report := do
  let source ← fileText files "STYLESHEET" given.words
  let expander := Expander.new .css .standard
  return report verbose expander do
    let text ← if given.has .raw then pure source else expander.expansion source
    let nodes ← Expander.readNodes text
    return ("Nodes: ".toList ++ Text.ofNat nodes.length) :: outlineAll [] nodes

/-! Spreading a file over lines -/

inductive BeautifyKey where
  | help
  deriving DecidableEq

def beautifySwitches : List (Switch BeautifyKey) := [⟨.help, "--help".toList, none, false⟩]

def beautifyJob (files : Files) (given : Given BeautifyKey) : Except Text Report := do
  let source ← fileText files "STYLESHEET" given.words
  return .success [spreadLines source] []

/-! The program -/

inductive MainKey where
  | version
  | verbose
  | help
  deriving DecidableEq

def mainSwitches : List (Switch MainKey) :=
  [⟨.version, "--version".toList, none, false⟩,
   ⟨.verbose, "--verbose".toList, some 'v', false⟩,
   ⟨.help, "--help".toList, none, false⟩]

/-- A word that looks like an option that has slipped behind the others. -/
def looksLikeSwitch (word : Text) : Bool :=
  match word with
  | [] => false
  | c :: _ => !isAlphanumeric c

/-- Runs the command of a name. For a word that can only be a misplaced option the help is shown. -/
def runNamed (files : Files) (verbose : Bool) (name : Text) (words : List Text) : Report :=
  if name = "expand".toList then
    runCommand .expand expandSwitches .help (expandJob files verbose) words
  else if name = "inspect".toList then
    runCommand .inspect inspectSwitches .help (inspectJob files verbose) words
  else if name = "beautify".toList then
    runCommand .beautify beautifySwitches .help (beautifyJob files) words
  else if looksLikeSwitch name then Page.main.help
  else Page.main.refuse ("No such command ".toList ++ name.quoted ++ ['.'])

def run (files : Files) (words : List Text) : Report :=
  if words.isEmpty then Page.main.help
  else
    match readWords mainSwitches false words with
    | .error fault => Page.main.refuseSwitch fault
    | .ok given =>
      match given.options.find? fun entry => entry.1 ≠ .verbose with
      | some (.help, _) => Page.main.help
      | some _ => .success ["stylemacro, version 0.1.0".toList] []
      | none =>
        match given.words with
        | [] => Page.main.refuse "Missing command.".toList
        | name :: rest => runNamed files (given.has .verbose) name rest

end Stylesheet.Command
