import Stylesheet.Command.Run

/-!
The program: reads the files that the command line names, runs the command, and writes what it
reports.
-/

namespace Stylesheet.Command

/-- The error code of a read from a directory. -/
def directoryCode : UInt32 := 21

def entryOnDisk (path : String) : IO (Option Entry) := do
  match ← (IO.FS.readFile ⟨path⟩).toBaseIO with
  | .ok content => return some (.file content.toList)
  | .error (.inappropriateType _ code _) =>
    return if code = directoryCode then some .directory else none
  | .error _ => return none

def entriesOnDisk (words : List String) : IO Files := do
  let entries ← words.mapM fun word => return (word.toList, ← entryOnDisk word)
  return fun path => (Table.get? path entries).join

end Stylesheet.Command

def main (words : List String) : IO UInt32 := do
  let files ← Stylesheet.Command.entriesOnDisk words
  let report := Stylesheet.Command.run files (words.map String.toList)
  (← IO.getStdout).putStr (String.ofList report.out)
  (← IO.getStderr).putStr (String.ofList report.err)
  return report.exit.toUInt32
