import Stylesheet.Text.Basic

/-!
The files that a command can read. A command asks for a path and gets what stands there.
-/

namespace Stylesheet.Command

inductive Entry where
  | file (content : Text)
  | directory
  deriving DecidableEq

abbrev Files := Text → Option Entry

def pathParts : Text → List Text
  | [] => [[]]
  | c :: rest =>
    if c = '/' then [] :: pathParts rest
    else
      match pathParts rest with
      | [] => [[c]]
      | part :: parts => (c :: part) :: parts

/-- A part that names no entry of its own but the directory it stands in, or the one around it. -/
def isStep (part : Text) : Bool := part = [] || part = ['.'] || part = ['.', '.']

structure Folder where
  files : List (List Text × Text)
  directories : List (List Text)

namespace Folder

def ofPaths (files : List (Text × Text)) (directories : List Text) : Folder where
  files := files.map fun file => (pathParts file.1, file.2)
  directories := directories.map pathParts

/-- What stands at the end of a list of names. A name that leads to something else is a directory,
and so is the folder itself. -/
def entry? (folder : Folder) (names : List Text) : Option Entry :=
  match folder.files.find? (·.1 = names) with
  | some file => some (.file file.2)
  | none =>
    let leads (path : List Text) : Bool := names.isPrefixOf path
    if names.isEmpty || folder.directories.any leads || folder.files.any (leads ·.1) then
      some .directory
    else none

/-- Follows the parts of a path from a directory, given by the names that lead to it, innermost
first. A dot or an empty part stays in the directory, two dots leave it. Above the folder there are
directories, of which nothing else is known. -/
def walk (folder : Folder) (inside : List Text) : List Text → Option Entry
  | [] => folder.entry? inside.reverse
  | part :: parts =>
    match folder.entry? inside.reverse with
    | some .directory =>
      if part = [] || part = ['.'] then walk folder inside parts
      else if part = ['.', '.'] then
        match inside with
        | _ :: outer => walk folder outer parts
        | [] => if parts.all isStep then some .directory else none
      else walk folder (part :: inside) parts
    | _ => none

def lookup (folder : Folder) : Files
  | [] => none
  | '/' :: path => if path.all (· == '/') then some .directory else none
  | path => folder.walk [] (pathParts path)

end Folder

end Stylesheet.Command
