import Stylesheet.Expander.Table

/-!
What an expander is set up with.
-/

namespace Stylesheet

structure Marker where
  text : Text
  -- So a scan that passes a marker gets on.
  filled : text ≠ []

namespace Marker

def ofText? (text : Text) : Option Marker :=
  if filled : text ≠ [] then some ⟨text, filled⟩ else none

def standard : Marker := ⟨['¤'], by decide⟩

end Marker

structure Settings where
  marker : Marker
  /-- How deeply expansion may nest; below one, nothing expands at all. -/
  depthLimit : Int
  /-- The functions that take their arguments, and give their result, unexpanded. -/
  rawFunctions : List Text
  vendorPrefixes : List Text

namespace Settings

def standard : Settings where
  marker := .standard
  depthLimit := 10
  rawFunctions := ["define".toList, "quote".toList, "set".toList]
  vendorPrefixes :=
    ["-moz-".toList, "-webkit-".toList, "-o-".toList, "-ms-".toList, "-khtml-".toList, []]

def isRaw (settings : Settings) (name : Text) : Bool := settings.rawFunctions.contains name

def rawNames (settings : Settings) : List Text :=
  (Table.ofEntries (settings.rawFunctions.map fun name => (name, ()))).sorted.map (·.1)

end Settings

end Stylesheet
