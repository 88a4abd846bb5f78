import TypstMarkup.Markup.Context
import TypstMarkup.Workplace.Files

/-!
Configurations. A draft is a layer that may leave things open; layers are merged, later ones
overriding earlier ones, and a finished draft is frozen.
-/
namespace TypstMarkup

/-- A configuration in use: the settings of the formatter, the compiler and its fonts, and the
sources all of this comes from. -/
structure Configuration where
  settings : Context := .empty
  executable : Option String := none
  fontFolders : List String := []
  sources : List String := []

/-- A layer of a configuration. -/
structure Draft where
  settings : Context := .empty
  executable : Option String := none
  fontFolders : Option (List String) := none
  sources : List String := []

namespace Draft

/-- Puts a layer on top: settings are merged key by key, everything else is replaced where the layer
sets it, and the sources add up. -/
def merge (lower upper : Draft) : Draft where
  settings := lower.settings.update upper.settings
  executable := upper.executable.or lower.executable
  fontFolders := upper.fontFolders.or lower.fontFolders
  sources := lower.sources ++ upper.sources

/-- Finishes a draft. An empty executable is none. -/
def freeze (d : Draft) : Configuration where
  settings := d.settings
  executable := d.executable.filter fun text => !text.isEmpty
  fontFolders := d.fontFolders.getD []
  sources := d.sources

end Draft

namespace Configuration

/-- A configuration as a draft that sets everything. -/
def thaw (c : Configuration) : Draft where
  settings := c.settings
  executable := c.executable
  fontFolders := some c.fontFolders
  sources := c.sources

def executableVariable : String := "TYPST_EXECUTABLE"

def fontVariable : String := "TYPST_FONT_PATHS"

/-- The compiler that is run when nothing names one. -/
def defaultExecutable : String := "typst"

/-- The compiler to run where a command names none: the configured one, else the one a variable
names, else the default. -/
def program (c : Configuration) (w : Workplace) : String :=
  (((c.executable.filter fun text => !text.isEmpty).or
    (w.setVariable? executableVariable))).getD defaultExecutable

def compilerVariables (c : Configuration) : OrderedMap String :=
  if c.fontFolders.isEmpty then .empty
  else OrderedMap.ofList [(fontVariable, ":".intercalate c.fontFolders)]

end Configuration

end TypstMarkup
