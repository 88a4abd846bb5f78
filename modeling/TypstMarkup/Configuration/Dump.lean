import TypstMarkup.Configuration.Basic
import TypstMarkup.Toml.Nested
import TypstMarkup.Toml.Write

/-!
Configurations as documents: the settings, the compiler, and on request the sources. Modes are given
by name, and an unset executable is an empty text.
-/
namespace TypstMarkup.Configuration

def settingNode? (v : Value) : Except Fault Toml.Node :=
  match v with
  | .mode m => .ok (.text m.name)
  | v => Toml.Node.ofValue? v

/-- The tables of a configuration. Settings that are dictionaries come last. -/
def tables? (c : Configuration) (withSources : Bool) : Except Fault Toml.Table := do
  let (tables, plain) := c.settings.entries.partition fun entry => Toml.Node.isDictionary entry.2
  let settings ← (plain ++ tables).mapM fun (key, v) => do return (key, ← settingNode? v)
  return [("settings", .table settings),
    ("compiler", .table [("executable", .text (c.executable.getD "")),
      ("font_paths", .array (c.fontFolders.map .text))])] ++
    if withSources then [("sources", .table [("files", .array (c.sources.map .text))])] else []

def dumpComment : String := "Effective Typstry configuration"

def sharedSection : String := "tool.typstry"

/-- The document of a configuration, by itself or as it stands in the shared file. -/
def document? (c : Configuration) (shared withSources : Bool) : Except Fault (List Char) := do
  let text := Toml.documentText dumpComment.toList (← c.tables? withSources)
  if shared then Toml.nestedText text sharedSection.toList else return text

end TypstMarkup.Configuration
