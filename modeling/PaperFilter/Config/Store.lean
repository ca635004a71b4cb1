import PaperFilter.Config.Toml
import PaperFilter.FileTree

/-!
# Keeping settings in a file

Settings that were never saved have their defaults.  Saving makes the directories on the way first,
so that some of these may be there afterwards even if saving fails; nothing else is changed then.
-/

namespace PaperFilter
namespace Config

def load (tree : FileTree) (path : Path) : Except Failure Config :=
  if tree.has path then
    match tree.readText path with
    | .error error => .error (.file error.message)
    | .ok text =>
        match decode? text with
        | some config => .ok config
        | none => .error (.config "Failed to parse config".toList)
  else .ok .default

/-- The tree after an attempt to save settings, and the failure if there was one. -/
def save (config : Config) (path : Path) (tree : FileTree) : FileTree × Option Failure :=
  match tree.makeDirectories path.parent with
  | (prepared, some error) => (prepared, some (.file error.message))
  | (prepared, none) =>
      match config.encode? with
      | none => (prepared, some (.config "Failed to serialize config".toList))
      | some text =>
          match prepared.writeFile (Text.toBytes text) path with
          | .error error => (prepared, some (.file error.message))
          | .ok written => (written, none)

end Config
end PaperFilter
