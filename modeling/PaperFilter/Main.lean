import PaperFilter.Cli.Run

/-!
# The program

The part of the file system that a command can look at is read into a tree of files, the command is
run on it, and the directories and files that it has made are made in the file system.
-/

namespace PaperFilter
namespace Cli

def placeName (place : Place) : String :=
  String.ofList ('/' :: Text.joinWith ['/'] place)

/-- The entry of a name, if there is one that can be opened.  A directory can be opened but not
read. -/
def probe (name : String) : IO (Option Entry) := do
  try
    let _ ← IO.FS.Handle.mk name .read
  catch _ =>
    return none
  try
    return some (.file (← IO.FS.readBinFile name))
  catch _ =>
    return some (.directory [])

/-- Add to a tree what there is at a place, unless the tree has it. -/
def snapshot (files : FileTree) (place : Place) : IO FileTree := do
  if (files.lookup place).isOk then return files
  match ← probe (placeName place) with
  | some entry => return files.put entry place
  | none => return files

/-- The place of the configuration file of a user. -/
def findDefaultConfig : IO (Option Text) := do
  let place (directory : String) : Text := (directory ++ "/sift/sift.toml").toList
  match ← IO.getEnv "XDG_CONFIG_HOME" with
  | some directory =>
      if directory.startsWith "/" then return some (place directory)
  | none => pure ()
  match ← IO.getEnv "HOME" with
  | some home => return some (place (home ++ "/.config"))
  | none => return none

/-- The files that an invocation names. -/
def namedFiles (invocation : Invocation) (defaultConfig : Option Text) : List Text :=
  let input := match invocation.command with
    | .filter input _ _ _ _ => input.toList
    | _ => []
  (invocation.config.or defaultConfig).toList ++ input

def readsInput (invocation : Invocation) : Bool :=
  match invocation.command with
  | .filter none _ _ _ _ => true
  | _ => false

/-- Make at a place what a command has made there. -/
def writeBack (before after : FileTree) (place : Place) : IO Unit := do
  match before.lookup place, after.lookup place with
  | .error _, .ok (.directory _) => IO.FS.createDir (placeName place)
  | .error _, .ok (.file content) => IO.FS.writeBinFile (placeName place) content
  | _, _ => pure ()

def mainWith (arguments : List Text) : IO UInt32 := do
  let start := (Path.ofText [] (toString (← IO.currentDir)).toList).places
  let directory := start.getLastD []
  let defaultConfig ← findDefaultConfig
  let mut input : ByteArray := .empty
  let mut places := start
  if let .ok invocation := readArguments arguments then
    for name in namedFiles invocation defaultConfig do
      places := places ++ (Path.ofText directory name).places
    if readsInput invocation then
      input ← (← IO.getStdin).readBinToEnd
  let files ← places.foldlM snapshot []
  let outcome := run ⟨files, directory, defaultConfig, input⟩ arguments
  for place in places.eraseDups do
    writeBack files outcome.files place
  (← IO.getStdout).putStr (String.ofList outcome.output)
  (← IO.getStderr).putStr (String.ofList outcome.errors)
  return outcome.status.toUInt32

end Cli
end PaperFilter

def main (arguments : List String) : IO UInt32 :=
  PaperFilter.Cli.mainWith (arguments.map String.toList)
