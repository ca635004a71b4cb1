import PaperFilter.Failure
import PaperFilter.FileTree.Path

/-!
# Trees of files

A tree of files maps names to files and directories.  Making one directory or writing a file changes
nothing unless it succeeds; making all directories on a way keeps those that it has made.
-/

namespace PaperFilter

inductive Entry where
  | file (content : ByteArray)
  | directory (members : List (Text × Entry))

/-- The entries of the root directory. -/
abbrev FileTree := List (Text × Entry)

namespace FileTree

def find? (name : Text) : FileTree → Option Entry
  | [] => none
  | (other, entry) :: rest => if other = name then some entry else find? name rest

def set (name : Text) (entry : Entry) : FileTree → FileTree
  | [] => [(name, entry)]
  | (other, old) :: rest =>
      if other = name then (name, entry) :: rest else (other, old) :: set name entry rest

/-! ## Places -/

/-- The entry at a place. -/
def lookup : (place : Place) → FileTree → Except FileError Entry
  | [], tree => .ok (.directory tree)
  | name :: rest, tree =>
      match find? name tree with
      | none => .error .notFound
      | some (.directory inner) => lookup rest inner
      | some (.file content) =>
          if rest.isEmpty then .ok (.file content) else .error .notDirectory

/-- Put an entry at a place.  Nothing changes unless the directories on the way are there. -/
def put (entry : Entry) : (place : Place) → FileTree → FileTree
  | [], tree => tree
  | [name], tree => set name entry tree
  | name :: second :: rest, tree =>
      match find? name tree with
      | some (.directory inner) =>
          set name (.directory (put entry (second :: rest) inner)) tree
      | _ => tree

/-! ## Walking -/

/-- The most bytes that a name may have. -/
def maxNameSize : Nat := 255

/-- The most bytes that the text of a path may have. -/
def maxPathSize : Nat := 4095

/-- A directory that a walk has come to. -/
structure Position where
  /-- The entries of the directory. -/
  members : FileTree
  /-- The directories above it, the nearest first, each with the name that the walk went into. -/
  above : List (Text × FileTree)

namespace Position

def place (position : Position) : Place :=
  (position.above.map Prod.fst).reverse

/-- The entry of a name in the directory. -/
def entryOf (position : Position) (name : Text) : Except FileError Entry :=
  if maxNameSize < (Text.toBytes name).size then .error .nameTooLong
  else
    match find? name position.members with
    | some entry => .ok entry
    | none => .error .notFound

/-- Take a step from one directory to another. -/
def enter (position : Position) : Path.Step → Except FileError Position
  | .stay => .ok position
  | .up =>
      match position.above with
      | [] => .ok position
      | (_, members) :: above => .ok ⟨members, above⟩
  | .into name => do
      match ← position.entryOf name with
      | .directory members => return ⟨members, (name, position.members) :: position.above⟩
      | .file _ => throw .notDirectory

end Position

/-- The directory that steps lead to from the directory at a place. -/
def walk (tree : FileTree) (origin : Place) (steps : List Path.Step) :
    Except FileError Position :=
  (origin.map Path.Step.into ++ steps).foldlM Position.enter ⟨tree, []⟩

/-- What a path leads to. -/
inductive Target where
  /-- A directory that is there. -/
  | directory (position : Position)
  /-- A name in a directory that is there. -/
  | named (parent : Position) (name : Text)

def target (tree : FileTree) (path : Path) : Except FileError Target :=
  let text := path.text
  if text.contains '\x00' then .error .invalidName
  else if maxPathSize < (Text.toBytes text).size then .error .nameTooLong
  else if text.isEmpty then .error .notFound
  else
    match path.steps.getLast? with
    | some (.into name) =>
        (walk tree path.origin path.steps.dropLast).map fun parent => .named parent name
    | _ => (walk tree path.origin path.steps).map .directory

/-! ## Reading -/

/-- The entry that a path leads to. -/
def entryAt (tree : FileTree) (path : Path) : Except FileError Entry := do
  match ← target tree path with
  | .directory position => return .directory position.members
  | .named parent name =>
      match ← parent.entryOf name with
      | .directory members => return .directory members
      | .file content =>
          if path.endsInSlash then throw .notDirectory else return .file content

def has (tree : FileTree) (path : Path) : Bool :=
  (entryAt tree path).isOk

def hasDirectory (tree : FileTree) (path : Path) : Bool :=
  match entryAt tree path with
  | .ok (.directory _) => true
  | _ => false

def readFile (tree : FileTree) (path : Path) : Except FileError ByteArray := do
  match ← entryAt tree path with
  | .file content => return content
  | .directory _ => throw .isDirectory

def readText (tree : FileTree) (path : Path) : Except FileError Text := do
  let content ← readFile tree path
  match Text.ofBytes? content with
  | some text => return text
  | none => throw .notText

/-! ## Writing -/

/-- Make a directory in a directory that is there. -/
def makeDirectory (path : Path) (tree : FileTree) : Except FileError FileTree := do
  match ← target tree path with
  | .directory _ => throw .alreadyExists
  | .named parent name =>
      match parent.entryOf name with
      | .ok _ => throw .alreadyExists
      | .error .notFound => return put (.directory []) (parent.place ++ [name]) tree
      | .error error => throw error

/-- Make a directory unless it is there. -/
def ensureDirectory (path : Path) (tree : FileTree) : Except FileError FileTree :=
  match makeDirectory path tree with
  | .ok made => .ok made
  | .error .notFound => .error .notFound
  | .error error => if hasDirectory tree path then .ok tree else .error error

/-- Make a directory, and before it the way to it if that is missing. -/
def makeAfter (makeWay : FileTree → FileTree × Option FileError) (path : Path) (tree : FileTree) :
    FileTree × Option FileError :=
  match ensureDirectory path tree with
  | .ok made => (made, none)
  | .error .notFound =>
      match makeWay tree with
      | (prepared, some error) => (prepared, some error)
      | (prepared, none) =>
          match ensureDirectory path prepared with
          | .ok made => (made, none)
          | .error error => (prepared, some error)
  | .error error => (tree, some error)

/-- Make the directories that parts, given backwards, lead through. -/
def makeBackward (origin : Place) :
    (parts : List Text) → FileTree → FileTree × Option FileError
  | [], tree => (tree, none)
  | last :: before, tree =>
      if Path.moves last then
        makeAfter (fun tree => makeBackward origin before tree)
          ⟨origin, (last :: before).reverse⟩ tree
      else makeBackward origin before tree

/-- Make the directories of a path that are not there.  The tree holds those that were made before
an error. -/
def makeDirectories (path : Path) (tree : FileTree) : FileTree × Option FileError :=
  if path.isEmpty then (tree, none)
  else makeAfter (fun tree => makeBackward path.origin path.parent.parts.reverse tree) path tree

/-- Write a file into a directory that is there. -/
def writeFile (content : ByteArray) (path : Path) (tree : FileTree) :
    Except FileError FileTree := do
  match ← target tree path with
  | .directory _ => throw .isDirectory
  | .named parent name =>
      if path.endsInSlash then throw .isDirectory
      else
        match parent.entryOf name with
        | .ok (.directory _) => throw .isDirectory
        | .ok (.file _) => return put (.file content) (parent.place ++ [name]) tree
        | .error .notFound => return put (.file content) (parent.place ++ [name]) tree
        | .error error => throw error

end FileTree

end PaperFilter
