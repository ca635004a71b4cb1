import PaperFilter.Text

/-!
# TOML values

A table remembers how it came to be, because that decides which later statements may still add to
it: an inline table is closed, a table with a header of its own is not defined a second time, and a
table that only stands on the way to another one may still be given its header.
-/

namespace PaperFilter

/-- How a table came to be. -/
inductive Toml.Standing where
  /-- Written inline. -/
  | closed
  /-- Opened by a header of its own. -/
  | headed
  /-- On the way of a header to a table inside it. -/
  | implied
  /-- On the way of a dotted key. -/
  | dotted
deriving Repr, DecidableEq

inductive Toml where
  | string (text : Text)
  | integer (value : Int)
  | float
  | boolean (value : Bool)
  | moment
  | array (items : List Toml)
  | table (standing : Toml.Standing) (members : List (Text × Toml))
  /-- An array of tables that headers have opened, of which the last is still open. -/
  | tables (earlier : List (List (Text × Toml))) (last : List (Text × Toml))
deriving Repr

namespace Toml

abbrev Members := List (Text × Toml)

def find? (key : Text) : Members → Option Toml
  | [] => none
  | (other, value) :: rest => if other = key then some value else find? key rest

/-- Change what a key stands for, if it stands for anything. -/
def alter (key : Text) (change : Option Toml → Option Toml) : Members → Option Members
  | [] => do
      let value ← change none
      return [(key, value)]
  | (other, value) :: rest =>
      if other = key then do
        let value ← change (some value)
        return (other, value) :: rest
      else do
        let rest ← alter key change rest
        return (other, value) :: rest

/-! ## Reaching a table -/

/-- A statement may reach through a table of this standing; a dotted key reaches only through tables
that no header of their own has opened. -/
def Standing.reachable (byDots : Bool) : Standing → Bool
  | .closed => false
  | .headed => !byDots
  | .implied => true
  | .dotted => true

/-- Change the table at the end of a path, and open the tables on the way that are not there. -/
def within (byDots : Bool) (change : Standing → Members → Option Members) :
    (path : List Text) → Standing → Members → Option Members
  | [], standing, members => change standing members
  | key :: path, _, members =>
      alter key
        (fun
          | none =>
              let standing := if byDots then .dotted else .implied
              (within byDots change path standing []).map (table standing)
          | some (.table standing inner) =>
              if standing.reachable byDots then
                (within byDots change path standing inner).map (table standing)
              else none
          | some (.tables earlier last) =>
              (within byDots change path .headed last).map (tables earlier)
          | some _ => none)
        members

/-! ## Statements -/

/-- A key path: the keys that lead to a table, and the key in it. -/
structure KeyPath where
  parents : List Text
  last : Text
deriving Repr, DecidableEq

inductive Statement where
  | assign (path : KeyPath) (value : Toml)
  | openTable (path : KeyPath)
  | appendTable (path : KeyPath)
deriving Repr

/-- Give a key of a table a value that it does not have yet. -/
def setNew (key : Text) (value : Toml) (members : Members) : Option Members :=
  alter key
    (fun
      | none => some value
      | some _ => none)
    members

/-- Assign a value inside a table.  A dotted key ends in a table that dotted keys have opened. -/
def assign (path : KeyPath) (value : Toml) (standing : Standing) (members : Members) :
    Option Members :=
  within true
    (fun inner members =>
      if path.parents.isEmpty || inner = .dotted then setNew path.last value members else none)
    path.parents standing members

def openTable (path : KeyPath) (members : Members) : Option Members :=
  within false
    (fun _ => alter path.last
      fun
        | none => some (table .headed [])
        | some (.table .implied inner) => some (table .headed inner)
        | some _ => none)
    path.parents .headed members

def appendTable (path : KeyPath) (members : Members) : Option Members :=
  within false
    (fun _ => alter path.last
      fun
        | none => some (tables [] [])
        | some (.tables earlier last) => some (tables (earlier ++ [last]) [])
        | some _ => none)
    path.parents .headed members

/-- The members of a document so far, and the path of the table that assignments go to. -/
structure Assembly where
  members : Members
  current : List Text

namespace Assembly

def start : Assembly := ⟨[], []⟩

def step (assembly : Assembly) : Statement → Option Assembly
  | .assign path value => do
      let members ←
        within false (assign path value) assembly.current .headed assembly.members
      return ⟨members, assembly.current⟩
  | .openTable path => do
      let members ← openTable path assembly.members
      return ⟨members, path.parents ++ [path.last]⟩
  | .appendTable path => do
      let members ← appendTable path assembly.members
      return ⟨members, path.parents ++ [path.last]⟩

def run (assembly : Assembly) : List Statement → Option Assembly
  | [] => some assembly
  | statement :: rest => do
      let assembly ← assembly.step statement
      run assembly rest

end Assembly

/-- The members of the document that statements describe. -/
def assemble (statements : List Statement) : Option Members :=
  (Assembly.start.run statements).map Assembly.members

/-- The inline table that assignments describe. -/
def inlineTable (assignments : List (KeyPath × Toml)) : Option Toml :=
  (assignments.foldlM (fun members (path, value) => assign path value .closed members) []).map
    (table .closed)

end Toml

end PaperFilter
