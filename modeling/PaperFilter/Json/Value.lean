import PaperFilter.Decimal.Double
import PaperFilter.Text

/-!
# JSON values

The members of an object are kept in increasing order of their keys, each key once.
-/

namespace PaperFilter

inductive Number where
  | integer (value : Int)
  | double (negative : Bool) (magnitude : Double)
deriving Repr, DecidableEq

inductive Json where
  | null
  | bool (value : Bool)
  | number (value : Number)
  | string (text : Text)
  | array (items : List Json)
  | object (members : List (Text × Json))
deriving Repr

namespace Json

abbrev Members := List (Text × Json)

/-- Set the value of a key. -/
def insert (key : Text) (value : Json) : Members → Members
  | [] => [(key, value)]
  | (other, old) :: rest =>
      if key = other then (key, value) :: rest
      else if key < other then (key, value) :: (other, old) :: rest
      else (other, old) :: insert key value rest

/-- The members that a sequence of settings leaves; the last value of a key stays. -/
def ofSettings (settings : List (Text × Json)) : Members :=
  settings.foldl (fun members (key, value) => insert key value members) []

end Json

end PaperFilter
