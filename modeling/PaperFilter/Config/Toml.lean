import PaperFilter.Config.Settings
import PaperFilter.Toml.Reader
import PaperFilter.Toml.Writer

/-!
# Settings as TOML

Settings are kept in a TOML document with one table for each section.  On reading, what a document
leaves out has its default and what it has besides is passed over; a setting of the wrong type
refuses the document.
-/

namespace PaperFilter
namespace Config

/-! ## Reading -/

/-- The fields of a section: a table gives them by name, and an array in order. -/
inductive Fields where
  | named (members : Toml.Members)
  | ordered (items : List Toml)

namespace Fields

/-- The fields of a section that the document does not have. -/
def absent : Fields := .named []

/-- A date or a time counts as a table that has none of the fields. -/
def ofToml? : Toml → Option Fields
  | .table _ members => some (.named members)
  | .array items => some (.ordered items)
  | .tables earlier last =>
      some (.ordered ((earlier ++ [last]).map (Toml.table .headed)))
  | .moment => some .absent
  | _ => none

/-- The field with a name, which stands at an index of an array. -/
def field? (fields : Fields) (name : Text) (index : Nat) : Option Toml :=
  match fields with
  | .named members => Toml.find? name members
  | .ordered items => items[index]?

/-- A field that is there has to be readable; one that is not there has its default. -/
def read {α : Type} (fields : Fields) (name : Text) (index : Nat) (readAs : Toml → Option α)
    (default : α) : Option α :=
  match fields.field? name index with
  | none => some default
  | some value => readAs value

end Fields

def asText : Toml → Option Text
  | .string text => some text
  | _ => none

def asBool : Toml → Option Bool
  | .boolean value => some value
  | _ => none

def asNatural : Toml → Option Nat
  | .integer (.ofNat value) => some value
  | _ => none

/-- A source is written as its name, or as a table with its name as the only key and an empty table
or an empty array as the value. -/
def asSource : Toml → Option Source
  | .string name => Source.ofName? name
  | .table _ [(name, .table _ [])] => Source.ofName? name
  | .table _ [(name, .array [])] => Source.ofName? name
  | _ => none

def readGeneral (fields : Fields) : Option GeneralSettings := do
  let default : GeneralSettings := {}
  let logLevel ← fields.read "log_level".toList 0 asText default.logLevel
  return ⟨logLevel⟩

def readQuery (fields : Fields) : Option QuerySettings := do
  let default : QuerySettings := {}
  let expr ← fields.read "expr".toList 0 asText default.expr
  let foldCase ← fields.read "fold_case".toList 1 asBool default.foldCase
  return ⟨expr, foldCase⟩

def readFilter (fields : Fields) : Option FilterSettings := do
  let default : FilterSettings := {}
  let source ← fields.read "source".toList 0 asSource default.source
  let extractCodeUrls ← fields.read "extract_code_urls".toList 1 asBool default.extractCodeUrls
  return ⟨source, extractCodeUrls⟩

def readPerformance (fields : Fields) : Option PerformanceSettings := do
  let default : PerformanceSettings := {}
  let parallel ← fields.read "parallel".toList 0 asBool default.parallel
  let parallelThreshold ←
    fields.read "parallel_threshold".toList 1 asNatural default.parallelThreshold
  return ⟨parallel, parallelThreshold⟩

/-- The section with a name. -/
def section? (members : Toml.Members) (name : Text) : Option Fields :=
  match Toml.find? name members with
  | none => some .absent
  | some value => Fields.ofToml? value

def ofMembers? (members : Toml.Members) : Option Config := do
  let general ← readGeneral (← section? members "general".toList)
  let query ← readQuery (← section? members "query".toList)
  let filter ← readFilter (← section? members "filter".toList)
  let performance ← readPerformance (← section? members "performance".toList)
  return ⟨general, query, filter, performance⟩

/-- The settings that a document holds. -/
def decode? (text : Text) : Option Config := do
  let members ← Toml.read? text
  ofMembers? members

/-! ## Writing -/

def sections (config : Config) : List Toml.Section :=
  [⟨"general".toList, [("log_level".toList, .string config.general.logLevel)]⟩,
    ⟨"query".toList,
      [("expr".toList, .string config.query.expr),
        ("fold_case".toList, .boolean config.query.foldCase)]⟩,
    ⟨"filter".toList,
      [("source".toList, .string config.filter.source.name),
        ("extract_code_urls".toList, .boolean config.filter.extractCodeUrls)]⟩,
    ⟨"performance".toList,
      [("parallel".toList, .boolean config.performance.parallel),
        ("parallel_threshold".toList, .natural config.performance.parallelThreshold)]⟩]

/-- The document for some settings.  A threshold beyond the integers of TOML has none. -/
def encode? (config : Config) : Option Text :=
  if (config.performance.parallelThreshold : Int) ≤ Toml.Scalar.maxInteger then
    some (Toml.writeSections config.sections)
  else none

end Config
end PaperFilter
