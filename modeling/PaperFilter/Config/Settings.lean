import PaperFilter.Document.Record

/-!
# Settings

The settings of the program in four sections, each with its defaults.
-/

namespace PaperFilter

structure GeneralSettings where
  logLevel : Text := ['i', 'n', 'f', 'o']
deriving Repr, DecidableEq

structure QuerySettings where
  /-- The expression to use where none is given; an empty one keeps every document. -/
  expr : Text := []
  /-- Whether an expression is lowercased before it is read. -/
  foldCase : Bool := true
deriving Repr, DecidableEq

structure FilterSettings where
  source : Source := .title
  /-- Whether the links of a kept abstract are collected. -/
  extractCodeUrls : Bool := true
deriving Repr, DecidableEq

structure PerformanceSettings where
  parallel : Bool := true
  parallelThreshold : Nat := 256
deriving Repr, DecidableEq

/-- Whether a batch is large enough to be worked on in parallel. -/
def PerformanceSettings.usesParallel (settings : PerformanceSettings) (length : Nat) : Bool :=
  settings.parallel && settings.parallelThreshold < length

structure Config where
  general : GeneralSettings := {}
  query : QuerySettings := {}
  filter : FilterSettings := {}
  performance : PerformanceSettings := {}
deriving Repr, DecidableEq

def Config.default : Config := {}

end PaperFilter
