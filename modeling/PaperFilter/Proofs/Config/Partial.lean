import Mathlib
import PaperFilter.Proofs.Config.Store

/-!
# Documents that give some of the settings

A document may leave out sections, and settings of the sections that it has.  Each setting is looked
up by the name of its section and by its own, so that neither the order of a document nor what else
it has makes a difference, and a setting that it leaves out has its default whatever the others are.
What else it has only must not go beyond the limits of the reader.
-/

namespace PaperFilter
namespace Config

/-- The settings that a document gives, each of them or not. -/
structure Given where
  logLevel : Option Text := none
  expr : Option Text := none
  foldCase : Option Bool := none
  source : Option Source := none
  extractCodeUrls : Option Bool := none
  parallel : Option Bool := none
  parallelThreshold : Option Nat := none

/-- The settings that are given, and others in place of those that are not. -/
def Given.over (given : Given) (others : Config) : Config where
  general := ⟨given.logLevel.getD others.general.logLevel⟩
  query := ⟨given.expr.getD others.query.expr, given.foldCase.getD others.query.foldCase⟩
  filter := ⟨given.source.getD others.filter.source,
    given.extractCodeUrls.getD others.filter.extractCodeUrls⟩
  performance := ⟨given.parallel.getD others.performance.parallel,
    given.parallelThreshold.getD others.performance.parallelThreshold⟩

/-- What a document has under a key of one of its tables. -/
def valueAt? (members : Toml.Members) (table key : Text) : Option Toml :=
  match Toml.find? table members with
  | some (.table _ settings) => Toml.find? key settings
  | _ => none

/-- A section that a document has is a table. -/
def IsTableIn (members : Toml.Members) (name : Text) : Prop :=
  ∀ value, Toml.find? name members = some value →
    ∃ standing settings, value = .table standing settings

theorem IsTableIn.of_absent {members : Toml.Members} {name : Text}
    (h : Toml.find? name members = none) : IsTableIn members name := by
  intro value hvalue
  rw [h] at hvalue
  cases hvalue

theorem IsTableIn.of_table {members : Toml.Members} {name : Text} {standing : Toml.Standing}
    {settings : Toml.Members} (h : Toml.find? name members = some (.table standing settings)) :
    IsTableIn members name := by
  intro value hvalue
  rw [h] at hvalue
  exact ⟨standing, settings, (Option.some.inj hvalue).symm⟩

/-- A document gives these settings, each as a value of its type, and no others. -/
structure Gives (members : Toml.Members) (given : Given) : Prop where
  tables : ∀ name ∈ ["general".toList, "query".toList, "filter".toList, "performance".toList],
    IsTableIn members name
  logLevel : valueAt? members "general".toList "log_level".toList =
    given.logLevel.map Toml.string
  expr : valueAt? members "query".toList "expr".toList = given.expr.map Toml.string
  foldCase : valueAt? members "query".toList "fold_case".toList = given.foldCase.map Toml.boolean
  source : valueAt? members "filter".toList "source".toList =
    given.source.map fun source => Toml.string source.name
  extractCodeUrls : valueAt? members "filter".toList "extract_code_urls".toList =
    given.extractCodeUrls.map Toml.boolean
  parallel : valueAt? members "performance".toList "parallel".toList =
    given.parallel.map Toml.boolean
  parallelThreshold : valueAt? members "performance".toList "parallel_threshold".toList =
    given.parallelThreshold.map fun threshold : Nat => Toml.integer threshold

/-!
## Sections
-/

variable {members : Toml.Members} {given : Given}

/-- A section that is a table, or is not there, has the fields that the document has under its
name. -/
theorem section?_of_isTableIn {name : Text} (h : IsTableIn members name) :
    ∃ settings, section? members name = some (.named settings) ∧
      ∀ key, Toml.find? key settings = valueAt? members name key := by
  rw [section?]
  unfold valueAt?
  cases hfind : Toml.find? name members with
  | none => exact ⟨[], rfl, fun _ => rfl⟩
  | some value =>
      rcases h value hfind with ⟨standing, settings, rfl⟩
      exact ⟨settings, rfl, fun _ => rfl⟩

/-- A field by its name, if it can be read as what it is written as. -/
theorem read_named {α : Type} {settings : Toml.Members} {key : Text} {readAs : Toml → Option α}
    {write : α → Toml} {value : Option α} (hfind : Toml.find? key settings = value.map write)
    (hwrite : ∀ a, readAs (write a) = some a) (index : Nat) (default : α) :
    (Fields.named settings).read key index readAs default = some (value.getD default) := by
  rw [Fields.read, Fields.field?, hfind]
  cases value with
  | none => rfl
  | some a => exact hwrite a

theorem asSource_name (source : Source) : asSource (.string source.name) = some source := by
  cases source <;> rfl

theorem asNatural_integer (value : Nat) : asNatural (.integer value) = some value := rfl

theorem ofMembers?_of_gives (h : Gives members given) :
    ofMembers? members = some (given.over .default) := by
  have htables := h.tables
  simp only [List.forall_mem_cons] at htables
  rcases htables with ⟨hgeneral, hquery, hfilter, hperformance, _⟩
  rcases section?_of_isTableIn hgeneral with ⟨general, hgeneral, hgeneralAt⟩
  rcases section?_of_isTableIn hquery with ⟨query, hquery, hqueryAt⟩
  rcases section?_of_isTableIn hfilter with ⟨filter, hfilter, hfilterAt⟩
  rcases section?_of_isTableIn hperformance with ⟨performance, hperformance, hperformanceAt⟩
  have hreadGeneral : readGeneral (.named general) = some (given.over .default).general := by
    rw [readGeneral, read_named ((hgeneralAt _).trans h.logLevel) fun _ => rfl]
    rfl
  have hreadQuery : readQuery (.named query) = some (given.over .default).query := by
    rw [readQuery, read_named ((hqueryAt _).trans h.expr) fun _ => rfl,
      read_named ((hqueryAt _).trans h.foldCase) fun _ => rfl]
    rfl
  have hreadFilter : readFilter (.named filter) = some (given.over .default).filter := by
    rw [readFilter, read_named ((hfilterAt _).trans h.source) asSource_name,
      read_named ((hfilterAt _).trans h.extractCodeUrls) fun _ => rfl]
    rfl
  have hreadPerformance :
      readPerformance (.named performance) = some (given.over .default).performance := by
    rw [readPerformance, read_named ((hperformanceAt _).trans h.parallel) fun _ => rfl,
      read_named ((hperformanceAt _).trans h.parallelThreshold) asNatural_integer]
    rfl
  rw [ofMembers?]
  simp only [hgeneral, hquery, hfilter, hperformance, Option.bind_eq_bind, Option.bind_some,
    hreadGeneral, hreadQuery, hreadFilter, hreadPerformance]
  rfl

/-!
## Loading
-/

/--
A document that gives some of the settings can be loaded.  What is loaded are these settings and the
defaults of all others, whatever else the document has and in whatever order.
-/
theorem load_of_gives {tree : FileTree} {path : Path} {text : Text}
    (hread : tree.readText path = .ok text) (hmembers : Toml.read? text = some members)
    (h : Gives members given) : load tree path = .ok (given.over .default) := by
  rw [load_of_readText hread, decode?, hmembers]
  simp only [Option.bind_eq_bind, Option.bind_some, ofMembers?_of_gives h, Option.elim_some]

/-- Three sections in another order, two of them with settings, and a setting of the third in a
table that is no section. -/
def scrambled : Text :=
  ("wide = true # of the screen\n[performance]\ncolour = 'red'\nparallel = false\n\n" ++
    "[other.deep]\nexpr = -1.5e3\n[filter]\nsource = \"abstract\"\n[query]\n").toList

def scrambledMembers : Toml.Members :=
  [("wide".toList, .boolean true),
    ("performance".toList, .table .headed
      [("colour".toList, .string "red".toList), ("parallel".toList, .boolean false)]),
    ("other".toList, .table .implied
      [("deep".toList, .table .headed [("expr".toList, .float)])]),
    ("filter".toList, .table .headed [("source".toList, .string "abstract".toList)]),
    ("query".toList, .table .headed [])]

def scrambledTree : FileTree :=
  [("sift.toml".toList, .file (Text.toBytes scrambled))]

theorem load_of_gives_scrambled :
    load scrambledTree (Path.ofText [] "sift.toml".toList) =
      .ok { filter := { source := .abstractText }, performance := { parallel := false } } := by
  have hread : scrambledTree.readText (Path.ofText [] "sift.toml".toList) = .ok scrambled :=
    FileTree.readText_of_readFile rfl
  have hmembers : Toml.read? scrambled = some scrambledMembers := by cbv
  have hgives : Gives scrambledMembers
      { source := some .abstractText, parallel := some false } := by
    constructor
    · simp only [List.forall_mem_cons]
      exact ⟨.of_absent rfl, .of_table rfl, .of_table rfl, .of_table rfl, List.forall_mem_nil _⟩
    all_goals rfl
  exact load_of_gives hread hmembers hgives

/-- A dotted key with as many keys as the limit on nesting. -/
def longPath : Toml.KeyPath := ⟨List.replicate 79 ['a'], ['a']⟩

def longText : Text := longPath.text ++ " = 1\n".toList

def longTree : FileTree :=
  [("sift.toml".toList, .file (Text.toBytes longText))]

/-- A document that gives none of the settings can be refused, for the length of a dotted key. -/
theorem load_refuses_long_path :
    (Toml.readKeys longText).map Shorter.parts = some (longPath, "= 1\n".toList) ∧
      (∃ members, Toml.assemble [.assign longPath (.integer 1)] = some members ∧
        Gives members {}) ∧
      load longTree (Path.ofText [] "sift.toml".toList) =
        .error (.config "Failed to parse config".toList) := by
  have hbare : longPath.IsBare := by
    constructor
    · intro key hkey
      rw [List.eq_of_mem_replicate hkey]
      decide
    · decide
  refine ⟨?_, ⟨_, Toml.assemble_assign longPath _, ?_⟩, ?_⟩
  · exact Toml.readKeys_bare (List.forall_mem_singleton.mpr rfl) rfl rfl (by decide) hbare
  · constructor
    · simp only [List.forall_mem_cons]
      exact ⟨.of_absent rfl, .of_absent rfl, .of_absent rfl, .of_absent rfl,
        List.forall_mem_nil _⟩
    all_goals rfl
  · have hread : longTree.readText (Path.ofText [] "sift.toml".toList) = .ok longText :=
      FileTree.readText_of_readFile rfl
    have hmembers : Toml.read? longText = none :=
      Toml.read?_of_nestingLimit_le hbare (by decide) _
    rw [load_of_readText hread, decode?, hmembers]
    rfl

end Config
end PaperFilter
