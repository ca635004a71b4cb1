import PaperFilter.Config.Toml
import PaperFilter.Proofs.Toml.Documents
import PaperFilter.Proofs.Toml.Styles

/-!
# Documents of settings

A document has the four sections in order and in each its settings in order.  The sections are told
apart by their names and so are the settings of each, so that the document of a configuration is
read as the configuration.
-/

namespace PaperFilter
namespace Config

variable {config : Config}

/-!
## The text of a document
-/

def showFlag (value : Bool) : Text :=
  if value then "true".toList else "false".toList

/-- The document for some settings, of which the two texts are written as `level` and `expr`. -/
def document (config : Config) (level expr : Text) : Text :=
  "[general]\nlog_level = ".toList ++ level ++
    "\n\n[query]\nexpr = ".toList ++ expr ++
      "\nfold_case = ".toList ++ showFlag config.query.foldCase ++
    "\n\n[filter]\nsource = \"".toList ++ config.filter.source.name ++
      "\"\nextract_code_urls = ".toList ++ showFlag config.filter.extractCodeUrls ++
    "\n\n[performance]\nparallel = ".toList ++ showFlag config.performance.parallel ++
      "\nparallel_threshold = ".toList ++ Text.ofNat config.performance.parallelThreshold ++
        "\n".toList

theorem writePlain_boolean (value : Bool) : Toml.writePlain (.boolean value) = showFlag value := by
  cases value <;> rfl

/-- The name of a source needs no escapes. -/
theorem writePlain_source (source : Source) :
    Toml.writePlain (.string source.name) = '"' :: (source.name ++ ['"']) := by
  cases source <;> decide

theorem writeSections_sections (config : Config) :
    Toml.writeSections config.sections =
      config.document (Toml.writeString config.general.logLevel)
        (Toml.writeString config.query.expr) := by
  simp only [sections, Toml.writeSections, List.map_cons, List.map_nil, Text.joinWith,
    Toml.writeSection, Toml.writeSetting, List.flatMap_cons, List.flatMap_nil]
  simp only [writePlain_boolean, writePlain_source]
  unfold document
  simp only [Toml.writePlain, List.append_assoc, List.cons_append, List.nil_append,
    List.append_nil]
  rfl

/-- The document of a configuration spells out its settings in order, its two texts in the styles
that they are written in. -/
theorem encode?_eq_document {text : Text} (h : config.encode? = some text) :
    ∃ level expr, Toml.IsWritten config.general.logLevel level ∧
      Toml.IsWritten config.query.expr expr ∧ text = config.document level expr := by
  rw [encode?] at h
  split at h
  · cases h
    exact ⟨_, _, Toml.isWritten_writeString _, Toml.isWritten_writeString _,
      writeSections_sections config⟩
  · cases h

/-!
## Reading a document
-/

theorem isBareKey_section :
    ∀ name ∈ config.sections.map Toml.Section.name, Toml.IsBareKey name := by
  change ∀ name ∈ ["general".toList, "query".toList, "filter".toList, "performance".toList],
    Toml.IsBareKey name
  simp only [List.forall_mem_cons]
  decide

/-- Only the threshold could be too large to be read. -/
theorem isReadable_sections
    (h : (config.performance.parallelThreshold : Int) ≤ Toml.Scalar.maxInteger) :
    ∀ part ∈ config.sections, part.IsReadable := by
  have hkeys : Toml.IsBareKey "log_level".toList ∧ Toml.IsBareKey "expr".toList ∧
      Toml.IsBareKey "fold_case".toList ∧ Toml.IsBareKey "source".toList ∧
        Toml.IsBareKey "extract_code_urls".toList ∧ Toml.IsBareKey "parallel".toList ∧
          Toml.IsBareKey "parallel_threshold".toList := by
    decide
  rcases hkeys with ⟨hlevel, hexpr, hfold, hsource, hlinks, hparallel, hthreshold⟩
  intro part hpart
  have hname := isBareKey_section part.name (List.mem_map_of_mem hpart)
  simp only [sections, List.mem_cons, List.not_mem_nil, or_false] at hpart
  rcases hpart with rfl | rfl | rfl | rfl
  · exact ⟨hname, by simpa using hlevel, by simp [Toml.Plain.InRange], by simp⟩
  · exact ⟨hname, by simpa using ⟨hexpr, hfold⟩, by simp [Toml.Plain.InRange], by simp⟩
  · exact ⟨hname, by simpa using ⟨hsource, hlinks⟩, by simp [Toml.Plain.InRange], by simp⟩
  · exact ⟨hname, by simpa using ⟨hparallel, hthreshold⟩, by simpa [Toml.Plain.InRange] using h,
      by simp⟩

/-- Every setting is read as it was written, and a source by its name. -/
theorem ofMembers?_sections :
    ofMembers? (config.sections.map Toml.Section.member) = some config := by
  rcases config with ⟨general, query, ⟨source, extractCodeUrls⟩, performance⟩
  cases source <;> rfl

theorem decode?_encode? {text : Text} (h : config.encode? = some text) :
    decode? text = some config := by
  rw [encode?] at h
  split at h
  · next hthreshold =>
      cases h
      have hnames : (config.sections.map Toml.Section.name).Nodup := by
        change ["general".toList, "query".toList, "filter".toList, "performance".toList].Nodup
        decide
      rw [decode?, Toml.read?_writeSections (isReadable_sections hthreshold) hnames]
      exact ofMembers?_sections
  · cases h

end Config
end PaperFilter
