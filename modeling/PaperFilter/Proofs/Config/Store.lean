import PaperFilter.Config.Store
import PaperFilter.Proofs.Config.Toml
import PaperFilter.Proofs.FileTree.Changes

/-!
# Settings that were saved

Settings that could be saved are loaded again, under every path that leads to the file that they
were saved in.  What is loaded from any other file stays the same.  Settings that could not be saved
leave all files as they were, whether it was the way to the file that could not be made, the
document or the file itself; what they may leave behind are directories on the way.
-/

namespace PaperFilter
namespace Config

variable {config : Config} {path other : Path} {tree saved left : FileTree}

/-!
## Loading
-/

/-- What is loaded from a file depends on its content only. -/
theorem load_congr {content : ByteArray} (h : tree.readFile path = .ok content)
    (hsaved : saved.readFile other = .ok content) : load saved other = load tree path := by
  rw [load, load, FileTree.has_of_readFile h, FileTree.has_of_readFile hsaved, if_pos rfl,
    if_pos rfl, FileTree.readText, FileTree.readText, h, hsaved]

theorem load_of_readText {text : Text} (h : tree.readText path = .ok text) :
    load tree path =
      (decode? text).elim (.error (.config "Failed to parse config".toList)) .ok := by
  obtain ⟨content, hcontent, _⟩ := bind_eq_ok h
  rw [load, FileTree.has_of_readFile hcontent, if_pos rfl]
  simp only [h]
  cases decode? text with
  | none => rfl
  | some config => rfl

theorem load_of_readFile {text : Text} (h : tree.readFile path = .ok (Text.toBytes text))
    (hdecode : decode? text = some config) : load tree path = .ok config := by
  rw [load_of_readText (FileTree.readText_of_readFile h), hdecode, Option.elim_some]

/-!
## Saving
-/

/-- Settings are saved in two steps: the way to the file is made, and the document written. -/
theorem save_eq_none (h : config.save path tree = (saved, none)) :
    ∃ prepared text, FileTree.Grows tree prepared ∧ config.encode? = some text ∧
      prepared.writeFile (Text.toBytes text) path = .ok saved := by
  have hgrows := (FileTree.growsAt_makeDirectories path.parent tree).grows
  rw [save] at h
  split at h
  · cases h
  · next prepared hprepared =>
      rw [hprepared] at hgrows
      split at h
      · cases h
      · next text htext =>
          split at h
          · cases h
          · next written hwritten =>
              cases h
              exact ⟨prepared, text, hgrows, htext, hwritten⟩

/-- Saved settings are loaded as they were saved, from a document that spells them out in order.
What was loaded from a file before is loaded after, unless they were saved in that file. -/
theorem load_save (h : config.save path tree = (saved, none)) :
    load saved path = .ok config ∧
      (∃ level expr, Toml.IsWritten config.general.logLevel level ∧
        Toml.IsWritten config.query.expr expr ∧
          saved.readText path = .ok (config.document level expr)) ∧
      ∀ other content, tree.readFile other = .ok content →
        load saved other = if other.place = path.place then .ok config else load tree other := by
  obtain ⟨prepared, text, hgrows, htext, hwritten⟩ := save_eq_none h
  have hdecode := decode?_encode? htext
  obtain ⟨level, expr, hlevel, hexpr, hdocument⟩ := encode?_eq_document htext
  have hread : saved.readFile path = .ok (Text.toBytes text) :=
    FileTree.readFile_of_writeFile hwritten (FileTree.writeFile_eq_ok hwritten).left rfl
  refine ⟨load_of_readFile hread hdecode,
    ⟨level, expr, hlevel, hexpr, hdocument ▸ FileTree.readText_of_readFile hread⟩, ?_⟩
  intro other content hother
  have hprepared := hgrows.readFile hother
  split
  · next hplace =>
      have hway := (FileTree.readFile_eq_ok_iff.mp hprepared).left
      exact load_of_readFile (FileTree.readFile_of_writeFile hwritten hway hplace) hdecode
  · next hplace =>
      exact load_congr hother (FileTree.readFile_of_writeFile_of_ne hwritten hprepared hplace)

/-- Settings with quotation marks of both kinds, line ends and the largest threshold. -/
def quoted : Config where
  general := ⟨"it's\t\"\"\"loud\"\"\"\r\n".toList⟩
  query := ⟨"'video' or \"audio\"".toList, false⟩
  filter := ⟨.abstractText, false⟩
  performance := ⟨false, 9223372036854775807⟩

/-- A directory with a file of settings and with another file. -/
def homeTree : FileTree :=
  [("home".toList, .directory
    [("sift.toml".toList, .file .empty),
      ("notes.toml".toList, .file (Text.toBytes "[query]\nexpr = 'notes'".toList))])]

def fromHome (text : String) : Path :=
  Path.ofText ["home".toList] text.toList

/-- The way to the file leads through a directory that is made on saving. -/
theorem load_save_quoted :
    (quoted.save (fromHome "made/../sift.toml") homeTree).2 = none ∧
      load (quoted.save (fromHome "made/../sift.toml") homeTree).1
        (fromHome "made/../sift.toml") = .ok quoted ∧
      load (quoted.save (fromHome "made/../sift.toml") homeTree).1
        (fromHome "sift.toml") = .ok quoted ∧
      load (quoted.save (fromHome "made/../sift.toml") homeTree).1
        (fromHome "notes.toml") = load homeTree (fromHome "notes.toml") := by
  have h : quoted.save (fromHome "made/../sift.toml") homeTree =
      ((quoted.save (fromHome "made/../sift.toml") homeTree).1, none) :=
    Prod.ext rfl rfl
  rcases load_save h with ⟨hsaved, _, hothers⟩
  refine ⟨congrArg Prod.snd h, hsaved, ?_, ?_⟩
  · exact (hothers (fromHome "sift.toml") .empty rfl).trans (if_pos rfl)
  · exact (hothers (fromHome "notes.toml") _ rfl).trans (if_neg (by decide))

/-!
## Saving that fails
-/

/-- At whatever point saving fails, only directories on the way to the file were made before. -/
theorem growsAt_of_save_eq_some {failure : Failure}
    (h : config.save path tree = (left, some failure)) :
    FileTree.GrowsAt (· ∈ path.parent.places) tree left := by
  have hgrows := FileTree.growsAt_makeDirectories path.parent tree
  rw [save] at h
  split at h
  · next prepared error hprepared =>
      cases h
      rwa [hprepared] at hgrows
  · next prepared hprepared =>
      rw [hprepared] at hgrows
      split at h
      · cases h
        exact hgrows
      · split at h
        · cases h
          exact hgrows
        · cases h

/--
After an attempt to save that failed there are the same files with the same content, and they are
read as before.  No directory is gone, and every entry that is new is a directory that the path
passes on its way.
-/
theorem save_failed_keeps_files {failure : Failure}
    (h : config.save path tree = (left, some failure)) :
    (∀ place content, FileTree.lookup place left = .ok (.file content) ↔
        FileTree.lookup place tree = .ok (.file content)) ∧
      (∀ other content, tree.readFile other = .ok content → left.readFile other = .ok content) ∧
      (∀ place members, FileTree.lookup place tree = .ok (.directory members) →
        ∃ inner, FileTree.lookup place left = .ok (.directory inner)) ∧
      ∀ place entry, FileTree.lookup place left = .ok entry →
        (∃ old, FileTree.lookup place tree = .ok old) ∨
          path.IsAncestor place ∧ ∃ members, entry = .directory members := by
  have hgrows := growsAt_of_save_eq_some h
  refine ⟨fun _ _ => hgrows.lookup_file_iff, fun _ _ => hgrows.grows.readFile,
    hgrows.grows.keepsDirectories, ?_⟩
  intro place entry hentry
  rcases hgrows.added place entry hentry with ⟨old, hold, _⟩ | ⟨hplace, hdirectory⟩
  · exact Or.inl ⟨old, hold⟩
  · exact Or.inr ⟨Path.isAncestor_of_mem_places_parent hplace, hdirectory⟩

/-- A file stands where the path needs a directory, behind a directory that is made before. -/
theorem save_failed_keeps_files_below_file :
    (quoted.save (fromHome "made/../notes.toml/sift.toml") homeTree).2 =
        some (.file FileError.alreadyExists.message) ∧
      (quoted.save (fromHome "made/../notes.toml/sift.toml") homeTree).1.readFile
        (fromHome "notes.toml") = .ok (Text.toBytes "[query]\nexpr = 'notes'".toList) ∧
      (fromHome "made/../notes.toml/sift.toml").IsAncestor ["home".toList, "made".toList] := by
  have h : quoted.save (fromHome "made/../notes.toml/sift.toml") homeTree =
      ((quoted.save (fromHome "made/../notes.toml/sift.toml") homeTree).1,
        some (.file FileError.alreadyExists.message)) :=
    Prod.ext rfl rfl
  rcases save_failed_keeps_files h with ⟨_, hread, _, hnew⟩
  refine ⟨congrArg Prod.snd h, hread _ _ rfl, ?_⟩
  rcases hnew ["home".toList, "made".toList] (.directory []) rfl with ⟨old, hold⟩ | ⟨hancestor, _⟩
  · cases hold
  · exact hancestor

end Config
end PaperFilter
