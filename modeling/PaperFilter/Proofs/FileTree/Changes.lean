import PaperFilter.Proofs.FileTree.Ancestors
import PaperFilter.Proofs.FileTree.Walking

/-!
# Changes of a tree

Making directories never loses anything, whether it succeeds or not, and brings nothing but
directories at places that the path passes.  Writing a file changes what is read at its own place,
under all paths that lead there, and at no other place.
-/

namespace PaperFilter
namespace FileTree

/-- Everything is still there, only that directories may have more than before. -/
def Grows (tree grown : FileTree) : Prop :=
  ∀ place entry, lookup place tree = .ok entry →
    ∃ kept, lookup place grown = .ok kept ∧ entry.IsKeptAs kept

namespace Grows

variable {tree between grown : FileTree}

theorem refl (tree : FileTree) : Grows tree tree :=
  fun _ entry h => ⟨entry, h, .refl entry⟩

theorem trans (hfirst : Grows tree between) (hsecond : Grows between grown) : Grows tree grown := by
  intro place entry h
  obtain ⟨kept, hkept, hentry⟩ := hfirst place entry h
  obtain ⟨found, hfound, hkept⟩ := hsecond place kept hkept
  exact ⟨found, hfound, hentry.trans hkept⟩

theorem keepsDirectories (h : Grows tree grown) : KeepsDirectories tree grown := by
  intro place members hmembers
  obtain ⟨kept, hkept, hentry⟩ := h place _ hmembers
  cases hentry with
  | directory _ inner => exact ⟨inner, hkept⟩

theorem lookup_file (h : Grows tree grown) {place : Place} {content : ByteArray}
    (hfile : lookup place tree = .ok (.file content)) :
    lookup place grown = .ok (.file content) := by
  obtain ⟨kept, hkept, hentry⟩ := h place _ hfile
  cases hentry with
  | file => exact hkept

end Grows

/-- Nothing is lost, and everything new is a directory at one of the places. -/
structure GrowsAt (places : Place → Prop) (tree grown : FileTree) : Prop where
  grows : Grows tree grown
  added : ∀ place entry, lookup place grown = .ok entry →
    (∃ old, lookup place tree = .ok old ∧ old.IsKeptAs entry) ∨
      places place ∧ ∃ members, entry = .directory members

namespace GrowsAt

variable {tree between grown : FileTree} {places : Place → Prop}

theorem refl (places : Place → Prop) (tree : FileTree) : GrowsAt places tree tree :=
  ⟨.refl tree, fun _ entry h => .inl ⟨entry, h, .refl entry⟩⟩

theorem trans (hfirst : GrowsAt places tree between) (hsecond : GrowsAt places between grown) :
    GrowsAt places tree grown where
  grows := hfirst.grows.trans hsecond.grows
  added := by
    intro place entry h
    rcases hsecond.added place entry h with ⟨found, hfound, hkept⟩ | hnew
    · rcases hfirst.added place found hfound with ⟨old, hold, hentry⟩ | ⟨hplace, members, rfl⟩
      · exact .inl ⟨old, hold, hentry.trans hkept⟩
      · cases hkept with
        | directory _ inner => exact .inr ⟨hplace, inner, rfl⟩
    · exact .inr hnew

theorem mono {others : Place → Prop} (h : GrowsAt places tree grown)
    (hplaces : ∀ place, places place → others place) : GrowsAt others tree grown where
  grows := h.grows
  added := fun place entry hentry =>
    (h.added place entry hentry).imp_right fun hnew => ⟨hplaces place hnew.left, hnew.right⟩

/-- No file is new. -/
theorem lookup_file_iff (h : GrowsAt places tree grown) {place : Place} {content : ByteArray} :
    lookup place grown = .ok (.file content) ↔ lookup place tree = .ok (.file content) := by
  constructor
  · intro hfile
    rcases h.added place _ hfile with ⟨old, hold, hkept⟩ | ⟨_, members, hcontra⟩
    · cases hkept with
      | file => exact hold
    · cases hcontra
  · exact h.grows.lookup_file

end GrowsAt

section

variable {tree grown written : FileTree} {path other : Path} {place : Place} {parent : Position}
  {name : Text} {content before : ByteArray}

theorem keepsDirectories_put (h : ∀ members, lookup place tree ≠ .ok (.directory members))
    (entry : Entry) : KeepsDirectories tree (put entry place tree) := by
  intro elsewhere members hmembers
  have hne : elsewhere ≠ place := by
    rintro rfl
    exact h members hmembers
  obtain ⟨kept, hkept, hentry⟩ := lookup_put_of_ne h hne hmembers entry
  cases hentry with
  | directory _ inner => exact ⟨inner, hkept⟩

/-!
## Making directories
-/

theorem Position.IsIn.of_notFound (hin : parent.IsIn tree)
    (h : parent.entryOf name = .error .notFound) :
    (Text.toBytes name).size ≤ maxNameSize ∧
      ∀ entry, lookup (parent.place ++ [name]) tree ≠ .ok entry := by
  have hshort : (Text.toBytes name).size ≤ maxNameSize := by
    rw [Position.entryOf] at h
    split at h
    · cases h
    · next hshort => exact Nat.le_of_not_lt hshort
  refine ⟨hshort, fun entry hentry => ?_⟩
  rw [hin.entryOf_eq_ok_iff.mpr ⟨hshort, hentry⟩] at h
  cases h

theorem growsAt_put (h : ∀ entry, lookup place tree ≠ .ok entry) :
    GrowsAt (· = place) tree (put (.directory []) place tree) where
  grows := by
    intro elsewhere found hfound
    have hne : elsewhere ≠ place := by
      rintro rfl
      exact h found hfound
    exact lookup_put_of_ne (fun members => h (.directory members)) hne hfound (.directory [])
  added := by
    intro elsewhere found hfound
    rcases lookup_of_put_directory hfound with ⟨hplace, rfl⟩ | hold
    · exact .inr ⟨hplace, [], rfl⟩
    · exact .inl hold

/-- A path that leads to a name passes the place of the name last. -/
theorem place_mem_places (h : target tree path = .ok (.named parent name)) :
    path.place ∈ path.places := by
  apply Path.foldl_mem_placesFrom
  intro hnil
  have hlast := (target_eq_named_iff.mp h).right.left
  rw [hnil] at hlast
  cases hlast

theorem growsAt_makeDirectory (h : makeDirectory path tree = .ok grown) :
    GrowsAt (· ∈ path.places) tree grown := by
  obtain ⟨found, htarget, hmake⟩ := bind_eq_ok h
  cases found with
  | directory position => cases hmake
  | named parent name =>
      simp only at hmake
      split at hmake
      · cases hmake
      · next hentry =>
          cases hmake
          rcases place_of_target htarget with ⟨hin, hplace⟩
          apply (growsAt_put (hin.of_notFound hentry).right).mono
          rintro _ rfl
          rw [hplace]
          exact place_mem_places htarget
      · cases hmake

theorem growsAt_ensureDirectory (h : ensureDirectory path tree = .ok grown) :
    GrowsAt (· ∈ path.places) tree grown := by
  rw [ensureDirectory] at h
  split at h
  · next made hmake =>
      cases h
      exact growsAt_makeDirectory hmake
  · cases h
  · split at h
    · cases h
      exact .refl _ tree
    · cases h

theorem growsAt_makeAfter {makeWay : FileTree → FileTree × Option FileError}
    (hway : ∀ tree, GrowsAt (· ∈ path.places) tree (makeWay tree).1) (tree : FileTree) :
    GrowsAt (· ∈ path.places) tree (makeAfter makeWay path tree).1 := by
  have hprepared := hway tree
  rw [makeAfter]
  split
  · next made hmade => exact growsAt_ensureDirectory hmade
  · split
    · next heq => exact heq ▸ hprepared
    · next heq =>
        rw [heq] at hprepared
        split
        · next made hmade => exact hprepared.trans (growsAt_ensureDirectory hmade)
        · -- the way that was made stays after the error
          exact hprepared
  · exact .refl _ tree

theorem growsAt_makeBackward (origin : Place) (parts : List Text) (tree : FileTree) :
    GrowsAt (· ∈ (⟨origin, parts.reverse⟩ : Path).places) tree
      (makeBackward origin parts tree).1 := by
  induction parts generalizing tree with
  | nil => exact .refl _ tree
  | cons last before ih =>
      have hway : ∀ tree, GrowsAt (· ∈ (⟨origin, (last :: before).reverse⟩ : Path).places) tree
          (makeBackward origin before tree).1 := by
        intro tree
        apply (ih tree).mono
        intro place hplace
        rw [List.reverse_cons]
        exact Path.mem_places_of_isPrefix (List.prefix_append _ _) hplace
      rw [makeBackward]
      split
      · exact growsAt_makeAfter hway tree
      · exact hway tree

theorem growsAt_makeDirectories (path : Path) (tree : FileTree) :
    GrowsAt (· ∈ path.places) tree (makeDirectories path tree).1 := by
  rw [makeDirectories]
  split
  · exact .refl _ tree
  · apply growsAt_makeAfter
    intro tree
    apply (growsAt_makeBackward _ _ tree).mono
    intro place hplace
    rw [List.reverse_reverse] at hplace
    exact Path.mem_places_of_isPrefix path.parent_parts_isPrefix hplace

/-!
## Reading and writing
-/

/-- All that a path needs to lead to a file, except for the file. -/
def HasWay (tree : FileTree) (path : Path) : Prop :=
  ∃ parent name, target tree path = .ok (.named parent name) ∧
    (Text.toBytes name).size ≤ maxNameSize ∧ path.endsInSlash = false

theorem HasWay.of_keepsDirectories (h : HasWay tree path) (hkeeps : KeepsDirectories tree grown) :
    HasWay grown path := by
  rcases h with ⟨parent, name, htarget, hshort, hslash⟩
  obtain ⟨after, hafter⟩ := exists_target hkeeps htarget
  exact ⟨after, name, hafter, hshort, hslash⟩

theorem entryAt_eq_file_iff : entryAt tree path = .ok (.file content) ↔
    HasWay tree path ∧ lookup path.place tree = .ok (.file content) := by
  constructor
  · intro h
    obtain ⟨found, htarget, hfound⟩ := bind_eq_ok h
    cases found with
    | directory position => cases hfound
    | named parent name =>
        rcases place_of_target htarget with ⟨hin, hplace⟩
        obtain ⟨entry, hentry, hfile⟩ := bind_eq_ok hfound
        cases entry with
        | directory members => cases hfile
        | file content =>
            simp only at hfile
            split at hfile
            · cases hfile
            · next hslash =>
                cases hfile
                rcases hin.entryOf_eq_ok_iff.mp hentry with ⟨hshort, hlookup⟩
                exact ⟨⟨parent, name, htarget, hshort, Bool.eq_false_iff.mpr hslash⟩,
                  hplace ▸ hlookup⟩
  · rintro ⟨⟨parent, name, htarget, hshort, hslash⟩, hlookup⟩
    rcases place_of_target htarget with ⟨hin, hplace⟩
    have hentry := hin.entryOf_eq_ok_iff.mpr ⟨hshort, hplace ▸ hlookup⟩
    rw [entryAt, htarget]
    simp only [bind, Except.bind, hentry, hslash, Bool.false_eq_true, if_false]
    rfl

theorem readFile_eq_ok_iff_entryAt : readFile tree path = .ok content ↔
    entryAt tree path = .ok (.file content) := by
  constructor
  · intro h
    obtain ⟨entry, hentry, hcontent⟩ := bind_eq_ok h
    cases entry with
    | directory members => cases hcontent
    | file content =>
        cases hcontent
        exact hentry
  · intro h
    rw [readFile, h]
    rfl

theorem readFile_eq_ok_iff : readFile tree path = .ok content ↔
    HasWay tree path ∧ lookup path.place tree = .ok (.file content) :=
  readFile_eq_ok_iff_entryAt.trans entryAt_eq_file_iff

theorem has_of_readFile (h : readFile tree path = .ok content) : has tree path = true := by
  rw [has, readFile_eq_ok_iff_entryAt.mp h]
  rfl

theorem readText_of_readFile {text : Text} (h : readFile tree path = .ok (Text.toBytes text)) :
    readText tree path = .ok text := by
  rw [readText, h]
  simp only [bind, Except.bind, Text.ofBytes?_toBytes]
  rfl

/-- What is read stays the same while the tree grows. -/
theorem Grows.readFile (hgrows : Grows tree grown) (h : tree.readFile path = .ok content) :
    grown.readFile path = .ok content := by
  rcases readFile_eq_ok_iff.mp h with ⟨hway, hlookup⟩
  exact readFile_eq_ok_iff.mpr
    ⟨hway.of_keepsDirectories hgrows.keepsDirectories, hgrows.lookup_file hlookup⟩

/-- A file is written where there is a way to it and no directory in its place. -/
theorem writeFile_eq_ok (h : writeFile content path tree = .ok written) :
    HasWay tree path ∧ (∀ members, lookup path.place tree ≠ .ok (.directory members)) ∧
      written = put (.file content) path.place tree := by
  obtain ⟨found, htarget, hwrite⟩ := bind_eq_ok h
  cases found with
  | directory position => cases hwrite
  | named parent name =>
      rcases place_of_target htarget with ⟨hin, hplace⟩
      simp only at hwrite
      split at hwrite
      · cases hwrite
      next hslash =>
        have hslash : path.endsInSlash = false := Bool.eq_false_iff.mpr hslash
        rw [← hplace]
        split at hwrite
        · cases hwrite
        · next old hentry =>
            cases hwrite
            rcases hin.entryOf_eq_ok_iff.mp hentry with ⟨hshort, hlookup⟩
            refine ⟨⟨parent, name, htarget, hshort, hslash⟩, fun members hmembers => ?_, rfl⟩
            cases hlookup.symm.trans hmembers
        · next hentry =>
            cases hwrite
            rcases hin.of_notFound hentry with ⟨hshort, hnone⟩
            exact ⟨⟨parent, name, htarget, hshort, hslash⟩, fun members => hnone _, rfl⟩
        · cases hwrite

/-- What was written is read under every path that leads to its place. -/
theorem readFile_of_writeFile (h : writeFile content path tree = .ok written)
    (hway : HasWay tree other) (hplace : other.place = path.place) :
    readFile written other = .ok content := by
  rcases writeFile_eq_ok h with ⟨⟨parent, name, htarget, _⟩, hnone, rfl⟩
  rcases place_of_target htarget with ⟨hin, hname⟩
  have hlookup := lookup_put_self hin.lookup_place name (.file content)
  have hafter := hway.of_keepsDirectories (keepsDirectories_put hnone (.file content))
  rw [hname] at hlookup
  rw [← hplace] at hlookup hafter ⊢
  exact readFile_eq_ok_iff.mpr ⟨hafter, hlookup⟩

/-- What is read at another place stays the same. -/
theorem readFile_of_writeFile_of_ne (h : writeFile content path tree = .ok written)
    (hread : readFile tree other = .ok before) (hplace : other.place ≠ path.place) :
    readFile written other = .ok before := by
  rcases writeFile_eq_ok h with ⟨_, hnone, rfl⟩
  rcases readFile_eq_ok_iff.mp hread with ⟨hway, hlookup⟩
  have hafter := hway.of_keepsDirectories (keepsDirectories_put hnone (.file content))
  obtain ⟨kept, hkept, hfile⟩ := lookup_put_of_ne hnone hplace hlookup (.file content)
  cases hfile with
  | file => exact readFile_eq_ok_iff.mpr ⟨hafter, hkept⟩

end

end FileTree
end PaperFilter
