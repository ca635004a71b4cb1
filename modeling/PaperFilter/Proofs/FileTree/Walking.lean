import PaperFilter.Proofs.FileTree.Places
import PaperFilter.Proofs.Front

/-!
# Walking to places

Where a walk ends depends on its steps only; the tree decides whether it gets there.  So a path that
leads to a file leads to the same place in every tree that has the directories of the first.
-/

namespace PaperFilter

/-- The place that a path leads to if it leads anywhere. -/
def Path.place (path : Path) : Place :=
  path.steps.foldl Path.Step.leadsTo path.origin

namespace FileTree

/-- Every directory is still a directory, whatever it has now. -/
def KeepsDirectories (tree grown : FileTree) : Prop :=
  ∀ place members, lookup place tree = .ok (.directory members) →
    ∃ inner, lookup place grown = .ok (.directory inner)

namespace Position

/-- A position that a walk from the root of a tree can come to. -/
inductive IsIn (tree : FileTree) : Position → Prop where
  | root : IsIn tree ⟨tree, []⟩
  | into {members inner : FileTree} {above : List (Text × FileTree)} {name : Text}
      (h : IsIn tree ⟨members, above⟩) (hfind : find? name members = some (.directory inner)) :
      IsIn tree ⟨inner, (name, members) :: above⟩

section

variable {tree grown : FileTree} {position next after : Position} {name : Text} {entry : Entry}
  {step : Path.Step}

theorem place_cons (members inner : FileTree) (above : List (Text × FileTree)) (name : Text) :
    place ⟨inner, (name, members) :: above⟩ = place ⟨members, above⟩ ++ [name] := by
  rw [place, List.map_cons, List.reverse_cons]
  rfl

theorem IsIn.lookup_place (h : position.IsIn tree) :
    lookup position.place tree = .ok (.directory position.members) := by
  induction h with
  | root => rfl
  | into h hfind ih => rw [place_cons, lookup_append ih, lookup_singleton_eq_ok_iff.mpr hfind]

theorem entryOf_eq_ok_iff : position.entryOf name = .ok entry ↔
    (Text.toBytes name).size ≤ maxNameSize ∧ find? name position.members = some entry := by
  rw [entryOf]
  split
  · next hlong => exact ⟨nofun, fun h => absurd hlong (Nat.not_lt.mpr h.left)⟩
  · next hshort =>
      rw [and_iff_right (Nat.le_of_not_lt hshort)]
      cases find? name position.members with
      | none => simp
      | some found => simp

theorem IsIn.entryOf_eq_ok_iff (h : position.IsIn tree) : position.entryOf name = .ok entry ↔
    (Text.toBytes name).size ≤ maxNameSize ∧
      lookup (position.place ++ [name]) tree = .ok entry := by
  rw [Position.entryOf_eq_ok_iff, lookup_append h.lookup_place, lookup_singleton_eq_ok_iff]

/-!
## Steps
-/

theorem enter_into_eq_ok (h : position.enter (.into name) = .ok next) :
    ∃ inner, position.entryOf name = .ok (.directory inner) ∧
      next = ⟨inner, (name, position.members) :: position.above⟩ := by
  obtain ⟨entry, hentry, hnext⟩ := bind_eq_ok h
  cases entry with
  | file content => cases hnext
  | directory inner =>
      cases hnext
      exact ⟨inner, hentry, rfl⟩

theorem place_of_enter (h : position.enter step = .ok next) :
    next.place = step.leadsTo position.place := by
  cases step with
  | stay =>
      cases h
      rfl
  | up =>
      rcases position with ⟨members, above⟩
      cases above with
      | nil =>
          cases h
          rfl
      | cons last above =>
          cases h
          rw [Path.Step.leadsTo, place_cons, List.dropLast_concat]
  | into name =>
      obtain ⟨inner, _, rfl⟩ := enter_into_eq_ok h
      exact place_cons _ _ _ _

theorem IsIn.enter (hin : position.IsIn tree) (h : position.enter step = .ok next) :
    next.IsIn tree := by
  cases step with
  | stay =>
      cases h
      exact hin
  | up =>
      cases hin with
      | root =>
          cases h
          exact .root
      | into hin hfind =>
          cases h
          exact hin
  | into name =>
      obtain ⟨inner, hentry, rfl⟩ := enter_into_eq_ok h
      exact .into hin (Position.entryOf_eq_ok_iff.mp hentry).right

/-- A step that could be taken can be taken from the same place in a tree that has the directories
of the first. -/
theorem exists_enter (hkeeps : KeepsDirectories tree grown) (hin : position.IsIn tree)
    (hafter : after.IsIn grown) (hplace : after.place = position.place)
    (h : position.enter step = .ok next) : ∃ found, after.enter step = .ok found := by
  cases step with
  | stay => exact ⟨after, rfl⟩
  | up =>
      rw [Position.enter]
      split
      · exact ⟨_, rfl⟩
      · exact ⟨_, rfl⟩
  | into name =>
      obtain ⟨inner, hentry, rfl⟩ := enter_into_eq_ok h
      rcases hin.entryOf_eq_ok_iff.mp hentry with ⟨hshort, hlookup⟩
      obtain ⟨members, hmembers⟩ := hkeeps _ _ hlookup
      have hfound : after.entryOf name = .ok (.directory members) :=
        hafter.entryOf_eq_ok_iff.mpr ⟨hshort, hplace ▸ hmembers⟩
      rw [Position.enter, hfound]
      exact ⟨_, rfl⟩

/-!
## Walks
-/

section

variable {steps : List Path.Step} {last : Position}

theorem place_of_foldlM (h : steps.foldlM Position.enter position = .ok last) :
    last.place = steps.foldl Path.Step.leadsTo position.place := by
  induction steps generalizing position with
  | nil =>
      cases h
      rfl
  | cons step steps ih =>
      obtain ⟨next, hnext, hsteps⟩ := bind_eq_ok h
      rw [List.foldl_cons, ← place_of_enter hnext]
      exact ih hsteps

theorem IsIn.foldlM (hin : position.IsIn tree)
    (h : steps.foldlM Position.enter position = .ok last) : last.IsIn tree := by
  induction steps generalizing position with
  | nil =>
      cases h
      exact hin
  | cons step steps ih =>
      obtain ⟨next, hnext, hsteps⟩ := bind_eq_ok h
      exact ih (hin.enter hnext) hsteps

theorem exists_foldlM (hkeeps : KeepsDirectories tree grown) (hin : position.IsIn tree)
    (hafter : after.IsIn grown) (hplace : after.place = position.place)
    (h : steps.foldlM Position.enter position = .ok last) :
    ∃ found, steps.foldlM Position.enter after = .ok found := by
  induction steps generalizing position after with
  | nil => exact ⟨after, rfl⟩
  | cons step steps ih =>
      obtain ⟨next, hnext, hsteps⟩ := bind_eq_ok h
      obtain ⟨nextAfter, hnextAfter⟩ := exists_enter hkeeps hin hafter hplace hnext
      -- the two walks stay at one place, each in its own tree
      have hnextPlace : nextAfter.place = next.place := by
        rw [place_of_enter hnextAfter, place_of_enter hnext, hplace]
      rw [List.foldlM_cons, hnextAfter]
      exact ih (hin.enter hnext) (hafter.enter hnextAfter) hnextPlace hsteps

end

end

end Position

/-!
## Paths
-/

section

variable {tree grown : FileTree} {path : Path} {parent : Position} {name : Text}

theorem foldl_leadsTo_into (names start : Place) :
    (names.map Path.Step.into).foldl Path.Step.leadsTo start = start ++ names := by
  induction names generalizing start with
  | nil => exact (List.append_nil start).symm
  | cons name names ih =>
      rw [List.map_cons, List.foldl_cons, ih, Path.Step.leadsTo, List.append_assoc,
        List.singleton_append]

theorem isIn_of_walk {origin : Place} {steps : List Path.Step}
    (h : walk tree origin steps = .ok parent) : parent.IsIn tree :=
  Position.IsIn.root.foldlM h

theorem place_of_walk {origin : Place} {steps : List Path.Step}
    (h : walk tree origin steps = .ok parent) :
    parent.place = steps.foldl Path.Step.leadsTo origin := by
  rw [Position.place_of_foldlM h, List.foldl_append, foldl_leadsTo_into]
  rfl

theorem exists_walk (hkeeps : KeepsDirectories tree grown) {origin : Place}
    {steps : List Path.Step} (h : walk tree origin steps = .ok parent) :
    ∃ after, walk grown origin steps = .ok after :=
  Position.exists_foldlM hkeeps .root .root rfl h

/-- A text that can be the text of a path that leads somewhere. -/
structure IsPathText (text : Text) : Prop where
  noNull : text.contains '\x00' = false
  short : (Text.toBytes text).size ≤ maxPathSize
  ne_nil : text.isEmpty = false

theorem target_eq_named_iff : target tree path = .ok (.named parent name) ↔
    IsPathText path.text ∧ path.steps.getLast? = some (.into name) ∧
      walk tree path.origin path.steps.dropLast = .ok parent := by
  constructor
  · intro h
    simp only [target] at h
    split at h
    · cases h
    next hnull =>
      split at h
      · cases h
      next hlong =>
        split at h
        · cases h
        next hempty =>
          have htext : IsPathText path.text :=
            ⟨Bool.eq_false_iff.mpr hnull, Nat.le_of_not_lt hlong, Bool.eq_false_iff.mpr hempty⟩
          split at h
          · next last hlast =>
              rcases map_eq_ok h with ⟨found, hfound, heq⟩
              cases heq
              exact ⟨htext, hlast, hfound⟩
          · rcases map_eq_ok h with ⟨found, _, heq⟩
            cases heq
  · rintro ⟨⟨hnull, hshort, hempty⟩, hlast, hwalk⟩
    simp only [target, hnull, Nat.not_lt.mpr hshort, hempty, hlast, hwalk, Bool.false_eq_true,
      if_false]
    rfl

/-- A path that ends in a name leads to that name in the directory that the steps before lead to. -/
theorem place_of_target (h : target tree path = .ok (.named parent name)) :
    parent.IsIn tree ∧ parent.place ++ [name] = path.place := by
  rcases target_eq_named_iff.mp h with ⟨_, hlast, hwalk⟩
  obtain ⟨before, hsteps⟩ := List.getLast?_eq_some_iff.mp hlast
  rw [hsteps, List.dropLast_concat] at hwalk
  refine ⟨isIn_of_walk hwalk, ?_⟩
  rw [place_of_walk hwalk, Path.place, hsteps, List.foldl_append]
  rfl

theorem exists_target (hkeeps : KeepsDirectories tree grown)
    (h : target tree path = .ok (.named parent name)) :
    ∃ after, target grown path = .ok (.named after name) := by
  rcases target_eq_named_iff.mp h with ⟨htext, hlast, hwalk⟩
  obtain ⟨after, hafter⟩ := exists_walk hkeeps hwalk
  exact ⟨after, target_eq_named_iff.mpr ⟨htext, hlast, hafter⟩⟩

end

end FileTree
end PaperFilter
