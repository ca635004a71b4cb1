import PaperFilter.FileTree.Path

/-!
# The way to a place

The places that a path passes are those that its beginnings lead to.  The parent of a path is such a
beginning, and what it leaves out holds a step that leads on, so that the places that the parent
passes are ancestors of the path.
-/

namespace PaperFilter
namespace Path

/-- A place that the path leads to on its way: some of its steps lead there, and one of those behind
leads on. -/
def IsAncestor (path : Path) (place : Place) : Prop :=
  ∃ before behind, path.steps = before ++ behind ∧ before ≠ [] ∧
    (∃ step ∈ behind, step ≠ .stay) ∧ before.foldl Step.leadsTo path.origin = place

section

variable {origin place : Place} {path : Path}

/-!
## Beginnings of a path
-/

theorem placesFrom_append (origin : Place) (before behind : List Step) :
    placesFrom origin (before ++ behind) =
      placesFrom origin before ++ placesFrom (before.foldl Step.leadsTo origin) behind := by
  induction before generalizing origin with
  | nil => rfl
  | cons step before ih =>
      rw [List.cons_append, placesFrom, ih]
      rfl

theorem exists_of_mem_placesFrom {steps : List Step} (h : place ∈ placesFrom origin steps) :
    ∃ before behind, steps = before ++ behind ∧ before ≠ [] ∧
      before.foldl Step.leadsTo origin = place := by
  induction steps generalizing origin with
  | nil => cases h
  | cons step steps ih =>
      rcases List.mem_cons.mp h with rfl | hbehind
      · exact ⟨[step], steps, rfl, List.cons_ne_nil _ _, rfl⟩
      · rcases ih hbehind with ⟨before, behind, rfl, _, hplace⟩
        exact ⟨step :: before, behind, rfl, List.cons_ne_nil _ _, hplace⟩

/-- What a beginning of a path passes the path passes. -/
theorem mem_places_of_isPrefix {parts others : List Text} (hparts : parts <+: others)
    (h : place ∈ (⟨origin, parts⟩ : Path).places) : place ∈ (⟨origin, others⟩ : Path).places := by
  rcases hparts with ⟨behind, rfl⟩
  rw [places, steps, List.filter_append, List.map_append, placesFrom_append]
  exact List.mem_append_left _ h

theorem foldl_mem_placesFrom {steps : List Step} (h : steps ≠ []) :
    steps.foldl Step.leadsTo origin ∈ placesFrom origin steps := by
  induction steps generalizing origin with
  | nil => exact absurd rfl h
  | cons step steps ih =>
      rw [List.foldl_cons, placesFrom]
      cases steps with
      | nil => exact List.mem_cons_self
      | cons second steps => exact List.mem_cons_of_mem _ (ih (List.cons_ne_nil _ _))

/-!
## Parents
-/

theorem ne_stay_of_moves {part : Text} (h : moves part = true) : Step.ofText part ≠ .stay := by
  rw [moves, Bool.and_eq_true, bne_iff_ne] at h
  rw [Step.ofText, if_neg h.right]
  split
  · exact Step.noConfusion
  · exact Step.noConfusion

theorem exists_eq_append_withoutLast (parts : List Text) :
    ∃ dropped, parts = dropped ++ withoutLast parts ∧
      (withoutLast parts = [] ∨ ∃ part ∈ dropped, moves part = true) := by
  have hparts := parts.takeWhile_append_dropWhile (p := fun part => !moves part)
  have hhead := List.head?_dropWhile_not (fun part => !moves part) parts
  rw [withoutLast]
  cases hrest : parts.dropWhile fun part => !moves part with
  | nil => exact ⟨parts, (List.append_nil parts).symm, Or.inl rfl⟩
  | cons last before =>
      rw [hrest] at hparts
      have hlast : moves last = true := by
        rw [hrest] at hhead
        simpa using hhead
      refine ⟨parts.takeWhile (fun part => !moves part) ++
        last :: before.takeWhile (fun part => !moves part), ?_, Or.inr ⟨last, by simp, hlast⟩⟩
      rw [List.drop_one, List.tail_cons, List.append_assoc, List.cons_append,
        List.takeWhile_append_dropWhile, hparts]

/-- The parent leaves out a part that moves, if it leaves anything of the path. -/
theorem exists_parts_eq (path : Path) :
    ∃ dropped, path.parts = path.parent.parts ++ dropped ∧
      (path.parent.parts = [] ∨ ∃ part ∈ dropped, moves part = true) := by
  rcases exists_eq_append_withoutLast path.parts.reverse with ⟨dropped, hparts, hdropped⟩
  refine ⟨dropped.reverse, ?_, ?_⟩
  · rw [parent, ← List.reverse_append, ← hparts, List.reverse_reverse]
  · simp only [parent, List.reverse_eq_nil_iff, List.mem_reverse]
    exact hdropped

theorem parent_parts_isPrefix (path : Path) : path.parent.parts <+: path.parts := by
  rcases path.exists_parts_eq with ⟨dropped, hparts, _⟩
  exact ⟨dropped, hparts.symm⟩

theorem isAncestor_of_mem_places_parent (h : place ∈ path.parent.places) :
    path.IsAncestor place := by
  rcases path.exists_parts_eq with ⟨dropped, hparts, hnone | ⟨part, hpart, hmoves⟩⟩
  · rw [places, steps, hnone] at h
    cases h
  · have hsteps : path.steps = path.parent.steps ++
        (dropped.filter fun part => !part.isEmpty).map Step.ofText := by
      rw [steps, hparts, List.filter_append, List.map_append]
      rfl
    rcases exists_of_mem_placesFrom h with ⟨before, between, hparent, hne, hplace⟩
    refine ⟨before, between ++ (dropped.filter fun part => !part.isEmpty).map Step.ofText, ?_, hne,
      ⟨Step.ofText part, ?_, ne_stay_of_moves hmoves⟩, hplace⟩
    · rw [hsteps, hparent, List.append_assoc]
    · rw [moves, Bool.and_eq_true] at hmoves
      exact List.mem_append_right _
        (List.mem_map_of_mem (List.mem_filter.mpr ⟨hpart, hmoves.left⟩))

end

end Path
end PaperFilter
