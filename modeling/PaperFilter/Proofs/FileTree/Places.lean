import PaperFilter.FileTree

/-!
# Entries at places

An entry that is put at a place is found there.  Where no directory stood at the place before,
everything at other places stays: a file as it is, and a directory with other members at most.  A
directory without members brings nothing but itself.
-/

namespace PaperFilter

/-- An entry that is there before and after a change. -/
inductive Entry.IsKeptAs : Entry → Entry → Prop where
  | file (content : ByteArray) : IsKeptAs (.file content) (.file content)
  | directory (members grown : List (Text × Entry)) :
      IsKeptAs (.directory members) (.directory grown)

theorem Entry.IsKeptAs.refl (entry : Entry) : entry.IsKeptAs entry := by
  cases entry with
  | file content => exact .file content
  | directory members => exact .directory members members

theorem Entry.IsKeptAs.trans {first second third : Entry} (h : first.IsKeptAs second)
    (h' : second.IsKeptAs third) : first.IsKeptAs third := by
  cases h with
  | file => exact h'
  | directory members =>
      cases h' with
      | directory _ grown => exact .directory members grown

namespace FileTree

section

variable {name other : Text} {entry found : Entry} {tree members inner : FileTree}
  {place parent rest : Place}

/-!
## Members
-/

theorem find?_set_self (name : Text) (entry : Entry) (tree : FileTree) :
    find? name (set name entry tree) = some entry := by
  induction tree with
  | nil => rw [set, find?, if_pos rfl]
  | cons member tree ih =>
      rw [set]
      split
      · rw [find?, if_pos rfl]
      · next hne => rw [find?, if_neg hne, ih]

theorem find?_set_of_ne (h : other ≠ name) (entry : Entry) (tree : FileTree) :
    find? other (set name entry tree) = find? other tree := by
  induction tree with
  | nil => exact if_neg (Ne.symm h)
  | cons member tree ih =>
      rw [set]
      split
      · next heq => rw [find?, find?, heq, if_neg (Ne.symm h), if_neg (Ne.symm h)]
      · rw [find?, find?, ih]

/-!
## Looking up
-/

theorem lookup_cons_of_directory (h : find? name tree = some (.directory inner)) (rest : Place) :
    lookup (name :: rest) tree = lookup rest inner := by
  rw [lookup, h]

theorem lookup_singleton_eq_ok_iff :
    lookup [name] tree = .ok found ↔ find? name tree = some found := by
  rw [lookup]
  cases find? name tree with
  | none => simp
  | some entry => cases entry <;> simp [lookup]

/-- The first name of a place leads to a file, or to a directory that has the rest. -/
theorem lookup_cons_eq_ok (h : lookup (name :: rest) tree = .ok found) :
    (rest = [] ∧ ∃ content, found = .file content ∧ find? name tree = some found) ∨
      ∃ inner, find? name tree = some (.directory inner) ∧ lookup rest inner = .ok found := by
  rw [lookup] at h
  split at h
  · cases h
  · next inner hfind => exact .inr ⟨inner, hfind, h⟩
  · next content hfind =>
      split at h
      · next hrest =>
          cases h
          exact .inl ⟨List.isEmpty_iff.mp hrest, content, rfl, hfind⟩
      · cases h

theorem lookup_append (h : lookup place tree = .ok (.directory members)) (rest : Place) :
    lookup (place ++ rest) tree = lookup rest members := by
  induction place generalizing tree with
  | nil =>
      cases h
      rfl
  | cons name place ih =>
      rcases lookup_cons_eq_ok h with ⟨_, content, hcontra, _⟩ | ⟨inner, hfind, hinner⟩
      · cases hcontra
      · rw [List.cons_append, lookup_cons_of_directory hfind, ih hinner]

/-!
## Putting
-/

theorem put_cons (h : find? name tree = some (.directory inner)) (hrest : rest ≠ [])
    (entry : Entry) :
    put entry (name :: rest) tree = set name (.directory (put entry rest inner)) tree := by
  cases rest with
  | nil => exact absurd rfl hrest
  | cons second rest => rw [put, h]

theorem lookup_put_self (h : lookup parent tree = .ok (.directory members)) (name : Text)
    (entry : Entry) :
    lookup (parent ++ [name]) (put entry (parent ++ [name]) tree) = .ok entry := by
  induction parent generalizing tree with
  | nil => exact lookup_singleton_eq_ok_iff.mpr (find?_set_self name entry tree)
  | cons first parent ih =>
      rcases lookup_cons_eq_ok h with ⟨_, content, hcontra, _⟩ | ⟨inner, hfind, hinner⟩
      · cases hcontra
      · have hrest : parent ++ [name] ≠ [] := List.append_ne_nil_of_right_ne_nil parent
          (List.cons_ne_nil name [])
        rw [List.cons_append, put_cons hfind hrest,
          lookup_cons_of_directory (find?_set_self first _ tree), ih hinner]

theorem find?_put_of_ne (h : other ≠ name) (entry : Entry) (rest : Place) (tree : FileTree) :
    find? other (put entry (name :: rest) tree) = find? other tree := by
  cases rest with
  | nil => exact find?_set_of_ne h entry tree
  | cons second rest =>
      rw [put]
      split
      · exact find?_set_of_ne h _ tree
      · rfl

/-- Only the place itself and what a directory at it had could be lost. -/
theorem lookup_put_of_ne (hplace : ∀ members, lookup place tree ≠ .ok (.directory members))
    {elsewhere : Place} (hne : elsewhere ≠ place) (h : lookup elsewhere tree = .ok found)
    (entry : Entry) :
    ∃ kept, lookup elsewhere (put entry place tree) = .ok kept ∧ found.IsKeptAs kept := by
  induction place generalizing tree elsewhere with
  | nil => exact absurd rfl (hplace tree)
  | cons first place ih =>
      cases elsewhere with
      | nil =>
          cases h
          exact ⟨_, rfl, .directory _ _⟩
      | cons name rest =>
          by_cases hname : name = first
          · subst hname
            have hplaces : rest ≠ place := fun heq => hne (congrArg (name :: ·) heq)
            rcases lookup_cons_eq_ok h with ⟨rfl, content, rfl, hfind⟩ | ⟨inner, hfind, hinner⟩
            · -- a file has no places inside, so that nothing is put there
              have hput : put entry (name :: place) tree = tree := by
                cases place with
                | nil => exact absurd rfl hplaces
                | cons second place => rw [put, hfind]
              rw [hput]
              exact ⟨_, h, .file content⟩
            · cases place with
              | nil => exact absurd (lookup_singleton_eq_ok_iff.mpr hfind) (hplace inner)
              | cons second place =>
                  have hinside : ∀ members,
                      lookup (second :: place) inner ≠ .ok (.directory members) := by
                    intro members hcontra
                    rw [← lookup_cons_of_directory hfind] at hcontra
                    exact hplace members hcontra
                  rw [put_cons hfind (List.cons_ne_nil second place),
                    lookup_cons_of_directory (find?_set_self name _ tree)]
                  exact ih hinside hplaces hinner
          · refine ⟨found, ?_, .refl found⟩
            rw [lookup, find?_put_of_ne hname, ← lookup]
            exact h

/-- Of what is found after a directory was put at a place, that directory alone is new. -/
theorem lookup_of_put_directory {elsewhere : Place}
    (h : lookup elsewhere (put (.directory []) place tree) = .ok found) :
    (elsewhere = place ∧ found = .directory []) ∨
      ∃ old, lookup elsewhere tree = .ok old ∧ old.IsKeptAs found := by
  induction place generalizing tree elsewhere with
  | nil => exact .inr ⟨found, h, .refl found⟩
  | cons first place ih =>
      cases elsewhere with
      | nil =>
          cases h
          exact .inr ⟨_, rfl, .directory _ _⟩
      | cons name rest =>
          by_cases hname : name = first
          · subst hname
            cases place with
            | nil =>
                rw [put, lookup_cons_of_directory (find?_set_self name _ tree)] at h
                cases rest with
                | nil =>
                    cases h
                    exact .inl ⟨rfl, rfl⟩
                | cons second rest => cases h
            | cons second place =>
                cases hfind : find? name tree with
                | none =>
                    rw [put, hfind] at h
                    exact .inr ⟨found, h, .refl found⟩
                | some entry =>
                    cases entry with
                    | file content =>
                        rw [put, hfind] at h
                        exact .inr ⟨found, h, .refl found⟩
                    | directory inner =>
                        rw [put_cons hfind (List.cons_ne_nil second place),
                          lookup_cons_of_directory (find?_set_self name _ tree)] at h
                        rw [lookup_cons_of_directory hfind]
                        rcases ih h with ⟨rfl, hnew⟩ | hold
                        · exact .inl ⟨rfl, hnew⟩
                        · exact .inr hold
          · refine .inr ⟨found, ?_, .refl found⟩
            rwa [lookup, find?_put_of_ne hname, ← lookup] at h

end

end FileTree
end PaperFilter
