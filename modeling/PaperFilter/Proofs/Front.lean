import PaperFilter.Front

/-!
# Readers without their bounds

The results of readers record that the rest is shorter.  Where only the value and the rest matter,
these are looked at as a pair, which no longer depends on the list that was read.
-/

namespace PaperFilter

variable {α β : Type} {list : List β}

def Shorter.parts (found : Shorter α list) : α × List β :=
  (found.value, found.rest)

def NoLonger.parts (found : NoLonger α list) : α × List β :=
  (found.value, found.rest)

/-! ## Readers with a known result -/

section

variable {γ ε : Type} {value : α} {rest : List β}

theorem exists_of_map_parts {result : Option (Shorter α list)}
    (h : result.map Shorter.parts = some (value, rest)) :
    ∃ hshorter, result = some ⟨value, rest, hshorter⟩ := by
  obtain ⟨found, rfl, hparts⟩ := Option.map_eq_some_iff.mp h
  cases hparts
  exact ⟨found.isShorter, rfl⟩

theorem exists_of_map_noLonger_parts {result : Option (NoLonger α list)}
    (h : result.map NoLonger.parts = some (value, rest)) :
    ∃ hnoLonger, result = some ⟨value, rest, hnoLonger⟩ := by
  obtain ⟨found, rfl, hparts⟩ := Option.map_eq_some_iff.mp h
  cases hparts
  exact ⟨found.isNoLonger, rfl⟩

theorem exists_of_map_parts_ok {result : Except ε (Shorter α list)}
    (h : result.map Shorter.parts = .ok (value, rest)) :
    ∃ hshorter, result = .ok ⟨value, rest, hshorter⟩ := by
  cases result with
  | error error => cases h
  | ok found =>
      cases h
      exact ⟨found.isShorter, rfl⟩

/-- What comes after a reader that leaves a known rest, if it reads anything. -/
theorem bind_of_map_parts {result : Option (Shorter α list)} {values : Option α}
    (h : result.map Shorter.parts = values.map fun value => (value, rest))
    {next : Shorter α list → Option γ} {after : α → Option γ}
    (hnext : ∀ value ∈ values, ∀ hshorter, next ⟨value, rest, hshorter⟩ = after value) :
    result.bind next = values.bind after := by
  cases values with
  | none => rw [Option.map_eq_none_iff.mp h, Option.bind_none, Option.bind_none]
  | some value =>
      obtain ⟨hshorter, hresult⟩ := exists_of_map_parts h
      rw [hresult, Option.bind_some, Option.bind_some, hnext value rfl]

end

/-- Reading in two steps, where only the value and the rest of each step are looked at. -/
theorem map_parts_bind {γ δ ρ ε : Type} {first : Except ε (Shorter α list)}
    {view : ρ → δ × List β} {build : (found : Shorter α list) → NoLonger γ found.rest → ρ}
    (others : (rest : List β) → Except ε (NoLonger γ rest)) (combine : α → γ → δ)
    (hbuild : ∀ found behind, view (build found behind) =
      (combine found.value behind.value, behind.rest)) :
    Except.map view (do
      let found ← first
      let behind ← others found.rest
      return build found behind) = do
        let found ← first.map Shorter.parts
        let behind ← (others found.2).map NoLonger.parts
        return (combine found.1 behind.1, behind.2) := by
  cases first with
  | error error => rfl
  | ok found =>
      simp only [Shorter.parts, Except.map, bind, Except.bind]
      cases others found.rest with
      | error error => rfl
      | ok behind => exact congrArg Except.ok (hbuild found behind)

theorem map_eq_ok {γ ε : Type} {result : Except ε α} {f : α → γ} {c : γ}
    (h : result.map f = .ok c) : ∃ a, result = .ok a ∧ f a = c := by
  cases result with
  | error error => cases h
  | ok a =>
      injection h with h
      exact ⟨a, rfl, h⟩

theorem map_eq_ok_iff {γ ε : Type} {result : Except ε α} {f : α → γ} {c : γ} :
    result.map f = .ok c ↔ ∃ a, result = .ok a ∧ f a = c := by
  constructor
  · exact map_eq_ok
  · rintro ⟨a, rfl, rfl⟩
    rfl

theorem bind_eq_ok {γ ε : Type} {result : Except ε α} {f : α → Except ε γ} {c : γ}
    (h : (do f (← result)) = .ok c) : ∃ a, result = .ok a ∧ f a = .ok c := by
  cases result with
  | error error => cases h
  | ok a => exact ⟨a, rfl, h⟩

theorem map_eq_error {γ ε : Type} {result : Except ε α} {f : α → γ} {error : ε}
    (h : result.map f = .error error) : result = .error error := by
  cases result with
  | error error' =>
      injection h with h
      rw [h]
  | ok a => cases h

/-- Two changes of a value in either order, where they change different parts of it. -/
theorem map_map_comm {γ δ ε η : Type} {f : α → γ} {g : γ → η} {f' : α → δ} {g' : δ → η}
    (h : ∀ a, g (f a) = g' (f' a)) (result : Except ε α) :
    (result.map f).map g = (result.map f').map g' := by
  cases result with
  | error error => rfl
  | ok a => exact congrArg Except.ok (h a)

theorem of_map_eq_map {γ δ ε : Type} {left : Except ε α} {right : Except ε γ} {f : α → δ}
    {g : γ → δ} (h : left.map f = right.map g) :
    (∃ error, left = .error error ∧ right = .error error) ∨
      ∃ a c, left = .ok a ∧ right = .ok c ∧ f a = g c := by
  cases right with
  | error error => exact Or.inl ⟨error, map_eq_error h, rfl⟩
  | ok c =>
      rcases map_eq_ok h with ⟨a, ha, heq⟩
      exact Or.inr ⟨a, c, ha, rfl, heq⟩

/-- A beginning in a class is read as a whole, if what follows does not go on with it. -/
theorem readWhile_append {p : β → Bool} {front rest : List β} (hfront : ∀ x ∈ front, p x = true)
    (hrest : ∀ x, rest.head? = some x → p x = false) :
    readWhile p (front ++ rest) =
      ⟨front, rest, (List.sublist_append_right front rest).length_le⟩ := by
  have htake : (front ++ rest).takeWhile p = front ∧ (front ++ rest).dropWhile p = rest := by
    induction front with
    | nil =>
        cases rest with
        | nil => exact ⟨rfl, rfl⟩
        | cons x rest =>
            have hx := hrest x rfl
            exact ⟨by simp [hx], by simp [hx]⟩
    | cons x front ih =>
        have hx := hfront x List.mem_cons_self
        rcases ih fun y hy => hfront y (List.mem_cons_of_mem x hy) with ⟨htake, hdrop⟩
        exact ⟨by simp [hx, htake], by simp [hx, hdrop]⟩
  simp only [readWhile, htake]

theorem eq_append_of_readWhile {p : β → Bool} {front rest : List β} {hnoLonger}
    (h : readWhile p list = ⟨front, rest, hnoLonger⟩) :
    list = front ++ rest ∧ (∀ x ∈ front, p x = true) ∧ rest.head?.any p = false := by
  rw [readWhile, NoLonger.mk.injEq] at h
  rcases h with ⟨rfl, rfl⟩
  refine ⟨List.takeWhile_append_dropWhile.symm, List.all_eq_true.mp List.all_takeWhile, ?_⟩
  have hhead := List.head?_dropWhile_not p list
  cases hrest : list.dropWhile p with
  | nil => rfl
  | cons x rest =>
      rw [hrest] at hhead
      exact hhead

variable {p : β → Bool} {x : β}

/-- Nothing is skipped in front of an element that is not in the class. -/
theorem readWhile_cons (h : p x = false) (rest : List β) :
    readWhile p (x :: rest) = ⟨[], x :: rest, Nat.le_refl _⟩ :=
  readWhile_append (List.forall_mem_nil _) fun _ hhead => Option.some.inj hhead ▸ h

theorem readPast_cons (h : p x = false) (rest : List β) :
    readPast p (x :: rest) = some ⟨x, rest, Nat.lt_succ_self _⟩ := by
  rw [readPast, readWhile_cons h]
  rfl

theorem readThisPast_cons [DecidableEq β] (h : p x = false) (rest : List β) :
    readThisPast p x (x :: rest) = some ⟨(), rest, Nat.lt_succ_self _⟩ := by
  rw [readThisPast, readWhile_cons h]
  simp only [readThis, if_pos]
  rfl

theorem readThis_cons [DecidableEq β] (x : β) (rest : List β) :
    readThis x (x :: rest) = some (.head ()) :=
  if_pos rfl

/-- Behind a beginning in a class stands an element that is not the one that is asked for. -/
theorem readThisPast_of_ne [DecidableEq β] {y : β} {front : List β}
    (hfront : ∀ z ∈ front, p z = true) (hclass : p y = false) (hne : y ≠ x) (rest : List β) :
    readThisPast p x (front ++ y :: rest) = none := by
  have hskipped : readWhile p (front ++ y :: rest) = ⟨front, y :: rest, _⟩ :=
    readWhile_append hfront fun _ hhead => Option.some.inj hhead ▸ hclass
  rw [readThisPast]
  generalize readWhile p (front ++ y :: rest) = skipped at hskipped ⊢
  subst hskipped
  simp only [readThis, if_neg hne]
  rfl

end PaperFilter
