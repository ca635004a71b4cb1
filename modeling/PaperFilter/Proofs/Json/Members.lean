import Mathlib.Data.Char
import Mathlib.Data.List.Lex
import PaperFilter.Json.Value

/-!
# Members of objects

The members of an object are in increasing order of their keys, so that no key comes twice and a
member is found by its key.  Setting a key keeps the order; settings that are in order already are
the members that they leave.
-/

namespace PaperFilter
namespace Json

/-- The keys of members. -/
def keys (members : Members) : List Text :=
  members.map Prod.fst

/-- Each key is less than all keys behind it. -/
def IsIncreasing (members : Members) : Prop :=
  (keys members).Pairwise (· < ·)

instance (members : Members) : Decidable (IsIncreasing members) :=
  inferInstanceAs (Decidable ((keys members).Pairwise (· < ·)))

theorem isIncreasing_nil : IsIncreasing [] :=
  List.Pairwise.nil

theorem isIncreasing_cons_iff {key : Text} {value : Json} {members : Members} :
    IsIncreasing ((key, value) :: members) ↔
      (∀ other ∈ keys members, key < other) ∧ IsIncreasing members :=
  List.pairwise_cons

theorem IsIncreasing.nodup_keys {members : Members} (h : IsIncreasing members) :
    (keys members).Nodup :=
  List.Pairwise.imp (fun hlt => ne_of_lt hlt) h

/-- A key has one value. -/
theorem IsIncreasing.value_eq {members : Members} (h : IsIncreasing members) {key : Text}
    {first second : Json} (hfirst : (key, first) ∈ members) (hsecond : (key, second) ∈ members) :
    first = second := by
  induction members with
  | nil => cases hfirst
  | cons member members ih =>
      obtain ⟨other, value⟩ := member
      have ⟨hless, hmembers⟩ := isIncreasing_cons_iff.mp h
      have hbehind {value : Json} (hmem : (other, value) ∈ members) : False :=
        lt_irrefl other (hless other (List.mem_map_of_mem hmem))
      rcases List.mem_cons.mp hfirst with heq | hfirst <;>
        rcases List.mem_cons.mp hsecond with heq' | hsecond
      · exact (Prod.mk.inj heq).2.trans (Prod.mk.inj heq').2.symm
      · exact (hbehind ((Prod.mk.inj heq).1 ▸ hsecond)).elim
      · exact (hbehind ((Prod.mk.inj heq').1 ▸ hfirst)).elim
      · exact ih hmembers hfirst hsecond

/-- Members in order are known by their keys and by holding what others hold. -/
theorem IsIncreasing.eq_of_subset {members others : Members} (h : IsIncreasing members)
    (hkeys : keys members = keys others) (hsubset : others ⊆ members) : members = others := by
  have hlength : members.length = others.length := by
    simpa [keys] using congrArg List.length hkeys
  refine List.ext_getElem hlength fun i hi hi' => ?_
  have hkey : members[i].1 = others[i].1 := by
    have hget := List.getElem_of_eq hkeys (by simpa [keys] using hi)
    simpa [keys] using hget
  have hmem : (members[i].1, others[i].2) ∈ members := by
    rw [hkey]
    exact hsubset (List.getElem_mem hi')
  exact Prod.ext hkey (h.value_eq (List.getElem_mem hi) hmem)

/-! ## Setting a key -/

theorem mem_keys_insert {key other : Text} {value : Json} {members : Members} :
    other ∈ keys (insert key value members) ↔ other = key ∨ other ∈ keys members := by
  induction members with
  | nil => simp [insert, keys]
  | cons member members ih =>
      obtain ⟨present, old⟩ := member
      rw [insert]
      split
      · next heq => simp [keys, heq]
      · split
        · simp [keys]
        · simp only [keys, List.map_cons, List.mem_cons] at ih ⊢
          rw [ih]
          exact or_left_comm

theorem isIncreasing_insert {members : Members} (h : IsIncreasing members) (key : Text)
    (value : Json) : IsIncreasing (insert key value members) := by
  induction members with
  | nil => exact isIncreasing_cons_iff.mpr ⟨nofun, isIncreasing_nil⟩
  | cons member members ih =>
      obtain ⟨present, old⟩ := member
      have ⟨hless, hmembers⟩ := isIncreasing_cons_iff.mp h
      rw [insert]
      split
      · next heq => exact isIncreasing_cons_iff.mpr ⟨heq ▸ hless, hmembers⟩
      · next hne =>
          split
          · next hlt =>
              refine isIncreasing_cons_iff.mpr ⟨fun other hother => ?_, h⟩
              rcases List.mem_cons.mp hother with rfl | hother
              · exact hlt
              · exact lt_trans hlt (hless other hother)
          · next hnotlt =>
              have hgt : present < key :=
                lt_of_le_of_ne (not_lt.mp hnotlt) (Ne.symm hne)
              refine isIncreasing_cons_iff.mpr ⟨fun other hother => ?_, ih hmembers⟩
              rcases mem_keys_insert.mp hother with rfl | hother
              · exact hgt
              · exact hless other hother

/-- A setting changes the value of its key and nothing else. -/
theorem mem_insert {members : Members} (h : IsIncreasing members) {key other : Text}
    {value found : Json} :
    (other, found) ∈ insert key value members ↔
      if other = key then found = value else (other, found) ∈ members := by
  induction members with
  | nil => by_cases hother : other = key <;> simp [insert, hother]
  | cons member members ih =>
      obtain ⟨present, old⟩ := member
      have ⟨hless, hmembers⟩ := isIncreasing_cons_iff.mp h
      have hbehind {key : Text} (hle : key ≤ present) : (key, found) ∉ members := fun hmem =>
        lt_irrefl key (lt_of_le_of_lt hle (hless key (List.mem_map_of_mem hmem)))
      rw [insert]
      split
      · next heq =>
          subst heq
          by_cases hother : other = key
          · subst hother
            simp [hbehind le_rfl]
          · simp [hother]
      · next hne =>
          split
          · next hlt =>
              by_cases hother : other = key
              · subst hother
                simp [hne, hbehind hlt.le]
              · simp [hother]
          · by_cases hother : other = key
            · subst hother
              simp [ih hmembers, hne]
            · simp [ih hmembers, hother]

/-- A key that is greater than all others comes last. -/
theorem insert_of_lt {members : Members} {key : Text} (value : Json)
    (h : ∀ other ∈ keys members, other < key) :
    insert key value members = members ++ [(key, value)] := by
  induction members with
  | nil => rfl
  | cons member members ih =>
      obtain ⟨present, old⟩ := member
      have hlt : present < key := h present List.mem_cons_self
      rw [insert, if_neg hlt.ne', if_neg hlt.asymm,
        ih fun other hother => h other (List.mem_cons_of_mem present hother)]
      rfl

/-! ## Sequences of settings -/

/-- The members that settings leave where there are some already. -/
def insertAll (settings : List (Text × Json)) (members : Members) : Members :=
  settings.foldl (fun members (key, value) => insert key value members) members

theorem isIncreasing_insertAll {members : Members} (h : IsIncreasing members)
    (settings : List (Text × Json)) : IsIncreasing (insertAll settings members) := by
  induction settings generalizing members with
  | nil => exact h
  | cons setting settings ih => exact ih (isIncreasing_insert h setting.1 setting.2)

theorem isIncreasing_ofSettings (settings : List (Text × Json)) :
    IsIncreasing (ofSettings settings) :=
  isIncreasing_insertAll isIncreasing_nil settings

/-- Settings in increasing order are appended. -/
theorem insertAll_of_isIncreasing {settings members : Members}
    (h : IsIncreasing (members ++ settings)) :
    insertAll settings members = members ++ settings := by
  induction settings generalizing members with
  | nil => exact (List.append_nil members).symm
  | cons setting settings ih =>
      obtain ⟨key, value⟩ := setting
      have hless : ∀ other ∈ keys members, other < key := by
        rw [IsIncreasing, keys, List.map_append, List.pairwise_append] at h
        exact fun other hother => h.2.2 other hother key List.mem_cons_self
      have happend :
          members ++ (key, value) :: settings = (members ++ [(key, value)]) ++ settings :=
        (List.append_assoc members [(key, value)] settings).symm
      rw [happend] at h ⊢
      rw [← ih h, ← insert_of_lt value hless]
      rfl

theorem ofSettings_of_isIncreasing {members : Members} (h : IsIncreasing members) :
    ofSettings members = members :=
  insertAll_of_isIncreasing h

theorem insertAll_append (first second : List (Text × Json)) (members : Members) :
    insertAll (first ++ second) members = insertAll second (insertAll first members) :=
  List.foldl_append

theorem ofSettings_append (first second : List (Text × Json)) :
    ofSettings (first ++ second) = insertAll second (ofSettings first) :=
  insertAll_append first second []

/-- A key that is not set keeps its value. -/
theorem mem_insertAll_of_notMem {members : Members} (h : IsIncreasing members)
    {settings : List (Text × Json)} {key : Text} (hkey : key ∉ keys settings) {value : Json} :
    (key, value) ∈ insertAll settings members ↔ (key, value) ∈ members := by
  induction settings generalizing members with
  | nil => exact Iff.rfl
  | cons setting settings ih =>
      have hne : key ≠ setting.1 := List.ne_of_not_mem_cons hkey
      have hothers : key ∉ keys settings := List.not_mem_of_not_mem_cons hkey
      exact (ih (isIncreasing_insert h setting.1 setting.2) hothers).trans
        ((mem_insert h).trans (by rw [if_neg hne]))

/-- Every member was there before or was set. -/
theorem mem_of_mem_insertAll {members : Members} (hmembers : IsIncreasing members)
    {settings : List (Text × Json)} {member : Text × Json}
    (h : member ∈ insertAll settings members) : member ∈ members ∨ member ∈ settings := by
  induction settings generalizing members with
  | nil => exact .inl h
  | cons setting settings ih =>
      rcases ih (isIncreasing_insert hmembers setting.1 setting.2) h with hmem | hmem
      · have hmem := (mem_insert hmembers).mp hmem
        split at hmem
        · next hkey => exact .inr (List.mem_cons.mpr (.inl (Prod.ext hkey hmem)))
        · exact .inl hmem
      · exact .inr (List.mem_cons_of_mem setting hmem)

end Json
end PaperFilter
