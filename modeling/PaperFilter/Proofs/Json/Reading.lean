import PaperFilter.Proofs.Json.Values

/-!
# Values that are read

Whatever reading takes off the front of a text fits the limit that reading has.  So a value that was
read once is read again where it is written, and it is the same value if each of its doubles is read
back as itself.
-/

namespace PaperFilter
namespace Json

/-! ## Fitting -/

theorem value_of_readLiteral {word text : Text} {value : Json} {found : NoLonger Json text}
    (h : readLiteral word value text = some found) : found.value = value := by
  rw [readLiteral] at h
  split at h
  · cases h
    rfl
  · cases h

/-- The values at all places of what is read, for each of the readers that call each other. -/
theorem fits_of_readValue {depth : Nat} {text : Text} {found : Shorter Json text}
    (h : readValue depth text = some found) : Fits depth found.value := by
  refine readValue.induct
    (fun depth text => ∀ found, readValue depth text = some found → Fits depth found.value)
    (fun depth text => ∀ found, readObject depth text = some found →
      ∀ member ∈ found.value, Fits depth member.2)
    (fun depth text => ∀ found, readMembers depth text = some found →
      ∀ member ∈ found.value, Fits depth member.2)
    (fun depth text => ∀ found, readArray depth text = some found →
      ∀ item ∈ found.value, Fits depth item)
    (fun depth text => ∀ found, readItems depth text = some found →
      ∀ item ∈ found.value, Fits depth item)
    ?value ?object ?members ?array ?items depth text found h
  case value =>
    intro depth text harray hobject found h
    rw [readValue, Option.bind_eq_bind, Option.bind_eq_some_iff] at h
    obtain ⟨first, -, h⟩ := h
    split at h
    case h_1 | h_2 | h_3 =>
      obtain ⟨word, hword, hfound⟩ := Option.bind_eq_some_iff.mp h
      cases hfound
      rw [Shorter.andMaybe, value_of_readLiteral hword]
      constructor
    case h_4 =>
      obtain ⟨string, -, hfound⟩ := Option.bind_eq_some_iff.mp h
      cases hfound
      exact .string depth string.value
    case h_5 =>
      split at h
      · cases h
      · obtain ⟨items, hitems, hfound⟩ := Option.bind_eq_some_iff.mp h
        cases hfound
        exact .array (harray first _ items hitems)
    case h_6 =>
      split at h
      · cases h
      · obtain ⟨settings, hsettings, hfound⟩ := Option.bind_eq_some_iff.mp h
        cases hfound
        refine .object (isIncreasing_ofSettings settings.value) fun member hmember => ?_
        rcases mem_of_mem_insertAll isIncreasing_nil hmember with hnil | hmember
        · cases hnil
        · exact hobject first _ settings hsettings member hmember
    case h_7 =>
      obtain ⟨number, hnumber, hfound⟩ := Option.bind_eq_some_iff.mp h
      cases hfound
      exact .number depth (inRange_of_readNumber hnumber)
  case object =>
    intro depth text hmembers found h member hmember
    rw [readObject, Option.bind_eq_bind, Option.bind_eq_some_iff] at h
    obtain ⟨first, -, h⟩ := h
    split at h
    · cases h
      cases hmember
    · exact hmembers found h member hmember
  case members =>
    intro depth text hvalue hothers found h member hmember
    rw [readMembers] at h
    simp only [Option.bind_eq_bind, Option.bind_eq_some_iff] at h
    obtain ⟨key, -, value, hread, mark, -, h⟩ := h
    split at h
    · obtain ⟨others, hrest, hfound⟩ := Option.bind_eq_some_iff.mp h
      cases hfound
      rcases List.mem_cons.mp hmember with rfl | hmember
      · exact hvalue key value hread
      · exact hothers key value mark others hrest member hmember
    · cases h
      cases List.mem_singleton.mp hmember
      exact hvalue key value hread
    · cases h
  case array =>
    intro depth text hitems found h item hitem
    rw [readArray, Option.bind_eq_bind, Option.bind_eq_some_iff] at h
    obtain ⟨first, -, h⟩ := h
    split at h
    · cases h
      cases hitem
    · exact hitems found h item hitem
  case items =>
    intro depth text hvalue hothers found h item hitem
    rw [readItems] at h
    simp only [Option.bind_eq_bind, Option.bind_eq_some_iff] at h
    obtain ⟨value, hread, mark, -, h⟩ := h
    split at h
    · obtain ⟨others, hrest, hfound⟩ := Option.bind_eq_some_iff.mp h
      cases hfound
      rcases List.mem_cons.mp hitem with rfl | hitem
      · exact hvalue value hread
      · exact hothers value mark others hrest item hitem
    · cases h
      cases List.mem_singleton.mp hitem
      exact hvalue value hread
    · cases h

/-! ## Numbers of a value -/

mutual

/-- The numbers in a value, from left to right. -/
def numbers : Json → List Number
  | .null => []
  | .bool _ => []
  | .number value => [value]
  | .string _ => []
  | .array items => numbersOfItems items
  | .object members => numbersOfMembers members

def numbersOfItems : List Json → List Number
  | [] => []
  | item :: rest => numbers item ++ numbersOfItems rest

def numbersOfMembers : List (Text × Json) → List Number
  | [] => []
  | (_, value) :: rest => numbers value ++ numbersOfMembers rest

end

theorem mem_numbersOfItems {number : Number} {items : List Json} :
    number ∈ numbersOfItems items ↔ ∃ item ∈ items, number ∈ item.numbers := by
  induction items with
  | nil => simp [numbersOfItems]
  | cons item items ih => simp [numbersOfItems, ih]

theorem mem_numbersOfMembers {number : Number} {members : Members} :
    number ∈ numbersOfMembers members ↔ ∃ member ∈ members, number ∈ member.2.numbers := by
  induction members with
  | nil => simp [numbersOfMembers]
  | cons member members ih => simp [numbersOfMembers, ih]

/-- Integers that were read are in range. -/
theorem Fits.inRange {depth : Nat} {value : Json} (h : Fits depth value) {number : Number}
    (hnumber : number ∈ value.numbers) : number.InRange := by
  induction h with
  | null _ => cases hnumber
  | bool _ _ => cases hnumber
  | number _ hvalue =>
      cases List.mem_singleton.mp hnumber
      exact hvalue
  | string _ _ => cases hnumber
  | array _ ih =>
      obtain ⟨item, hitem, hnumber⟩ := mem_numbersOfItems.mp hnumber
      exact ih item hitem hnumber
  | object _ _ ih =>
      obtain ⟨member, hmember, hnumber⟩ := mem_numbersOfMembers.mp hnumber
      exact ih member hmember hnumber

mutual

/-- A value is read back as itself exactly if all of its numbers are. -/
theorem reread?_eq_some_iff : ∀ value : Json,
    value.reread? = some value ↔ ∀ number ∈ value.numbers, number.reread? = some number
  | .null => by simp [reread?, numbers]
  | .bool _ => by simp [reread?, numbers]
  | .number value => by simp [reread?, numbers]
  | .string _ => by simp [reread?, numbers]
  | .array items => by simp [reread?, numbers, rereadItems?_eq_some_iff items]
  | .object members => by simp [reread?, numbers, rereadMembers?_eq_some_iff members]

theorem rereadItems?_eq_some_iff : ∀ items : List Json,
    rereadItems? items = some items ↔
      ∀ number ∈ numbersOfItems items, number.reread? = some number
  | [] => by simp [rereadItems?, numbersOfItems]
  | item :: items => by
      rw [rereadItems?_cons, numbersOfItems, List.forall_mem_append,
        ← reread?_eq_some_iff item, ← rereadItems?_eq_some_iff items]
      simp [Option.bind_eq_some_iff]

theorem rereadMembers?_eq_some_iff : ∀ members : List (Text × Json),
    rereadMembers? members = some members ↔
      ∀ number ∈ numbersOfMembers members, number.reread? = some number
  | [] => by simp [rereadMembers?, numbersOfMembers]
  | (key, value) :: members => by
      rw [rereadMembers?_cons, numbersOfMembers, List.forall_mem_append,
        ← reread?_eq_some_iff value, ← rereadMembers?_eq_some_iff members]
      simp [Option.bind_eq_some_iff]

end

/-- Members are read back as themselves exactly if the value of each is. -/
theorem rereadMembers?_eq_some_iff_forall {members : Members} :
    rereadMembers? members = some members ↔
      ∀ member ∈ members, member.2.reread? = some member.2 := by
  simp only [rereadMembers?_eq_some_iff, reread?_eq_some_iff, mem_numbersOfMembers]
  exact ⟨fun h member hmember number hnumber => h number ⟨member, hmember, hnumber⟩,
    fun h number ⟨member, hmember, hnumber⟩ => h member hmember number hnumber⟩

/-- Every double in a value is read back as itself where it was written. -/
def DoublesReadBack (value : Json) : Prop :=
  ∀ negative magnitude, .double negative magnitude ∈ value.numbers →
    Number.reread? (.double negative magnitude) = some (.double negative magnitude)

/-- Of a value that was read, only the doubles may come back as others. -/
theorem Fits.reread?_eq_some_iff_doublesReadBack {depth : Nat} {value : Json}
    (h : Fits depth value) : value.reread? = some value ↔ value.DoublesReadBack := by
  rw [reread?_eq_some_iff]
  constructor
  · exact fun hall negative magnitude hdouble => hall _ hdouble
  · intro hdoubles number hnumber
    cases number with
    | integer value => exact Number.reread?_integer (h.inRange hnumber)
    | double negative magnitude => exact hdoubles negative magnitude hnumber

/-- The double nearest to `3.9999999999999996e-110` comes back as its neighbour `4e-110`. -/
example : Number.reread? (.double false ⟨6769213120412145, 658⟩) =
    some (.double false ⟨6769213120412146, 658⟩) := by
  decide +kernel

end Json
end PaperFilter
