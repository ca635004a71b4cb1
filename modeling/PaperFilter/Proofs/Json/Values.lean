import PaperFilter.Proofs.Json.Members
import PaperFilter.Proofs.Json.Numbers
import PaperFilter.Proofs.Json.Strings

/-!
# Written values are read back

Reading takes a written value as a whole off the front of a text, whatever follows that is no part
of a numeral.  What it gives is the value with each of its numbers read back; the induction is on
how deep arrays and objects stand inside each other, which is what reading has a limit for.
-/

namespace PaperFilter
namespace Json

/-! ## Values with their numbers read back -/

mutual

/-- What is read where a value was written. -/
def reread? : Json → Option Json
  | .null => some .null
  | .bool value => some (.bool value)
  | .number value => value.reread?.map .number
  | .string text => some (.string text)
  | .array items => (rereadItems? items).map .array
  | .object members => (rereadMembers? members).map .object

def rereadItems? : List Json → Option (List Json)
  | [] => some []
  | item :: rest => do return (← reread? item) :: (← rereadItems? rest)

def rereadMembers? : List (Text × Json) → Option (List (Text × Json))
  | [] => some []
  | (key, value) :: rest => do return (key, ← reread? value) :: (← rereadMembers? rest)

end

theorem rereadItems?_cons (item : Json) (items : List Json) :
    rereadItems? (item :: items) =
      item.reread?.bind fun again => (rereadItems? items).map (again :: ·) := by
  rw [rereadItems?]
  cases item.reread? with
  | none => rfl
  | some again => cases rereadItems? items <;> rfl

theorem rereadMembers?_cons (key : Text) (value : Json) (members : Members) :
    rereadMembers? ((key, value) :: members) =
      value.reread?.bind fun again => (rereadMembers? members).map ((key, again) :: ·) := by
  rw [rereadMembers?]
  cases value.reread? with
  | none => rfl
  | some again => cases rereadMembers? members <;> rfl

theorem rereadMembers?_append (front behind : Members) :
    rereadMembers? (front ++ behind) =
      (rereadMembers? front).bind fun again => (rereadMembers? behind).map (again ++ ·) := by
  induction front with
  | nil =>
      rw [List.nil_append, rereadMembers?]
      exact Option.map_id_apply.symm
  | cons member front ih =>
      obtain ⟨key, value⟩ := member
      rw [List.cons_append, rereadMembers?_cons, rereadMembers?_cons, ih]
      cases value.reread? with
      | none => rfl
      | some again =>
          cases rereadMembers? front with
          | none => rfl
          | some others => cases rereadMembers? behind <;> rfl

theorem keys_of_rereadMembers? {members again : Members} (h : rereadMembers? members = some again) :
    keys again = keys members := by
  induction members generalizing again with
  | nil =>
      cases h
      rfl
  | cons member members ih =>
      obtain ⟨key, value⟩ := member
      rw [rereadMembers?_cons, Option.bind_eq_some_iff] at h
      obtain ⟨value', -, hagain⟩ := h
      obtain ⟨members', hmembers, rfl⟩ := Option.map_eq_some_iff.mp hagain
      exact congrArg (key :: ·) (ih hmembers)

theorem IsIncreasing.of_rereadMembers? {members again : Members} (h : IsIncreasing members)
    (hagain : rereadMembers? members = some again) : IsIncreasing again := by
  rwa [IsIncreasing, keys_of_rereadMembers? hagain]

/-- A value as reading gives it: at most so many arrays and objects stand inside each other, the
members of objects are in order, and integers are in range. -/
inductive Fits : (depth : Nat) → Json → Prop
  | null (depth : Nat) : Fits depth .null
  | bool (depth : Nat) (value : Bool) : Fits depth (.bool value)
  | number (depth : Nat) {value : Number} (h : value.InRange) : Fits depth (.number value)
  | string (depth : Nat) (text : Text) : Fits depth (.string text)
  | array {depth : Nat} {items : List Json} (h : ∀ item ∈ items, Fits depth item) :
      Fits (depth + 1) (.array items)
  | object {depth : Nat} {members : Members} (hkeys : IsIncreasing members)
      (h : ∀ member ∈ members, Fits depth member.2) : Fits (depth + 1) (.object members)

/-! ## First characters -/

theorem isSpace_of_isDigit {c : Char} (h : c.isDigit = true) : isSpace c = false := by
  rw [Bool.eq_false_iff]
  intro hspace
  simp only [isSpace, Bool.or_eq_true, decide_eq_true_eq] at hspace
  rcases hspace with ((rfl | rfl) | rfl) | rfl <;> cases h

/-- The first character of a value is no space and closes no array. -/
theorem exists_writeAppend_eq_cons (value : Json) (rest : Text) :
    ∃ c behind, isSpace c = false ∧ c ≠ ']' ∧ writeAppend value rest = c :: behind := by
  cases value with
  | null => exact ⟨_, _, rfl, by decide, rfl⟩
  | bool value => cases value <;> exact ⟨_, _, rfl, by decide, rfl⟩
  | number value =>
      obtain ⟨c, behind, hc, hwritten⟩ := exists_writeNumber_eq_cons value
      refine ⟨c, behind ++ rest, ?_, ?_, by rw [writeAppend, hwritten, List.cons_append]⟩
      · rcases hc with rfl | hc
        · rfl
        · exact isSpace_of_isDigit hc
      · rintro rfl
        rcases hc with hc | hc <;> cases hc
  | string text => exact ⟨_, _, rfl, by decide, rfl⟩
  | array items => exact ⟨_, _, rfl, by decide, rfl⟩
  | object members => exact ⟨_, _, rfl, by decide, rfl⟩

/-- Something that begins like a number is read as a number. -/
theorem readValue_of_numeral (depth : Nat) {c : Char} (hc : c = '-' ∨ c.isDigit = true)
    (behind : Text) :
    (readValue depth (c :: behind)).map Shorter.parts =
      (readNumber (c :: behind)).map fun found => (.number found.value, found.rest) := by
  have hspace : isSpace c = false := by
    rcases hc with rfl | hc
    · rfl
    · exact isSpace_of_isDigit hc
  rw [readValue, readPast_cons hspace]
  simp only [Option.bind_eq_bind, Option.bind_some]
  -- No other value begins with a sign or a digit.
  split
  case h_7 =>
    rw [readWhile_cons hspace]
    cases readNumber (c :: behind) <;> rfl
  all_goals rcases hc with hc | hc <;> cases hc

/-! ## Items -/

variable {depth : Nat} {text rest behind : Text}

/-- The last item is followed by the closing bracket. -/
theorem readItems_last {items : Option Json}
    (h : (readValue depth text).map Shorter.parts = items.map fun item => (item, ']' :: rest)) :
    (readItems depth text).map Shorter.parts = items.map fun item => ([item], rest) := by
  rw [readItems, Option.bind_eq_bind, Option.map_bind, Option.map_eq_bind]
  refine bind_of_map_parts h fun item _ _ => ?_
  simp only [Function.comp_apply, Option.bind_eq_bind, Option.bind_some,
    readPast_cons (show isSpace ']' = false from rfl)]
  rfl

/-- Any other item is followed by a comma. -/
theorem readItems_more {items : Option Json}
    (h : (readValue depth text).map Shorter.parts = items.map fun item => (item, ',' :: behind)) :
    (readItems depth text).map Shorter.parts = items.bind fun item =>
      ((readItems depth behind).map Shorter.parts).map fun found =>
        (item :: found.1, found.2) := by
  rw [readItems, Option.bind_eq_bind, Option.map_bind]
  refine bind_of_map_parts h fun item _ _ => ?_
  simp only [Function.comp_apply, Option.bind_eq_bind, Option.bind_some,
    readPast_cons (show isSpace ',' = false from rfl)]
  cases readItems depth behind <;> rfl

/-- A value is read back where it was written. -/
def ReadsWritten (depth : Nat) (value : Json) : Prop :=
  ∀ rest, EndsNumeral rest →
    (readValue depth (writeAppend value rest)).map Shorter.parts =
      value.reread?.map fun again => (again, rest)

theorem endsNumeral_cons {c : Char} (h : c.isDigit = false ∧ c ≠ '.' ∧ c ≠ 'e' ∧ c ≠ 'E')
    (behind : Text) : EndsNumeral (c :: behind) :=
  fun _ hhead => Option.some.inj hhead ▸ h

theorem readItems_written {item : Json} {items : List Json}
    (h : ∀ value ∈ item :: items, ReadsWritten depth value) (rest : Text) :
    (readItems depth (writeItemsAppend (item :: items) (']' :: rest))).map Shorter.parts =
      (rereadItems? (item :: items)).map fun again => (again, rest) := by
  have hitem := h item List.mem_cons_self
  induction items generalizing item with
  | nil =>
      have hlast := readItems_last (hitem (']' :: rest) (endsNumeral_cons (by decide) rest))
      rw [writeItemsAppend, List.isEmpty_nil, if_pos rfl, hlast, rereadItems?_cons]
      cases reread? item <;> rfl
  | cons second items ih =>
      have hmore := readItems_more (hitem (',' :: writeItemsAppend (second :: items) (']' :: rest))
        (endsNumeral_cons (by decide) _))
      have hothers := ih (fun value hvalue => h value (List.mem_cons_of_mem item hvalue))
        (h second (List.mem_cons_of_mem item List.mem_cons_self))
      rw [writeItemsAppend, List.isEmpty_cons, if_neg Bool.false_ne_true, hmore, hothers,
        rereadItems?_cons item]
      cases reread? item <;> cases rereadItems? (second :: items) <;> rfl

theorem readArray_written {items : List Json} (h : ∀ value ∈ items, ReadsWritten depth value)
    (rest : Text) :
    (readArray depth (writeItemsAppend items (']' :: rest))).map Shorter.parts =
      (rereadItems? items).map fun again => (again, rest) := by
  cases items with
  | nil =>
      rw [writeItemsAppend, readArray, readPast_cons (show isSpace ']' = false from rfl)]
      rfl
  | cons item items =>
      rw [← readItems_written h rest, writeItemsAppend, readArray]
      obtain ⟨c, behind, hspace, hbracket, hwritten⟩ := exists_writeAppend_eq_cons item
        (if items.isEmpty then ']' :: rest else ',' :: writeItemsAppend items (']' :: rest))
      rw [hwritten, readPast_cons hspace]
      simp only [Option.bind_eq_bind, Option.bind_some, if_neg hbracket]

/-! ## Members -/

theorem readKey_written (key behind : Text) :
    (readKey (writeStringAppend key (':' :: behind))).map Shorter.parts = some (key, behind) := by
  obtain ⟨_, hread⟩ := exists_of_map_parts (readString_written key (':' :: behind))
  rw [writeStringAppend, readKey, readThisPast_cons (show isSpace '"' = false from rfl)]
  simp only [Option.bind_eq_bind, Option.bind_some, hread,
    readThisPast_cons (show isSpace ':' = false from rfl)]
  rfl

theorem readMembers_last (key : Text) {values : Option Json}
    (h : (readValue depth text).map Shorter.parts =
      values.map fun value => (value, '\x7d' :: rest)) :
    (readMembers depth (writeStringAppend key (':' :: text))).map Shorter.parts =
      values.map fun value => ([(key, value)], rest) := by
  obtain ⟨_, hkey⟩ := exists_of_map_parts (readKey_written key text)
  rw [readMembers, hkey, Option.bind_eq_bind, Option.bind_some, Option.bind_eq_bind,
    Option.map_bind, Option.map_eq_bind]
  refine bind_of_map_parts h fun value _ _ => ?_
  simp only [Function.comp_apply, Option.bind_eq_bind, Option.bind_some,
    readPast_cons (show isSpace '\x7d' = false from rfl)]
  rfl

theorem readMembers_more (key : Text) {values : Option Json}
    (h : (readValue depth text).map Shorter.parts =
      values.map fun value => (value, ',' :: behind)) :
    (readMembers depth (writeStringAppend key (':' :: text))).map Shorter.parts =
      values.bind fun value => ((readMembers depth behind).map Shorter.parts).map fun found =>
        ((key, value) :: found.1, found.2) := by
  obtain ⟨_, hkey⟩ := exists_of_map_parts (readKey_written key text)
  rw [readMembers, hkey, Option.bind_eq_bind, Option.bind_some, Option.bind_eq_bind,
    Option.map_bind]
  refine bind_of_map_parts h fun value _ _ => ?_
  simp only [Function.comp_apply, Option.bind_eq_bind, Option.bind_some,
    readPast_cons (show isSpace ',' = false from rfl)]
  cases readMembers depth behind <;> rfl

theorem readMembers_written {member : Text × Json} {members : Members}
    (h : ∀ other ∈ member :: members, ReadsWritten depth other.2) (rest : Text) :
    (readMembers depth (writeMembersAppend (member :: members) ('\x7d' :: rest))).map
      Shorter.parts = (rereadMembers? (member :: members)).map fun again => (again, rest) := by
  have hvalue := h member List.mem_cons_self
  induction members generalizing member with
  | nil =>
      obtain ⟨key, value⟩ := member
      have hlast := readMembers_last key
        (hvalue ('\x7d' :: rest) (endsNumeral_cons (by decide) rest))
      rw [writeMembersAppend, List.isEmpty_nil, if_pos rfl, hlast, rereadMembers?_cons]
      cases reread? value <;> rfl
  | cons second members ih =>
      obtain ⟨key, value⟩ := member
      have hmore := readMembers_more key
        (hvalue (',' :: writeMembersAppend (second :: members) ('\x7d' :: rest))
          (endsNumeral_cons (by decide) _))
      have hothers := ih (fun other hother => h other (List.mem_cons_of_mem _ hother))
        (h second (List.mem_cons_of_mem _ List.mem_cons_self))
      rw [writeMembersAppend, List.isEmpty_cons, if_neg Bool.false_ne_true, hmore, hothers,
        rereadMembers?_cons key]
      cases reread? value <;> cases rereadMembers? (second :: members) <;> rfl

theorem readObject_written {members : Members} (h : ∀ member ∈ members, ReadsWritten depth member.2)
    (rest : Text) :
    (readObject depth (writeMembersAppend members ('\x7d' :: rest))).map Shorter.parts =
      (rereadMembers? members).map fun again => (again, rest) := by
  cases members with
  | nil =>
      rw [writeMembersAppend, readObject, readPast_cons (show isSpace '\x7d' = false from rfl)]
      rfl
  | cons member members =>
      rw [← readMembers_written h rest, writeMembersAppend, readObject, writeStringAppend,
        readPast_cons (show isSpace '"' = false from rfl)]
      rfl

/-! ## Values -/

theorem readsWritten_number {value : Number} (depth : Nat) :
    ReadsWritten depth (.number value) := by
  intro rest hrest
  obtain ⟨c, behind, hc, hwritten⟩ := exists_writeNumber_eq_cons value
  have hread := readNumber_written value hrest
  rw [hwritten, List.cons_append] at hread
  rw [writeAppend, hwritten, List.cons_append, readValue_of_numeral depth hc, reread?,
    Option.map_map, Option.map_eq_bind, Option.map_eq_bind]
  exact bind_of_map_parts hread fun _ _ _ => rfl

theorem readsWritten_array {items : List Json} (h : ∀ item ∈ items, ReadsWritten depth item) :
    ReadsWritten (depth + 1) (.array items) := by
  intro rest _
  rw [writeAppend, readValue, readPast_cons (show isSpace '[' = false from rfl), reread?]
  simp only [Option.bind_eq_bind, Option.bind_some]
  rw [Option.map_bind, Option.map_map, Option.map_eq_bind]
  exact bind_of_map_parts (readArray_written h rest) fun _ _ _ => rfl

/-- The members that are read are in order already. -/
theorem readsWritten_object {members : Members} (hkeys : IsIncreasing members)
    (h : ∀ member ∈ members, ReadsWritten depth member.2) :
    ReadsWritten (depth + 1) (.object members) := by
  intro rest _
  rw [writeAppend, readValue, readPast_cons (show isSpace '\x7b' = false from rfl), reread?]
  simp only [Option.bind_eq_bind, Option.bind_some]
  rw [Option.map_bind, Option.map_map, Option.map_eq_bind]
  refine bind_of_map_parts (readObject_written h rest) fun again hagain _ => ?_
  have hincreasing := hkeys.of_rereadMembers? hagain
  simp only [Function.comp_apply, Shorter.map, ofSettings_of_isIncreasing hincreasing]
  rfl

/-- A value is read back as it was written, with each of its numbers read back. -/
theorem Fits.readsWritten {value : Json} (h : Fits depth value) : ReadsWritten depth value := by
  induction h with
  | null depth =>
      intro rest _
      rw [writeAppend, List.cons_append, readValue,
        readPast_cons (show isSpace 'n' = false from rfl)]
      rfl
  | bool depth value =>
      intro rest _
      cases value with
      | true =>
          rw [writeAppend, List.cons_append, readValue,
            readPast_cons (show isSpace 't' = false from rfl)]
          rfl
      | false =>
          rw [writeAppend, List.cons_append, readValue,
            readPast_cons (show isSpace 'f' = false from rfl)]
          rfl
  | number depth _ => exact readsWritten_number depth
  | string depth text =>
      intro rest _
      obtain ⟨_, hread⟩ := exists_of_map_parts (readString_written text rest)
      rw [writeAppend, writeStringAppend, readValue,
        readPast_cons (show isSpace '"' = false from rfl)]
      simp only [Option.bind_eq_bind, Option.bind_some, hread]
      rfl
  | array _ ih => exact readsWritten_array ih
  | object hkeys _ ih => exact readsWritten_object hkeys ih

end Json
end PaperFilter
