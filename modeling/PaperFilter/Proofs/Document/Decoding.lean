import PaperFilter.Document.Decode
import PaperFilter.Document.Encode
import PaperFilter.Proofs.Json.Reading

/-!
# Written records are read back

A record is an object that begins with the title and the abstract.  Reading takes its fields one
after the other: the texts as they are, and every other field as a value that is read back where it
was written.  The fields that are left are in order, are neither the title nor the abstract, and fit
the depth that a field may have.
-/

namespace PaperFilter
namespace Document

open Json

/-- The depth that a field of a record may have. -/
def fieldDepth : Nat := maxDepth - 1

/-- A key of neither the title nor the abstract. -/
def IsOtherKey (key : Text) : Prop :=
  key ≠ titleKey ∧ key ≠ abstractKey

instance (key : Text) : Decidable (IsOtherKey key) :=
  inferInstanceAs (Decidable (key ≠ titleKey ∧ key ≠ abstractKey))

/-- Fields as reading leaves them. -/
structure AreOtherFields (members : Members) : Prop where
  isIncreasing : IsIncreasing members
  isOtherKey : ∀ key ∈ keys members, IsOtherKey key
  fits : ∀ member ∈ members, Fits fieldDepth member.2

/-- Such fields are read back as themselves exactly if their doubles are. -/
theorem AreOtherFields.rereadMembers?_eq_some_iff {members : Members} (h : AreOtherFields members) :
    rereadMembers? members = some members ↔ ∀ member ∈ members, member.2.DoublesReadBack := by
  rw [rereadMembers?_eq_some_iff_forall]
  exact forall₂_congr fun member hmember =>
    (h.fits member hmember).reread?_eq_some_iff_doublesReadBack

theorem areOtherFields_nil : AreOtherFields [] where
  isIncreasing := isIncreasing_nil
  isOtherKey := nofun
  fits := nofun

theorem AreOtherFields.insert {members : Members} (h : AreOtherFields members) {key : Text}
    (hkey : IsOtherKey key) {value : Json} (hvalue : Fits fieldDepth value) :
    AreOtherFields (Json.insert key value members) where
  isIncreasing := isIncreasing_insert h.isIncreasing key value
  isOtherKey := fun other hother => by
    rcases mem_keys_insert.mp hother with rfl | hother
    · exact hkey
    · exact h.isOtherKey other hother
  fits := fun member hmember => by
    have hmem := (mem_insert h.isIncreasing).mp hmember
    split at hmem
    · exact hmem ▸ hvalue
    · exact h.fits member hmem

/-! ## What is read -/

theorem orMalformed_eq_ok {α : Type} {result : Option α} {value : α} :
    orMalformed result = .ok value ↔ result = some value := by
  cases result <;> simp [orMalformed]

theorem areOtherFields_of_readField {draft : Draft} {key text : Text} {found : Shorter Draft text}
    (hdraft : AreOtherFields draft.extra) (h : readField draft key text = .ok found) :
    AreOtherFields found.value.extra := by
  rw [readField] at h
  split at h
  · obtain ⟨title, -, hfound⟩ := bind_eq_ok h
    cases hfound
    exact hdraft
  · next htitle =>
      split at h
      · obtain ⟨abstractText, -, hfound⟩ := bind_eq_ok h
        cases hfound
        exact hdraft
      · next habstract =>
          obtain ⟨value, hvalue, hfound⟩ := bind_eq_ok h
          cases hfound
          exact hdraft.insert ⟨htitle, habstract⟩
            (fits_of_readValue (orMalformed_eq_ok.mp hvalue))

theorem areOtherFields_of_readFields {draft : Draft} {text : Text} {found : Shorter Draft text}
    (hdraft : AreOtherFields draft.extra) (h : readFields draft text = .ok found) :
    AreOtherFields found.value.extra := by
  induction draft, text using readFields.induct with
  | case1 draft text ih =>
      rw [readFields] at h
      obtain ⟨mark, -, h⟩ := bind_eq_ok h
      obtain ⟨key, -, h⟩ := bind_eq_ok h
      dsimp only at h
      split at h
      · cases h
      · obtain ⟨colon, -, h⟩ := bind_eq_ok h
        obtain ⟨field, hfield, h⟩ := bind_eq_ok h
        obtain ⟨next, -, h⟩ := bind_eq_ok h
        have hfield := areOtherFields_of_readField hdraft hfield
        split at h
        · obtain ⟨others, hothers, hfound⟩ := bind_eq_ok h
          cases hfound
          exact ih mark key colon field next hfield hothers
        · cases h
          exact hfield
        · cases h

/-- The other fields of a document that was read. -/
theorem areOtherFields_of_decode {text : Text} {document : Document}
    (h : decode text = .ok document) : AreOtherFields document.extra := by
  rw [decode] at h
  split at h
  · obtain ⟨record, hrecord, h⟩ := bind_eq_ok h
    have hextra : AreOtherFields record.value.extra := by
      rw [readRecord] at hrecord
      obtain ⟨first, -, hrecord⟩ := bind_eq_ok hrecord
      split at hrecord
      · cases hrecord
        exact areOtherFields_nil
      · exact areOtherFields_of_readFields areOtherFields_nil hrecord
    split at h
    · cases h
      exact hextra
    · cases h
  · cases h

/-! ## What is written -/

variable {draft : Draft} {key text rest behind : Text}

theorem readText_written (text rest : Text) :
    (readText (writeStringAppend text rest)).map Shorter.parts = .ok (text, rest) := by
  obtain ⟨_, hread⟩ := exists_of_map_parts (readString_written text rest)
  rw [writeStringAppend, readText, readPast_cons (show isSpace '"' = false from rfl)]
  simp only [if_pos, hread]
  rfl

theorem readField_title (draft : Draft) (title rest : Text) :
    (readField draft titleKey (writeAppend (.string title) rest)).map Shorter.parts =
      .ok ({ draft with title := some title }, rest) := by
  obtain ⟨_, hread⟩ := exists_of_map_parts_ok (readText_written title rest)
  rw [writeAppend, readField, if_pos rfl, hread]
  rfl

theorem readField_abstract (draft : Draft) (abstractText rest : Text) :
    (readField draft abstractKey (writeAppend (.string abstractText) rest)).map Shorter.parts =
      .ok ({ draft with abstractText := some abstractText }, rest) := by
  obtain ⟨_, hread⟩ := exists_of_map_parts_ok (readText_written abstractText rest)
  rw [writeAppend, readField, if_neg (by decide), if_pos rfl, hread]
  rfl

theorem readField_other (draft : Draft) (hkey : IsOtherKey key) {value : Json}
    (hvalue : ReadsWritten fieldDepth value) (hrest : EndsNumeral rest) :
    (readField draft key (writeAppend value rest)).map Shorter.parts =
      ((orMalformed value.reread?).map fun again =>
        { draft with extra := Json.insert key again draft.extra }).map fun next =>
          (next, rest) := by
  have hread := hvalue rest hrest
  rw [fieldDepth] at hread
  rw [readField, if_neg hkey.1, if_neg hkey.2]
  cases hagain : value.reread? with
  | none =>
      rw [hagain, Option.map_none, Option.map_eq_none_iff] at hread
      rw [hread]
      rfl
  | some again =>
      rw [hagain] at hread
      obtain ⟨_, hread⟩ := exists_of_map_parts hread
      rw [hread]
      rfl

/-- A written key and its field, and the mark behind it that says whether there are more. -/
theorem readFields_written {result : Except DecodeError Draft} {mark : Char}
    (hkey : isRepeated draft key = false) (hmark : isSpace mark = false)
    (h : (readField draft key text).map Shorter.parts =
      result.map fun next => (next, mark :: behind)) :
    (readFields draft (writeStringAppend key (':' :: text))).map Shorter.parts =
      result.bind fun next =>
        if mark = ',' then (readFields next behind).map Shorter.parts
        else if mark = '\x7d' then .ok (next, behind)
        else .error .malformed := by
  obtain ⟨_, hread⟩ := exists_of_map_parts (readString_written key (':' :: text))
  rw [writeStringAppend, readFields, readThisPast_cons (show isSpace '"' = false from rfl)]
  simp only [orMalformed, bind, Except.bind, hread, hkey, Bool.false_eq_true, if_false,
    readThisPast_cons (show isSpace ':' = false from rfl)]
  cases result with
  | error error =>
      rw [map_eq_error h]
      rfl
  | ok next =>
      obtain ⟨_, hfield⟩ := exists_of_map_parts_ok h
      rw [hfield]
      simp only [readPast_cons hmark]
      split
      · cases readFields next behind <;> rfl
      · rfl
      · next hcomma hbrace =>
          simp only [if_neg hcomma, if_neg hbrace]
          rfl

/-- The last field is followed by the closing brace. -/
theorem readFields_last {result : Except DecodeError Draft} (hkey : isRepeated draft key = false)
    (h : (readField draft key text).map Shorter.parts =
      result.map fun next => (next, '\x7d' :: rest)) :
    (readFields draft (writeStringAppend key (':' :: text))).map Shorter.parts =
      result.map fun next => (next, rest) := by
  rw [readFields_written hkey rfl h]
  cases result <;> rfl

/-- Any other field is followed by a comma. -/
theorem readFields_more {result : Except DecodeError Draft} (hkey : isRepeated draft key = false)
    (h : (readField draft key text).map Shorter.parts =
      result.map fun next => (next, ',' :: behind)) :
    (readFields draft (writeStringAppend key (':' :: text))).map Shorter.parts =
      result.bind fun next => (readFields next behind).map Shorter.parts :=
  readFields_written hkey rfl h

theorem isRepeated_of_isOtherKey (draft : Draft) (hkey : IsOtherKey key) :
    isRepeated draft key = false := by
  simp [isRepeated, hkey.1, hkey.2]

/-- Other fields are set one after the other. -/
theorem readFields_others {member : Text × Json} {members : Members}
    (hkeys : ∀ key ∈ keys (member :: members), IsOtherKey key)
    (hvalues : ∀ other ∈ member :: members, ReadsWritten fieldDepth other.2)
    (draft : Draft) (rest : Text) :
    (readFields draft (writeMembersAppend (member :: members) ('\x7d' :: rest))).map
      Shorter.parts = (orMalformed (rereadMembers? (member :: members))).map fun again =>
        ({ draft with extra := insertAll again draft.extra }, rest) := by
  induction members generalizing member draft with
  | nil =>
      obtain ⟨key, value⟩ := member
      have hkey : IsOtherKey key := hkeys key List.mem_cons_self
      have hend : EndsNumeral ('\x7d' :: rest) := endsNumeral_cons (by decide) rest
      have hlast := readFields_last (isRepeated_of_isOtherKey draft hkey)
        (readField_other draft hkey (hvalues _ List.mem_cons_self) hend)
      rw [writeMembersAppend, List.isEmpty_nil, if_pos rfl, hlast, rereadMembers?_cons]
      cases reread? value <;> rfl
  | cons second members ih =>
      obtain ⟨key, value⟩ := member
      have hkey : IsOtherKey key := hkeys key List.mem_cons_self
      have hend : EndsNumeral (',' :: writeMembersAppend (second :: members) ('\x7d' :: rest)) :=
        endsNumeral_cons (by decide) _
      have hmore := readFields_more (isRepeated_of_isOtherKey draft hkey)
        (readField_other draft hkey (hvalues _ List.mem_cons_self) hend)
      have hothers (next : Draft) := ih (fun key hkey => hkeys key (List.mem_cons_of_mem _ hkey))
        (fun other hother => hvalues other (List.mem_cons_of_mem _ hother)) next
      rw [writeMembersAppend, List.isEmpty_cons, if_neg Bool.false_ne_true, hmore,
        rereadMembers?_cons key]
      cases reread? value with
      | none => rfl
      | some again =>
          refine (hothers _).trans ?_
          cases rereadMembers? (second :: members) <;> rfl

/-- The members of a record that begins with a title and an abstract. -/
def recordMembers (title abstractText : Text) (others : Members) : Members :=
  (titleKey, .string title) :: (abstractKey, .string abstractText) :: others

/-- The title of a record is read, and what follows goes on from there. -/
theorem readFields_title (title behind : Text) :
    (readFields .empty (writeStringAppend titleKey
      (':' :: writeAppend (.string title) (',' :: behind)))).map Shorter.parts =
        (readFields ⟨some title, none, []⟩ behind).map Shorter.parts := by
  have hfield : (readField .empty titleKey (writeAppend (.string title) (',' :: behind))).map
      Shorter.parts = Except.map (fun next => (next, ',' :: behind))
        (.ok ⟨some title, none, []⟩) := readField_title .empty title (',' :: behind)
  have hrepeated : isRepeated .empty titleKey = false := by
    simp [isRepeated, Draft.empty]
  rw [readFields_more hrepeated hfield]
  rfl

/-- The fields of a record behind its opening brace. -/
theorem readFields_record (title abstractText : Text) {others : Members}
    (hkeys : ∀ key ∈ keys others, IsOtherKey key)
    (hvalues : ∀ other ∈ others, ReadsWritten fieldDepth other.2) (rest : Text) :
    (readFields .empty (writeMembersAppend (recordMembers title abstractText others)
      ('\x7d' :: rest))).map Shorter.parts = (orMalformed (rereadMembers? others)).map fun again =>
        (⟨some title, some abstractText, ofSettings again⟩, rest) := by
  have hkey : abstractKey ≠ titleKey := by decide
  have hrepeated : isRepeated ⟨some title, none, []⟩ abstractKey = false := by
    simp [isRepeated, hkey]
  have hfield (behind : Text) : (readField ⟨some title, none, []⟩ abstractKey
      (writeAppend (.string abstractText) behind)).map Shorter.parts =
        Except.map (fun next => (next, behind)) (.ok ⟨some title, some abstractText, []⟩) :=
    readField_abstract ⟨some title, none, []⟩ abstractText behind
  rw [recordMembers, writeMembersAppend, List.isEmpty_cons, if_neg Bool.false_ne_true,
    readFields_title, writeMembersAppend]
  cases others with
  | nil =>
      rw [List.isEmpty_nil, if_pos rfl, readFields_last hrepeated (hfield _)]
      rfl
  | cons member members =>
      rw [List.isEmpty_cons, if_neg Bool.false_ne_true, readFields_more hrepeated (hfield _)]
      exact readFields_others hkeys hvalues _ rest

/-- A written record is read back with the fields that its other members leave, each read back. -/
theorem decode_record (title abstractText : Text) {others : Members}
    (hkeys : ∀ key ∈ keys others, IsOtherKey key)
    (hvalues : ∀ other ∈ others, ReadsWritten fieldDepth other.2) :
    decode (write (.object (recordMembers title abstractText others))) =
      (orMalformed (rereadMembers? others)).map fun again =>
        ⟨title, abstractText, ofSettings again⟩ := by
  have hrecord : (readRecord (writeMembersAppend (recordMembers title abstractText others)
      ['\x7d'])).map Shorter.parts = (orMalformed (rereadMembers? others)).map fun again =>
        (⟨some title, some abstractText, ofSettings again⟩, []) := by
    rw [← readFields_record title abstractText hkeys hvalues [], recordMembers,
      writeMembersAppend, writeStringAppend, readRecord,
      readPast_cons (show isSpace '"' = false from rfl)]
    rfl
  have hbrace : List.dropWhile isSpace ('\x7b' :: writeMembersAppend
      (recordMembers title abstractText others) ['\x7d']) = '\x7b' :: writeMembersAppend
        (recordMembers title abstractText others) ['\x7d'] := rfl
  rw [write, writeAppend, decode, hbrace]
  cases hagain : rereadMembers? others with
  | none =>
      rw [hagain] at hrecord
      simp only [map_eq_error hrecord]
      rfl
  | some again =>
      rw [hagain] at hrecord
      obtain ⟨_, hread⟩ := exists_of_map_parts_ok hrecord
      simp only [hread]
      rfl

/-- A document is read back where it was written, if its doubles are. -/
theorem decode_encode {document : Document} (h : AreOtherFields document.extra)
    (hdoubles : ∀ member ∈ document.extra, member.2.DoublesReadBack) :
    decode document.encode = .ok document := by
  have hvalues : ∀ member ∈ document.extra, ReadsWritten fieldDepth member.2 :=
    fun member hmember => (h.fits member hmember).readsWritten
  have hread := decode_record document.title document.abstractText h.isOtherKey hvalues
  rw [h.rereadMembers?_eq_some_iff.mpr hdoubles] at hread
  simp only [orMalformed, Except.map, ofSettings_of_isIncreasing h.isIncreasing] at hread
  exact hread

end Document
end PaperFilter
