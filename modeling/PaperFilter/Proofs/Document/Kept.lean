import PaperFilter.Document.Encode
import PaperFilter.Filter
import PaperFilter.Proofs.Document.Decoding

/-!
# Records of kept documents

A kept document is written as the record that it came from with two more members behind it: the
links of its abstract and the expression that it was kept for.  The record can be read again, but
where it had a field of the same name that field is lost.  Otherwise every field comes back, except
that a double may come back as another one.
-/

namespace PaperFilter

open Json Document

/-- The keys of an object, in the order in which they are written. -/
def Json.writtenKeys : Json → List Text
  | .object members => keys members
  | _ => []

namespace KeptDocument

def codeUrlsKey : Text := "code_urls".toList

def matchedQueryKey : Text := "matched_query".toList

def derivedKeys : List Text := [codeUrlsKey, matchedQueryKey]

/-- The members that are written behind those of the document. -/
def derived (kept : KeptDocument) : Members :=
  [(codeUrlsKey, .array (kept.codeUrls.map .string)),
    (matchedQueryKey, .string kept.matchedQuery)]

theorem toJson_eq (kept : KeptDocument) :
    kept.toJson = .object (recordMembers kept.document.title kept.document.abstractText
      (kept.document.extra ++ kept.derived)) :=
  rfl

/-! ## Derived members -/

theorem rereadItems?_strings (texts : List Text) :
    rereadItems? (texts.map .string) = some (texts.map .string) := by
  rw [rereadItems?_eq_some_iff]
  intro number hnumber
  obtain ⟨item, hitem, hnumber⟩ := mem_numbersOfItems.mp hnumber
  obtain ⟨text, -, rfl⟩ := List.mem_map.mp hitem
  cases hnumber

theorem fits_strings (texts : List Text) : Fits fieldDepth (.array (texts.map .string)) := by
  refine .array fun item hitem => ?_
  obtain ⟨text, -, rfl⟩ := List.mem_map.mp hitem
  exact .string _ text

theorem keys_derived (kept : KeptDocument) : keys kept.derived = derivedKeys :=
  rfl

theorem isOtherKey_of_mem_derivedKeys {key : Text} (h : key ∈ derivedKeys) : IsOtherKey key := by
  rcases List.mem_pair.mp h with rfl | rfl <;> exact ⟨by decide, by decide⟩

theorem fits_derived (kept : KeptDocument) : ∀ member ∈ kept.derived, Fits fieldDepth member.2 := by
  intro member hmember
  rcases List.mem_pair.mp hmember with rfl | rfl
  · exact fits_strings kept.codeUrls
  · exact .string _ _

theorem rereadMembers?_derived (kept : KeptDocument) :
    rereadMembers? kept.derived = some kept.derived := by
  rw [rereadMembers?_eq_some_iff_forall]
  intro member hmember
  rcases List.mem_pair.mp hmember with rfl | rfl
  · rw [reread?, rereadItems?_strings]
    rfl
  · rfl

/-! ## Reading the record again -/

variable {kept : KeptDocument}

/-- What is read where a kept document was written. -/
theorem decode_kept (h : AreOtherFields kept.document.extra) :
    decode kept.encode = (orMalformed (rereadMembers? kept.document.extra)).map fun again =>
      ⟨kept.document.title, kept.document.abstractText, insertAll kept.derived again⟩ := by
  have hkeys : ∀ key ∈ keys (kept.document.extra ++ kept.derived), IsOtherKey key := by
    intro key hkey
    rw [keys, List.map_append, List.mem_append] at hkey
    exact hkey.elim (h.isOtherKey key) isOtherKey_of_mem_derivedKeys
  have hvalues : ∀ member ∈ kept.document.extra ++ kept.derived,
      ReadsWritten fieldDepth member.2 := by
    intro member hmember
    exact (List.mem_append.mp hmember).elim (fun hextra => (h.fits member hextra).readsWritten)
      fun hderived => (fits_derived kept member hderived).readsWritten
  rw [encode, toJson_eq, decode_record _ _ hkeys hvalues, rereadMembers?_append,
    rereadMembers?_derived]
  cases hagain : rereadMembers? kept.document.extra with
  | none => rfl
  | some again =>
      have hincreasing := h.isIncreasing.of_rereadMembers? hagain
      have hsettings : ofSettings (again ++ kept.derived) = insertAll kept.derived again := by
        rw [ofSettings_append, ofSettings_of_isIncreasing hincreasing]
      simp only [orMalformed, Except.map, Option.bind_some, Option.map_some, hsettings]

/-- The keys that are written are all different unless the document has one of the derived keys. -/
theorem nodup_writtenKeys_iff (h : AreOtherFields kept.document.extra) :
    kept.toJson.writtenKeys.Nodup ↔ ∀ key ∈ keys kept.document.extra, key ∉ derivedKeys := by
  have hwritten : kept.toJson.writtenKeys =
      titleKey :: abstractKey :: (keys kept.document.extra ++ derivedKeys) := by
    rw [toJson_eq, writtenKeys, ← keys_derived kept, keys, keys, keys, recordMembers, List.map_cons,
      List.map_cons, List.map_append]
  have hother {key : Text} (hkey : key ∈ keys kept.document.extra ++ derivedKeys) :
      IsOtherKey key :=
    (List.mem_append.mp hkey).elim (h.isOtherKey key) isOtherKey_of_mem_derivedKeys
  have htitle : titleKey ∉ abstractKey :: (keys kept.document.extra ++ derivedKeys) :=
    List.not_mem_cons_of_ne_of_not_mem (by decide) fun hkey => (hother hkey).1 rfl
  have habstract : abstractKey ∉ keys kept.document.extra ++ derivedKeys :=
    fun hkey => (hother hkey).2 rfl
  rw [hwritten, List.nodup_cons, List.nodup_cons, List.nodup_append]
  constructor
  · rintro ⟨-, -, -, -, hdisjoint⟩ key hkey hderived
    exact hdisjoint key hkey key hderived rfl
  · intro hfree
    refine ⟨htitle, habstract, h.isIncreasing.nodup_keys, by decide, ?_⟩
    rintro key hkey _ hderived rfl
    exact hfree key hkey hderived

end KeptDocument

namespace DocumentFilter

variable {filter : DocumentFilter} {document : Document} {kept : KeptDocument}

theorem keep_of_check (h : filter.check document = .keep kept) : kept = filter.keep document := by
  rw [check] at h
  split at h
  · exact (Verdict.keep.inj h).symm
  · cases h

/--
A record that is kept comes out the way it went in, each key once and every field with its value,
exactly if it has no field of a derived key and each of its doubles is read back as itself.
-/
theorem check_keeps_record_iff {text : Text} (hdecode : decode text = .ok document)
    (hcheck : filter.check document = .keep kept) :
    (kept.toJson.writtenKeys.Nodup ∧
      ∃ again, decode kept.encode = .ok again ∧ again.title = document.title ∧
        again.abstractText = document.abstractText ∧
        ∀ member ∈ document.extra, member ∈ again.extra) ↔
      (∀ key ∈ keys document.extra, key ∉ KeptDocument.derivedKeys) ∧
        ∀ member ∈ document.extra, member.2.DoublesReadBack := by
  have hextra : AreOtherFields (filter.keep document).document.extra :=
    areOtherFields_of_decode hdecode
  have hkept := keep_of_check hcheck
  subst hkept
  have hwritten := KeptDocument.decode_kept hextra
  rw [KeptDocument.nodup_writtenKeys_iff hextra]
  refine and_congr_right fun hfree => ?_
  have hnotMem {member : Text × Json} (hmember : member ∈ document.extra) :
      member.1 ∉ keys (filter.keep document).derived :=
    hfree member.1 (List.mem_map_of_mem hmember)
  constructor
  · rintro ⟨again, hread, -, -, hmembers⟩
    rw [hread] at hwritten
    obtain ⟨extra, hreread, rfl⟩ := map_eq_ok hwritten.symm
    have hagain := orMalformed_eq_ok.mp hreread
    have hincreasing := hextra.isIncreasing.of_rereadMembers? hagain
    have hsubset : document.extra ⊆ extra := fun member hmember =>
      (mem_insertAll_of_notMem hincreasing (hnotMem hmember)).mp (hmembers member hmember)
    have heq := hincreasing.eq_of_subset (keys_of_rereadMembers? hagain) hsubset
    rw [heq] at hagain
    exact hextra.rereadMembers?_eq_some_iff.mp hagain
  · intro hdoubles
    have hreread := hextra.rereadMembers?_eq_some_iff.mpr hdoubles
    refine ⟨_, hwritten.trans (congrArg _ (congrArg _ hreread)), rfl, rfl, fun member hmember => ?_⟩
    exact (mem_insertAll_of_notMem hextra.isIncreasing (hnotMem hmember)).mpr hmember

/-- The filter without a query. -/
def keepAll : DocumentFilter := ⟨none, .title, true, {}⟩

theorem check_keepAll (document : Document) :
    keepAll.check document = .keep (keepAll.keep document) :=
  rfl

/-- A record with a score, which a double stands for. -/
def scoredDocument : Document :=
  ⟨"a b".toList, [], [("score".toList, .number (.double false ⟨1 <<< 52, 1021⟩)),
    ("year".toList, .number (.integer 2021))]⟩

theorem areOtherFields_scoredDocument : AreOtherFields scoredDocument.extra where
  isIncreasing := by decide
  isOtherKey := by decide
  fits := by
    intro member hmember
    rcases List.mem_pair.mp hmember with rfl | rfl
    · exact .number _ trivial
    · exact .number _ ⟨by decide, by decide⟩

theorem doublesReadBack_scoredDocument :
    ∀ member ∈ scoredDocument.extra, member.2.DoublesReadBack := by
  intro member hmember negative magnitude hdouble
  rcases List.mem_pair.mp hmember with rfl | rfl
  · cases List.mem_singleton.mp hdouble
    decide +kernel
  · cases List.mem_singleton.mp hdouble

theorem check_keeps_record_iff_scored :
    ∃ document kept again,
      decode "\x7b\"title\":\"a b\",\"abstract\":\"\",\"score\":0.5,\"year\":2021\x7d".toList =
        .ok document ∧
      keepAll.check document = .keep kept ∧ kept.toJson.writtenKeys.Nodup ∧
      decode kept.encode = .ok again ∧ ∀ member ∈ document.extra, member ∈ again.extra := by
  have htext : scoredDocument.encode =
      "\x7b\"title\":\"a b\",\"abstract\":\"\",\"score\":0.5,\"year\":2021\x7d".toList := by
    decide +kernel
  have hdecode := decode_encode areOtherFields_scoredDocument doublesReadBack_scoredDocument
  have hfree : ∀ key ∈ keys scoredDocument.extra, key ∉ KeptDocument.derivedKeys := by decide
  obtain ⟨hnodup, again, hagain, -, -, hmembers⟩ :=
    (check_keeps_record_iff hdecode (check_keepAll scoredDocument)).mpr
      ⟨hfree, doublesReadBack_scoredDocument⟩
  rw [htext] at hdecode
  exact ⟨scoredDocument, _, again, hdecode, check_keepAll _, hnodup, hagain, hmembers⟩

/-- A record with a field of a derived key. -/
def linkedDocument : Document :=
  ⟨"video".toList, [], [("code_urls".toList, .array [.string "https://x.org".toList])]⟩

theorem areOtherFields_linkedDocument : AreOtherFields linkedDocument.extra where
  isIncreasing := by decide
  isOtherKey := by decide
  fits := by
    intro member hmember
    cases List.mem_singleton.mp hmember
    exact KeptDocument.fits_strings ["https://x.org".toList]

theorem doublesReadBack_linkedDocument :
    ∀ member ∈ linkedDocument.extra, member.2.DoublesReadBack := by
  intro member hmember negative magnitude hdouble
  cases List.mem_singleton.mp hmember
  cases hdouble

/-- The field of a derived key is written twice, and what is read again is not the record's. -/
theorem check_loses_field :
    ∃ document kept again,
      decode "\x7b\"title\":\"video\",\"abstract\":\"\",\"code_urls\":[\"https://x.org\"]\x7d".toList =
        .ok document ∧
      keepAll.check document = .keep kept ∧ ¬ kept.toJson.writtenKeys.Nodup ∧
      decode kept.encode = .ok again ∧ ∃ member ∈ document.extra, member ∉ again.extra := by
  have htext : linkedDocument.encode =
      "\x7b\"title\":\"video\",\"abstract\":\"\",\"code_urls\":[\"https://x.org\"]\x7d".toList := by
    decide +kernel
  have hextra : AreOtherFields (keepAll.keep linkedDocument).document.extra :=
    areOtherFields_linkedDocument
  have hdecode := decode_encode areOtherFields_linkedDocument doublesReadBack_linkedDocument
  have hagain := KeptDocument.decode_kept hextra
  have hreread : rereadMembers? (keepAll.keep linkedDocument).document.extra =
      some linkedDocument.extra :=
    hextra.rereadMembers?_eq_some_iff.mpr doublesReadBack_linkedDocument
  have hlost : insertAll (keepAll.keep linkedDocument).derived linkedDocument.extra =
      [("code_urls".toList, .array []), ("matched_query".toList, .string [])] := by
    cbv
  rw [hreread] at hagain
  rw [htext] at hdecode
  refine ⟨linkedDocument, _, _, hdecode, check_keepAll _, ?_, hagain, _, List.mem_cons_self, ?_⟩
  · rw [KeptDocument.nodup_writtenKeys_iff hextra]
    intro hfree
    exact hfree KeptDocument.codeUrlsKey List.mem_cons_self List.mem_cons_self
  · intro hmember
    change _ ∈ insertAll (keepAll.keep linkedDocument).derived linkedDocument.extra at hmember
    rw [hlost] at hmember
    rcases List.mem_pair.mp hmember with heq | heq <;> cases heq

end DocumentFilter
end PaperFilter
