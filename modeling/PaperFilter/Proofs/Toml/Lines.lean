import PaperFilter.Proofs.Toml.Scalars

/-!
# Written TOML documents are cut into statements

The lines of a section are a header and one assignment for each of its settings.  Reading takes them
off the front of a text line by line, and passes over the empty lines between sections.
-/

namespace PaperFilter
namespace Toml

/-!
## Keys
-/

/-- A key that needs no quotation marks. -/
structure IsBareKey (key : Text) : Prop where
  ne_nil : key ≠ []
  isBareKeyChar : ∀ c ∈ key, isBareKeyChar c = true

instance (key : Text) : Decidable (IsBareKey key) :=
  decidable_of_iff (key ≠ [] ∧ key.all isBareKeyChar = true)
    ⟨fun h => ⟨h.left, List.all_eq_true.mp h.right⟩,
      fun h => ⟨h.ne_nil, List.all_eq_true.mpr h.isBareKeyChar⟩⟩

theorem isSpace_of_isBareKeyChar {c : Char} (h : isBareKeyChar c = true) : isSpace c = false := by
  apply Bool.eq_false_iff.mpr
  intro hspace
  simp only [isSpace, Bool.or_eq_true, decide_eq_true_eq] at hspace
  rcases hspace with rfl | rfl
  · cases h
  · cases h

section

variable {key rest : Text} (hkey : IsBareKey key)
include hkey

theorem IsBareKey.exists_cons :
    ∃ c letters, key = c :: letters ∧ Toml.isBareKeyChar c = true ∧
      ∀ d ∈ letters, Toml.isBareKeyChar d = true := by
  rcases hkey with ⟨hne, hchars⟩
  cases key with
  | nil => exact absurd rfl hne
  | cons c letters =>
      rcases List.forall_mem_cons.mp hchars with ⟨hc, hletters⟩
      exact ⟨c, letters, rfl, hc, hletters⟩

theorem readSimpleKey_bare (hrest : ∀ c, rest.head? = some c → isBareKeyChar c = false) :
    (readSimpleKey (key ++ rest)).map Shorter.parts = some (key, rest) := by
  rcases hkey.exists_cons with ⟨c, letters, rfl, hc, hletters⟩
  have hquote : c ≠ '"' := by
    rintro rfl
    cases hc
  have hapostrophe : c ≠ '\'' := by
    rintro rfl
    cases hc
  rw [List.cons_append, readSimpleKey, if_neg hquote, if_neg hapostrophe, if_pos hc,
    readWhile_append hletters hrest]
  rfl

/-- White space in front of a key would be passed over, but there is none. -/
theorem readWhile_isSpace_bare :
    readWhile isSpace (key ++ rest) = ⟨[], key ++ rest, Nat.le_refl _⟩ := by
  rcases hkey.exists_cons with ⟨c, letters, rfl, hc, _⟩
  exact readWhile_cons (isSpace_of_isBareKeyChar hc) _

end

/-- The keys of a path with dots between them. -/
def KeyPath.text (path : KeyPath) : Text :=
  path.parents.foldr (fun key text => key ++ '.' :: text) path.last

/-- Every key of a path needs no quotation marks. -/
structure KeyPath.IsBare (path : KeyPath) : Prop where
  parents : ∀ key ∈ path.parents, IsBareKey key
  last : IsBareKey path.last

section

variable {space : Text} (hspace : ∀ c ∈ space, isSpace c = true) {d : Char} {rest : Text}
  (hd : isBareKeyChar d = false) (hnotSpace : isSpace d = false) (hdot : d ≠ '.')
include hspace hd hnotSpace hdot

/-- Keys are read up to what follows the white space behind the last one, if that is no dot. -/
theorem readKeys_bare {path : KeyPath} (h : path.IsBare) :
    (readKeys (path.text ++ (space ++ d :: rest))).map Shorter.parts = some (path, d :: rest) := by
  rcases path with ⟨parents, last⟩
  rcases h with ⟨hparents, hlast⟩
  induction parents with
  | nil =>
      have hends : ∀ c, (space ++ d :: rest).head? = some c → isBareKeyChar c = false := by
        intro c hc
        cases space with
        | nil => exact Option.some.inj hc ▸ hd
        | cons e space =>
            apply Bool.eq_false_iff.mpr
            intro hbare
            have he := hspace e List.mem_cons_self
            rw [Option.some.inj hc, isSpace_of_isBareKeyChar hbare] at he
            cases he
      have hstart : readWhile isSpace (last ++ (space ++ d :: rest)) = _ :=
        readWhile_isSpace_bare hlast
      have hfinish : readWhile isSpace (space ++ d :: rest) = ⟨space, d :: rest, _⟩ :=
        readWhile_append hspace fun _ hhead => Option.some.inj hhead ▸ hnotSpace
      have hnoDot := readThisPast_of_ne hspace hnotSpace hdot rest
      obtain ⟨_, hread⟩ := exists_of_map_parts (readSimpleKey_bare hlast hends)
      rw [KeyPath.text, List.foldr_nil, readKeys]
      generalize readWhile isSpace (last ++ (space ++ d :: rest)) = start at hstart ⊢
      subst hstart
      simp only [hread, Option.bind_eq_bind, Option.bind_some, hnoDot, hfinish]
      rfl
  | cons key parents ih =>
      rcases List.forall_mem_cons.mp hparents with ⟨hkey, hparents⟩
      have ih := ih hparents hlast
      generalize hothers : KeyPath.text ⟨parents, last⟩ ++ (space ++ d :: rest) = others at ih
      obtain ⟨_, hbehind⟩ := exists_of_map_parts ih
      have htext : KeyPath.text ⟨key :: parents, last⟩ ++ (space ++ d :: rest) =
          key ++ '.' :: others := by
        rw [← hothers, KeyPath.text, List.foldr_cons, List.append_assoc, List.cons_append]
        rfl
      have hstart : readWhile isSpace (key ++ '.' :: others) = _ := readWhile_isSpace_bare hkey
      have hends : ∀ c, ('.' :: others).head? = some c → isBareKeyChar c = false :=
        fun _ hc => Option.some.inj hc ▸ rfl
      obtain ⟨_, hread⟩ := exists_of_map_parts (readSimpleKey_bare hkey hends)
      have hthis : readThisPast isSpace '.' ('.' :: others) = _ := readThisPast_cons rfl others
      rw [htext, readKeys]
      generalize readWhile isSpace (key ++ '.' :: others) = start at hstart ⊢
      subst hstart
      simp only [hread, Option.bind_eq_bind, Option.bind_some, hthis, hbehind]
      rfl

/-- The keys of a path are fewer than the limit on nesting, or the path is not read. -/
theorem readKeyPath_bare {path : KeyPath} (h : path.IsBare) :
    (readKeyPath (path.text ++ (space ++ d :: rest))).map Shorter.parts =
      if path.parents.length + 1 < nestingLimit then some (path, d :: rest) else none := by
  obtain ⟨_, hread⟩ := exists_of_map_parts (readKeys_bare hspace hd hnotSpace hdot h)
  rw [readKeyPath, hread]
  simp only [Option.bind_eq_bind, Option.bind_some]
  split <;> rfl

theorem readKeyPath_bareKey {key : Text} (hkey : IsBareKey key) :
    (readKeyPath (key ++ (space ++ d :: rest))).map Shorter.parts =
      some (⟨[], key⟩, d :: rest) := by
  have h : KeyPath.IsBare ⟨[], key⟩ := ⟨List.forall_mem_nil _, hkey⟩
  have hshort : 1 < nestingLimit := by decide
  exact (readKeyPath_bare hspace hd hnotSpace hdot h).trans (if_pos hshort)

end

/-!
## Statements
-/

/-- What the line of a setting is read as. -/
def settingStatement (setting : Text × Plain) : Statement :=
  .assign ⟨[], setting.1⟩ setting.2.value

theorem head_writePlain (plain : Plain) (rest : Text) :
    ∀ c, (writePlain plain ++ rest).head? = some c → isSpace c = false := by
  intro c hc
  cases plain with
  | string text =>
      rcases exists_writeStringIn (StringForm.choose text) text with ⟨mark, body, hbody, hmark⟩
      rw [writePlain, writeString, hbody] at hc
      rcases hmark with rfl | rfl
      · exact Option.some.inj hc ▸ rfl
      · exact Option.some.inj hc ▸ rfl
  | natural n =>
      rw [writePlain] at hc
      cases hdigits : Text.ofNat n with
      | nil => exact absurd hdigits (Text.ofNat_ne_nil n)
      | cons d digits =>
          have hd : d.isDigit = true := Text.isDigit_of_mem_ofNat (hdigits ▸ List.mem_cons_self)
          have hbare : isBareKeyChar d = true := by simp [isBareKeyChar, Char.isAlphanum, hd]
          rw [hdigits] at hc
          exact Option.some.inj hc ▸ isSpace_of_isBareKeyChar hbare
  | boolean value => cases value <;> exact Option.some.inj hc ▸ rfl

section

variable {key rest : Text} (hkey : IsBareKey key)
include hkey

theorem readAssigned_bare (hrest : ∀ c, rest.head? = some c → isSpace c = false) :
    (readAssigned (key ++ ' ' :: '=' :: ' ' :: rest)).map Shorter.parts =
      some (⟨[], key⟩, rest) := by
  have hblank : ∀ c ∈ [' '], isSpace c = true := List.forall_mem_singleton.mpr rfl
  have hpath : (readKeyPath (key ++ ' ' :: '=' :: ' ' :: rest)).map Shorter.parts =
      some (⟨[], key⟩, '=' :: ' ' :: rest) :=
    readKeyPath_bareKey hblank rfl rfl (by decide) hkey
  have hspace : readWhile isSpace (' ' :: rest) = ⟨[' '], rest, _⟩ :=
    readWhile_append hblank hrest
  obtain ⟨_, hread⟩ := exists_of_map_parts hpath
  rw [readAssigned, hread]
  simp only [Option.bind_eq_bind, Option.bind_some, readThis_cons, Shorter.head]
  generalize readWhile isSpace (' ' :: rest) = space at hspace ⊢
  subst hspace
  rfl

theorem readTableHeader_bare :
    (readTableHeader (key ++ ']' :: rest)).map Shorter.parts =
      some (.openTable ⟨[], key⟩, rest) := by
  have hpath : (readKeyPath (key ++ ']' :: rest)).map Shorter.parts =
      some (⟨[], key⟩, ']' :: rest) :=
    readKeyPath_bareKey (List.forall_mem_nil _) rfl rfl (by decide) hkey
  obtain ⟨_, hread⟩ := exists_of_map_parts hpath
  rw [readTableHeader, hread]
  simp only [Option.bind_eq_bind, Option.bind_some, readThis_cons]
  rfl

/-- Neither a header nor an assignment looks like an empty line or a comment. -/
theorem IsBareKey.ne_head {c : Char} (hc : Toml.isBareKeyChar c = false) :
    (key ++ rest).head? ≠ some c := by
  rcases hkey.exists_cons with ⟨d, letters, rfl, hd, _⟩
  intro heq
  rw [Option.some.inj heq, hc] at hd
  cases hd

end

theorem readAssignment_written {setting : Text × Plain} (hkey : IsBareKey setting.1)
    (hvalue : setting.2.InRange) (rest : Text) :
    (readAssignment (writeSetting setting ++ rest)).map Shorter.parts =
      some (settingStatement setting, '\n' :: rest) := by
  have hpath := readAssigned_bare hkey (head_writePlain setting.2 ('\n' :: rest))
  have hwritten : writeSetting setting ++ rest =
      setting.1 ++ ' ' :: '=' :: ' ' :: (writePlain setting.2 ++ '\n' :: rest) := by
    simp [writeSetting]
  obtain ⟨_, hpath⟩ := exists_of_map_parts hpath
  obtain ⟨_, hread⟩ := exists_of_map_parts (readValue_written hvalue nestingLimit rest)
  rw [hwritten, readAssignment, hpath]
  simp only [Option.bind_eq_bind, Option.bind_some, hread]
  rfl

theorem readStatement_setting {setting : Text × Plain} (hkey : IsBareKey setting.1)
    (hvalue : setting.2.InRange) (rest : Text) :
    (readStatement (writeSetting setting ++ rest)).map Shorter.parts =
      some (settingStatement setting, '\n' :: rest) := by
  have hread := readAssignment_written hkey hvalue rest
  have hbracket : ∀ more, writeSetting setting ++ rest ≠ '[' :: more := by
    intro more heq
    rw [writeSetting] at heq
    simp only [List.append_assoc] at heq
    exact hkey.ne_head rfl (congrArg List.head? heq)
  rw [readStatement]
  · exact hread
  · exact fun more => hbracket _
  · exact hbracket

theorem readStatement_header {name : Text} (hname : IsBareKey name) (rest : Text) :
    (readStatement ('[' :: (name ++ ']' :: rest))).map Shorter.parts =
      some (.openTable ⟨[], name⟩, rest) := by
  have hheader : (readTableHeader (name ++ ']' :: rest)).map Shorter.parts =
      some (.openTable ⟨[], name⟩, rest) :=
    readTableHeader_bare hname
  obtain ⟨_, hread⟩ := exists_of_map_parts hheader
  rw [readStatement]
  · rw [hread]
    rfl
  · exact fun more heq => hname.ne_head rfl (congrArg List.head? heq)

/-!
## Lines
-/

theorem readLineEnd_feed (rest : Text) :
    (readLineEnd ('\n' :: rest)).map NoLonger.parts = some ((), rest) := by
  have hnumber : readThisPast isSpace '#' ('\n' :: rest) = none :=
    readThisPast_of_ne (List.forall_mem_nil _) rfl (by decide) rest
  have hspace : readWhile isSpace ('\n' :: rest) = ⟨[], '\n' :: rest, _⟩ := readWhile_cons rfl rest
  rw [readLineEnd, hnumber]
  generalize readWhile isSpace ('\n' :: rest) = space at hspace ⊢
  subst hspace
  rfl

theorem readStatements_feed (rest : Text) :
    readStatements ('\n' :: rest) = readStatements rest := by
  have hspace : readWhile isSpace ('\n' :: rest) = ⟨[], '\n' :: rest, _⟩ := readWhile_cons rfl rest
  rw [readStatements]
  generalize readWhile isSpace ('\n' :: rest) = space at hspace ⊢
  subst hspace
  rfl

/-- What white space, an empty line or a comment begins with. -/
def fillers : List Char :=
  [' ', '\t', '\n', '\r', '#']

/-- A text that begins with none of these begins with a statement. -/
theorem readStatements_of_head {text : Text} (hne : text ≠ [])
    (hhead : ∀ filler ∈ fillers, text.head? ≠ some filler) :
    readStatements text = do
      let statement ← readStatement text
      let finish ← readLineEnd statement.rest
      let others ← readStatements finish.rest
      return statement.value :: others := by
  cases text with
  | nil => exact absurd rfl hne
  | cons c text =>
      have hne : ∀ filler ∈ fillers, c ≠ filler :=
        fun filler hfiller heq => hhead filler hfiller (congrArg some heq)
      have hspace : isSpace c = false := by
        simp [isSpace, hne ' ' (by decide), hne '\t' (by decide)]
      have hnewline : readNewline (c :: text) = none :=
        readNewline_eq_none (hhead '\n' (by decide)) (hhead '\r' (by decide))
      have hstart : readWhile isSpace (c :: text) = ⟨[], c :: text, _⟩ := readWhile_cons hspace text
      rw [readStatements]
      generalize readWhile isSpace (c :: text) = start at hstart ⊢
      subst hstart
      simp only [NoLonger.next?, if_neg (hne '#' (by decide)), hnewline]

/-- A statement is read up to the end of its line. -/
theorem readStatements_line {text rest : Text} {statement : Statement}
    (hhead : ∀ filler ∈ fillers, text.head? ≠ some filler)
    (h : (readStatement text).map Shorter.parts = some (statement, '\n' :: rest)) :
    readStatements text = (readStatements rest).map (statement :: ·) := by
  obtain ⟨hshorter, hread⟩ := exists_of_map_parts h
  obtain ⟨_, hfinish⟩ := exists_of_map_noLonger_parts (readLineEnd_feed rest)
  rw [readStatements_of_head (List.ne_nil_of_length_pos (Nat.zero_lt_of_lt hshorter)) hhead, hread]
  simp only [Option.bind_eq_bind, Option.bind_some, hfinish]
  cases readStatements rest <;> rfl

/-!
## Sections
-/

/-- What the lines of a section are read as. -/
def Section.statements (part : Section) : List Statement :=
  .openTable ⟨[], part.name⟩ :: part.settings.map settingStatement

/-- A section whose keys need no quotation marks and are told apart by a reader. -/
structure Section.IsReadable (part : Section) : Prop where
  name : IsBareKey part.name
  keys : ∀ setting ∈ part.settings, IsBareKey setting.1
  values : ∀ setting ∈ part.settings, setting.2.InRange
  distinct : (part.settings.map Prod.fst).Nodup

theorem IsBareKey.ne_filler {key : Text} (hkey : IsBareKey key) (rest : Text) :
    ∀ filler ∈ fillers, (key ++ rest).head? ≠ some filler := by
  intro filler hfiller
  apply hkey.ne_head
  simp only [fillers, List.mem_cons, List.not_mem_nil, or_false] at hfiller
  rcases hfiller with rfl | rfl | rfl | rfl | rfl <;> rfl

theorem readStatements_settings {settings : List (Text × Plain)}
    (hkeys : ∀ setting ∈ settings, IsBareKey setting.1)
    (hvalues : ∀ setting ∈ settings, setting.2.InRange) (rest : Text) :
    readStatements (settings.flatMap writeSetting ++ rest) =
      (readStatements rest).map (settings.map settingStatement ++ ·) := by
  induction settings with
  | nil => exact Option.map_id_apply.symm
  | cons setting settings ih =>
      rcases List.forall_mem_cons.mp hkeys with ⟨hkey, hkeys⟩
      rcases List.forall_mem_cons.mp hvalues with ⟨hvalue, hvalues⟩
      have hread := readStatement_setting hkey hvalue (settings.flatMap writeSetting ++ rest)
      have hhead : ∀ filler ∈ fillers, (writeSetting setting ++
          (settings.flatMap writeSetting ++ rest)).head? ≠ some filler := by
        simp only [writeSetting, List.append_assoc]
        exact hkey.ne_filler _
      rw [List.flatMap_cons, List.append_assoc, readStatements_line hhead hread,
        ih hkeys hvalues, Option.map_map]
      rfl

theorem readStatements_section {part : Section} (h : part.IsReadable) (rest : Text) :
    readStatements (writeSection part ++ rest) =
      (readStatements rest).map (part.statements ++ ·) := by
  have hwritten : writeSection part ++ rest =
      '[' :: (part.name ++ ']' :: '\n' :: (part.settings.flatMap writeSetting ++ rest)) := by
    simp [writeSection]
  have hread := readStatement_header h.name ('\n' :: (part.settings.flatMap writeSetting ++ rest))
  have hhead : ∀ filler ∈ fillers, ('[' :: (part.name ++
      ']' :: '\n' :: (part.settings.flatMap writeSetting ++ rest))).head? ≠ some filler := by
    intro filler hfiller heq
    rw [← Option.some.inj heq] at hfiller
    exact absurd hfiller (by decide)
  rw [hwritten, readStatements_line hhead hread, readStatements_settings h.keys h.values,
    Option.map_map]
  rfl

/-- The empty lines between sections are passed over. -/
theorem readStatements_sections {parts : List Section} (h : ∀ part ∈ parts, part.IsReadable) :
    readStatements (writeSections parts) = some (parts.flatMap Section.statements) := by
  have hnil : readStatements [] = some [] := by rw [readStatements]; rfl
  rw [writeSections]
  induction parts with
  | nil => exact hnil
  | cons part parts ih =>
      rcases List.forall_mem_cons.mp h with ⟨hpart, hparts⟩
      cases parts with
      | nil =>
          have hread := readStatements_section hpart []
          rw [List.append_nil, hnil] at hread
          rw [List.flatMap_singleton]
          exact hread.trans (congrArg some (List.append_nil _))
      | cons second others =>
          have hothers := ih hparts
          rw [List.map_cons] at hothers
          rw [List.map_cons, List.map_cons, Text.joinWith_cons_cons, List.append_assoc,
            readStatements_section hpart, List.singleton_append, readStatements_feed, hothers]
          rfl

end Toml
end PaperFilter
