import PaperFilter.Proofs.Toml.Lines

/-!
# Written TOML documents are read back

The statements of a written document are assembled one section after the other: a header opens a
table behind those that are there, and each setting goes behind those that the table has.  As long
as no two sections have one name and no two settings of a section one key, what comes out are the
sections as tables, in order.
-/

namespace PaperFilter
namespace Toml

/-!
## Members behind others
-/

section

variable {key : Text} {change : Option Toml → Option Toml} {front : Members}

theorem alter_of_not_mem (h : key ∉ front.map Prod.fst) :
    alter key change front = (change none).map fun value => front ++ [(key, value)] := by
  induction front with
  | nil =>
      rw [alter]
      cases change none <;> rfl
  | cons member front ih =>
      rw [List.map_cons, List.mem_cons, not_or] at h
      rw [alter, if_neg (Ne.symm h.left), ih h.right]
      cases change none <;> rfl

theorem alter_last (h : key ∉ front.map Prod.fst) (value : Toml) :
    alter key change (front ++ [(key, value)]) =
      (change (some value)).map fun changed => front ++ [(key, changed)] := by
  induction front with
  | nil =>
      rw [List.nil_append, alter, if_pos rfl]
      cases change (some value) <;> rfl
  | cons member front ih =>
      rw [List.map_cons, List.mem_cons, not_or] at h
      rw [List.cons_append, alter, if_neg (Ne.symm h.left), ih h.right]
      cases change (some value) <;> rfl

end

/-!
## Steps
-/

/-- What a setting is read as. -/
def settingMember (setting : Text × Plain) : Text × Toml :=
  (setting.1, setting.2.value)

/-- What a section is read as. -/
def Section.member (part : Section) : Text × Toml :=
  (part.name, .table .headed (part.settings.map settingMember))

namespace Assembly

theorem run_append (assembly : Assembly) (first second : List Statement) :
    assembly.run (first ++ second) =
      (assembly.run first).bind fun between => between.run second := by
  induction first generalizing assembly with
  | nil => rfl
  | cons statement first ih =>
      rw [List.cons_append, run, run]
      cases assembly.step statement with
      | none => rfl
      | some between => exact ih between

variable {front : Members} {name : Text}

/-- A header opens a table that is not there yet. -/
theorem step_openTable (hname : name ∉ front.map Prod.fst) (current : List Text) :
    (⟨front, current⟩ : Assembly).step (.openTable ⟨[], name⟩) =
      some ⟨front ++ [(name, .table .headed [])], [name]⟩ := by
  rw [step, openTable, within, alter_of_not_mem hname]
  rfl

/-- A setting goes behind those that the table of the last header has. -/
theorem step_setting {settings : Members} {setting : Text × Plain}
    (hname : name ∉ front.map Prod.fst) (hkey : setting.1 ∉ settings.map Prod.fst) :
    (⟨front ++ [(name, .table .headed settings)], [name]⟩ : Assembly).step
        (settingStatement setting) =
      some ⟨front ++ [(name, .table .headed (settings ++ [settingMember setting]))], [name]⟩ := by
  have hassign : assign ⟨[], setting.1⟩ setting.2.value .headed settings =
      some (settings ++ [settingMember setting]) := by
    rw [assign, within]
    simp only [List.isEmpty_nil, Bool.true_or, if_true]
    rw [setNew, alter_of_not_mem hkey]
    rfl
  rw [settingStatement, step, within, alter_last hname]
  simp only [Standing.reachable, Bool.not_false, if_true, within, hassign]
  rfl

/-!
## Runs
-/

/-- The settings of a section, behind those that were assigned before. -/
theorem run_settings {before : Members} {settings : List (Text × Plain)}
    (hname : name ∉ front.map Prod.fst)
    (hkeys : (before.map Prod.fst ++ settings.map Prod.fst).Nodup) :
    (⟨front ++ [(name, .table .headed before)], [name]⟩ : Assembly).run
        (settings.map settingStatement) =
      some ⟨front ++ [(name, .table .headed (before ++ settings.map settingMember))], [name]⟩ := by
  induction settings generalizing before with
  | nil => rw [List.map_nil, List.map_nil, List.append_nil, run]
  | cons setting settings ih =>
      have hkey : setting.1 ∉ before.map Prod.fst :=
        fun hmem => (List.nodup_append.mp hkeys).right.right _ hmem _ List.mem_cons_self rfl
      have hbehind : ((before ++ [settingMember setting]).map Prod.fst ++
          settings.map Prod.fst).Nodup := by
        rw [List.map_append, List.append_assoc]
        exact hkeys
      rw [List.map_cons, run, step_setting hname hkey]
      simp only [Option.bind_eq_bind, Option.bind_some]
      rw [ih hbehind, List.append_assoc]
      rfl

theorem run_section {part : Section} (h : part.IsReadable) (hname : part.name ∉ front.map Prod.fst)
    (current : List Text) :
    (⟨front, current⟩ : Assembly).run part.statements =
      some ⟨front ++ [part.member], [part.name]⟩ := by
  rw [Section.statements, run, step_openTable hname]
  simp only [Option.bind_eq_bind, Option.bind_some]
  exact run_settings hname h.distinct

theorem run_sections {parts : List Section} (h : ∀ part ∈ parts, part.IsReadable)
    (hnames : (front.map Prod.fst ++ parts.map Section.name).Nodup) (current : List Text) :
    ((⟨front, current⟩ : Assembly).run (parts.flatMap Section.statements)).map members =
      some (front ++ parts.map Section.member) := by
  induction parts generalizing front current with
  | nil =>
      rw [List.flatMap_nil, List.map_nil, List.append_nil]
      rfl
  | cons part parts ih =>
      rcases List.forall_mem_cons.mp h with ⟨hpart, hparts⟩
      have hname : part.name ∉ front.map Prod.fst :=
        fun hmem => (List.nodup_append.mp hnames).right.right _ hmem _ List.mem_cons_self rfl
      have hbehind : ((front ++ [part.member]).map Prod.fst ++
          parts.map Section.name).Nodup := by
        rw [List.map_append, List.append_assoc]
        exact hnames
      rw [List.flatMap_cons, run_append, run_section hpart hname, Option.bind_some,
        ih hparts hbehind, List.append_assoc]
      rfl

end Assembly

/-!
## Documents
-/

theorem withoutMark_writeSections (parts : List Section) :
    withoutMark (writeSections parts) = writeSections parts := by
  cases parts with
  | nil => rfl
  | cons part parts =>
      have hhead : (writeSections (part :: parts)).head? = some '[' := by
        cases parts <;> rfl
      rw [withoutMark]
      intro rest heq
      rw [heq] at hhead
      exact absurd (Option.some.inj hhead) (by decide)

/-- A written document is read as its sections, in order, if these are told apart by their names. -/
theorem read?_writeSections {parts : List Section} (h : ∀ part ∈ parts, part.IsReadable)
    (hnames : (parts.map Section.name).Nodup) :
    read? (writeSections parts) = some (parts.map Section.member) := by
  have hfresh : (([] : Members).map Prod.fst ++ parts.map Section.name).Nodup := hnames
  have hrun := Assembly.run_sections h hfresh []
  rw [read?, withoutMark_writeSections, readStatements_sections h]
  exact hrun

/-!
## Dotted keys

A document of one assignment to a dotted key describes tables inside each other.  It is read only as
long as the keys are fewer than the limit on nesting.
-/

/-- The outermost table of a dotted key, or its value if there is no dot. -/
def KeyPath.member (path : KeyPath) (value : Toml) : Text × Toml :=
  path.parents.foldr (fun key inner => (key, .table .dotted [inner])) (path.last, value)

theorem assign_nil (path : KeyPath) (value : Toml) (standing : Standing) :
    assign path value standing [] = some [path.member value] := by
  rcases path with ⟨parents, last⟩
  have hwithin (isFirst : Bool) : ∀ standing, (parents = [] → isFirst ∨ standing = .dotted) →
      within true (fun inner members =>
        if isFirst || inner = .dotted then setNew last value members else none)
        parents standing [] = some [KeyPath.member ⟨parents, last⟩ value] := by
    induction parents with
    | nil =>
        intro standing h
        rw [within, if_pos (by simpa using h rfl)]
        rfl
    | cons key parents ih =>
        intro standing _
        rw [within, alter]
        simp only [if_true, ih .dotted fun _ => Or.inr rfl]
        rfl
  rw [assign]
  exact hwithin parents.isEmpty standing fun h => Or.inl (by rw [h]; rfl)

theorem assemble_assign (path : KeyPath) (value : Toml) :
    assemble [.assign path value] = some [path.member value] := by
  rw [assemble, Assembly.run, Assembly.step, Assembly.start, within]
  simp only [assign_nil]
  rfl

theorem KeyPath.IsBare.exists_append {path : KeyPath} (h : path.IsBare) :
    ∃ key rest, IsBareKey key ∧ path.text = key ++ rest := by
  rcases path with ⟨parents, last⟩
  cases parents with
  | nil => exact ⟨last, [], h.last, (List.append_nil last).symm⟩
  | cons key parents => exact ⟨key, _, h.parents key List.mem_cons_self, rfl⟩

/-- A dotted key with as many keys as the limit on nesting is refused with its document. -/
theorem read?_of_nestingLimit_le {path : KeyPath} (h : path.IsBare)
    (hlong : nestingLimit ≤ path.parents.length + 1) (rest : Text) :
    read? (path.text ++ ' ' :: '=' :: rest) = none := by
  have hblank : ∀ c ∈ [' '], isSpace c = true := List.forall_mem_singleton.mpr rfl
  have hpath : readKeyPath (path.text ++ ' ' :: '=' :: rest) = none := by
    have hread : (readKeyPath (path.text ++ ' ' :: '=' :: rest)).map Shorter.parts =
        if path.parents.length + 1 < nestingLimit then some (path, '=' :: rest) else none :=
      readKeyPath_bare hblank rfl rfl (by decide) h
    rw [if_neg (Nat.not_lt.mpr hlong)] at hread
    exact Option.map_eq_none_iff.mp hread
  obtain ⟨key, others, hkey, htext⟩ := h.exists_append
  rw [htext, List.append_assoc] at hpath ⊢
  generalize others ++ ' ' :: '=' :: rest = behind at hpath ⊢
  have hstatement : readStatement (key ++ behind) = none := by
    have hbracket : ∀ more, key ++ behind ≠ '[' :: more :=
      fun _ heq => hkey.ne_head rfl (congrArg List.head? heq)
    rw [readStatement, readAssignment, readAssigned, hpath]
    · rfl
    · exact fun more => hbracket _
    · exact hbracket
  have hmark : withoutMark (key ++ behind) = key ++ behind := by
    rw [withoutMark]
    exact fun more heq => hkey.ne_head rfl (congrArg List.head? heq)
  have hne : key ++ behind ≠ [] := List.append_ne_nil_of_left_ne_nil hkey.ne_nil behind
  rw [read?, hmark, readStatements_of_head hne (hkey.ne_filler behind), hstatement]
  rfl

end Toml
end PaperFilter
