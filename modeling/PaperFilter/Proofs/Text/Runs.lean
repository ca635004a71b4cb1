import PaperFilter.Text

/-!
# Maximal runs in a text

The runs of a class are found on each side of a character that is outside the class by themselves.
Where everything outside the class is replaced, run by run, with one separator, what is left are the
runs of the class in order, with a separator between each two and at the ends where the text does
not begin or end with one of them.
-/

namespace PaperFilter
namespace Text

/-!
## Joined texts
-/

section

variable (separator : Text)

theorem joinWith_cons_cons (first second : Text) (rest : List Text) :
    joinWith separator (first :: second :: rest) =
      first ++ separator ++ joinWith separator (second :: rest) := by
  rw [joinWith]

theorem joinWith_consHead (c : Char) (first : Text) (rest : List Text) :
    joinWith separator ((c :: first) :: rest) = c :: joinWith separator (first :: rest) := by
  cases rest with
  | nil => rfl
  | cons second others => rfl

theorem joinWith_append {front rest : List Text} (hfront : front ≠ []) (hrest : rest ≠ []) :
    joinWith separator (front ++ rest) =
      joinWith separator front ++ separator ++ joinWith separator rest := by
  induction front with
  | nil => exact absurd rfl hfront
  | cons first front ih =>
      cases front with
      | nil =>
          rcases List.exists_cons_of_ne_nil hrest with ⟨second, others, rfl⟩
          exact joinWith_cons_cons separator first second others
      | cons second front =>
          have hsecond := ih (List.cons_ne_nil second front)
          rw [List.cons_append] at hsecond
          rw [List.cons_append, List.cons_append, joinWith_cons_cons, hsecond, joinWith_cons_cons]
          simp only [List.append_assoc]

theorem joinWith_ne_nil {parts : List Text} (hne : parts ≠ []) (h : ∀ part ∈ parts, part ≠ []) :
    joinWith separator parts ≠ [] := by
  rcases List.exists_cons_of_ne_nil hne with ⟨first, rest, rfl⟩
  have hfirst := h first List.mem_cons_self
  cases rest with
  | nil => exact hfirst
  | cons second others =>
      rw [joinWith_cons_cons, List.append_assoc]
      exact List.append_ne_nil_of_left_ne_nil hfirst _

theorem map_joinWith (f : Char → Char) (parts : List Text) :
    (joinWith separator parts).map f = joinWith (separator.map f) (parts.map (List.map f)) := by
  induction parts with
  | nil => rfl
  | cons first rest ih =>
      cases rest with
      | nil => rfl
      | cons second others =>
          rw [joinWith_cons_cons, List.map_append, List.map_append, ih]
          rfl

theorem mem_joinWith {c : Char} {parts : List Text} (h : c ∈ joinWith separator parts) :
    c ∈ separator ∨ ∃ part ∈ parts, c ∈ part := by
  induction parts with
  | nil => cases h
  | cons first rest ih =>
      cases rest with
      | nil => exact Or.inr ⟨first, List.mem_cons_self, h⟩
      | cons second others =>
          rw [joinWith_cons_cons, List.append_assoc, List.mem_append, List.mem_append] at h
          rcases h with hfirst | hseparator | hrest
          · exact Or.inr ⟨first, List.mem_cons_self, hfirst⟩
          · exact Or.inl hseparator
          · rcases ih hrest with hseparator | ⟨part, hpart, hc⟩
            · exact Or.inl hseparator
            · exact Or.inr ⟨part, List.mem_cons_of_mem first hpart, hc⟩

end

theorem occursIn_append_of_occursIn {part rest : Text} (h : occursIn part rest = true)
    (front : Text) : occursIn part (front ++ rest) = true := by
  induction front with
  | nil => exact h
  | cons c front ih => rw [List.cons_append, occursIn, ih, Bool.or_true]

theorem occursIn_append (part front behind : Text) :
    occursIn part (front ++ (part ++ behind)) = true := by
  apply occursIn_append_of_occursIn
  cases part with
  | nil => cases behind <;> rfl
  | cons c part => simp [occursIn]

theorem occursIn_iff {part text : Text} : occursIn part text = true ↔ part <:+: text := by
  induction text with
  | nil => rw [occursIn, List.isEmpty_iff, List.infix_nil]
  | cons c rest ih =>
      rw [occursIn, Bool.or_eq_true, ih, List.isPrefixOf_iff_prefix, List.infix_cons_iff]

/-!
## Runs of a class
-/

variable {inClass : Char → Bool}

theorem runs_cons_of_not {c : Char} (h : inClass c = false) (rest : Text) :
    runs inClass (c :: rest) = runs inClass rest := by
  rw [runs, if_neg (Bool.eq_false_iff.mp h)]

/-- The first run begins with the first character of a text that begins in the class. -/
theorem exists_runs_eq_cons {c : Char} (h : inClass c = true) (rest : Text) :
    ∃ first others, runs inClass (c :: rest) = (c :: first) :: others := by
  rw [runs, if_pos h]
  split
  · cases runs inClass rest with
    | nil => exact ⟨[], [], rfl⟩
    | cons first others => exact ⟨first, others, rfl⟩
  · exact ⟨[], runs inClass rest, rfl⟩

theorem runs_eq_nil_iff {text : Text} :
    runs inClass text = [] ↔ ∀ c ∈ text, inClass c = false := by
  induction text with
  | nil => simp [runs]
  | cons c rest ih =>
      rw [List.forall_mem_cons, ← ih]
      cases hc : inClass c with
      | true =>
          rcases exists_runs_eq_cons hc rest with ⟨first, others, hruns⟩
          simp [hruns]
      | false => simp [runs_cons_of_not hc]

/-- What follows a character outside the class does not go on with a run before it. -/
theorem runs_append {rest : Text} (hrest : rest.head?.any inClass = false) (front : Text) :
    runs inClass (front ++ rest) = runs inClass front ++ runs inClass rest := by
  induction front with
  | nil => rfl
  | cons c front ih =>
      cases hc : inClass c with
      | false => rw [List.cons_append, runs_cons_of_not hc, ih, runs_cons_of_not hc]
      | true =>
          rw [List.cons_append, runs, runs, if_pos hc, if_pos hc, ih]
          cases front with
          | nil =>
              rw [List.nil_append, if_neg (Bool.eq_false_iff.mp hrest)]
              rfl
          | cons d front =>
              change (if inClass d = true then _ else _) = (if inClass d = true then _ else _) ++ _
              split
              · next hd =>
                  rcases exists_runs_eq_cons hd front with ⟨first, others, hruns⟩
                  rw [hruns]
                  rfl
              · rfl

theorem runs_append_of_not {front : Text} (h : ∀ c ∈ front, inClass c = false) (rest : Text) :
    runs inClass (front ++ rest) = runs inClass rest := by
  induction front with
  | nil => rfl
  | cons c front ih =>
      rcases List.forall_mem_cons.mp h with ⟨hc, hfront⟩
      rw [List.cons_append, runs_cons_of_not hc, ih hfront]

theorem any_head?_of_not {text : Text} (h : ∀ c ∈ text, inClass c = false) :
    text.head?.any inClass = false := by
  cases text with
  | nil => rfl
  | cons c text => exact h c List.mem_cons_self

/-- What is outside the class at the two ends of a text makes no run. -/
theorem runs_padded {before after : Text} (hbefore : ∀ c ∈ before, inClass c = false)
    (hafter : ∀ c ∈ after, inClass c = false) (text : Text) :
    runs inClass (before ++ (text ++ after)) = runs inClass text := by
  rw [runs_append_of_not hbefore, runs_append (any_head?_of_not hafter), runs_eq_nil_iff.mpr hafter,
    List.append_nil]

/-- Between two texts with a gap outside the class no run goes from one to the other. -/
theorem runs_append_gap {gap : Text} (hne : gap ≠ []) (hgap : ∀ c ∈ gap, inClass c = false)
    (front behind : Text) :
    runs inClass (front ++ (gap ++ behind)) = runs inClass front ++ runs inClass behind := by
  have hhead : (gap ++ behind).head?.any inClass = false := by
    rcases List.exists_cons_of_ne_nil hne with ⟨c, rest, rfl⟩
    exact hgap c List.mem_cons_self
  rw [runs_append hhead, runs_append_of_not hgap]

theorem runs_of_forall {text : Text} (hne : text ≠ []) (h : ∀ c ∈ text, inClass c = true) :
    runs inClass text = [text] := by
  induction text with
  | nil => exact absurd rfl hne
  | cons c rest ih =>
      rcases List.forall_mem_cons.mp h with ⟨hc, hrest⟩
      rw [runs, if_pos hc]
      cases rest with
      | nil => rfl
      | cons d rest =>
          have hd : inClass d = true := hrest d List.mem_cons_self
          rw [ih (List.cons_ne_nil d rest) hrest]
          exact if_pos hd

theorem of_mem_runs {text run : Text} (h : run ∈ runs inClass text) :
    run ≠ [] ∧ ∀ c ∈ run, inClass c = true ∧ c ∈ text := by
  induction text generalizing run with
  | nil => cases h
  | cons c rest ih =>
      have hweaken : ∀ other ∈ runs inClass rest,
          other ≠ [] ∧ ∀ d ∈ other, inClass d = true ∧ d ∈ c :: rest := by
        intro other hother
        rcases ih hother with ⟨hne, hchars⟩
        exact ⟨hne, fun d hd => ⟨(hchars d hd).left, List.mem_cons_of_mem c (hchars d hd).right⟩⟩
      have hsingle : inClass c = true →
          [c] ≠ [] ∧ ∀ d ∈ [c], inClass d = true ∧ d ∈ c :: rest := by
        intro hc
        exact ⟨List.cons_ne_nil c [], List.forall_mem_singleton.mpr ⟨hc, List.mem_cons_self⟩⟩
      rw [runs] at h
      split at h
      · next hc =>
          split at h
          · cases hruns : runs inClass rest with
            | nil =>
                rw [hruns, consHead, List.mem_singleton] at h
                rw [h]
                exact hsingle hc
            | cons first others =>
                rw [hruns, consHead] at h
                rw [hruns] at hweaken
                rcases List.forall_mem_cons.mp hweaken with ⟨hfirst, hothers⟩
                rcases List.mem_cons.mp h with rfl | hmem
                · exact ⟨List.cons_ne_nil c first,
                    List.forall_mem_cons.mpr ⟨⟨hc, List.mem_cons_self⟩, hfirst.right⟩⟩
                · exact hothers run hmem
          · rcases List.mem_cons.mp h with rfl | hmem
            · exact hsingle hc
            · exact hweaken run hmem
      · exact hweaken run h

/-!
## Everything else replaced
-/

/-- The separator, if there is a character and it is outside the class. -/
def edge (inClass : Char → Bool) (separator : Text) (c : Option Char) : Text :=
  if c.any (fun c => !inClass c) then separator else []

theorem edge_some_of_not {c : Char} (h : inClass c = false) (separator : Text) :
    edge inClass separator (some c) = separator := by
  simp [edge, h]

theorem edge_some {c : Char} (h : inClass c = true) (separator : Text) :
    edge inClass separator (some c) = [] := by
  simp [edge, h]

theorem edge_eq_or (inClass : Char → Bool) (separator : Text) (c : Option Char) :
    edge inClass separator c = [] ∨ edge inClass separator c = separator := by
  rw [edge]
  split
  · exact Or.inr rfl
  · exact Or.inl rfl

theorem mapRuns_cons (change : Text → Text) {c : Char} (h : inClass c = true) (rest : Text) :
    mapRuns inClass change (c :: rest) =
      change (c :: rest.takeWhile inClass) ++ mapRuns inClass change (rest.dropWhile inClass) := by
  rw [mapRuns, if_pos h]
  rfl

theorem mapRuns_cons_of_not (change : Text → Text) {c : Char} (h : inClass c = false)
    (rest : Text) : mapRuns inClass change (c :: rest) = c :: mapRuns inClass change rest := by
  rw [mapRuns, if_neg (Bool.eq_false_iff.mp h)]

/-- Of a run that is replaced, the last character alone leaves the separator behind. -/
theorem mapRuns_separator_cons (separator : Text) {c : Char} (h : inClass c = true) (rest : Text) :
    mapRuns inClass (fun _ => separator) (c :: rest) =
      (if rest.head?.any inClass then [] else separator) ++
        mapRuns inClass (fun _ => separator) rest := by
  rw [mapRuns_cons _ h]
  cases rest with
  | nil => rfl
  | cons d rest =>
      cases hd : inClass d with
      | true => simp [mapRuns_cons _ hd, hd]
      | false => simp [hd]

theorem mapRuns_eq_joinWith_runs (inClass : Char → Bool) (separator text : Text) :
    mapRuns (fun c => !inClass c) (fun _ => separator) text =
      edge inClass separator text.head? ++
        (joinWith separator (runs inClass text) ++
          if runs inClass text = [] then [] else edge inClass separator text.getLast?) := by
  induction text with
  | nil =>
      rw [mapRuns]
      rfl
  | cons c rest ih =>
      cases hc : inClass c with
      | false =>
          rw [mapRuns_separator_cons separator (by rw [hc]; rfl), ih, runs_cons_of_not hc,
            List.head?_cons, edge_some_of_not hc]
          cases rest with
          | nil => simp [runs, joinWith, edge]
          | cons d rest => cases hd : inClass d <;> simp [edge, hd]
      | true =>
          rw [mapRuns_cons_of_not _ (by rw [hc]; rfl), ih, List.head?_cons, edge_some hc,
            List.nil_append]
          cases rest with
          | nil => simp [runs, hc, joinWith, edge]
          | cons d rest =>
              rw [List.getLast?_cons_cons, List.head?_cons]
              cases hd : inClass d with
              | true =>
                  rcases exists_runs_eq_cons hd rest with ⟨first, others, hruns⟩
                  have hcons : runs inClass (c :: d :: rest) = (c :: d :: first) :: others := by
                    rw [runs, if_pos hc, List.head?_cons, Option.any_some, if_pos hd, hruns,
                      consHead]
                  rw [hcons, hruns, joinWith_consHead separator c, edge_some hd]
                  simp
              | false =>
                  have hcons : runs inClass (c :: d :: rest) = [c] :: runs inClass (d :: rest) := by
                    rw [runs, if_pos hc, List.head?_cons, Option.any_some, if_neg (by simp [hd])]
                  rw [hcons, edge_some_of_not hd]
                  cases hruns : runs inClass (d :: rest) with
                  | nil =>
                      -- Nothing but characters outside the class is left.
                      have hlast : inClass ((d :: rest).getLast (List.cons_ne_nil d rest)) =
                          false :=
                        runs_eq_nil_iff.mp hruns _ (List.getLast_mem _)
                      rw [List.getLast?_eq_some_getLast (List.cons_ne_nil d rest),
                        edge_some_of_not hlast]
                      simp [joinWith]
                  | cons first others => simp [joinWith_cons_cons]

/-- The runs, with the separator between each two and perhaps at the ends. -/
theorem exists_mapRuns_eq (inClass : Char → Bool) (separator text : Text) :
    ∃ before after, mapRuns (fun c => !inClass c) (fun _ => separator) text =
        before ++ (joinWith separator (runs inClass text) ++ after) ∧
      (before = [] ∨ before = separator) ∧ (after = [] ∨ after = separator) := by
  refine ⟨_, _, mapRuns_eq_joinWith_runs inClass separator text,
    edge_eq_or inClass separator text.head?, ?_⟩
  split
  · exact Or.inl rfl
  · exact edge_eq_or inClass separator text.getLast?

theorem mem_of_mem_mapRuns {separator text : Text} {c : Char}
    (h : c ∈ mapRuns (fun c => !inClass c) (fun _ => separator) text) :
    c ∈ separator ∨ inClass c = true ∧ c ∈ text := by
  have hedge : ∀ {edge : Text}, edge = [] ∨ edge = separator → c ∈ edge → c ∈ separator := by
    intro edge hedge hmem
    rcases hedge with rfl | rfl
    · cases hmem
    · exact hmem
  rcases exists_mapRuns_eq inClass separator text with
    ⟨before, after, htext, hbefore, hafter⟩
  rw [htext, List.mem_append, List.mem_append] at h
  rcases h with hfirst | hjoin | hlast
  · exact Or.inl (hedge hbefore hfirst)
  · rcases mem_joinWith separator hjoin with hseparator | ⟨run, hrun, hmem⟩
    · exact Or.inl hseparator
    · exact Or.inr ((of_mem_runs hrun).right c hmem)
  · exact Or.inl (hedge hafter hlast)

/-!
## Runs next to each other
-/

/-- Nothing, or a text that ends in the separator. -/
def EndsApart (separator front : Text) : Prop :=
  front = [] ∨ separator <:+ front

/-- Nothing, or a text that begins with the separator. -/
def BeginsApart (separator behind : Text) : Prop :=
  behind = [] ∨ separator <+: behind

section

variable {separator : Text}

theorem EndsApart.append {front edge : Text} (h : EndsApart separator front)
    (hedge : edge = [] ∨ edge = separator) : EndsApart separator (edge ++ front) := by
  rcases h with rfl | hends
  · rw [List.append_nil]
    rcases hedge with rfl | rfl
    · exact Or.inl rfl
    · exact Or.inr (List.suffix_refl _)
  · exact Or.inr (hends.trans (List.suffix_append edge front))

theorem BeginsApart.append {behind edge : Text} (h : BeginsApart separator behind)
    (hedge : edge = [] ∨ edge = separator) : BeginsApart separator (behind ++ edge) := by
  rcases h with rfl | hbegins
  · rw [List.nil_append]
    rcases hedge with rfl | rfl
    · exact Or.inl rfl
    · exact Or.inr (List.prefix_refl _)
  · exact Or.inr (hbegins.trans (List.prefix_append behind edge))

theorem exists_joinWith_of_infix {middle parts : List Text} (hne : middle ≠ [])
    (h : middle <:+: parts) :
    ∃ front behind, joinWith separator parts = front ++ (joinWith separator middle ++ behind) ∧
      EndsApart separator front ∧ BeginsApart separator behind := by
  rcases h with ⟨before, after, rfl⟩
  have hbehind : ∃ behind, joinWith separator (middle ++ after) =
      joinWith separator middle ++ behind ∧ BeginsApart separator behind := by
    by_cases hafter : after = []
    · refine ⟨[], ?_, Or.inl rfl⟩
      rw [hafter, List.append_nil, List.append_nil]
    · refine ⟨separator ++ joinWith separator after, ?_, Or.inr (List.prefix_append _ _)⟩
      rw [joinWith_append separator hne hafter, List.append_assoc]
  rcases hbehind with ⟨behind, hjoin, hapart⟩
  rw [List.append_assoc]
  by_cases hbefore : before = []
  · refine ⟨[], behind, ?_, Or.inl rfl, hapart⟩
    rw [hbefore, List.nil_append, List.nil_append, hjoin]
  · refine ⟨joinWith separator before ++ separator, behind, ?_, ?_, hapart⟩
    · rw [joinWith_append separator hbefore (List.append_ne_nil_of_left_ne_nil hne after), hjoin]
    · exact Or.inr (List.suffix_append _ _)

/-- Runs that follow one another come out with the separator between each two and around them. -/
theorem exists_mapRuns_of_infix {middle : List Text} {text : Text} (hne : middle ≠ [])
    (h : middle <:+: runs inClass text) :
    ∃ front behind, mapRuns (fun c => !inClass c) (fun _ => separator) text =
        front ++ (joinWith separator middle ++ behind) ∧
      EndsApart separator front ∧ BeginsApart separator behind := by
  have hmiddle : ∃ front behind, joinWith separator (runs inClass text) =
      front ++ (joinWith separator middle ++ behind) ∧
        EndsApart separator front ∧ BeginsApart separator behind :=
    exists_joinWith_of_infix hne h
  rcases hmiddle with ⟨front, behind, hjoin, hfront, hbehind⟩
  rcases exists_mapRuns_eq inClass separator text with
    ⟨before, after, htext, hbefore, hafter⟩
  refine ⟨_, _, ?_, hfront.append hbefore, hbehind.append hafter⟩
  rw [htext, hjoin]
  simp only [List.append_assoc]

end

end Text
end PaperFilter
