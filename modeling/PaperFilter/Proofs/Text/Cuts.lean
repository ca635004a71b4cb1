import Mathlib.Data.List.Chain
import Mathlib.Data.List.TakeWhile
import PaperFilter.Proofs.Text.Runs

/-!
# Texts cut at the characters outside a class

A character outside a class cuts a text in two, and what is done run by run is done on each side of
it by itself.  So what holds of the texts inside the class, and of a text with such a character if
it holds of the text behind it, holds of every text.
-/

namespace PaperFilter
namespace Text

variable {inClass : Char → Bool}

/-!
## Cuts
-/

/-- Every text lies in the class, or is cut by its first character outside the class. -/
@[elab_as_elim]
theorem induction_at_cuts (inClass : Char → Bool) {motive : Text → Prop}
    (whole : ∀ run, (∀ c ∈ run, inClass c = true) → motive run)
    (cut : ∀ run c rest, (∀ d ∈ run, inClass d = true) → inClass c = false → motive rest →
      motive (run ++ c :: rest))
    (text : Text) : motive text := by
  -- The run that has been read so far stands in front of what is left.
  have hbehind : ∀ rest run, (∀ c ∈ run, inClass c = true) → motive (run ++ rest) := by
    intro rest
    induction rest with
    | nil =>
        intro run hrun
        rw [List.append_nil]
        exact whole run hrun
    | cons c rest ih =>
        intro run hrun
        cases hc : inClass c with
        | false => exact cut run c rest hrun hc (ih [] (List.forall_mem_nil _))
        | true =>
            rw [List.append_cons]
            exact ih _ (List.forall_mem_append.mpr ⟨hrun, List.forall_mem_singleton.mpr hc⟩)
  exact hbehind text [] (List.forall_mem_nil _)

/-- A beginning inside the class ends before the first character outside it. -/
theorem prefix_of_prefix_append {part run behind : Text} (h : part <+: run ++ behind)
    (hpart : ∀ c ∈ part, inClass c = true) (hbehind : behind.head?.any inClass = false) :
    part <+: run := by
  rcases List.prefix_or_prefix_of_prefix h (List.prefix_append run behind) with hwithin | hbeyond
  · exact hwithin
  · rcases hbeyond with ⟨more, rfl⟩
    cases more with
    | nil => exact ⟨[], by rw [List.append_nil, List.append_nil]⟩
    | cons c more =>
        rcases (List.prefix_append_right_inj run).mp h with ⟨rest, hrest⟩
        rw [← hrest] at hbehind
        have hc := hpart c (List.mem_append_right run List.mem_cons_self)
        exact absurd (hbehind.symm.trans hc) Bool.false_ne_true

theorem runs_congr {kept : Char → Bool} {text : Text} (h : ∀ c ∈ text, inClass c = kept c) :
    runs inClass text = runs kept text := by
  induction text with
  | nil => rfl
  | cons c rest ih =>
      rcases List.forall_mem_cons.mp h with ⟨hc, hrest⟩
      have hhead : rest.head?.any inClass = rest.head?.any kept := by
        cases rest with
        | nil => rfl
        | cons d rest => exact hrest d List.mem_cons_self
      rw [runs, runs, hc, hhead, ih hrest]

section

variable {c : Char} (hc : inClass c = false)
include hc

theorem runs_append_cons (front rest : Text) :
    runs inClass (front ++ c :: rest) = runs inClass front ++ runs inClass rest := by
  have hhead : (c :: rest).head?.any inClass = false := hc
  rw [runs_append hhead, runs_cons_of_not hc]

theorem mapRuns_append_cons_of_forall (change : Text → Text) {run : Text}
    (hrun : ∀ d ∈ run, inClass d = true) (rest : Text) :
    mapRuns inClass change (run ++ c :: rest) =
      mapRuns inClass change run ++ c :: mapRuns inClass change rest := by
  cases run with
  | nil =>
      rw [List.nil_append, mapRuns_cons_of_not change hc, mapRuns]
      rfl
  | cons d run =>
      rcases List.forall_mem_cons.mp hrun with ⟨hd, hrun⟩
      have hstop : ¬ inClass c = true := Bool.eq_false_iff.mp hc
      rw [List.cons_append, mapRuns_cons change hd, mapRuns_cons change hd,
        List.takeWhile_append_of_pos hrun, List.dropWhile_append_of_pos hrun,
        List.takeWhile_cons_of_neg hstop, List.dropWhile_cons_of_neg hstop,
        mapRuns_cons_of_not change hc, List.append_nil, List.takeWhile_eq_self_iff.mpr hrun,
        List.dropWhile_eq_nil_iff.mpr hrun, mapRuns, List.append_nil]

/-- The text in front of such a character and the text behind it are changed by themselves. -/
theorem mapRuns_append_cons (change : Text → Text) (front rest : Text) :
    mapRuns inClass change (front ++ c :: rest) =
      mapRuns inClass change front ++ c :: mapRuns inClass change rest := by
  induction front using induction_at_cuts inClass with
  | whole run hrun => exact mapRuns_append_cons_of_forall hc change hrun rest
  | cut run d front hrun hd ih =>
      rw [List.append_assoc, List.cons_append, mapRuns_append_cons_of_forall hd change hrun, ih,
        mapRuns_append_cons_of_forall hd change hrun, List.append_assoc, List.cons_append]

end

theorem mapRuns_of_forall (change : Text → Text) {run : Text} (hne : run ≠ [])
    (h : ∀ c ∈ run, inClass c = true) : mapRuns inClass change run = change run := by
  rcases List.exists_cons_of_ne_nil hne with ⟨c, rest, rfl⟩
  rcases List.forall_mem_cons.mp h with ⟨hc, hrest⟩
  rw [mapRuns_cons change hc, List.takeWhile_eq_self_iff.mpr hrest,
    List.dropWhile_eq_nil_iff.mpr hrest, mapRuns, List.append_nil]

/-- Joined by a character outside the class, texts inside it are the runs. -/
theorem runs_joinWith {separator : Char} (hseparator : inClass separator = false)
    {parts : List Text} (h : ∀ part ∈ parts, part ≠ [] ∧ ∀ c ∈ part, inClass c = true) :
    runs inClass (joinWith [separator] parts) = parts := by
  induction parts with
  | nil => rfl
  | cons first rest ih =>
      rcases List.forall_mem_cons.mp h with ⟨⟨hne, hchars⟩, hrest⟩
      have hfirst := runs_of_forall hne hchars
      cases rest with
      | nil => exact hfirst
      | cons second others =>
          rw [joinWith_cons_cons, List.append_assoc, List.singleton_append,
            runs_append_cons hseparator, hfirst, ih hrest, List.singleton_append]

/-!
## One character in place of each run
-/

/-- What stands for a character where one character takes the place of each run. -/
def standIn (inClass : Char → Bool) (separator c : Char) : Char :=
  if inClass c then separator else c

section

variable {separator : Char}

theorem standIn_of_mem {c : Char} (h : inClass c = true) :
    standIn inClass separator c = separator :=
  if_pos h

theorem standIn_of_not {c : Char} (h : inClass c = false) :
    standIn inClass separator c = c :=
  if_neg (Bool.eq_false_iff.mp h)

theorem head?_mapRuns_separator (text : Text) :
    (mapRuns inClass (fun _ => [separator]) text).head? =
      text.head?.map (standIn inClass separator) := by
  cases text with
  | nil =>
      rw [mapRuns]
      rfl
  | cons c rest =>
      cases hc : inClass c with
      | true =>
          rw [mapRuns_cons _ hc, List.head?_cons, Option.map_some, standIn_of_mem hc]
          rfl
      | false =>
          rw [mapRuns_cons_of_not _ hc, List.head?_cons, List.head?_cons, Option.map_some,
            standIn_of_not hc]

/-- The runs of a class that the replaced characters and the separator are outside of are kept. -/
theorem runs_mapRuns_separator {kept : Char → Bool}
    (hkept : ∀ c, inClass c = true → kept c = false) (hseparator : kept separator = false)
    (text : Text) :
    runs kept (mapRuns inClass (fun _ => [separator]) text) = runs kept text := by
  have hstandIn : ∀ c, kept (standIn inClass separator c) = kept c := by
    intro c
    cases hc : inClass c with
    | true => rw [standIn_of_mem hc, hseparator, hkept c hc]
    | false => rw [standIn_of_not hc]
  induction text with
  | nil => rw [mapRuns]
  | cons c rest ih =>
      cases hc : inClass c with
      | true =>
          have hnone : ∀ d ∈ if rest.head?.any inClass then [] else [separator],
              kept d = false := by
            split
            · exact List.forall_mem_nil _
            · exact List.forall_mem_singleton.mpr hseparator
          rw [mapRuns_separator_cons _ hc, runs_append_of_not hnone, ih,
            runs_cons_of_not (hkept c hc)]
      | false =>
          rw [mapRuns_cons_of_not _ hc, runs, runs, ih, head?_mapRuns_separator, Option.any_map]
          simp only [hstandIn]

/-- What holds of the characters next to each other in a text, where not both are replaced, holds of
the characters that stand for them. -/
theorem isChain_mapRuns_separator {R : Char → Char → Prop} {text : Text}
    (h : text.IsChain fun c d => (inClass c = true → inClass d = false) →
      R (standIn inClass separator c) (standIn inClass separator d)) :
    (mapRuns inClass (fun _ => [separator]) text).IsChain R := by
  induction text with
  | nil =>
      rw [mapRuns]
      exact .nil
  | cons c rest ih =>
      rcases List.isChain_cons.mp h with ⟨hfirst, hrest⟩
      have hcons : (inClass c = true → rest.head?.any inClass = false) →
          (standIn inClass separator c ::
            mapRuns inClass (fun _ => [separator]) rest).IsChain R := by
        intro hends
        refine List.isChain_cons.mpr ⟨?_, ih hrest⟩
        intro other hother
        rw [head?_mapRuns_separator] at hother
        rcases Option.map_eq_some_iff.mp hother with ⟨d, hd, rfl⟩
        refine hfirst d hd fun hc => ?_
        have hany := hends hc
        rwa [hd] at hany
      cases hc : inClass c with
      | true =>
          rw [mapRuns_separator_cons _ hc]
          split
          · exact ih hrest
          · next hends =>
              rw [standIn_of_mem hc] at hcons
              exact hcons fun _ => Bool.eq_false_iff.mpr hends
      | false =>
          rw [standIn_of_not hc] at hcons
          rw [mapRuns_cons_of_not _ hc]
          exact hcons fun hcontra => absurd (hc.symm.trans hcontra) Bool.false_ne_true

/-- Where each run is one separator there is nothing to replace. -/
theorem mapRuns_separator_eq_self {text : Text} (h : ∀ c ∈ text, inClass c = true → c = separator)
    (hsingle : text.IsChain fun c d => ¬ (c = separator ∧ d = separator)) :
    mapRuns inClass (fun _ => [separator]) text = text := by
  induction text with
  | nil => rw [mapRuns]
  | cons c rest ih =>
      rcases List.forall_mem_cons.mp h with ⟨hc, hrest⟩
      rcases List.isChain_cons.mp hsingle with ⟨hfirst, hothers⟩
      cases hclass : inClass c with
      | true =>
          have hends : rest.head?.any inClass = false := by
            cases rest with
            | nil => rfl
            | cons d rest =>
                apply Bool.eq_false_iff.mpr
                intro hd
                exact hfirst d rfl ⟨hc hclass, hrest d List.mem_cons_self hd⟩
          rw [mapRuns_separator_cons _ hclass, hends, if_neg Bool.false_ne_true,
            ih hrest hothers, hc hclass, List.singleton_append]
      | false => rw [mapRuns_cons_of_not _ hclass, ih hrest hothers]

section

variable (hseparator : inClass separator = true)
include hseparator

theorem any_head?_mapRuns_separator (text : Text) :
    (mapRuns inClass (fun _ => [separator]) text).head?.any inClass = text.head?.any inClass := by
  have hstandIn : ∀ c, inClass (standIn inClass separator c) = inClass c := by
    intro c
    cases hc : inClass c with
    | true => rw [standIn_of_mem hc, hseparator]
    | false => rw [standIn_of_not hc, hc]
  rw [head?_mapRuns_separator, Option.any_map]
  simp only [hstandIn]

/-- Once replaced, the runs stay as they are. -/
theorem mapRuns_separator_idem (text : Text) :
    mapRuns inClass (fun _ => [separator]) (mapRuns inClass (fun _ => [separator]) text) =
      mapRuns inClass (fun _ => [separator]) text := by
  induction text with
  | nil => rw [mapRuns, mapRuns]
  | cons c rest ih =>
      cases hc : inClass c with
      | true =>
          rw [mapRuns_separator_cons _ hc]
          split
          · exact ih
          · next hends =>
              rw [List.singleton_append, mapRuns_separator_cons _ hseparator,
                any_head?_mapRuns_separator hseparator, if_neg hends, ih, List.singleton_append]
      | false => rw [mapRuns_cons_of_not _ hc, mapRuns_cons_of_not _ hc, ih]

/-- Behind a separator it makes no difference whether the runs are replaced beforehand. -/
theorem mapRuns_separator_cons_idem (text : Text) :
    mapRuns inClass (fun _ => [separator])
        (separator :: mapRuns inClass (fun _ => [separator]) text) =
      mapRuns inClass (fun _ => [separator]) (separator :: text) := by
  rw [mapRuns_separator_cons _ hseparator, mapRuns_separator_cons _ hseparator,
    any_head?_mapRuns_separator hseparator, mapRuns_separator_idem hseparator]

end

end

end Text
end PaperFilter
