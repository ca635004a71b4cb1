import Mathlib
import PaperFilter.Proofs.Query.Parentheses
import PaperFilter.Proofs.Query.Spelling

/-!
# Where a query stops being completable

A walk that has come through the beginning of a query can be brought to its end by a word and a
closing parenthesis for each that is open.  So an error is reported at the first lexeme that,
together with the one behind it, leaves no way to complete the query, or at the first parenthesis
that is never closed.
-/

namespace PaperFilter
namespace Structure

/-!
## The end of a walk
-/

namespace Walk

/-- Whatever a step asks for behind a lexeme, a word will do. -/
theorem step_word {walk behind : Walk} {lexeme : Lexeme} {next : Option Symbol}
    (h : walk.step lexeme next = .ok behind) (word : Text) :
    walk.step lexeme (some (.word word)) = .ok behind := by
  have hopened : walk.openedBehind lexeme next = walk.openedBehind lexeme (some (.word word)) := by
    have hok := (step_eq_ok h).left
    rw [hok]
    unfold openedBehind at hok ⊢
    split at hok
    · exact hok.symm
    · exact hok.symm
    · split at hok
      · cases hok
      · exact hok.symm
    · exact hok.symm
    · split at hok
      · exact hok.symm
      · cases hok
    · split at hok
      · next hboth =>
          rw [Bool.and_eq_true] at hboth
          rw [hboth.left]
          exact hok.symm
      · cases hok
  rw [← h, step, step, hopened]

theorem steps_word {walk behind : Walk} {front : List Lexeme} {next : Option Symbol}
    (h : walk.steps front next = .ok behind) (word : Text) :
    walk.steps front (some (.word word)) = .ok behind := by
  induction front generalizing walk with
  | nil => exact h
  | cons lexeme front ih =>
      rcases steps_cons_eq_ok h with ⟨between, hfirst, hrest⟩
      have hstep : walk.step lexeme ((front.head?.map Lexeme.symbol).or (some (.word word))) =
          .ok between := by
        cases front with
        | nil => exact step_word hfirst word
        | cons second front => exact hfirst
      rw [steps, hstep]
      exact ih hrest

/-- A word, and a closing parenthesis for each of so many that are open. -/
def completion (count : Nat) : List Lexeme :=
  ⟨.word ['a'], 0⟩ :: List.replicate count ⟨.closing, 0⟩

/-- A lexeme that is no `not` does not add to what the parentheses nest. -/
theorem step_of_openedBehind {walk : Walk} {lexeme : Lexeme} {next : Option Symbol}
    {opened : List Nat} (h : walk.openedBehind lexeme next = .ok opened)
    (hnot : lexeme.symbol ≠ .operator .not) (hwithin : opened.length ≤ maxNesting) :
    walk.step lexeme next = .ok ⟨opened, 0, some lexeme.symbol⟩ := by
  rw [step_eq h, notsBehind, if_neg hnot, Nat.add_zero, if_neg (Nat.not_lt.mpr hwithin)]

theorem run_closings {opened : List Nat} (nots : Nat) (previous : Option Symbol)
    (h : opened.length ≤ maxNesting) :
    run ⟨opened, nots, previous⟩ (List.replicate opened.length ⟨.closing, 0⟩) = .ok () := by
  induction opened generalizing nots previous with
  | nil => rfl
  | cons position outer ih =>
      have houter : outer.length ≤ maxNesting := Nat.le_of_succ_le h
      have hopened : ∀ next, openedBehind ⟨position :: outer, nots, previous⟩ ⟨.closing, 0⟩ next =
          .ok outer := fun _ => rfl
      rw [List.length_cons, List.replicate_succ, run,
        step_of_openedBehind (hopened _) (by decide) houter]
      exact ih 0 (some .closing) houter

theorem run_completion {walk : Walk} (h : walk.opened.length ≤ maxNesting) :
    walk.run (completion walk.opened.length) = .ok () := by
  have hopened : ∀ next, walk.openedBehind ⟨.word ['a'], 0⟩ next = .ok walk.opened := fun _ => rfl
  rw [completion, run, step_of_openedBehind (hopened _) (by decide) h]
  exact run_closings 0 (some (.word ['a'])) h

end Walk

/-!
## What can be completed
-/

/-- Some lexemes behind these make up a query that the check accepts. -/
def IsCompletable (lexemes : List Lexeme) : Prop :=
  ∃ rest, check (lexemes ++ rest) = .ok ()

theorem check_append_cons (front : List Lexeme) (lexeme : Lexeme) (rest : List Lexeme) :
    check (front ++ lexeme :: rest) = Walk.start.run (front ++ lexeme :: rest) := by
  cases front <;> rfl

theorem IsCompletable.of_append {front rest : List Lexeme} (h : IsCompletable (front ++ rest)) :
    IsCompletable front := by
  rcases h with ⟨behind, hcheck⟩
  exact ⟨rest ++ behind, by rwa [← List.append_assoc]⟩

namespace Walk

/-- What the walk has come through can be completed. -/
theorem isCompletable_of_steps {behind : Walk} {front : List Lexeme} {next : Option Symbol}
    (h : start.steps front next = .ok behind) : IsCompletable front := by
  have hwithin := Nat.le_of_add_right_le (start_standsBehind.steps h).within
  refine ⟨completion behind.opened.length, ?_⟩
  rw [completion, check_append_cons, run_append]
  exact (congrArg (· >>= _) (steps_word h ['a'])).trans (run_completion hwithin)

/-- A lexeme that is blamed for what stands behind it cannot be followed by that. -/
theorem not_isCompletable_of_step {behind : Walk} {front : List Lexeme} {lexeme next : Lexeme}
    {error : QueryError} (hsteps : start.steps front (some lexeme.symbol) = .ok behind)
    (hstep : behind.step lexeme (some next.symbol) = .error error) :
    ¬ IsCompletable (front ++ [lexeme, next]) := by
  intro hcompletable
  rcases hcompletable with ⟨rest, h⟩
  rw [List.append_assoc, List.cons_append, check_append_cons, run_append] at h
  rcases bind_eq_ok h with ⟨between, hbetween, hrun⟩
  cases hsteps.symm.trans hbetween
  rcases run_cons_eq_ok hrun with ⟨_, hok, _⟩
  cases hstep.symm.trans hok

end Walk

/-!
## The place of an error
-/

/-- The error is that of an opening parenthesis that is never closed. -/
def NeverCloses (lexeme : Lexeme) (error : QueryError) : Prop :=
  lexeme.symbol = .opening ∧ error = .unbalancedParens lexeme.position

/-- The lexeme at the place, and no other, stands at the position of the error. -/
def IsReportedAt (lexemes : List Lexeme) (error : QueryError) (place : Nat) : Prop :=
  ∀ other, (∃ lexeme, lexemes[other]? = some lexeme ∧ error.position? = some lexeme.position) ↔
    other = place

section

variable {query : Text} {error : QueryError} {front rest : List Lexeme} {lexeme : Lexeme}

theorem isReportedAt_of_scan (hscan : Lexeme.scan query = .ok (front ++ lexeme :: rest))
    (hposition : error.position? = some lexeme.position) :
    IsReportedAt (front ++ lexeme :: rest) error front.length := by
  have hplace : (front ++ lexeme :: rest)[front.length]? = some lexeme := by
    rw [List.getElem?_append_right (Nat.le_refl _), Nat.sub_self, List.getElem?_cons_zero]
  intro other
  constructor
  · intro hreported
    rcases hreported with ⟨found, hfound, hsame⟩
    rw [hposition, Option.some.injEq] at hsame
    have hlt : other < ((front ++ lexeme :: rest).map Lexeme.position).length := by
      rw [List.length_map]
      exact (List.getElem?_eq_some_iff.mp hfound).1
    apply (List.getElem?_inj hlt (Lexeme.nodup_position_of_scan hscan)).mp
    rw [List.getElem?_map, List.getElem?_map, hfound, hplace, Option.map_some, Option.map_some,
      hsame]
  · intro hother
    rw [hother]
    exact ⟨lexeme, hplace, hposition⟩

theorem position_of_blames {next : Option Symbol} (h : Walk.Blames lexeme next error) :
    error.position? = some lexeme.position := by
  cases h <;> rfl

theorem not_neverCloses_of_blames {next : Option Symbol} (h : Walk.Blames lexeme next error) :
    ¬ NeverCloses lexeme error := by
  intro hnever
  rcases hnever with ⟨hopening, rfl⟩
  cases h with
  | unbalancedParens hclosing =>
      rw [hopening] at hclosing
      cases hclosing

end

namespace Walk

/-- Where a step is refused, the query stops being completable at the symbol behind it. -/
theorem not_isCompletable_take {behind : Walk} {front rest : List Lexeme} {lexeme : Lexeme}
    {error : QueryError} (hsteps : start.steps front (some lexeme.symbol) = .ok behind)
    (hstep : behind.step lexeme (rest.head?.map Lexeme.symbol) = .error error)
    (hlength : front.length + 1 < (front ++ lexeme :: rest).length) :
    ¬ IsCompletable ((front ++ lexeme :: rest).take (front.length + 2)) := by
  cases rest with
  | nil =>
      rw [List.length_append, List.length_singleton] at hlength
      exact absurd hlength (Nat.lt_irrefl _)
  | cons next rest =>
      have htake : (front ++ lexeme :: next :: rest).take (front.length + 2) =
          front ++ [lexeme, next] := List.take_length_add_append 2
      rw [htake]
      exact not_isCompletable_of_step hsteps hstep

/-- Of the parentheses that are open at the end, the outermost is the first without a partner. -/
theorem exists_unclosed {behind : Walk} {lexemes : List Lexeme} {next : Option Symbol}
    {position : Nat} (hsteps : start.steps lexemes next = .ok behind)
    (hlast : behind.opened.getLast? = some position) :
    ∃ front rest, lexemes = front ++ ⟨.opening, position⟩ :: rest ∧
      ¬ HasPartner (lexemes.map Lexeme.symbol) front.length ∧
        ∀ earlier < front.length, (lexemes.map Lexeme.symbol)[earlier]? = some .opening →
          HasPartner (lexemes.map Lexeme.symbol) earlier := by
  rcases (leavesOpen_of_steps hsteps).exists_first hlast with
    ⟨front, rest, inner, rfl, hfront, hrest⟩
  refine ⟨front, rest, rfl, ?_, ?_⟩
  · rw [List.map_append, List.map_cons, ← List.length_map Lexeme.symbol]
    exact hrest.not_hasPartner
  · intro earlier hlt hopening
    rw [List.map_append] at hopening ⊢
    rw [List.getElem?_append_left (by rwa [List.length_map])] at hopening
    exact hasPartner_append _ hfront hopening

end Walk

/--
An error of the check is reported at one of the lexemes, and those in front of it can be completed
to a query that the check accepts.  Unless it is that of a parenthesis that is never closed, nothing
that goes on with this lexeme and the next one is accepted.  If it is, all of the lexemes can be
completed, and the parenthesis is the first without a partner.
-/
theorem check_reports_first_break {query : Text} {lexemes : List Lexeme} {error : QueryError}
    (hscan : Lexeme.scan query = .ok lexemes) (h : check lexemes = .error error)
    (hne : error ≠ .empty) :
    ∃ place lexeme, lexemes[place]? = some lexeme ∧ IsReportedAt lexemes error place ∧
      IsCompletable (lexemes.take place) ∧
      (¬ NeverCloses lexeme error → place + 1 < lexemes.length →
        ¬ IsCompletable (lexemes.take (place + 2))) ∧
      (NeverCloses lexeme error →
        IsCompletable lexemes ∧ ¬ HasPartner (lexemes.map Lexeme.symbol) place ∧
          ∀ earlier < place, (lexemes.map Lexeme.symbol)[earlier]? = some .opening →
            HasPartner (lexemes.map Lexeme.symbol) earlier) := by
  have hrun : Walk.start.run lexemes = .error error := by
    cases lexemes with
    | nil =>
        cases h
        exact absurd rfl hne
    | cons lexeme rest => exact h
  rcases Walk.exists_of_run_eq_error hrun with
    ⟨front, lexeme, rest, behind, rfl, hsteps, hstep⟩ | ⟨behind, position, hsteps, hlast, rfl⟩
  · have hwithin := (Walk.start_standsBehind.steps hsteps).within
    have hblames := Walk.blames_of_step hwithin hstep
    refine ⟨front.length, lexeme, by simp, isReportedAt_of_scan hscan (position_of_blames hblames),
      ?_, ?_, ?_⟩
    · rw [List.take_left]
      exact Walk.isCompletable_of_steps hsteps
    · intro _ hlength
      exact Walk.not_isCompletable_take hsteps hstep hlength
    · intro hnever
      exact absurd hnever (not_neverCloses_of_blames hblames)
  · have hcompletable := Walk.isCompletable_of_steps hsteps
    rcases Walk.exists_unclosed hsteps hlast with ⟨front, rest, rfl, hunclosed⟩
    have hnever : NeverCloses ⟨.opening, position⟩ (.unbalancedParens position) := ⟨rfl, rfl⟩
    refine ⟨front.length, ⟨.opening, position⟩, by simp, isReportedAt_of_scan hscan rfl, ?_, ?_, ?_⟩
    · rw [List.take_left]
      exact hcompletable.of_append
    · intro hnot
      exact absurd hnever hnot
    · intro _
      exact ⟨hcompletable, hunclosed⟩

/-- Of four opening parentheses the second and the last are never closed, and the second is blamed;
an `or` without an operand behind it is blamed together with what stands there. -/
theorem check_reports_first_break_unclosed :
    (∃ lexemes, Lexeme.scan "not (a) (b or (c) (".toList = .ok lexemes ∧
      check lexemes = .error (.unbalancedParens 8) ∧ IsCompletable lexemes ∧
        HasPartner (lexemes.map Lexeme.symbol) 1 ∧ ¬ HasPartner (lexemes.map Lexeme.symbol) 4) ∧
      ∃ lexemes, Lexeme.scan "(a or ) b".toList = .ok lexemes ∧
        check lexemes = .error (.missingOperand .or 3) ∧ IsCompletable (lexemes.take 2) ∧
          ¬ IsCompletable (lexemes.take 4) := by
  constructor
  · have hscan : Lexeme.scan "not (a) (b or (c) (".toList = .ok [⟨.operator .not, 0⟩,
        ⟨.opening, 4⟩, ⟨.word ['a'], 5⟩, ⟨.closing, 6⟩, ⟨.opening, 8⟩, ⟨.word ['b'], 9⟩,
        ⟨.operator .or, 11⟩, ⟨.opening, 14⟩, ⟨.word ['c'], 15⟩, ⟨.closing, 16⟩,
        ⟨.opening, 18⟩] := by cbv
    refine ⟨_, hscan, rfl, ?_⟩
    rcases check_reports_first_break hscan rfl (by decide) with
      ⟨place, lexeme, hlexeme, hplace, _, _, hnever⟩
    cases (hplace 4).mp ⟨⟨.opening, 8⟩, rfl, rfl⟩
    cases hlexeme
    rcases hnever ⟨rfl, rfl⟩ with ⟨hcompletable, hfirst, hearlier⟩
    exact ⟨hcompletable, hearlier 1 (by decide) rfl, hfirst⟩
  · have hscan : Lexeme.scan "(a or ) b".toList = .ok [⟨.opening, 0⟩, ⟨.word ['a'], 1⟩,
        ⟨.operator .or, 3⟩, ⟨.closing, 6⟩, ⟨.word ['b'], 8⟩] := by cbv
    refine ⟨_, hscan, rfl, ?_⟩
    rcases check_reports_first_break hscan rfl (by decide) with
      ⟨place, lexeme, hlexeme, hplace, hfront, hbehind, _⟩
    cases (hplace 2).mp ⟨⟨.operator .or, 3⟩, rfl, rfl⟩
    cases hlexeme
    exact ⟨hfront, hbehind (fun hnever => Symbol.noConfusion hnever.left) (by decide)⟩

end Structure
end PaperFilter
