import PaperFilter.Proofs.Query.Structure

/-!
# Parentheses and their partners

A parenthesis and the one that closes it have matched parentheses between them.  The parentheses
that a walk still has open are those without a partner, and what stands between them matches; the
one that has been open for longest is the first without a partner.
-/

namespace PaperFilter
namespace Structure

/-!
## Matched parentheses
-/

theorem closes_append_iff {front rest : List Symbol} {inner outer : Int} (h : Closes inner front)
    (houter : 0 ≤ outer) : Closes (inner + outer) (front ++ rest) ↔ Closes outer rest := by
  induction front generalizing inner with
  | nil =>
      have hinner : inner = 0 := h
      rw [hinner, Int.zero_add, List.nil_append]
  | cons symbol front ih =>
      rcases h with ⟨hhere, hfront⟩
      have hlevel : inner + outer + rise symbol = inner + rise symbol + outer := by omega
      rw [List.cons_append, Closes, hlevel, ih hfront]
      exact and_iff_right (by omega)

theorem closes_singleton {symbol : Symbol} (h : rise symbol = 0) : Closes 0 [symbol] := by
  rw [Closes, h]
  exact ⟨Int.le_refl 0, rfl⟩

/-- So many closing parentheses close as many open ones. -/
theorem closes_replicate (count : Nat) : Closes count (List.replicate count .closing) := by
  induction count with
  | zero => rfl
  | succ count ih =>
      rw [List.replicate_succ, Closes, rise]
      have hlevel : ((count + 1 : Nat) : Int) + -1 = count := by omega
      rw [hlevel]
      exact ⟨Int.natCast_nonneg count, ih⟩

/-- Behind an opening parenthesis stands the closing one that matches it. -/
theorem Closes.exists_partner {symbols : List Symbol} {inner outer : Int}
    (h : Closes (inner + 1 + outer) symbols) (hinner : 0 ≤ inner) (houter : 0 ≤ outer) :
    ∃ between behind, symbols = between ++ .closing :: behind ∧ Closes inner between := by
  induction symbols generalizing inner with
  | nil =>
      have hzero : inner + 1 + outer = 0 := h
      omega
  | cons symbol rest ih =>
      rcases h with ⟨hhere, hrest⟩
      by_cases hpartner : symbol = .closing ∧ inner = 0
      · rcases hpartner with ⟨rfl, rfl⟩
        exact ⟨[], rest, rfl, rfl⟩
      · have hrise : 0 ≤ inner + rise symbol := by
          cases symbol with
          | closing =>
              have : inner ≠ 0 := fun hzero => hpartner ⟨rfl, hzero⟩
              rw [rise]
              omega
          | opening =>
              rw [rise]
              omega
          | word _ => rwa [rise, Int.add_zero]
          | phrase _ => rwa [rise, Int.add_zero]
          | operator _ => rwa [rise, Int.add_zero]
        have hlevel : inner + 1 + outer + rise symbol = inner + rise symbol + 1 + outer := by omega
        rw [hlevel] at hrest
        rcases ih hrest hrise with ⟨between, behind, rfl, hbetween⟩
        exact ⟨symbol :: between, behind, rfl, hrise, hbetween⟩

theorem Closes.of_append {front rest : List Symbol} {opened : Int} (hopened : 0 ≤ opened)
    (h : Closes opened (front ++ rest)) : ∃ level, 0 ≤ level ∧ Closes level rest := by
  induction front generalizing opened with
  | nil => exact ⟨opened, hopened, h⟩
  | cons symbol front ih => exact ih h.left h.right

/-!
## Partners
-/

/-- The parenthesis that is opened at a place is closed by one behind it, and the parentheses
between the two match. -/
def HasPartner (symbols : List Symbol) (place : Nat) : Prop :=
  ∃ between behind, symbols.drop place = .opening :: (between ++ .closing :: behind) ∧
    Closes 0 between

theorem hasPartner_append {front : List Symbol} (rest : List Symbol) (h : Closes 0 front)
    {place : Nat} (hplace : front[place]? = some .opening) : HasPartner (front ++ rest) place := by
  rcases List.getElem?_eq_some_iff.mp hplace with ⟨hlt, hopening⟩
  have hdrop := List.drop_eq_getElem_cons hlt
  rw [hopening] at hdrop
  rw [← List.take_append_drop place front, hdrop] at h
  rcases Closes.of_append (Int.le_refl 0) h with ⟨level, hlevel, _, hbehind⟩
  have hone : level + rise .opening = 0 + 1 + level := by
    rw [rise]
    omega
  rw [hone] at hbehind
  rcases hbehind.exists_partner (Int.le_refl 0) hlevel with ⟨between, behind, hsplit, hbetween⟩
  refine ⟨between, behind ++ rest, ?_, hbetween⟩
  rw [List.drop_append_of_le_length (Nat.le_of_lt hlt), hdrop, hsplit, List.cons_append,
    List.append_assoc, List.cons_append]

/-!
## Parentheses that are left open
-/

/-- The lexemes leave the parentheses at these positions open, the innermost first; those in front
of them, between them and behind them match. -/
inductive LeavesOpen : List Nat → List Lexeme → Prop where
  | none {lexemes : List Lexeme} :
      Closes 0 (lexemes.map Lexeme.symbol) → LeavesOpen [] lexemes
  | more {position : Nat} {outer : List Nat} {front inner : List Lexeme} :
      LeavesOpen outer front → Closes 0 (inner.map Lexeme.symbol) →
        LeavesOpen (position :: outer) (front ++ ⟨.opening, position⟩ :: inner)

section

variable {opened : List Nat} {lexemes : List Lexeme}

theorem LeavesOpen.append (h : LeavesOpen opened lexemes) {part : List Lexeme}
    (hpart : Closes 0 (part.map Lexeme.symbol)) : LeavesOpen opened (lexemes ++ part) := by
  have hcloses : ∀ {front : List Lexeme}, Closes 0 (front.map Lexeme.symbol) →
      Closes 0 ((front ++ part).map Lexeme.symbol) := by
    intro front hfront
    rw [List.map_append]
    exact (closes_append_iff hfront (Int.le_refl 0)).mpr hpart
  cases h with
  | none hlexemes => exact .none (hcloses hlexemes)
  | more houter hinner =>
      rw [List.append_assoc]
      exact .more houter (hcloses hinner)

/-- What closes as many parentheses as are open closes those. -/
theorem LeavesOpen.closes (h : LeavesOpen opened lexemes) {rest : List Symbol}
    (hrest : Closes opened.length rest) : Closes 0 (lexemes.map Lexeme.symbol ++ rest) := by
  induction h generalizing rest with
  | none hlexemes => exact (closes_append_iff hlexemes (Int.le_refl 0)).mpr hrest
  | @more position outer front inner _ hinner ih =>
      rw [List.map_append, List.append_assoc]
      refine ih ⟨by rw [rise]; omega, ?_⟩
      have hlevel : (outer.length : Int) + rise .opening = 0 + (position :: outer).length := by
        rw [List.length_cons, rise]
        omega
      rw [hlevel]
      exact (closes_append_iff hinner (by omega)).mpr hrest

/-- The parenthesis that has been open for longest is the first that none can close. -/
theorem LeavesOpen.exists_first {position : Nat} (h : LeavesOpen opened lexemes)
    (hlast : opened.getLast? = some position) :
    ∃ front behind inner, lexemes = front ++ ⟨.opening, position⟩ :: behind ∧
      Closes 0 (front.map Lexeme.symbol) ∧ LeavesOpen inner behind := by
  induction h with
  | none _ => cases hlast
  | @more last outer front inner houter hinner ih =>
      cases outer with
      | nil =>
          cases hlast
          cases houter with
          | none hfront => exact ⟨front, inner, [], rfl, hfront, .none hinner⟩
      | cons next outer =>
          rw [List.getLast?_cons_cons] at hlast
          rcases ih hlast with ⟨before, behind, opened, rfl, hbefore, hbehind⟩
          exact ⟨before, behind ++ ⟨.opening, last⟩ :: inner, last :: opened,
            by rw [List.append_assoc, List.cons_append], hbefore, .more hbehind hinner⟩

theorem LeavesOpen.not_hasPartner {front : List Symbol} (h : LeavesOpen opened lexemes) :
    ¬ HasPartner (front ++ .opening :: lexemes.map Lexeme.symbol) front.length := by
  intro hpartner
  rcases hpartner with ⟨between, behind, hsplit, hbetween⟩
  rw [List.drop_left, List.cons.injEq] at hsplit
  have hcloses := h.closes (closes_replicate opened.length)
  rw [hsplit.right, List.append_assoc] at hcloses
  -- Behind the closing parenthesis one more would be closed than has been opened.
  have hclosing := (closes_append_iff hbetween (Int.le_refl 0)).mp hcloses
  exact absurd hclosing.left (by decide)

end

namespace Walk

theorem leavesOpen_of_step {walk behind : Walk} {before : List Lexeme} {lexeme : Lexeme}
    {next : Option Symbol} (h : LeavesOpen walk.opened before)
    (hstep : walk.step lexeme next = .ok behind) :
    LeavesOpen behind.opened (before ++ [lexeme]) := by
  rcases openedBehind_cases (step_eq_ok hstep).left with
    ⟨hsymbol, hopened⟩ | ⟨hsymbol, position, hopened⟩ | ⟨hrise, hopened⟩
  · rcases lexeme with ⟨symbol, position⟩
    cases hsymbol
    rw [hopened]
    exact .more h rfl
  · rw [hopened] at h
    cases h with
    | @more _ _ front inner houter hinner =>
        rw [List.append_assoc]
        apply houter.append
        have hclosing : Closes 1 [.closing] := closes_replicate 1
        rw [List.cons_append, List.map_cons, List.map_append, List.map_singleton, hsymbol]
        exact ⟨Int.zero_le_ofNat 1, (closes_append_iff hinner Int.one_nonneg).mpr hclosing⟩
  · rw [hopened]
    exact h.append (closes_singleton hrise)

theorem leavesOpen_of_steps {behind : Walk} {lexemes : List Lexeme} {next : Option Symbol}
    (h : start.steps lexemes next = .ok behind) : LeavesOpen behind.opened lexemes := by
  have hstart : LeavesOpen start.opened [] := .none rfl
  exact steps_induction (motive := fun walk before => LeavesOpen walk.opened before)
    leavesOpen_of_step hstart h

end Walk

end Structure
end PaperFilter
