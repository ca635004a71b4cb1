import Mathlib.Data.List.Infix
import PaperFilter.Proofs.Front
import PaperFilter.Query.Structure

/-!
# What the walk over a query accepts

The walk checks three things that do not depend on each other: that between every two neighbours an
operand has just ended or is about to begin, that the parentheses match, and that the nesting keeps
within the limit.  Where the first two hold, the nesting is all that it can refuse.  A refusal is
blamed on the lexeme that the walk stands at, or at the end on a parenthesis that it has opened.
-/

namespace PaperFilter
namespace Structure

/-!
## Nesting
-/

/-- The parentheses that a beginning of a query leaves open. -/
def openCount (symbols : List Symbol) : Int :=
  symbols.count .opening - symbols.count .closing

/-- The length of the run of `not`s that a beginning of a query ends with. -/
def notCount (symbols : List Symbol) : Nat :=
  (symbols.reverse.takeWhile fun symbol => symbol = .operator .not).length

/-- The nesting of a query: of all its beginnings, the most open parentheses and `not`s. -/
def nesting (symbols : List Symbol) : Int :=
  (symbols.inits.map fun beginning => openCount beginning + notCount beginning).foldr max 0

theorem nesting_le_iff {symbols : List Symbol} {limit : Int} :
    nesting symbols ≤ limit ↔
      ∀ beginning, beginning <+: symbols → openCount beginning + notCount beginning ≤ limit := by
  have hfold : ∀ depths : List Int,
      depths.foldr max 0 ≤ limit ↔ 0 ≤ limit ∧ ∀ depth ∈ depths, depth ≤ limit := by
    intro depths
    induction depths with
    | nil => simp
    | cons depth rest ih =>
        rw [List.foldr_cons, Int.max_le, ih, List.forall_mem_cons]
        exact and_left_comm
  rw [nesting, hfold]
  constructor
  · intro h beginning hprefix
    exact h.right _ (List.mem_map_of_mem ((List.mem_inits _ _).mpr hprefix))
  · intro h
    constructor
    · exact h [] (List.nil_prefix)
    · intro depth hdepth
      rcases List.mem_map.mp hdepth with ⟨beginning, hmem, rfl⟩
      exact h beginning ((List.mem_inits _ _).mp hmem)

theorem nesting_nonneg (symbols : List Symbol) : 0 ≤ nesting symbols :=
  nesting_le_iff.mp (Int.le_refl _) [] List.nil_prefix

/-- How many more parentheses are open behind a symbol than before it. -/
def rise : Symbol → Int
  | .opening => 1
  | .closing => -1
  | .word _ => 0
  | .phrase _ => 0
  | .operator _ => 0

/-- The open parentheses behind a symbol. -/
def risen (opened : Int) (symbol : Symbol) : Int :=
  opened + rise symbol

/-- The length of the run of `not`s behind a symbol. -/
def notsBehind (nots : Nat) (symbol : Symbol) : Nat :=
  if symbol = .operator .not then nots + 1 else 0

theorem openCount_concat (symbols : List Symbol) (symbol : Symbol) :
    openCount (symbols ++ [symbol]) = openCount symbols + rise symbol := by
  cases symbol <;> simp [openCount, rise, List.count_append] <;> omega

theorem notCount_concat (symbols : List Symbol) (symbol : Symbol) :
    notCount (symbols ++ [symbol]) = notsBehind (notCount symbols) symbol := by
  by_cases h : symbol = .operator .not <;>
    simp [notCount, notsBehind, h]

/--
The nesting keeps within a limit behind every one of the symbols, which stand behind so many open
parentheses and `not`s.
-/
def NestsWithin (limit : Int) : Int → Nat → List Symbol → Prop
  | _, _, [] => True
  | opened, nots, symbol :: rest =>
      opened + rise symbol + notsBehind nots symbol ≤ limit ∧
        NestsWithin limit (opened + rise symbol) (notsBehind nots symbol) rest

theorem nestsWithin_iff_prefixes {limit : Int} (before symbols : List Symbol) :
    NestsWithin limit (openCount before) (notCount before) symbols ↔
      ∀ beginning, beginning <+: symbols → beginning ≠ [] →
        openCount (before ++ beginning) + notCount (before ++ beginning) ≤ limit := by
  induction symbols generalizing before with
  | nil =>
      constructor
      · intro _ beginning hprefix hne
        exact absurd (List.prefix_nil.mp hprefix) hne
      · intro _
        trivial
  | cons symbol rest ih =>
      have hih := ih (before ++ [symbol])
      rw [openCount_concat, notCount_concat] at hih
      rw [NestsWithin, hih, ← openCount_concat, ← notCount_concat]
      constructor
      · rintro ⟨hhere, hthere⟩ beginning hprefix hne
        rcases List.prefix_cons_iff.mp hprefix with rfl | ⟨tail, rfl, htail⟩
        · exact absurd rfl hne
        · cases tail with
          | nil => exact hhere
          | cons next more =>
              have := hthere (next :: more) htail (List.cons_ne_nil next more)
              rwa [List.append_assoc] at this
      · intro h
        constructor
        · exact h [symbol] ((List.cons_prefix_cons).mpr ⟨rfl, List.nil_prefix⟩)
            (List.cons_ne_nil symbol [])
        · intro tail htail _
          rw [List.append_assoc]
          exact h (symbol :: tail) ((List.cons_prefix_cons).mpr ⟨rfl, htail⟩)
            (List.cons_ne_nil symbol tail)

theorem nestsWithin_iff {symbols : List Symbol} {limit : Int} (hlimit : 0 ≤ limit) :
    NestsWithin limit 0 0 symbols ↔ nesting symbols ≤ limit := by
  have h := @nestsWithin_iff_prefixes limit [] symbols
  rw [nesting_le_iff]
  constructor
  · intro hwithin beginning hprefix
    by_cases hnil : beginning = []
    · subst hnil
      exact hlimit
    · exact h.mp hwithin beginning hprefix hnil
  · intro hall
    exact h.mpr fun beginning hprefix _ => hall beginning hprefix

theorem nestsWithin_append {limit opened : Int} {nots : Nat} (front rest : List Symbol) :
    NestsWithin limit opened nots (front ++ rest) ↔
      NestsWithin limit opened nots front ∧
        NestsWithin limit (front.foldl risen opened) (front.foldl notsBehind nots) rest := by
  induction front generalizing opened nots with
  | nil => simp [NestsWithin]
  | cons symbol front ih =>
      rw [List.cons_append, NestsWithin, ih, NestsWithin, List.foldl_cons, List.foldl_cons,
        and_assoc]
      rfl

/-- Behind fewer open parentheses, fewer `not`s or within a higher limit the nesting also keeps. -/
theorem NestsWithin.mono {limit limit' opened opened' : Int} {nots nots' : Nat}
    {symbols : List Symbol} (h : NestsWithin limit opened nots symbols)
    (hopened : limit + opened' ≤ limit' + opened)
    (hnots : limit + opened' + nots' ≤ limit' + opened + nots) :
    NestsWithin limit' opened' nots' symbols := by
  induction symbols generalizing opened opened' nots nots' with
  | nil => trivial
  | cons symbol rest ih =>
      rcases h with ⟨hhere, hrest⟩
      have hbehind : limit + opened' + notsBehind nots' symbol ≤
          limit' + opened + notsBehind nots symbol := by
        unfold notsBehind
        split <;> omega
      constructor
      · omega
      · apply ih hrest
        · omega
        · omega

/-!
## Neighbours and parentheses
-/

/--
In front of every symbol, and behind the last one, an operand has just ended or is about to begin.
The flag tells whether one has ended in front of the first symbol.
-/
def Linked : Bool → List Symbol → Prop
  | ended, [] => ended = true
  | ended, symbol :: rest =>
      (ended = true ∨ startsOperand symbol = true) ∧ Linked (endsOperand symbol) rest

/-- The parentheses match, those included that are open in front of the first symbol. -/
def Closes : Int → List Symbol → Prop
  | opened, [] => opened = 0
  | opened, symbol :: rest => 0 ≤ opened + rise symbol ∧ Closes (opened + rise symbol) rest

theorem Linked.exists_starts {symbols : List Symbol} (h : Linked false symbols) :
    ∃ symbol rest, symbols = symbol :: rest ∧ startsOperand symbol = true := by
  cases symbols with
  | nil => cases h
  | cons symbol rest =>
      rcases h.left with hended | hstarts
      · cases hended
      · exact ⟨symbol, rest, rfl, hstarts⟩

theorem Linked.of_starts {ended : Bool} {symbol : Symbol} {rest : List Symbol}
    (hstarts : startsOperand symbol = true) (h : Linked true (symbol :: rest)) :
    Linked ended (symbol :: rest) :=
  ⟨Or.inr hstarts, h.right⟩

/-!
## One step
-/

namespace Walk

/-- An operand has just ended. -/
def ended (walk : Walk) : Bool :=
  walk.previous.any endsOperand

theorem openedBehind_eq_ok {walk : Walk} {lexeme : Lexeme} {next : Option Symbol}
    {opened : List Nat} (h : walk.openedBehind lexeme next = .ok opened) :
    (opened.length : Int) = walk.opened.length + rise lexeme.symbol ∧
      (walk.ended = true ∨ startsOperand lexeme.symbol = true ∨ lexeme.symbol = .closing) ∧
      (endsOperand lexeme.symbol = true ∨ next.any startsOperand = true ∨
        lexeme.symbol = .opening ∧ next ≠ some .closing) := by
  rcases lexeme with ⟨symbol, position⟩
  cases symbol with
  | word text =>
      cases h
      exact ⟨by simp [rise], Or.inr (Or.inl rfl), Or.inl rfl⟩
  | phrase words =>
      cases h
      exact ⟨by simp [rise], Or.inr (Or.inl rfl), Or.inl rfl⟩
  | opening =>
      by_cases hnext : next = some .closing
      · simp [openedBehind, hnext] at h
      · simp only [openedBehind, if_neg hnext] at h
        cases h
        exact ⟨by simp [rise], Or.inr (Or.inl rfl), Or.inr (Or.inr ⟨rfl, hnext⟩)⟩
  | closing =>
      cases hopened : walk.opened with
      | nil => simp [openedBehind, hopened] at h
      | cons position outer =>
          simp only [openedBehind, hopened] at h
          cases h
          exact ⟨by simp only [rise, List.length_cons]; omega, Or.inr (Or.inr rfl), Or.inl rfl⟩
  | operator keyword =>
      cases keyword with
      | not =>
          by_cases hnext : next.any startsOperand = true
          · simp only [openedBehind, if_pos hnext] at h
            cases h
            exact ⟨by simp [rise], Or.inr (Or.inl rfl), Or.inr (Or.inl hnext)⟩
          · simp [openedBehind, hnext] at h
      | and =>
          by_cases hboth : (walk.previous.any endsOperand && next.any startsOperand) = true
          · simp only [openedBehind, if_pos hboth] at h
            cases h
            rw [Bool.and_eq_true] at hboth
            exact ⟨by simp [rise], Or.inl hboth.left, Or.inr (Or.inl hboth.right)⟩
          · simp [openedBehind, hboth] at h
      | or =>
          by_cases hboth : (walk.previous.any endsOperand && next.any startsOperand) = true
          · simp only [openedBehind, if_pos hboth] at h
            cases h
            rw [Bool.and_eq_true] at hboth
            exact ⟨by simp [rise], Or.inl hboth.left, Or.inr (Or.inl hboth.right)⟩
          · simp [openedBehind, hboth] at h

/-- All that a step does to the open parentheses. -/
theorem openedBehind_cases {walk : Walk} {lexeme : Lexeme} {next : Option Symbol}
    {opened : List Nat} (h : walk.openedBehind lexeme next = .ok opened) :
    (lexeme.symbol = .opening ∧ opened = lexeme.position :: walk.opened) ∨
      (lexeme.symbol = .closing ∧ ∃ position, walk.opened = position :: opened) ∨
      (rise lexeme.symbol = 0 ∧ opened = walk.opened) := by
  unfold openedBehind at h
  split at h
  · next hsymbol =>
      cases h
      exact Or.inr (Or.inr ⟨hsymbol ▸ rfl, rfl⟩)
  · next hsymbol =>
      cases h
      exact Or.inr (Or.inr ⟨hsymbol ▸ rfl, rfl⟩)
  · next hsymbol =>
      split at h
      · cases h
      · cases h
        exact Or.inl ⟨hsymbol, rfl⟩
  · next hsymbol =>
      split at h
      · cases h
      · next hopened =>
          cases h
          exact Or.inr (Or.inl ⟨hsymbol, _, hopened⟩)
  · next hsymbol =>
      split at h
      · cases h
        exact Or.inr (Or.inr ⟨hsymbol ▸ rfl, rfl⟩)
      · cases h
  · next hsymbol =>
      split at h
      · cases h
        exact Or.inr (Or.inr ⟨hsymbol ▸ rfl, rfl⟩)
      · cases h

theorem openedBehind_of_linked {walk : Walk} {lexeme : Lexeme} {rest : List Symbol}
    (hlinked : Linked walk.ended (lexeme.symbol :: rest))
    (hcloses : 0 ≤ walk.opened.length + rise lexeme.symbol) :
    ∃ opened, walk.openedBehind lexeme rest.head? = .ok opened := by
  rcases lexeme with ⟨symbol, position⟩
  rcases hlinked with ⟨hhere, hrest⟩
  cases symbol with
  | word text => exact ⟨walk.opened, rfl⟩
  | phrase words => exact ⟨walk.opened, rfl⟩
  | opening =>
      rcases hrest.exists_starts with ⟨next, more, rfl, hstarts⟩
      have hnext : (next :: more).head? ≠ some .closing := by
        intro h
        injection h with h
        rw [h] at hstarts
        cases hstarts
      exact ⟨position :: walk.opened, if_neg hnext⟩
  | closing =>
      cases hopened : walk.opened with
      | nil => simp [hopened, rise] at hcloses
      | cons outermost outer => exact ⟨outer, by simp [openedBehind, hopened]⟩
  | operator keyword =>
      have hended : keyword = .not ∨ walk.previous.any endsOperand = true := by
        rcases hhere with hended | hstarts
        · exact Or.inr hended
        · cases keyword with
          | not => exact Or.inl rfl
          | and => cases hstarts
          | or => cases hstarts
      rcases hrest.exists_starts with ⟨next, more, rfl, hstarts⟩
      cases keyword with
      | not => exact ⟨walk.opened, by simp [openedBehind, hstarts]⟩
      | and =>
          rcases hended with hcontra | hended
          · cases hcontra
          · exact ⟨walk.opened, by simp [openedBehind, hstarts, hended]⟩
      | or =>
          rcases hended with hcontra | hended
          · cases hcontra
          · exact ⟨walk.opened, by simp [openedBehind, hstarts, hended]⟩

theorem step_eq {walk : Walk} {lexeme : Lexeme} {next : Option Symbol} {opened : List Nat}
    (h : walk.openedBehind lexeme next = .ok opened) :
    walk.step lexeme next =
      if opened.length + notsBehind walk.nots lexeme.symbol > maxNesting then
        .error (.tooDeep maxNesting lexeme.position)
      else .ok ⟨opened, notsBehind walk.nots lexeme.symbol, some lexeme.symbol⟩ := by
  rw [step, h]
  by_cases hdeep : opened.length + notsBehind walk.nots lexeme.symbol > maxNesting
  · rw [if_pos hdeep]
    exact if_pos hdeep
  · rw [if_neg hdeep]
    exact if_neg hdeep

/-- All that a step does, and what it checks. -/
theorem step_eq_ok {walk behind : Walk} {lexeme : Lexeme} {next : Option Symbol}
    (h : walk.step lexeme next = .ok behind) :
    walk.openedBehind lexeme next = .ok behind.opened ∧
      behind.nots = notsBehind walk.nots lexeme.symbol ∧
      behind.previous = some lexeme.symbol ∧
      behind.opened.length + behind.nots ≤ maxNesting := by
  cases hopened : walk.openedBehind lexeme next with
  | error error =>
      rw [step, hopened] at h
      cases h
  | ok opened =>
      rw [step_eq hopened] at h
      split at h
      · cases h
      · next hle =>
          cases h
          exact ⟨rfl, rfl, rfl, Nat.le_of_not_lt hle⟩

/-!
## A whole walk
-/

theorem run_cons_eq_ok {walk : Walk} {lexeme : Lexeme} {rest : List Lexeme}
    (h : walk.run (lexeme :: rest) = .ok ()) :
    ∃ behind, walk.step lexeme (rest.head?.map Lexeme.symbol) = .ok behind ∧
      behind.run rest = .ok () := by
  rw [run] at h
  cases hstep : walk.step lexeme (rest.head?.map Lexeme.symbol) with
  | error error =>
      rw [hstep] at h
      cases h
  | ok behind =>
      rw [hstep] at h
      exact ⟨behind, rfl, h⟩

/-- The walk over lexemes with a symbol, or nothing, behind the last of them. -/
def steps (walk : Walk) : List Lexeme → Option Symbol → Except QueryError Walk
  | [], _ => .ok walk
  | lexeme :: rest, next => do
      let behind ← walk.step lexeme ((rest.head?.map Lexeme.symbol).or next)
      steps behind rest next

theorem steps_cons_eq_ok {walk behind : Walk} {lexeme : Lexeme} {rest : List Lexeme}
    {next : Option Symbol} (h : walk.steps (lexeme :: rest) next = .ok behind) :
    ∃ between, walk.step lexeme ((rest.head?.map Lexeme.symbol).or next) = .ok between ∧
      between.steps rest next = .ok behind := by
  rw [steps] at h
  exact bind_eq_ok h

theorem run_append (walk : Walk) (front rest : List Lexeme) :
    walk.run (front ++ rest) = (do
      let behind ← walk.steps front (rest.head?.map Lexeme.symbol)
      behind.run rest) := by
  induction front generalizing walk with
  | nil => rfl
  | cons lexeme front ih =>
      rw [List.cons_append, run, steps, List.head?_append, Option.map_or]
      cases walk.step lexeme _ with
      | error error => rfl
      | ok behind => exact ih behind

/-- A walk is refused at a lexeme, or at the end for a parenthesis that is still open. -/
theorem exists_of_run_eq_error {walk : Walk} {lexemes : List Lexeme} {error : QueryError}
    (h : walk.run lexemes = .error error) :
    (∃ front lexeme rest behind, lexemes = front ++ lexeme :: rest ∧
        walk.steps front (some lexeme.symbol) = .ok behind ∧
        behind.step lexeme (rest.head?.map Lexeme.symbol) = .error error) ∨
      ∃ behind position, walk.steps lexemes none = .ok behind ∧
        behind.opened.getLast? = some position ∧ error = .unbalancedParens position := by
  induction lexemes generalizing walk with
  | nil =>
      rw [run] at h
      split at h
      · next position hlast =>
          cases h
          exact Or.inr ⟨walk, position, rfl, hlast, rfl⟩
      · cases h
  | cons lexeme rest ih =>
      rw [run] at h
      cases hstep : walk.step lexeme (rest.head?.map Lexeme.symbol) with
      | error error' =>
          rw [hstep] at h
          cases h
          exact Or.inl ⟨[], lexeme, rest, walk, rfl, rfl, hstep⟩
      | ok behind =>
          rw [hstep] at h
          rcases ih h with ⟨front, blamed, rest, last, rfl, hsteps, hblamed⟩ |
            ⟨last, position, hsteps, hlast, herror⟩
          · refine Or.inl ⟨lexeme :: front, blamed, rest, last, rfl, ?_, hblamed⟩
            rw [List.head?_append, Option.map_or] at hstep
            rw [steps]
            exact (congrArg (· >>= _) hstep).trans hsteps
          · refine Or.inr ⟨last, position, ?_, hlast, herror⟩
            rw [steps, Option.or_none, hstep]
            exact hsteps

/-- What every step keeps, all steps keep. -/
theorem steps_induction {motive : Walk → List Lexeme → Prop}
    (hstep : ∀ {walk behind : Walk} {before : List Lexeme} {lexeme : Lexeme} {next : Option Symbol},
      motive walk before → walk.step lexeme next = .ok behind → motive behind (before ++ [lexeme]))
    {walk behind : Walk} {before front : List Lexeme} {next : Option Symbol}
    (h : motive walk before) (hsteps : walk.steps front next = .ok behind) :
    motive behind (before ++ front) := by
  induction front generalizing walk before with
  | nil =>
      cases hsteps
      rwa [List.append_nil]
  | cons lexeme front ih =>
      rcases steps_cons_eq_ok hsteps with ⟨between, hfirst, hrest⟩
      have hbehind := ih (hstep h hfirst) hrest
      rwa [List.append_assoc, List.singleton_append] at hbehind

/-- A walk that meets the end has found the parentheses matched and the nesting within the limit. -/
theorem closes_of_run {walk : Walk} {lexemes : List Lexeme} (h : walk.run lexemes = .ok ()) :
    Closes walk.opened.length (lexemes.map Lexeme.symbol) ∧
      NestsWithin maxNesting walk.opened.length walk.nots (lexemes.map Lexeme.symbol) := by
  induction lexemes generalizing walk with
  | nil =>
      cases hopened : walk.opened with
      | nil => exact ⟨by simp [Closes], trivial⟩
      | cons position outer =>
          rw [run, hopened, List.getLast?_cons] at h
          cases h
  | cons lexeme rest ih =>
      rcases run_cons_eq_ok h with ⟨behind, hstep, hrun⟩
      rcases step_eq_ok hstep with ⟨hopened, hnots, _, hle⟩
      have hrest := ih hrun
      have hrise := (openedBehind_eq_ok hopened).left
      rw [hnots, hrise] at hrest
      constructor
      · exact ⟨by omega, hrest.left⟩
      · exact ⟨by omega, hrest.right⟩

/-- A walk that meets the end has found the neighbours behind its first symbol linked. -/
theorem linked_of_run {walk : Walk} {lexeme : Lexeme} {rest : List Lexeme}
    (h : walk.run (lexeme :: rest) = .ok ()) :
    Linked (endsOperand lexeme.symbol) (rest.map Lexeme.symbol) := by
  induction rest generalizing walk lexeme with
  | nil =>
      have hclosed := (closes_of_run h).left.right
      rcases run_cons_eq_ok h with ⟨behind, hstep, _⟩
      rcases (openedBehind_eq_ok (step_eq_ok hstep).left).right.right with
        hends | hstarts | ⟨hopening, _⟩
      · exact hends
      · cases hstarts
      · rw [hopening, rise] at hclosed
        simp only [List.map_nil, Closes] at hclosed
        omega
  | cons second more ih =>
      rcases run_cons_eq_ok h with ⟨behind, hstep, hrun⟩
      rcases step_eq_ok hstep with ⟨hopened, _, hprevious, _⟩
      refine ⟨?_, ih hrun⟩
      rcases (openedBehind_eq_ok hopened).right.right with hends | hstarts | ⟨hopening, hnext⟩
      · exact Or.inl hends
      · exact Or.inr hstarts
      · -- Behind an opening parenthesis the walk refuses `and` and `or` only at the next step.
        rcases run_cons_eq_ok hrun with ⟨further, hsecond, _⟩
        rcases (openedBehind_eq_ok (step_eq_ok hsecond).left).right.left with
          hended | hstarts | hclosing
        · rw [ended, hprevious, hopening] at hended
          cases hended
        · exact Or.inr hstarts
        · exact absurd (congrArg some hclosing) hnext

/--
Where neighbours are linked and parentheses match, a walk meets the end unless the nesting exceeds
the limit.
-/
theorem run_of_linked {walk : Walk} {lexemes : List Lexeme}
    (hlinked : Linked walk.ended (lexemes.map Lexeme.symbol))
    (hcloses : Closes walk.opened.length (lexemes.map Lexeme.symbol)) :
    (NestsWithin maxNesting walk.opened.length walk.nots (lexemes.map Lexeme.symbol) →
        walk.run lexemes = .ok ()) ∧
      (¬ NestsWithin maxNesting walk.opened.length walk.nots (lexemes.map Lexeme.symbol) →
        ∃ position, walk.run lexemes = .error (.tooDeep maxNesting position)) := by
  induction lexemes generalizing walk with
  | nil =>
      have hnil : walk.opened = [] := by
        simpa [Closes] using hcloses
      constructor
      · intro _
        rw [run, hnil]
        rfl
      · intro hdeep
        exact absurd trivial hdeep
  | cons lexeme rest ih =>
      rcases openedBehind_of_linked hlinked hcloses.left with ⟨opened, hopened⟩
      have hrise := (openedBehind_eq_ok hopened).left
      have hstep := step_eq hopened
      rw [List.head?_map] at hstep
      rw [run, hstep]
      by_cases hdeep : opened.length + notsBehind walk.nots lexeme.symbol > maxNesting
      · rw [if_pos hdeep]
        constructor
        · intro hwithin
          have := hwithin.left
          omega
        · intro _
          exact ⟨lexeme.position, rfl⟩
      · rw [if_neg hdeep]
        have hrest := hcloses.right
        rw [← hrise] at hrest
        rcases @ih ⟨opened, notsBehind walk.nots lexeme.symbol, some lexeme.symbol⟩
          hlinked.right hrest with ⟨haccept, hrefuse⟩
        rw [hrise] at haccept hrefuse
        constructor
        · intro hwithin
          exact haccept hwithin.right
        · intro hnot
          apply hrefuse
          intro hwithin
          exact hnot ⟨by omega, hwithin⟩

/-!
## What a walk refuses
-/

/-- The errors of the check. -/
def IsStructureError : QueryError → Prop
  | .empty => True
  | .emptyGroup _ => True
  | .unbalancedParens _ => True
  | .missingOperand _ _ => True
  | .tooDeep _ _ => True
  | _ => False

/-- The lexeme, or the lexeme together with the symbol behind it, is a mistake of its own. -/
inductive Blames (lexeme : Lexeme) (next : Option Symbol) : QueryError → Prop where
  | emptyGroup :
      lexeme.symbol = .opening → next = some .closing →
        Blames lexeme next (.emptyGroup lexeme.position)
  | unbalancedParens :
      lexeme.symbol = .closing → Blames lexeme next (.unbalancedParens lexeme.position)
  | missingOperand {keyword : Keyword} :
      lexeme.symbol = .operator keyword →
        Blames lexeme next (.missingOperand keyword lexeme.position)
  | tooDeep :
      lexeme.symbol = .opening ∨ lexeme.symbol = .operator .not →
        Blames lexeme next (.tooDeep maxNesting lexeme.position)

/-- The walk has met the lexemes: what it has open is among them, and it nests within the limit. -/
structure StandsBehind (walk : Walk) (before : List Lexeme) : Prop where
  opened : ∀ position ∈ walk.opened, ⟨.opening, position⟩ ∈ before
  within : walk.opened.length + walk.nots ≤ maxNesting

theorem start_standsBehind : start.StandsBehind [] where
  opened := List.forall_mem_nil _
  within := Nat.zero_le maxNesting

section

variable {walk : Walk} {lexeme : Lexeme} {next : Option Symbol}

theorem blames_of_openedBehind {error : QueryError}
    (h : walk.openedBehind lexeme next = .error error) : Blames lexeme next error := by
  unfold openedBehind at h
  split at h
  · cases h
  · cases h
  · next hsymbol =>
      split at h
      · next hnext =>
          cases h
          exact .emptyGroup hsymbol hnext
      · cases h
  · next hsymbol =>
      split at h
      · cases h
        exact .unbalancedParens hsymbol
      · cases h
  · next hsymbol =>
      split at h
      · cases h
      · cases h
        exact .missingOperand hsymbol
  · next hsymbol =>
      split at h
      · cases h
      · cases h
        exact .missingOperand hsymbol

theorem mem_openedBehind {opened : List Nat} (h : walk.openedBehind lexeme next = .ok opened)
    {position : Nat} (hmem : position ∈ opened) :
    position ∈ walk.opened ∨ lexeme = ⟨.opening, position⟩ := by
  rcases openedBehind_cases h with ⟨hsymbol, rfl⟩ | ⟨_, closed, hopened⟩ | ⟨_, rfl⟩
  · rcases List.mem_cons.mp hmem with rfl | houter
    · exact Or.inr (hsymbol ▸ rfl)
    · exact Or.inl houter
  · rw [hopened]
    exact Or.inl (List.mem_cons_of_mem closed hmem)
  · exact Or.inl hmem

theorem StandsBehind.step {before : List Lexeme} {behind : Walk} (h : walk.StandsBehind before)
    (hstep : walk.step lexeme next = .ok behind) : behind.StandsBehind (before ++ [lexeme]) := by
  rcases step_eq_ok hstep with ⟨hopened, _, _, hwithin⟩
  constructor
  · intro position hmem
    apply List.mem_append.mpr
    rcases mem_openedBehind hopened hmem with houter | hlexeme
    · exact Or.inl (h.opened position houter)
    · exact Or.inr (List.mem_singleton.mpr hlexeme.symm)
  · exact hwithin

theorem opens_or_negates_of_pos (nots : Nat) {symbol : Symbol}
    (h : 0 < rise symbol + notsBehind nots symbol) :
    symbol = .opening ∨ symbol = .operator .not := by
  by_cases hnot : symbol = .operator .not
  · exact Or.inr hnot
  · rw [notsBehind, if_neg hnot] at h
    cases symbol with
    | opening => exact Or.inl rfl
    | word _ => cases h
    | phrase _ => cases h
    | closing => cases h
    | operator _ => cases h

/-- The nesting exceeds the limit only at an opening parenthesis or a `not`. -/
theorem blames_of_step {error : QueryError} (hwithin : walk.opened.length + walk.nots ≤ maxNesting)
    (h : walk.step lexeme next = .error error) : Blames lexeme next error := by
  cases hopened : walk.openedBehind lexeme next with
  | error error' =>
      rw [step, hopened] at h
      cases h
      exact blames_of_openedBehind hopened
  | ok opened =>
      rw [step_eq hopened] at h
      split at h
      · next hdeep =>
          cases h
          apply Blames.tooDeep
          have hlength := (openedBehind_eq_ok hopened).left
          apply opens_or_negates_of_pos walk.nots
          omega
      · cases h

end

theorem StandsBehind.steps {before front : List Lexeme} {walk behind : Walk}
    {next : Option Symbol} (h : walk.StandsBehind before)
    (hsteps : walk.steps front next = .ok behind) : behind.StandsBehind (before ++ front) :=
  steps_induction (motive := StandsBehind) StandsBehind.step h hsteps

/-- A walk blames a lexeme that it meets, or at the end an opening parenthesis that it has met. -/
theorem blames_of_run {walk : Walk} {before lexemes : List Lexeme} {error : QueryError}
    (hstands : walk.StandsBehind before) (h : walk.run lexemes = .error error) :
    (∃ front lexeme rest, before ++ lexemes = front ++ lexeme :: rest ∧
        Blames lexeme (rest.head?.map Lexeme.symbol) error) ∨
      ∃ position, ⟨.opening, position⟩ ∈ before ++ lexemes ∧
        error = .unbalancedParens position := by
  rcases exists_of_run_eq_error h with
    ⟨front, lexeme, rest, behind, rfl, hsteps, hstep⟩ | ⟨behind, position, hsteps, hlast, herror⟩
  · have hwithin := (hstands.steps hsteps).within
    exact Or.inl ⟨before ++ front, lexeme, rest, (List.append_assoc before front _).symm,
      blames_of_step hwithin hstep⟩
  · have hopened := (hstands.steps hsteps).opened position (List.mem_of_getLast? hlast)
    exact Or.inr ⟨position, hopened, herror⟩

theorem Blames.isStructureError {lexeme : Lexeme} {next : Option Symbol} {error : QueryError}
    (h : Blames lexeme next error) : IsStructureError error := by
  cases h <;> trivial

end Walk

/-!
## The whole check
-/

theorem blames_of_check {lexemes : List Lexeme} {error : QueryError}
    (h : check lexemes = .error error) :
    (lexemes = [] ∧ error = .empty) ∨
      (∃ front lexeme rest, lexemes = front ++ lexeme :: rest ∧
        Walk.Blames lexeme (rest.head?.map Lexeme.symbol) error) ∨
      ∃ position, ⟨.opening, position⟩ ∈ lexemes ∧ error = .unbalancedParens position := by
  cases lexemes with
  | nil =>
      cases h
      exact Or.inl ⟨rfl, rfl⟩
  | cons lexeme rest => exact Or.inr (Walk.blames_of_run Walk.start_standsBehind h)

theorem isStructureError_of_check {lexemes : List Lexeme} {error : QueryError}
    (h : check lexemes = .error error) : Walk.IsStructureError error := by
  rcases blames_of_check h with ⟨_, rfl⟩ | ⟨_, _, _, _, hblames⟩ | ⟨_, _, rfl⟩
  · trivial
  · exact hblames.isStructureError
  · trivial

theorem check_cons (lexeme : Lexeme) (rest : List Lexeme) :
    check (lexeme :: rest) = Walk.start.run (lexeme :: rest) :=
  rfl

/-- The check asks for linked neighbours, matched parentheses and nesting within the limit. -/
theorem check_eq_ok_iff (lexemes : List Lexeme) :
    check lexemes = .ok () ↔
      Linked false (lexemes.map Lexeme.symbol) ∧ Closes 0 (lexemes.map Lexeme.symbol) ∧
        nesting (lexemes.map Lexeme.symbol) ≤ maxNesting := by
  rw [← nestsWithin_iff (by decide)]
  cases lexemes with
  | nil => simp [check, Linked]
  | cons lexeme rest =>
      rw [check_cons]
      constructor
      · intro h
        rcases Walk.closes_of_run h with ⟨hcloses, hwithin⟩
        refine ⟨⟨Or.inr ?_, Walk.linked_of_run h⟩, hcloses, hwithin⟩
        rcases Walk.run_cons_eq_ok h with ⟨behind, hstep, _⟩
        rcases (Walk.openedBehind_eq_ok (Walk.step_eq_ok hstep).left).right.left with
          hended | hstarts | hclosing
        · cases hended
        · exact hstarts
        · have hrise := hcloses.left
          rw [hclosing] at hrise
          simp [Walk.start, rise] at hrise
      · rintro ⟨hlinked, hcloses, hwithin⟩
        exact (@Walk.run_of_linked Walk.start _ hlinked hcloses).left hwithin

/-- Where neighbours are linked and parentheses match, only too deep a nesting is refused. -/
theorem check_eq_tooDeep {lexemes : List Lexeme}
    (hlinked : Linked false (lexemes.map Lexeme.symbol))
    (hcloses : Closes 0 (lexemes.map Lexeme.symbol))
    (hdeep : maxNesting < nesting (lexemes.map Lexeme.symbol)) :
    ∃ position, check lexemes = .error (.tooDeep maxNesting position) := by
  cases lexemes with
  | nil => cases hlinked
  | cons lexeme rest =>
      rw [check_cons]
      apply (@Walk.run_of_linked Walk.start _ hlinked hcloses).right
      intro hwithin
      exact absurd ((nestsWithin_iff (by decide)).mp hwithin) (Int.not_le.mpr hdeep)

end Structure
end PaperFilter
