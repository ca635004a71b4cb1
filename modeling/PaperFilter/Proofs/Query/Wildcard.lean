import PaperFilter.Proofs.Query.Canonical
import PaperFilter.Proofs.Token.Chunks

/-!
# What a word with stars matches

The stars cut a word into pieces.  A pattern matches a token if the pieces occur in it in order with
a gap between each two, which is what its regular expression says.  The search for them answers for
all suffixes of the token at once, from the last piece to the first: the answers for the pieces
behind a piece tell where its gap can end.
-/

namespace PaperFilter
namespace Wildcard

/-!
## Pieces and gaps
-/

/-- What a star between two pieces stands for: characters that are no line feed, and at least
one. -/
def IsGap (gap : Text) : Prop :=
  gap ≠ [] ∧ '\n' ∉ gap

/-- A text is the pieces in order, with a gap in front of each but the first. -/
def IsWoven (isGap : Text → Prop) (first : Text) (others : List Text) (text : Text) : Prop :=
  ∃ gaps : List Text, gaps.length = others.length ∧ (∀ gap ∈ gaps, isGap gap) ∧
    text = first ++ (List.zipWith (fun gap piece => gap ++ piece) gaps others).flatten

/-- The pieces occur somewhere in a token, with anything in front of them and behind them. -/
def OccurIn (isGap : Text → Prop) (first : Text) (others : List Text) (token : Text) : Prop :=
  ∃ before middle after, token = before ++ (middle ++ after) ∧ IsWoven isGap first others middle

section

variable {isGap : Text → Prop} {first : Text}

theorem isWoven_nil {text : Text} : IsWoven isGap first [] text ↔ text = first := by
  constructor
  · intro h
    rcases h with ⟨gaps, _, _, rfl⟩
    rw [List.zipWith_nil_right, List.flatten_nil, List.append_nil]
  · intro h
    refine ⟨[], rfl, List.forall_mem_nil _, ?_⟩
    rw [h, List.zipWith_nil_right, List.flatten_nil, List.append_nil]

theorem isWoven_cons {second : Text} {more : List Text} {text : Text} :
    IsWoven isGap first (second :: more) text ↔
      ∃ gap rest, isGap gap ∧ text = first ++ (gap ++ rest) ∧ IsWoven isGap second more rest := by
  constructor
  · intro h
    rcases h with ⟨gaps, hlength, hgaps, rfl⟩
    cases gaps with
    | nil => cases hlength
    | cons gap gaps =>
        rcases List.forall_mem_cons.mp hgaps with ⟨hgap, hothers⟩
        refine ⟨gap, _, hgap, ?_, gaps, Nat.succ.inj hlength, hothers, rfl⟩
        rw [List.zipWith_cons_cons, List.flatten_cons, List.append_assoc]
  · intro h
    rcases h with ⟨gap, rest, hgap, rfl, gaps, hlength, hgaps, rfl⟩
    refine ⟨gap :: gaps, congrArg Nat.succ hlength, List.forall_mem_cons.mpr ⟨hgap, hgaps⟩, ?_⟩
    rw [List.zipWith_cons_cons, List.flatten_cons, List.append_assoc]

/-- In a token without line feeds no gap has one. -/
theorem occurIn_iff_of_not_mem {others : List Text} {token : Text} (h : '\n' ∉ token) :
    OccurIn IsGap first others token ↔ OccurIn (fun gap => gap ≠ []) first others token := by
  constructor
  · intro hoccur
    rcases hoccur with ⟨before, middle, after, htoken, gaps, hlength, hgaps, hmiddle⟩
    exact ⟨before, middle, after, htoken, gaps, hlength, fun gap hgap => (hgaps gap hgap).left,
      hmiddle⟩
  · intro hoccur
    rcases hoccur with ⟨before, middle, after, htoken, hwoven⟩
    refine ⟨before, middle, after, htoken, ?_⟩
    have hmiddle : '\n' ∉ middle := by
      intro hmem
      rw [htoken] at h
      exact h (List.mem_append_right before (List.mem_append_left after hmem))
    clear htoken h
    induction others generalizing first middle with
    | nil => exact isWoven_nil.mpr (isWoven_nil.mp hwoven)
    | cons second more ih =>
        rcases isWoven_cons.mp hwoven with ⟨gap, rest, hgap, rfl, hrest⟩
        rw [List.mem_append, List.mem_append, not_or, not_or] at hmiddle
        exact isWoven_cons.mpr ⟨gap, rest, ⟨hgap, hmiddle.right.left⟩, rfl,
          ih rest hrest hmiddle.right.right⟩

end

/-!
## Answers for all suffixes
-/

/-- A list says of each suffix of a text, the longest first, whether it is of a kind.  It may end
before suffixes that are not. -/
def Tells (kind : Text → Prop) (text : Text) (fits : List Bool) : Prop :=
  ∀ n : Nat, fits[n]? = some true ↔ n ≤ text.length ∧ kind (text.drop n)

theorem getElem?_suffixes (text : Text) (n : Nat) :
    (Text.suffixes text)[n]? = if n ≤ text.length then some (text.drop n) else none := by
  induction text generalizing n with
  | nil => cases n <;> rfl
  | cons c rest ih =>
      cases n with
      | zero => rfl
      | succ n => simp [Text.suffixes, ih]

theorem tells_map_suffixes (text : Text) (test : Text → Bool) :
    Tells (fun suffix => test suffix = true) text ((Text.suffixes text).map test) := by
  intro n
  rw [List.getElem?_map, getElem?_suffixes]
  split <;> simp [*]

section

variable {kind : Text → Prop} {text : Text} {fits : List Bool}

theorem Tells.tail {c : Char} (h : Tells kind (c :: text) fits) : Tells kind text fits.tail := by
  intro n
  rw [List.getElem?_tail, h (n + 1), List.length_cons, Nat.add_le_add_iff_right,
    List.drop_succ_cons]

theorem Tells.headD_iff (h : Tells kind text fits) : fits.headD false = true ↔ kind text := by
  have hfirst := h 0
  rw [List.drop_zero, and_iff_right (Nat.zero_le _)] at hfirst
  rw [← hfirst]
  cases fits <;> simp

/-- A text that begins with a gap and goes on with a text of a kind. -/
def BehindGap (kind : Text → Prop) (text : Text) : Prop :=
  ∃ gap rest, IsGap gap ∧ text = gap ++ rest ∧ kind rest

theorem not_behindGap_nil : ¬ BehindGap kind [] := by
  intro h
  rcases h with ⟨gap, rest, hgap, htext, _⟩
  exact hgap.left (List.append_eq_nil_iff.mp htext.symm).left

/-- After the first character a gap has ended or goes on. -/
theorem behindGap_cons {c : Char} :
    BehindGap kind (c :: text) ↔ c ≠ '\n' ∧ (kind text ∨ BehindGap kind text) := by
  constructor
  · intro h
    rcases h with ⟨gap, rest, hgap, htext, hrest⟩
    rcases List.exists_cons_of_ne_nil hgap.left with ⟨d, letters, rfl⟩
    rcases List.cons_eq_cons.mp htext with ⟨rfl, rfl⟩
    have hfeed := hgap.right
    rw [List.mem_cons, not_or] at hfeed
    refine ⟨Ne.symm hfeed.left, ?_⟩
    by_cases hletters : letters = []
    · rw [hletters]
      exact Or.inl hrest
    · exact Or.inr ⟨letters, rest, ⟨hletters, hfeed.right⟩, rfl, hrest⟩
  · intro h
    rcases h with ⟨hc, hrest | ⟨gap, rest, hgap, rfl, hrest⟩⟩
    · exact ⟨[c], text, ⟨List.cons_ne_nil c [], by simpa using Ne.symm hc⟩, rfl, hrest⟩
    · exact ⟨c :: gap, rest, ⟨List.cons_ne_nil c gap,
        List.not_mem_cons_of_ne_of_not_mem (Ne.symm hc) hgap.right⟩, rfl, hrest⟩

theorem Tells.afterGap (h : Tells kind text fits) :
    Tells (BehindGap kind) text (afterGap text fits) := by
  induction text generalizing fits with
  | nil =>
      intro n
      cases n with
      | zero => simpa [Wildcard.afterGap] using not_behindGap_nil
      | succ n => simp [Wildcard.afterGap]
  | cons c text ih =>
      have hlater := ih h.tail
      intro n
      rw [Wildcard.afterGap]
      cases n with
      | zero =>
          rw [List.getElem?_cons_zero, Option.some.injEq, Bool.and_eq_true, Bool.or_eq_true,
            h.tail.headD_iff, hlater.headD_iff, bne_iff_ne, List.drop_zero, behindGap_cons]
          exact (and_iff_right (Nat.zero_le _)).symm
      | succ n =>
          rw [List.getElem?_cons_succ, hlater n, List.length_cons, Nat.add_le_add_iff_right,
            List.drop_succ_cons]

/-- Whether a piece stands in front of a suffix of a kind is the answer for that suffix. -/
theorem Tells.inFront (h : Tells kind text fits) (piece : Text) :
    Tells (fun suffix => ∃ rest, suffix = piece ++ rest ∧ kind rest) text
      (List.zipWith (fun suffix fit => piece.isPrefixOf suffix && fit) (Text.suffixes text)
        (fits.drop piece.length)) := by
  intro n
  rw [List.getElem?_zipWith_eq_some]
  constructor
  · intro hboth
    rcases hboth with ⟨suffix, fit, hsuffix, hfit, htrue⟩
    rw [Bool.and_eq_true, List.isPrefixOf_iff_prefix] at htrue
    rcases htrue with ⟨⟨rest, hrest⟩, rfl⟩
    rw [getElem?_suffixes] at hsuffix
    split at hsuffix
    · next hn =>
        cases hsuffix
        rw [List.getElem?_drop] at hfit
        have hkind := ((h _).mp hfit).right
        rw [Nat.add_comm, ← List.drop_drop, ← hrest, List.drop_left] at hkind
        exact ⟨hn, rest, hrest.symm, hkind⟩
    · cases hsuffix
  · intro hfound
    rcases hfound with ⟨hn, rest, hrest, hkind⟩
    refine ⟨text.drop n, true, ?_, ?_, ?_⟩
    · rw [getElem?_suffixes, if_pos hn]
    · rw [List.getElem?_drop, h, Nat.add_comm, ← List.drop_drop, hrest, List.drop_left]
      refine ⟨?_, hkind⟩
      have hlength := congrArg List.length hrest
      rw [List.length_drop, List.length_append] at hlength
      omega
    · rw [hrest, Bool.and_true, List.isPrefixOf_iff_prefix]
      exact List.prefix_append piece rest

end

/-!
## Matching a pattern
-/

/-- The pieces begin a text. -/
def Begin (first : Text) (others : List Text) (text : Text) : Prop :=
  ∃ middle after, text = middle ++ after ∧ IsWoven IsGap first others middle

theorem begin_nil {first text : Text} : Begin first [] text ↔ first <+: text := by
  constructor
  · intro h
    rcases h with ⟨middle, after, rfl, hwoven⟩
    rw [isWoven_nil.mp hwoven]
    exact List.prefix_append first after
  · intro h
    rcases h with ⟨after, rfl⟩
    exact ⟨first, after, rfl, isWoven_nil.mpr rfl⟩

theorem begin_cons {first second : Text} {more : List Text} {text : Text} :
    Begin first (second :: more) text ↔
      ∃ rest, text = first ++ rest ∧ BehindGap (Begin second more) rest := by
  constructor
  · intro h
    rcases h with ⟨middle, after, rfl, hwoven⟩
    rcases isWoven_cons.mp hwoven with ⟨gap, rest, hgap, rfl, hrest⟩
    refine ⟨gap ++ (rest ++ after), ?_, gap, rest ++ after, hgap, rfl, rest, after, rfl, hrest⟩
    simp only [List.append_assoc]
  · intro h
    rcases h with ⟨_, rfl, gap, _, hgap, rfl, middle, after, rfl, hwoven⟩
    refine ⟨first ++ (gap ++ middle), after, ?_, isWoven_cons.mpr ⟨gap, middle, hgap, rfl, hwoven⟩⟩
    simp only [List.append_assoc]

theorem tells_fitting (first : Text) (others : List Text) (text : Text) :
    Tells (Begin first others) text (fitting (first :: others) text) := by
  induction others generalizing first with
  | nil =>
      intro n
      rw [fitting, tells_map_suffixes text first.isPrefixOf n, begin_nil,
        ← List.isPrefixOf_iff_prefix]
  | cons second more ih =>
      intro n
      rw [fitting, (ih second).afterGap.inFront first n, begin_cons]

theorem any_fitting_iff {first : Text} {others : List Text} {token : Text} :
    (fitting (first :: others) token).any id = true ↔ OccurIn IsGap first others token := by
  have htells := tells_fitting first others token
  rw [List.any_eq_true]
  constructor
  · intro h
    rcases h with ⟨fit, hmem, hfit⟩
    rw [id, eq_comm] at hfit
    rcases List.mem_iff_getElem?.mp hmem with ⟨n, hn⟩
    rw [← hfit] at hn
    rcases ((htells n).mp hn).right with ⟨middle, after, hdrop, hwoven⟩
    exact ⟨token.take n, middle, after, by rw [← hdrop, List.take_append_drop], hwoven⟩
  · intro h
    rcases h with ⟨before, middle, after, rfl, hwoven⟩
    refine ⟨true, List.mem_iff_getElem?.mpr ⟨before.length, (htells _).mpr ⟨?_, ?_⟩⟩, rfl⟩
    · rw [List.length_append]
      exact Nat.le_add_right _ _
    · rw [List.drop_left]
      exact ⟨middle, after, rfl, hwoven⟩

/-!
## The regular expression of a pattern
-/

/-- What a regular expression of characters and of `.+` matches.  A character that means something
else is preceded by a backslash. -/
inductive Expresses : Text → Text → Prop where
  | nil : Expresses [] []
  | plain {c : Char} {expression text : Text} : c ∉ metacharacters →
      Expresses expression text → Expresses (c :: expression) (c :: text)
  | escaped {c : Char} {expression text : Text} : c ∈ metacharacters →
      Expresses expression text → Expresses ('\\' :: c :: expression) (c :: text)
  | gap {gap expression text : Text} : IsGap gap →
      Expresses expression text → Expresses ('.' :: '+' :: expression) (gap ++ text)

theorem expresses_plain {c : Char} (h : c ∉ metacharacters) {expression text : Text} :
    Expresses (c :: expression) text ↔ ∃ rest, text = c :: rest ∧ Expresses expression rest := by
  constructor
  · intro hwhole
    cases hwhole with
    | plain _ hrest => exact ⟨_, rfl, hrest⟩
    | escaped _ _ => exact absurd (by decide) h
    | gap _ _ => exact absurd (by decide) h
  · intro hrest
    rcases hrest with ⟨rest, rfl, hrest⟩
    exact .plain h hrest

theorem expresses_escaped {c : Char} (h : c ∈ metacharacters) {expression text : Text} :
    Expresses ('\\' :: c :: expression) text ↔
      ∃ rest, text = c :: rest ∧ Expresses expression rest := by
  constructor
  · intro hwhole
    cases hwhole with
    | plain hplain _ => exact absurd (by decide) hplain
    | escaped _ hrest => exact ⟨_, rfl, hrest⟩
  · intro hrest
    rcases hrest with ⟨rest, rfl, hrest⟩
    exact .escaped h hrest

/-- An escaped piece matches itself. -/
theorem expresses_escapePiece_append {piece expression text : Text} :
    Expresses (escapePiece piece ++ expression) text ↔
      ∃ rest, text = piece ++ rest ∧ Expresses expression rest := by
  induction piece generalizing text with
  | nil => simp [escapePiece]
  | cons c piece ih =>
      have hfirst : Expresses (escapePiece (c :: piece) ++ expression) text ↔
          ∃ rest, text = c :: rest ∧ Expresses (escapePiece piece ++ expression) rest := by
        by_cases hmeta : c ∈ metacharacters
        · have hescape : escapePiece (c :: piece) = '\\' :: c :: escapePiece piece := by
            simp [escapePiece, hmeta]
          rw [hescape, List.cons_append, List.cons_append, expresses_escaped hmeta]
        · have hescape : escapePiece (c :: piece) = c :: escapePiece piece := by
            simp [escapePiece, hmeta]
          rw [hescape, List.cons_append, expresses_plain hmeta]
      rw [hfirst]
      constructor
      · intro h
        rcases h with ⟨_, rfl, hbehind⟩
        rcases ih.mp hbehind with ⟨rest, rfl, hrest⟩
        exact ⟨rest, rfl, hrest⟩
      · intro h
        rcases h with ⟨rest, rfl, hrest⟩
        exact ⟨piece ++ rest, rfl, ih.mpr ⟨rest, rfl, hrest⟩⟩

theorem expresses_gap_append {expression text : Text} :
    Expresses ('.' :: '+' :: expression) text ↔ BehindGap (Expresses expression) text := by
  constructor
  · intro h
    cases h with
    | plain hplain _ => exact absurd (by decide) hplain
    | gap hgap hrest => exact ⟨_, _, hgap, rfl, hrest⟩
  · intro h
    rcases h with ⟨gap, rest, hgap, rfl, hrest⟩
    exact .gap hgap hrest

/-- The expression of a pattern matches its pieces with gaps between them, and nothing else. -/
theorem expresses_expression_iff {first : Text} {others : List Text} {text : Text} :
    Expresses (expression (first :: others)) text ↔ IsWoven IsGap first others text := by
  induction others generalizing first text with
  | nil =>
      rw [isWoven_nil, expression, List.map_singleton, Text.joinWith, ← List.append_nil
        (escapePiece first), expresses_escapePiece_append]
      constructor
      · intro h
        rcases h with ⟨rest, rfl, hrest⟩
        cases hrest
        exact List.append_nil first
      · intro h
        exact ⟨[], by rw [h, List.append_nil], .nil⟩
  | cons second more ih =>
      have hexpression : expression (first :: second :: more) =
          escapePiece first ++ ('.' :: '+' :: expression (second :: more)) := by
        rw [expression, List.map_cons, List.map_cons, Text.joinWith_cons_cons, List.append_assoc,
          ← List.map_cons]
        rfl
      rw [hexpression, expresses_escapePiece_append, isWoven_cons]
      constructor
      · intro h
        rcases h with ⟨rest, rfl, hrest⟩
        rcases expresses_gap_append.mp hrest with ⟨gap, behind, hgap, rfl, hbehind⟩
        exact ⟨gap, behind, hgap, rfl, ih.mp hbehind⟩
      · intro h
        rcases h with ⟨gap, behind, hgap, rfl, hbehind⟩
        exact ⟨gap ++ behind, rfl, .gap hgap (ih.mpr hbehind)⟩

/-!
## Words
-/

theorem ofPieces_eq_pattern {first : Text} {others : List Text} (hne : others ≠ [])
    (h : ∀ second, others = [second] → first ≠ [] ∧ second ≠ []) :
    ofPieces (first :: others) = .pattern (first :: others) := by
  generalize hpieces : first :: others = pieces
  fun_cases ofPieces pieces with
  | case1 =>
      cases hpieces
      exact absurd rfl hne
  | case2 ending =>
      cases hpieces
      exact absurd rfl (h ending rfl).left
  | case3 =>
      cases hpieces
      exact absurd rfl (h [] rfl).right
  | case4 => rfl

/-- The separator itself is what stands between the pieces of a joined text. -/
theorem isWoven_joinWith {isGap : Text → Prop} {separator : Text} (h : isGap separator)
    (first : Text) (others : List Text) :
    IsWoven isGap first others (Text.joinWith separator (first :: others)) := by
  induction others generalizing first with
  | nil => exact isWoven_nil.mpr rfl
  | cons second more ih =>
      refine isWoven_cons.mpr ⟨separator, _, h, ?_, ih second⟩
      rw [Text.joinWith_cons_cons, List.append_assoc]

theorem matchesToken_joinWith {pieces : List Text} (hne : pieces ≠ []) :
    (ofPieces pieces).matchesToken (Text.joinWith ['*'] pieces) = true := by
  fun_cases ofPieces pieces with
  | case1 only => exact beq_self_eq_true only
  | case2 ending =>
      rw [matchesToken, List.isSuffixOf_iff_suffix]
      exact List.suffix_cons '*' ending
  | case3 beginning =>
      rw [matchesToken, List.isPrefixOf_iff_prefix, Text.joinWith_cons_cons, List.append_assoc]
      exact List.prefix_append beginning _
  | case4 =>
      have hgap : IsGap ['*'] := ⟨List.cons_ne_nil _ _, by decide⟩
      rcases List.exists_cons_of_ne_nil hne with ⟨first, others, rfl⟩
      rw [matchesToken, any_fitting_iff]
      exact ⟨[], _, [], (List.append_nil _).symm, isWoven_joinWith hgap first others⟩

/-- Every word matches itself, its stars standing for themselves. -/
theorem matchesToken_self (word : Text) : (ofWord word).matchesToken word = true := by
  have hself := matchesToken_joinWith (Text.splitOn_ne_nil '*' word)
  rwa [Text.joinWith_splitOn] at hself

/--
What a word matches is told by its pieces between the stars.  A word without stars matches itself;
one that only begins with a star matches the tokens with the rest for an ending, and one that only
ends with a star those with the rest for a beginning.  Every other word matches the tokens in which
its pieces occur in order with a gap between each two, which are those in which its regular
expression occurs.  In the tokens of a text no gap can have a line feed.
-/
theorem matchesToken_iff_pieces [PatternCompiler] {word : Text} {term : Term}
    (h : Term.ofText word = .ok term) {first : Text} {others : List Text}
    (hpieces : Text.splitOn '*' word = first :: others) (token : Text) :
    (word = Text.joinWith ['*'] (first :: others) ∧ (∀ piece ∈ first :: others, '*' ∉ piece) ∧
      word.count '*' = others.length) ∧
    (others = [] → (term.wildcard.matchesToken token = true ↔ token = word)) ∧
    (∀ ending, first = [] → others = [ending] →
      (term.wildcard.matchesToken token = true ↔ ending <:+ token)) ∧
    (first ≠ [] → others = [[]] →
      (term.wildcard.matchesToken token = true ↔ first <+: token)) ∧
    (others ≠ [] → (∀ second, others = [second] → first ≠ [] ∧ second ≠ []) →
      (term.wildcard.matchesToken token = true ↔ OccurIn IsGap first others token) ∧
      (term.wildcard.matchesToken token = true ↔
        ∃ before middle after, token = before ++ (middle ++ after) ∧
          Expresses (expression (first :: others)) middle) ∧
      ∀ text, token ∈ tokenize text →
        (term.wildcard.matchesToken token = true ↔
          OccurIn (fun gap => gap ≠ []) first others token)) := by
  have hword : word = Text.joinWith ['*'] (first :: others) := by
    rw [← hpieces, Text.joinWith_splitOn]
  have hwildcard : term.wildcard = ofPieces (first :: others) := by
    rw [Term.wildcard, Grammar.text_of_ofText h, ofWord, hpieces]
  rw [hwildcard]
  refine ⟨⟨hword, ?_, ?_⟩, ?_, ?_, ?_, ?_⟩
  · rw [← hpieces]
    exact fun piece hpiece => Text.not_mem_of_mem_splitOn hpiece
  · have hlength := Text.length_splitOn '*' word
    rw [hpieces, List.length_cons] at hlength
    exact (Nat.succ.inj hlength).symm
  · rintro rfl
    rw [hword]
    exact beq_iff_eq
  · rintro ending rfl rfl
    exact List.isSuffixOf_iff_suffix
  · rintro hne rfl
    cases first with
    | nil => exact absurd rfl hne
    | cons c rest => exact List.isPrefixOf_iff_prefix
  · intro hne hboth
    rw [ofPieces_eq_pattern hne hboth, matchesToken, any_fitting_iff]
    refine ⟨Iff.rfl, ?_, ?_⟩
    · simp only [expresses_expression_iff]
      exact Iff.rfl
    · intro text htoken
      apply occurIn_iff_of_not_mem
      intro hfeed
      have hdelimiter := isDelimiter_eq_false_of_mem_tokenize htoken hfeed
      exact absurd hdelimiter (by decide)

/-- Between two stars side by side stands an empty piece, so that two characters at least come
between the others.  A dot of the word stands for itself. -/
theorem matchesToken_iff_pieces_adjacent :
    (ofWord "a**a.".toList).matchesToken "xaa,a.".toList = true ∧
      ¬ OccurIn IsGap ['a'] [[], ['a', '.']] "aaa.ab".toList := by
  let _ := PatternCompiler.unlimited
  have hterm : Term.ofText "a**a.".toList = .ok ⟨"a**a.".toList⟩ := rfl
  have hpieces : Text.splitOn '*' "a**a.".toList = [['a'], [], ['a', '.']] := rfl
  have hmatches := fun token => ((matchesToken_iff_pieces hterm hpieces
    token).right.right.right.right (List.cons_ne_nil _ _) (by simp)).left
  constructor
  · refine (hmatches _).mpr ⟨['x'], "aa,a.".toList, [], rfl, [['a'], [',']], rfl, ?_, rfl⟩
    simp [IsGap]
  · rw [← hmatches]
    decide

end Wildcard
end PaperFilter
