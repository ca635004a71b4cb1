import PaperFilter.Proofs.Query.Acceptance

/-!
# Canonical trees

The trees that queries have: a group has two children or more and none of its own kind, and every
word is one that a query can hold, in quotes or outside them.
-/

namespace PaperFilter

/-!
## Symbols that a text can spell
-/

namespace Symbol

def IsSpellable : Symbol → Prop
  | .word text => IsWord text ∧ ∀ keyword : Keyword, text.map Char.toLower ≠ keyword.text
  | .phrase words => words ≠ [] ∧ ∀ word ∈ words, IsWord word
  | .opening => True
  | .closing => True
  | .operator _ => True

theorem ofWord_eq_word {word : Text}
    (h : ∀ keyword : Keyword, word.map Char.toLower ≠ keyword.text) :
    ofWord word = .word word := by
  simp only [ofWord, if_neg (h .and), if_neg (h .or), if_neg (h .not)]

theorem eq_of_ofWord_eq_word {word text : Text} (h : ofWord word = .word text) : text = word := by
  rw [ofWord] at h
  split at h
  · cases h
  · split at h
    · cases h
    · split at h
      · cases h
      · cases h
        rfl

theorem isSpellable_ofWord {word : Text} (h : IsWord word) : (ofWord word).IsSpellable := by
  by_cases hkeyword : ∃ keyword : Keyword, word.map Char.toLower = keyword.text
  · rcases hkeyword with ⟨keyword, hkeyword⟩
    cases keyword <;> simp [ofWord, hkeyword, Keyword.text, IsSpellable]
  · have hne : ∀ keyword : Keyword, word.map Char.toLower ≠ keyword.text :=
      fun keyword hcontra => hkeyword ⟨keyword, hcontra⟩
    rw [ofWord_eq_word hne]
    exact ⟨h, hne⟩

end Symbol

namespace Lexeme

theorem SpellsPhrase.isWord {body : Text} {words : List Text} (h : SpellsPhrase body words) :
    ∀ word ∈ words, IsWord word := by
  induction h with
  | nil =>
      intro word hmem
      cases hmem
  | blank _ _ ih => exact ih
  | word hword _ _ ih =>
      intro other hmem
      rcases List.mem_cons.mp hmem with rfl | hmem
      · exact hword
      · exact ih other hmem

theorem Spells.isSpellable {position : Nat} {text : Text} {lexemes : List Lexeme}
    (h : Spells position text lexemes) : ∀ lexeme ∈ lexemes, lexeme.symbol.IsSpellable := by
  induction h with
  | nil position =>
      intro lexeme hmem
      cases hmem
  | blank _ _ ih => exact ih
  | opening _ ih => exact List.forall_mem_cons.mpr ⟨trivial, ih⟩
  | closing _ ih => exact List.forall_mem_cons.mpr ⟨trivial, ih⟩
  | phrase hbody hwords _ ih => exact List.forall_mem_cons.mpr ⟨⟨hwords, hbody.isWord⟩, ih⟩
  | word hword _ _ ih => exact List.forall_mem_cons.mpr ⟨Symbol.isSpellable_ofWord hword, ih⟩

theorem isWord_of_scanFrom {position : Nat} {text : Text} {lexemes : List Lexeme}
    (h : scanFrom position text = .ok lexemes) {word : Text}
    (hmem : .word word ∈ lexemes.map Lexeme.symbol) : IsWord word := by
  rcases List.mem_map.mp hmem with ⟨lexeme, hlexeme, hsymbol⟩
  have hspellable := (spells_of_scanFrom h).isSpellable lexeme hlexeme
  rw [hsymbol] at hspellable
  exact hspellable.left

end Lexeme

namespace Node

/-!
## Canonical trees
-/

inductive IsCanonical : Node → Prop where
  | group (kind : Kind) (children : List Node) :
      2 ≤ children.length → (∀ child ∈ children, IsCanonical child) →
        (∀ inner, kind.node inner ∉ children) → IsCanonical (kind.node children)
  | not (child : Node) : IsCanonical child → IsCanonical (.not child)
  | phrase (words : List Text) :
      words ≠ [] → (∀ word ∈ words, IsWord word) → IsCanonical (.phrase words)
  | word (term : Term) :
      IsWord term.text → (∀ keyword : Keyword, term.text.map Char.toLower ≠ keyword.text) →
        IsCanonical (.word term)

theorem IsCanonical.isFlat {node : Node} (h : node.IsCanonical) : node.IsFlat := by
  induction h with
  | group kind children hlength _ hinner ih =>
      apply IsFlat.group
      · omega
      · exact ih
      · exact hinner
  | not child _ ih => exact .not child ih
  | phrase words _ _ => exact .phrase words
  | word term _ _ => exact .word term

theorem IsCanonical.of_node {kind : Kind} {children : List Node}
    (h : (kind.node children).IsCanonical) :
    2 ≤ children.length ∧ ∀ child ∈ children, child.IsCanonical := by
  generalize hnode : kind.node children = node at h
  cases h with
  | group kind' children' hlength hchildren hinner =>
      rcases Kind.node_inj.mp hnode with ⟨rfl, rfl⟩
      exact ⟨hlength, hchildren⟩
  | not child hchild => cases kind <;> cases hnode
  | phrase words => cases kind <;> cases hnode
  | word term => cases kind <;> cases hnode

theorem IsCanonical.of_word {term : Term} (h : (Node.word term).IsCanonical) :
    IsWord term.text ∧ ∀ keyword : Keyword, term.text.map Char.toLower ≠ keyword.text := by
  generalize hnode : Node.word term = node at h
  cases h with
  | group kind => cases kind <;> cases hnode
  | not child hchild => cases hnode
  | phrase words => cases hnode
  | word term' hword hkeyword =>
      cases hnode
      exact ⟨hword, hkeyword⟩

/-- What a canonical child contributes to a group is there and canonical. -/
theorem IsCanonical.parts {child : Node} (h : child.IsCanonical) (kind : Kind) :
    kind.parts child ≠ [] ∧ ∀ part ∈ kind.parts child, part.IsCanonical := by
  by_cases hgroup : ∃ inner, child = kind.node inner
  · rcases hgroup with ⟨inner, rfl⟩
    rw [Kind.parts_node]
    rcases h.of_node with ⟨hlength, hinner⟩
    refine ⟨?_, hinner⟩
    rintro rfl
    cases hlength
  · rw [Kind.parts_of_ne fun inner hnode => hgroup ⟨inner, hnode⟩]
    refine ⟨List.cons_ne_nil child [], ?_⟩
    intro part hpart
    rw [List.mem_singleton.mp hpart]
    exact h

theorem isCanonical_join (kind : Kind) {children : List Node} (hne : children ≠ [])
    (h : ∀ child ∈ children, child.IsCanonical) : (kind.join children).IsCanonical := by
  have hparts : ∀ part ∈ children.flatMap kind.parts,
      part.IsCanonical ∧ ∀ inner, part ≠ kind.node inner := by
    intro part hpart
    rcases List.mem_flatMap.mp hpart with ⟨child, hchild, hmem⟩
    exact ⟨((h child hchild).parts kind).right part hmem,
      ((h child hchild).isFlat.of_mem_parts hmem).right⟩
  have hnonempty : children.flatMap kind.parts ≠ [] := by
    rcases List.exists_mem_of_ne_nil children hne with ⟨child, hchild⟩
    intro hnil
    exact ((h child hchild).parts kind).left (List.flatMap_eq_nil_iff.mp hnil child hchild)
  by_cases honly : ∃ only, children.flatMap kind.parts = [only]
  · rcases honly with ⟨only, honly⟩
    rw [Kind.join_eq_of_parts honly]
    rw [honly] at hparts
    exact (hparts only List.mem_cons_self).left
  · rw [Kind.join_eq_node fun only hcontra => honly ⟨only, hcontra⟩]
    apply IsCanonical.group
    · cases hlist : children.flatMap kind.parts with
      | nil => exact absurd hlist hnonempty
      | cons first rest =>
          cases rest with
          | nil => exact absurd ⟨first, hlist⟩ honly
          | cons second more =>
              rw [List.length_cons, List.length_cons]
              omega
    · intro part hpart
      exact (hparts part hpart).left
    · intro inner hinner
      exact (hparts _ hinner).right inner rfl

end Node

namespace Grammar

/-!
## The trees of queries are canonical
-/

theorem isCanonical_group (kind : Node.Kind) {plains : List Node} (hne : plains ≠ [])
    (h : ∀ plain ∈ plains, plain.normal.IsCanonical) : (kind.node plains).normal.IsCanonical := by
  rw [Node.normal_node]
  apply Node.isCanonical_join
  · exact fun hnil => hne (List.map_eq_nil_iff.mp hnil)
  · intro child hchild
    rcases List.mem_map.mp hchild with ⟨plain, hplain, rfl⟩
    exact h plain hplain

variable [PatternCompiler]

/--
What holds of the words and phrases of a derivation, and carries over to groups and, where there are
any, to negations, holds of all that it puts side by side.
-/
theorem forall_operands {P : Node → Prop} {symbols : List Symbol}
    (group : ∀ kind plains, plains ≠ [] → (∀ plain ∈ plains, P plain) →
      P (Node.Kind.node kind plains))
    (not : .operator .not ∈ symbols → ∀ child, P child → P (.not child))
    (phrase : ∀ words, .phrase words ∈ symbols → P (.phrase words))
    (word : ∀ term, .word term.text ∈ symbols → P (.word term))
    {rule : Rule} {derivation : Derivation rule} {plains : List Node}
    (hsymbols : derivation.symbols ⊆ symbols) (h : derivation.operands = .ok plains) :
    ∀ plain ∈ plains, P plain := by
  induction derivation generalizing plains with
  | conjunction only ih =>
      rcases Derivation.operands_conjunction_eq_ok h with ⟨conjuncts, hconjuncts, rfl⟩
      have hne := Derivation.operands_ne_nil hconjuncts
      exact List.forall_mem_singleton.mpr (group .and conjuncts hne (ih hsymbols hconjuncts))
  | or first others ihFirst ihOthers =>
      rcases Derivation.operands_or_eq_ok h with
        ⟨conjuncts, disjuncts, hconjuncts, hdisjuncts, rfl⟩
      rw [Derivation.symbols_or, List.append_subset, List.cons_subset] at hsymbols
      have hne := Derivation.operands_ne_nil hconjuncts
      have hfirst := ihFirst hsymbols.left hconjuncts
      have hothers := ihOthers hsymbols.right.right hdisjuncts
      exact List.forall_mem_cons.mpr ⟨group .and conjuncts hne hfirst, hothers⟩
  | negation only ih => exact ih hsymbols h
  | and first others ihFirst ihOthers =>
      rcases Derivation.operands_and_eq_ok h with
        ⟨negation, negations, hnegation, hnegations, rfl⟩
      rw [Derivation.symbols_and, List.append_subset, List.cons_subset] at hsymbols
      have hfirst := ihFirst hsymbols.left hnegation
      have hothers := ihOthers hsymbols.right.right hnegations
      exact List.forall_mem_append.mpr ⟨hfirst, hothers⟩
  | beside first others ihFirst ihOthers =>
      rcases Derivation.operands_beside_eq_ok h with
        ⟨negation, negations, hnegation, hnegations, rfl⟩
      rw [Derivation.symbols_beside, List.append_subset] at hsymbols
      have hfirst := ihFirst hsymbols.left hnegation
      have hothers := ihOthers hsymbols.right hnegations
      exact List.forall_mem_append.mpr ⟨hfirst, hothers⟩
  | not negated ih =>
      rcases Derivation.operands_not_eq_ok h with ⟨inner, hinner, rfl⟩
      rw [Derivation.symbols_not, List.cons_subset] at hsymbols
      have hchildren := ih hsymbols.right hinner
      intro plain hmem
      rcases List.mem_map.mp hmem with ⟨child, hchild, rfl⟩
      exact not hsymbols.left child (hchildren child hchild)
  | group only ih => exact ih hsymbols h
  | parentheses inner ih =>
      rcases Derivation.operands_parentheses_eq_ok h with ⟨disjuncts, hdisjuncts, rfl⟩
      rw [Derivation.symbols_parentheses, List.cons_subset, List.append_subset] at hsymbols
      have hne := Derivation.operands_ne_nil hdisjuncts
      exact List.forall_mem_singleton.mpr
        (group .or disjuncts hne (ih hsymbols.right.left hdisjuncts))
  | phrase words =>
      cases h
      exact List.forall_mem_singleton.mpr (phrase words (hsymbols List.mem_cons_self))
  | word text =>
      rcases Derivation.operands_word_eq_ok h with ⟨term, hterm, rfl⟩
      have hmem := hsymbols List.mem_cons_self
      rw [← text_of_ofText hterm] at hmem
      exact List.forall_mem_singleton.mpr (word term hmem)

theorem isCanonical_operands {rule : Rule} {derivation : Derivation rule} {plains : List Node}
    (hspellable : ∀ symbol ∈ derivation.symbols, symbol.IsSpellable)
    (h : derivation.operands = .ok plains) : ∀ plain ∈ plains, plain.normal.IsCanonical := by
  refine forall_operands (P := fun plain => plain.normal.IsCanonical) ?group ?not ?phrase ?word
    (List.Subset.refl derivation.symbols) h
  case group => exact fun kind plains => isCanonical_group kind
  case not => exact fun _ child => .not child.normal
  case phrase =>
    intro words hmem
    rcases hspellable _ hmem with ⟨hne, hwords⟩
    exact .phrase words hne hwords
  case word =>
    intro term hmem
    rcases hspellable _ hmem with ⟨hword, hkeyword⟩
    exact .word term hword hkeyword

theorem isCanonical_of_parse {query : Text} {node : Node} (h : Node.parse query = .ok node) :
    node.IsCanonical := by
  rcases exists_derivation_of_parse h with
    ⟨lexemes, derivation, plain, hscan, hsymbols, _, htree, rfl⟩
  rcases bind_eq_ok htree with ⟨operands, hoperands, hplain⟩
  cases hplain
  have hspellable : ∀ symbol ∈ derivation.symbols, symbol.IsSpellable := by
    intro symbol hmem
    rw [hsymbols] at hmem
    rcases List.mem_map.mp hmem with ⟨lexeme, hlexeme, rfl⟩
    exact (Lexeme.spells_of_scanFrom hscan).isSpellable lexeme hlexeme
  exact isCanonical_group .or (Derivation.operands_ne_nil hoperands)
    (isCanonical_operands hspellable hoperands)

end Grammar
end PaperFilter
