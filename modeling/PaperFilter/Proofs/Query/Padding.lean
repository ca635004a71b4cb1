import PaperFilter.Proofs.Query.Monotone

/-!
# Spaces around a text

Spaces around a text bring empty tokens and nothing else.  A query holds no empty word and no word
with a space in it: a word that matches an empty token matches every token, and a phrase neither
begins nor ends with a space.  So a query finds in the text with the spaces around it what it finds
in the text without them.
-/

namespace PaperFilter

/-!
## Phrases
-/

/-- A text that is not empty and neither begins nor ends with a space. -/
structure IsSolid (part : Text) : Prop where
  ne_nil : part ≠ []
  head? : part.head? ≠ some ' '
  getLast? : part.getLast? ≠ some ' '

theorem IsWord.isSolid {word : Text} (h : IsWord word) : IsSolid word where
  ne_nil := h.left
  head? hspace := by
    cases h.right ' ' (List.mem_of_head? hspace)
  getLast? hspace := by
    cases h.right ' ' (List.mem_of_getLast? hspace)

theorem IsSolid.append {front rest : Text} (hfront : IsSolid front) (hrest : IsSolid rest)
    (between : Text) : IsSolid (front ++ between ++ rest) where
  ne_nil := List.append_ne_nil_of_right_ne_nil _ hrest.ne_nil
  head? := by
    rcases List.exists_cons_of_ne_nil hfront.ne_nil with ⟨c, front, rfl⟩
    exact hfront.head?
  getLast? := by
    rw [List.getLast?_append_of_ne_nil _ hrest.ne_nil]
    exact hrest.getLast?

theorem isSolid_joinWith {words : List Text} (hne : words ≠ []) (h : ∀ word ∈ words, IsWord word) :
    IsSolid (Text.joinWith [' '] words) := by
  induction words with
  | nil => exact absurd rfl hne
  | cons first rest ih =>
      rcases List.forall_mem_cons.mp h with ⟨hfirst, hrest⟩
      cases rest with
      | nil => exact hfirst.isSolid
      | cons second others =>
          rw [Text.joinWith_cons_cons]
          exact hfirst.isSolid.append (ih (List.cons_ne_nil second others) hrest) [' ']

namespace IsSolid

variable {part before after : Text}

theorem infix_append_left_iff (h : IsSolid part) (hbefore : ∀ c ∈ before, c = ' ') (text : Text) :
    part <:+: before ++ text ↔ part <:+: text := by
  induction before with
  | nil => rfl
  | cons c before ih =>
      rcases List.forall_mem_cons.mp hbefore with ⟨rfl, hrest⟩
      rw [List.cons_append, List.infix_cons_iff, ih hrest]
      apply or_iff_right
      intro hprefix
      rcases List.prefix_cons_iff.mp hprefix with hnil | ⟨rest, hcons, _⟩
      · exact h.ne_nil hnil
      · exact h.head? (hcons ▸ rfl)

theorem infix_append_right_iff (h : IsSolid part) (hafter : ∀ c ∈ after, c = ' ') (text : Text) :
    part <:+: text ++ after ↔ part <:+: text := by
  induction after using List.reverseRecOn with
  | nil => rw [List.append_nil]
  | append_singleton after c ih =>
      rcases List.forall_mem_append.mp hafter with ⟨hfirst, hlast⟩
      rcases List.forall_mem_singleton.mp hlast with rfl
      rw [← List.append_assoc, List.infix_concat_iff, ih hfirst]
      apply or_iff_right
      intro hsuffix
      rcases List.suffix_concat_iff.mp hsuffix with hnil | ⟨front, hconcat, _⟩
      · exact h.ne_nil hnil
      · apply h.getLast?
        rw [hconcat, List.getLast?_concat]

end IsSolid

/-!
## Texts that a query cannot tell apart
-/

namespace Context

/-- What a query can look for is found in both contexts or in neither. -/
structure Agrees (context other : Context) : Prop where
  text : ∀ part, IsSolid part → (part <:+: context.text ↔ part <:+: other.text)
  tokens_ne_nil : context.tokens ≠ [] ∧ other.tokens ≠ []
  tokens : ∀ token, token ≠ [] → (token ∈ context.tokens ↔ token ∈ other.tokens)

theorem agrees_padded {before text after : Text} (hne : text ≠ [])
    (hbefore : ∀ c ∈ before, c = ' ') (hafter : ∀ c ∈ after, c = ' ') :
    (ofText (before ++ (text ++ after))).Agrees (ofText text) where
  text part hpart := by
    rw [ofText, ofText, hpart.infix_append_left_iff hbefore, hpart.infix_append_right_iff hafter]
  tokens_ne_nil := by
    have hwhole : before ++ (text ++ after) ≠ [] :=
      List.append_ne_nil_of_right_ne_nil before (List.append_ne_nil_of_left_ne_nil hne after)
    exact ⟨tokenize_ne_nil hwhole, tokenize_ne_nil hne⟩
  tokens := by
    have hdelimiter : ∀ c : Char, c = ' ' → (!Token.isDelimiter c) = false := by
      intro c hspace
      rw [hspace]
      rfl
    intro token htoken
    rw [ofText, ofText, mem_tokenize_iff htoken, mem_tokenize_iff htoken,
      Text.runs_padded (fun c hc => hdelimiter c (hbefore c hc))
        (fun c hc => hdelimiter c (hafter c hc))]

variable {context other : Context}

theorem Agrees.matchesAny_eq (h : context.Agrees other) {word : Text} (hne : word ≠ []) :
    (Wildcard.ofWord word).matchesAny context.tokens =
      (Wildcard.ofWord word).matchesAny other.tokens := by
  apply Bool.eq_iff_iff.mpr
  constructor
  · exact Wildcard.matchesAny_mono hne h.tokens_ne_nil.right
      fun token hmem htoken => (h.tokens token htoken).mp hmem
  · exact Wildcard.matchesAny_mono hne h.tokens_ne_nil.left
      fun token hmem htoken => (h.tokens token htoken).mpr hmem

end Context

theorem Node.IsCanonical.eval_eq {node : Node} (h : node.IsCanonical) {context other : Context}
    (hagrees : context.Agrees other) : node.eval context = node.eval other := by
  induction h with
  | group kind children _ _ _ ih =>
      apply Bool.eq_iff_iff.mpr
      cases kind with
      | and =>
          rw [Kind.node, eval_and, eval_and, List.all_eq_true, List.all_eq_true]
          exact forall₂_congr fun child hchild => by rw [ih child hchild]
      | or =>
          rw [Kind.node, eval_or, eval_or, List.any_eq_true, List.any_eq_true]
          exact exists_congr fun child => and_congr_right fun hchild => by rw [ih child hchild]
  | not child _ ih => rw [eval_not, eval_not, ih]
  | phrase words hne hwords =>
      rw [eval_phrase, eval_phrase]
      apply Bool.eq_iff_iff.mpr
      rw [Text.occursIn_iff, Text.occursIn_iff]
      exact hagrees.text _ (isSolid_joinWith hne hwords)
  | word term hword _ =>
      rw [eval, eval]
      exact hagrees.matchesAny_eq hword.left

end PaperFilter
