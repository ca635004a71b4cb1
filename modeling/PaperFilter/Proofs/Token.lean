import PaperFilter.Proofs.Text.Runs
import PaperFilter.Token

/-!
# Tokens between delimiters

A delimiter cuts a text in two whose chunks are found by themselves, so that a stretch without
delimiters and dots between two of them is a token.  Tokens hold nothing that the text does not.
But for empty ones, tokens come from the maximal runs without delimiters.
-/

namespace PaperFilter

namespace Text

theorem mem_of_mem_consHead {c d : Char} {part : Text} {parts : List Text}
    (hpart : part ∈ consHead c parts) (hd : d ∈ part) : d = c ∨ ∃ other ∈ parts, d ∈ other := by
  cases parts with
  | nil =>
      rw [consHead, List.mem_singleton] at hpart
      rw [hpart, List.mem_singleton] at hd
      exact Or.inl hd
  | cons first rest =>
      rw [consHead] at hpart
      rcases List.mem_cons.mp hpart with rfl | hmem
      · rcases List.mem_cons.mp hd with rfl | hfirst
        · exact Or.inl rfl
        · exact Or.inr ⟨first, List.mem_cons_self, hfirst⟩
      · exact Or.inr ⟨part, List.mem_cons_of_mem first hmem, hd⟩

theorem mem_of_mem_splitOn {separator d : Char} {text part : Text}
    (hpart : part ∈ splitOn separator text) (hd : d ∈ part) : d ∈ text := by
  induction text generalizing part with
  | nil =>
      rw [splitOn, List.mem_singleton] at hpart
      rw [hpart] at hd
      cases hd
  | cons c rest ih =>
      rw [splitOn] at hpart
      split at hpart
      · rcases List.mem_cons.mp hpart with rfl | hmem
        · cases hd
        · exact List.mem_cons_of_mem c (ih hmem hd)
      · rcases mem_of_mem_consHead hpart hd with rfl | ⟨other, hother, hmem⟩
        · exact List.mem_cons_self
        · exact List.mem_cons_of_mem c (ih hother hmem)

theorem not_mem_of_mem_splitOn {separator : Char} {text part : Text}
    (h : part ∈ splitOn separator text) : separator ∉ part := by
  induction text generalizing part with
  | nil =>
      rw [splitOn, List.mem_singleton] at h
      rw [h]
      exact List.not_mem_nil
  | cons c rest ih =>
      rw [splitOn] at h
      split at h
      · rcases List.mem_cons.mp h with rfl | hmem
        · exact List.not_mem_nil
        · exact ih hmem
      · next hc =>
          rcases List.exists_cons_of_ne_nil (splitOn_ne_nil separator rest) with
            ⟨first, others, hsplit⟩
          rw [hsplit, consHead] at h
          rw [hsplit, List.forall_mem_cons] at ih
          rcases List.mem_cons.mp h with rfl | hmem
          · exact List.not_mem_cons_of_ne_of_not_mem (Ne.symm hc) ih.left
          · exact ih.right part hmem

theorem length_splitOn (separator : Char) (text : Text) :
    (splitOn separator text).length = text.count separator + 1 := by
  induction text with
  | nil => rfl
  | cons c rest ih =>
      rw [splitOn]
      split
      · next hc => rw [List.length_cons, ih, hc, List.count_cons_self]
      · next hc =>
          rw [List.count_cons_of_ne hc, ← ih]
          rcases List.exists_cons_of_ne_nil (splitOn_ne_nil separator rest) with
            ⟨first, others, hsplit⟩
          rw [hsplit]
          rfl

theorem splitOn_of_not_mem {separator : Char} {text : Text} (h : separator ∉ text) :
    splitOn separator text = [text] := by
  induction text with
  | nil => rfl
  | cons c rest ih =>
      rw [List.mem_cons, not_or] at h
      rcases h with ⟨hc, hrest⟩
      rw [splitOn, if_neg (Ne.symm hc), ih hrest]
      rfl

end Text

namespace Token

/-!
## Chunks
-/

theorem chunks_cons_of_not {c : Char} (h : isDelimiter c = false) (rest : Text) :
    chunks (c :: rest) = Text.consHead c (chunks rest) := by
  rw [chunks, if_neg (Bool.eq_false_iff.mp h)]

/-- What follows a run of delimiters is cut by itself. -/
theorem exists_chunks_append_cons {d : Char} {rest : Text} (hd : isDelimiter d = true)
    (hrest : rest.head?.any isDelimiter = false) (front : Text) :
    ∃ before, chunks (front ++ d :: rest) = before ++ chunks rest ∧ before ≠ [] := by
  induction front with
  | nil =>
      refine ⟨[[]], ?_, List.cons_ne_nil _ _⟩
      rw [List.nil_append, chunks, if_pos hd, if_neg (Bool.eq_false_iff.mp hrest)]
      rfl
  | cons c front ih =>
      rcases ih with ⟨before, hbefore, hne⟩
      rw [List.cons_append, chunks, hbefore]
      split
      · split
        · exact ⟨before, rfl, hne⟩
        · exact ⟨[] :: before, rfl, List.cons_ne_nil _ _⟩
      · cases before with
        | nil => exact absurd rfl hne
        | cons first others => exact ⟨(c :: first) :: others, rfl, List.cons_ne_nil _ _⟩

theorem exists_chunks_eq_nil_cons {text : Text} (h : text.head?.all isDelimiter = true) :
    ∃ others, chunks text = [] :: others := by
  induction text with
  | nil => exact ⟨[], rfl⟩
  | cons c rest ih =>
      have hc : isDelimiter c = true := h
      rw [chunks, if_pos hc]
      split
      · next hnext =>
          apply ih
          cases rest with
          | nil => rfl
          | cons d rest => exact hnext
      · exact ⟨chunks rest, rfl⟩

/-- A stretch without delimiters up to a delimiter, or the end, is the first chunk. -/
theorem exists_chunks_append {token behind : Text} (htoken : ∀ c ∈ token, isDelimiter c = false)
    (hbehind : behind.head?.all isDelimiter = true) :
    ∃ others, chunks (token ++ behind) = token :: others := by
  induction token with
  | nil => exact exists_chunks_eq_nil_cons hbehind
  | cons c token ih =>
      rcases List.forall_mem_cons.mp htoken with ⟨hc, hrest⟩
      rcases ih hrest with ⟨others, hothers⟩
      refine ⟨others, ?_⟩
      rw [List.cons_append, chunks_cons_of_not hc, hothers]
      rfl

/-- The chunks that are not empty are the maximal runs without delimiters. -/
theorem filter_chunks (text : Text) :
    (chunks text).filter (fun chunk => !chunk.isEmpty) =
      Text.runs (fun c => !isDelimiter c) text := by
  induction text with
  | nil => rfl
  | cons c rest ih =>
      cases hc : isDelimiter c with
      | true =>
          rw [Text.runs_cons_of_not (by rw [hc]; rfl), ← ih, chunks, if_pos hc]
          split
          · rfl
          · rfl
      | false =>
          rw [chunks_cons_of_not hc, Text.runs, if_pos (by rw [hc]; rfl), ← ih]
          cases rest with
          | nil => rfl
          | cons d rest =>
              cases hd : isDelimiter d with
              | true =>
                  have hhead : (d :: rest).head?.all isDelimiter = true := hd
                  rcases exists_chunks_eq_nil_cons hhead with ⟨others, hothers⟩
                  rw [hothers, List.head?_cons, Option.any_some, hd]
                  rfl
              | false =>
                  rw [chunks_cons_of_not hd, List.head?_cons, Option.any_some, hd]
                  cases chunks rest <;> rfl

theorem mem_of_mem_chunks {d : Char} {text chunk : Text} (hchunk : chunk ∈ chunks text)
    (hd : d ∈ chunk) : d ∈ text := by
  induction text generalizing chunk with
  | nil =>
      rw [chunks, List.mem_singleton] at hchunk
      rw [hchunk] at hd
      cases hd
  | cons c rest ih =>
      rw [chunks] at hchunk
      split at hchunk
      · split at hchunk
        · exact List.mem_cons_of_mem c (ih hchunk hd)
        · rcases List.mem_cons.mp hchunk with rfl | hmem
          · cases hd
          · exact List.mem_cons_of_mem c (ih hmem hd)
      · rcases Text.mem_of_mem_consHead hchunk hd with rfl | ⟨other, hother, hmem⟩
        · exact List.mem_cons_self
        · exact List.mem_cons_of_mem c (ih hother hmem)

theorem mem_of_mem_ofChunk {chunk token : Text} (h : token ∈ ofChunk chunk) {c : Char}
    (hc : c ∈ token) : c ∈ chunk := by
  rw [ofChunk] at h
  split at h
  · exact Text.mem_of_mem_splitOn h hc
  · rw [List.mem_singleton] at h
    rwa [h] at hc

end Token

/-!
## Tokens
-/

theorem exists_chunk_of_mem_tokenize {text token : Text} (h : token ∈ tokenize text) :
    ∃ chunk ∈ Token.chunks text, token ∈ Token.ofChunk chunk := by
  rw [tokenize] at h
  split at h
  · cases h
  · exact List.mem_flatMap.mp h

/-- A stretch without delimiters and dots is a token if there is nothing, or a delimiter, on each
side of it. -/
theorem mem_tokenize {front token behind : Text} (hne : token ≠ [])
    (htoken : ∀ c ∈ token, Token.isDelimiter c = false ∧ c ≠ '.')
    (hfront : front.getLast?.all Token.isDelimiter = true)
    (hbehind : behind.head?.all Token.isDelimiter = true) :
    token ∈ tokenize (front ++ (token ++ behind)) := by
  rcases Token.exists_chunks_append (fun c hc => (htoken c hc).left) hbehind with ⟨others, hothers⟩
  have hchunk : token ∈ Token.chunks (front ++ (token ++ behind)) := by
    rcases List.eq_nil_or_concat front with rfl | ⟨before, d, rfl⟩
    · rw [List.nil_append, hothers]
      exact List.mem_cons_self
    · have hd : Token.isDelimiter d = true := by simpa using hfront
      have hhead : (token ++ behind).head?.any Token.isDelimiter = false := by
        rcases List.exists_cons_of_ne_nil hne with ⟨c, letters, rfl⟩
        exact (htoken c List.mem_cons_self).left
      rcases Token.exists_chunks_append_cons hd hhead before with ⟨chunks, hchunks, _⟩
      rw [List.concat_eq_append, List.append_assoc, List.singleton_append, hchunks, hothers]
      exact List.mem_append_right chunks List.mem_cons_self
  have hdot : token.contains '.' = false := by
    rw [← Bool.not_eq_true, List.contains_iff_mem]
    exact fun hmem => (htoken '.' hmem).right rfl
  have htext : (front ++ (token ++ behind)).isEmpty = false := by
    simp [hne]
  rw [tokenize, htext, if_neg Bool.false_ne_true]
  refine List.mem_flatMap.mpr ⟨token, hchunk, ?_⟩
  rw [Token.ofChunk, hdot, Bool.false_and, if_neg Bool.false_ne_true]
  exact List.mem_singleton_self token

/-- The tokens that are not empty come from the runs without delimiters. -/
theorem mem_tokenize_iff {text token : Text} (hne : token ≠ []) :
    token ∈ tokenize text ↔
      ∃ run ∈ Text.runs (fun c => !Token.isDelimiter c) text, token ∈ Token.ofChunk run := by
  rw [← Token.filter_chunks]
  constructor
  · intro h
    rcases exists_chunk_of_mem_tokenize h with ⟨chunk, hchunk, htoken⟩
    refine ⟨chunk, List.mem_filter.mpr ⟨hchunk, ?_⟩, htoken⟩
    cases chunk with
    | nil => exact absurd (List.mem_singleton.mp htoken) hne
    | cons c chunk => rfl
  · rintro ⟨run, hrun, htoken⟩
    rcases List.mem_filter.mp hrun with ⟨hchunk, hempty⟩
    rw [tokenize, if_neg]
    · exact List.mem_flatMap.mpr ⟨run, hchunk, htoken⟩
    · intro htext
      rw [List.isEmpty_iff.mp htext, Token.chunks, List.mem_singleton] at hchunk
      rw [hchunk] at hempty
      cases hempty

theorem tokenize_ne_nil {text : Text} (h : text ≠ []) : tokenize text ≠ [] := by
  have hchunks : Token.chunks text ≠ [] := by
    clear h
    induction text with
    | nil => exact List.cons_ne_nil _ _
    | cons c rest ih =>
        rw [Token.chunks]
        split
        · split
          · exact ih
          · exact List.cons_ne_nil _ _
        · cases Token.chunks rest <;> exact List.cons_ne_nil _ _
  rcases List.exists_cons_of_ne_nil hchunks with ⟨chunk, others, hothers⟩
  have hchunk : Token.ofChunk chunk ≠ [] := by
    rw [Token.ofChunk]
    split
    · exact Text.splitOn_ne_nil '.' chunk
    · exact List.cons_ne_nil _ _
  rw [tokenize, if_neg (mt List.isEmpty_iff.mp h), hothers, List.flatMap_cons]
  exact List.append_ne_nil_of_left_ne_nil hchunk _

theorem mem_of_mem_tokenize {c : Char} {text token : Text} (htoken : token ∈ tokenize text)
    (hc : c ∈ token) : c ∈ text := by
  rcases exists_chunk_of_mem_tokenize htoken with ⟨chunk, hchunk, hmem⟩
  exact Token.mem_of_mem_chunks hchunk (Token.mem_of_mem_ofChunk hmem hc)

end PaperFilter
