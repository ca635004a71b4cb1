import PaperFilter.Proofs.Token

/-!
# Tokens by runs

The chunks of a text are its maximal runs without delimiters, with an empty chunk at each end at
which the text has a delimiter.  Nothing but delimiters is lost between them, and nothing but the
dots that a chunk is cut at is lost between its tokens.
-/

namespace PaperFilter
namespace Token

/-!
## Chunks
-/

/-- An empty chunk, if an end of a text is a delimiter. -/
def endChunk (c : Option Char) : List Text :=
  if c.any isDelimiter then [[]] else []

theorem endChunk_some {c : Char} (h : isDelimiter c = true) : endChunk (some c) = [[]] :=
  if_pos h

theorem endChunk_some_of_not {c : Char} (h : isDelimiter c = false) : endChunk (some c) = [] :=
  if_neg (Bool.eq_false_iff.mp h)

/-- The maximal runs without delimiters, with an empty chunk in front of them if the text begins
with a delimiter, and one behind them if it ends with one. -/
def framedRuns (text : Text) : List Text :=
  endChunk text.head? ++ (Text.runs (fun c => !isDelimiter c) text ++ endChunk text.getLast?)

/-- A delimiter in front of another one leaves no trace; in front of anything else it leaves an
empty chunk. -/
theorem framedRuns_cons_of_delimiter {c : Char} (hc : isDelimiter c = true) (d : Char)
    (rest : Text) :
    framedRuns (c :: d :: rest) =
      if isDelimiter d then framedRuns (d :: rest) else [] :: framedRuns (d :: rest) := by
  rw [framedRuns, framedRuns, Text.runs_cons_of_not (by rw [hc]; rfl), List.getLast?_cons_cons,
    List.head?_cons, List.head?_cons, endChunk_some hc]
  cases hd : isDelimiter d with
  | true =>
      rw [endChunk_some hd]
      rfl
  | false =>
      rw [endChunk_some_of_not hd]
      rfl

/-- A character that is no delimiter belongs to the first chunk, which is empty if a delimiter
follows. -/
theorem framedRuns_cons {c : Char} (hc : isDelimiter c = false) (d : Char) (rest : Text) :
    framedRuns (c :: d :: rest) = Text.consHead c (framedRuns (d :: rest)) := by
  rw [framedRuns, framedRuns, List.getLast?_cons_cons, List.head?_cons, List.head?_cons,
    endChunk_some_of_not hc, List.nil_append, Text.runs, if_pos (by rw [hc]; rfl), List.head?_cons,
    Option.any_some]
  cases hd : isDelimiter d with
  | true =>
      rw [endChunk_some hd]
      rfl
  | false =>
      have hfirst : ∃ first others, Text.runs (fun c => !isDelimiter c) (d :: rest) =
          (d :: first) :: others :=
        Text.exists_runs_eq_cons (by rw [hd]; rfl) rest
      rcases hfirst with ⟨first, others, hruns⟩
      rw [endChunk_some_of_not hd, hruns]
      rfl

theorem chunks_eq_framedRuns {text : Text} (hne : text ≠ []) : chunks text = framedRuns text := by
  induction text with
  | nil => exact absurd rfl hne
  | cons c rest ih =>
      cases rest with
      | nil =>
          cases hc : isDelimiter c <;>
            simp [chunks, framedRuns, endChunk, Text.runs, Text.consHead, hc]
      | cons d rest =>
          have hrest := ih (List.cons_ne_nil d rest)
          cases hc : isDelimiter c with
          | false => rw [chunks_cons_of_not hc, hrest, framedRuns_cons hc]
          | true =>
              rw [chunks, if_pos hc, List.head?_cons, Option.any_some, hrest,
                framedRuns_cons_of_delimiter hc]

theorem flatten_consHead (c : Char) (parts : List Text) :
    (Text.consHead c parts).flatten = c :: parts.flatten := by
  cases parts <;> rfl

/-- The chunks hold what is no delimiter, in order. -/
theorem flatten_chunks (text : Text) :
    (chunks text).flatten = text.filter fun c => !isDelimiter c := by
  induction text with
  | nil => rfl
  | cons c rest ih =>
      cases hc : isDelimiter c with
      | true =>
          rw [chunks, if_pos hc, List.filter_cons_of_neg (by simp [hc])]
          split
          · exact ih
          · exact ih
      | false =>
          rw [chunks_cons_of_not hc, flatten_consHead, ih, List.filter_cons_of_pos (by simp [hc])]

/-!
## Tokens of a chunk
-/

/-- A chunk is its tokens with a dot between each two. -/
theorem joinWith_ofChunk (chunk : Text) : Text.joinWith ['.'] (ofChunk chunk) = chunk := by
  rw [ofChunk]
  split
  · exact Text.joinWith_splitOn '.' chunk
  · rfl

theorem ofChunk_eq (chunk : Text) :
    ofChunk chunk =
      if '.' ∈ chunk ∧ chunk.head? ≠ some '#' ∧ chunk.head? ≠ some '@' then Text.splitOn '.' chunk
      else [chunk] := by
  rw [ofChunk]
  simp [keepsDots]

/-- A chunk is cut at all of its dots or at none. -/
theorem ofChunk_eq_or (chunk : Text) :
    (∃ token, ofChunk chunk = [token]) ∨ ∀ token ∈ ofChunk chunk, '.' ∉ token := by
  rw [ofChunk]
  split
  · exact Or.inr fun token => Text.not_mem_of_mem_splitOn
  · exact Or.inl ⟨chunk, rfl⟩

theorem keepsDots_of_mem_ofChunk {chunk token : Text} (h : token ∈ ofChunk chunk)
    (hdot : '.' ∈ token) : keepsDots token = true := by
  rw [ofChunk] at h
  split at h
  · exact absurd hdot (Text.not_mem_of_mem_splitOn h)
  · next hkeeps =>
      rw [List.mem_singleton] at h
      subst h
      simpa [hdot] using hkeeps

end Token

/-!
## Tokens of a text
-/

theorem isDelimiter_eq_false_of_mem_tokenize {text token : Text} (h : token ∈ tokenize text)
    {c : Char} (hc : c ∈ token) : Token.isDelimiter c = false := by
  rcases exists_chunk_of_mem_tokenize h with ⟨chunk, hchunk, htoken⟩
  have hkept : c ∈ (Token.chunks text).flatten :=
    List.mem_flatten.mpr ⟨chunk, hchunk, Token.mem_of_mem_ofChunk htoken hc⟩
  rw [Token.flatten_chunks, List.mem_filter] at hkept
  simpa using hkept.right

/-- The tokens fall into groups, one for each chunk. -/
theorem exists_groups (text : Text) :
    ∃ groups : List (List Text), groups.flatten = tokenize text ∧
      (groups.map (Text.joinWith ['.'])).flatten = text.filter (fun c => !Token.isDelimiter c) ∧
      ∀ group ∈ groups, (∃ token, group = [token]) ∨ ∀ token ∈ group, '.' ∉ token := by
  cases text with
  | nil => exact ⟨[], rfl, rfl, List.forall_mem_nil _⟩
  | cons c rest =>
      refine ⟨(Token.chunks (c :: rest)).map Token.ofChunk, rfl, ?_, ?_⟩
      · rw [List.map_map, ← Token.flatten_chunks]
        exact congrArg List.flatten
          (List.map_id'' (fun chunk => Token.joinWith_ofChunk chunk) (Token.chunks (c :: rest)))
      · exact List.forall_mem_map.mpr fun chunk _ => Token.ofChunk_eq_or chunk

/--
The tokens of a text come from its maximal runs without delimiters, framed by an empty chunk at each
end that is a delimiter; a chunk is cut at its dots unless it begins with `#` or `@`.  So no token
has a delimiter in it, and none that does not begin with `#` or `@` has a dot.  The tokens fall into
groups; with a dot between each two tokens of a group, which have no dots of their own unless the
group is one token, the groups in a row are the text without its delimiters.
-/
theorem tokenize_eq_framedRuns (text : Text) :
    (tokenize text =
      if text = [] then []
      else (Token.framedRuns text).flatMap fun chunk =>
        if '.' ∈ chunk ∧ chunk.head? ≠ some '#' ∧ chunk.head? ≠ some '@' then
          Text.splitOn '.' chunk
        else [chunk]) ∧
    (∀ token ∈ tokenize text, (∀ c ∈ token, Token.isDelimiter c = false) ∧
      ('.' ∈ token → token.head? = some '#' ∨ token.head? = some '@')) ∧
    ∃ groups : List (List Text), groups.flatten = tokenize text ∧
      (groups.map (Text.joinWith ['.'])).flatten = text.filter (fun c => !Token.isDelimiter c) ∧
      ∀ group ∈ groups, (∃ token, group = [token]) ∨ ∀ token ∈ group, '.' ∉ token := by
  refine ⟨?_, ?_, exists_groups text⟩
  · rw [← funext Token.ofChunk_eq]
    split
    · next hempty =>
        rw [hempty]
        rfl
    · next hne =>
        rw [← Token.chunks_eq_framedRuns hne, tokenize, if_neg (mt List.isEmpty_iff.mp hne)]
  · intro token htoken
    constructor
    · exact fun c hc => isDelimiter_eq_false_of_mem_tokenize htoken hc
    · intro hdot
      rcases exists_chunk_of_mem_tokenize htoken with ⟨chunk, _, hmem⟩
      have hkeeps := Token.keepsDots_of_mem_ofChunk hmem hdot
      simpa [Token.keepsDots] using hkeeps

example : tokenize " see e.g. @bob.smith!".toList =
    ["", "see", "e", "g", "", "@bob.smith", ""].map String.toList := by decide

end PaperFilter
