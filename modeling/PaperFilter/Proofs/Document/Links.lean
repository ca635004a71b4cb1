import PaperFilter.Document.Links
import PaperFilter.Proofs.Front
import PaperFilter.Proofs.Text.Cuts

/-!
# Where the links of a text are

Each link is a stretch of the text that begins with a scheme and ends where the next blank stands.
A scheme that a character other than a blank follows is passed over only inside a link that began
before it, and the whole of it is inside then, since no blank stands between the two.
-/

namespace PaperFilter

open Unicode

/-- A stretch of a text, from one position up to another, which is not part of it. -/
structure Stretch where
  start : Nat
  stop : Nat
deriving DecidableEq

namespace Stretch

def content (stretch : Stretch) (text : Text) : Text :=
  (text.take stretch.stop).drop stretch.start

/-- The same stretch behind so many more characters. -/
def shift (count : Nat) (stretch : Stretch) : Stretch :=
  ⟨count + stretch.start, count + stretch.stop⟩

theorem content_shift (front behind : Text) (stretch : Stretch) :
    (stretch.shift front.length).content (front ++ behind) = stretch.content behind := by
  rw [content, shift, List.take_length_add_append, List.drop_length_add_append, content]

end Stretch

namespace Link

def IsScheme (scheme : Text) : Prop :=
  scheme = "http://".toList ∨ scheme = "https://".toList

/-- A scheme and one character behind it that is not blank. -/
def IsOpening (part : Text) : Prop :=
  ∃ scheme c, IsScheme scheme ∧ isBlank c = false ∧ part = scheme ++ [c]

/-- A scheme and more behind it, without a blank, and as far as there is no blank. -/
structure IsLinkIn (text : Text) (stretch : Stretch) : Prop where
  inside : stretch.stop ≤ text.length
  content : ∃ scheme rest, IsScheme scheme ∧ rest ≠ [] ∧ (∀ c ∈ rest, isBlank c = false) ∧
    stretch.content text = scheme ++ rest
  ends : ∀ c, text[stretch.stop]? = some c → isBlank c = true

/-- Links one behind the other, with every scheme that a link could begin with inside one. -/
structure AreLinks (text : Text) (stretches : List Stretch) : Prop where
  apart : stretches.Pairwise fun first second => first.stop ≤ second.start
  links : ∀ stretch ∈ stretches, IsLinkIn text stretch
  whole : ∀ opening position, IsOpening opening → opening <+: text.drop position →
    ∃ stretch ∈ stretches, stretch.start ≤ position ∧ position + opening.length ≤ stretch.stop

/-!
## Openings
-/

theorem mem_schemes_iff {scheme : Text} : scheme ∈ schemes ↔ IsScheme scheme := by
  rw [schemes, List.mem_cons, List.mem_singleton, IsScheme]

theorem follows_iff {scheme text : Text} :
    follows scheme text = true ↔ ∃ c, isBlank c = false ∧ scheme ++ [c] <+: text := by
  have happend : ∀ rest, scheme.isPrefixOf? text = some rest ↔ scheme ++ rest = text :=
    fun _ => List.isPrefixOf?_eq_some_iff_append_eq
  rw [follows]
  constructor
  · intro h
    split at h
    · next c rest hfront =>
        rw [Bool.not_eq_true'] at h
        refine ⟨c, h, rest, ?_⟩
        rw [← (happend _).mp hfront, List.append_assoc, List.singleton_append]
    · cases h
  · rintro ⟨c, hc, rest, htext⟩
    rw [List.append_assoc, List.singleton_append] at htext
    simp only [(happend _).mpr htext, hc, Bool.not_false]

theorem begins_iff {text : Text} :
    begins text = true ↔ ∃ opening, IsOpening opening ∧ opening <+: text := by
  simp only [begins, List.any_eq_true, mem_schemes_iff, follows_iff]
  constructor
  · rintro ⟨scheme, hscheme, c, hc, hfront⟩
    exact ⟨_, ⟨scheme, c, hscheme, hc, rfl⟩, hfront⟩
  · rintro ⟨_, ⟨scheme, c, hscheme, hc, rfl⟩, hfront⟩
    exact ⟨scheme, hscheme, c, hc, hfront⟩

theorem IsScheme.isBlank_eq_false {scheme : Text} (h : IsScheme scheme) :
    ∀ c ∈ scheme, isBlank c = false := by
  have hnone : scheme.all (fun c => !isBlank c) = true := by
    rcases h with rfl | rfl
    · decide
    · decide
  intro c hc
  rw [← Bool.not_eq_true']
  exact List.all_eq_true.mp hnone c hc

theorem IsOpening.isBlank_eq_false {opening : Text} (h : IsOpening opening) :
    ∀ c ∈ opening, (!isBlank c) = true := by
  rcases h with ⟨scheme, c, hscheme, hc, rfl⟩
  intro d hd
  rw [Bool.not_eq_true']
  rcases List.mem_append.mp hd with hmem | hmem
  · exact hscheme.isBlank_eq_false d hmem
  · rwa [List.mem_singleton.mp hmem]

theorem IsOpening.ne_nil {opening : Text} (h : IsOpening opening) : opening ≠ [] := by
  rcases h with ⟨scheme, c, _, _, rfl⟩
  exact List.append_ne_nil_of_right_ne_nil scheme (List.cons_ne_nil c [])

theorem head_of_begins {c : Char} {rest : Text} (h : begins (c :: rest) = true) :
    (!isBlank c) = true := by
  rcases begins_iff.mp h with ⟨opening, hopening, hfront⟩
  rcases List.exists_cons_of_ne_nil hopening.ne_nil with ⟨d, others, rfl⟩
  rw [(List.cons_prefix_cons.mp hfront).left.symm]
  exact hopening.isBlank_eq_false d List.mem_cons_self

/-!
## Links behind other text
-/

section

variable {front behind opening : Text} {stretch : Stretch} {stretches : List Stretch}
  {position : Nat}

theorem IsLinkIn.shift (h : IsLinkIn behind stretch) (front : Text) :
    IsLinkIn (front ++ behind) (stretch.shift front.length) where
  inside := by
    rw [List.length_append]
    exact Nat.add_le_add_left h.inside _
  content := by
    rw [Stretch.content_shift]
    exact h.content
  ends := by
    rw [Stretch.shift, List.getElem?_append_right (Nat.le_add_right _ _), Nat.add_sub_cancel_left]
    exact h.ends

variable (h : AreLinks behind stretches)
include h

theorem AreLinks.apart_shift (count : Nat) :
    (stretches.map (Stretch.shift count)).Pairwise
      fun first second => first.stop ≤ second.start := by
  rw [List.pairwise_map]
  exact h.apart.imp (Nat.add_le_add_left · count)

theorem AreLinks.links_shift (front : Text) :
    ∀ stretch ∈ stretches.map (Stretch.shift front.length), IsLinkIn (front ++ behind) stretch := by
  intro shifted hshifted
  rcases List.mem_map.mp hshifted with ⟨stretch, hstretch, rfl⟩
  exact (h.links stretch hstretch).shift front

/-- What begins behind the front is inside a link that was there without the front. -/
theorem AreLinks.whole_shift (hopening : IsOpening opening)
    (hfront : opening <+: (front ++ behind).drop position) (hle : front.length ≤ position) :
    ∃ stretch ∈ stretches.map (Stretch.shift front.length),
      stretch.start ≤ position ∧ position + opening.length ≤ stretch.stop := by
  obtain ⟨offset, rfl⟩ := Nat.exists_eq_add_of_le hle
  rw [List.drop_length_add_append] at hfront
  rcases h.whole opening offset hopening hfront with ⟨stretch, hstretch, hstart, hstop⟩
  refine ⟨_, List.mem_map_of_mem hstretch, Nat.add_le_add_left hstart _, ?_⟩
  rw [Nat.add_assoc]
  exact Nat.add_le_add_left hstop _

/-- A character at which no link begins is passed over. -/
theorem AreLinks.skip {c : Char} (hnone : ¬ begins (c :: behind) = true) :
    AreLinks (c :: behind) (stretches.map (Stretch.shift 1)) where
  apart := h.apart_shift 1
  links := h.links_shift [c]
  whole := by
    intro opening position hopening hfront
    cases position with
    | zero => exact absurd (begins_iff.mpr ⟨opening, hopening, hfront⟩) hnone
    | succ position => exact @whole_shift [c] _ _ _ _ h hopening hfront (Nat.le_add_left _ _)

section

variable {link : Text} (hlink : ∀ c ∈ link, (!isBlank c) = true)
  (hends : behind.head?.any (fun c => !isBlank c) = false)
include hlink hends

omit h in
theorem isLinkIn_front (hbegins : begins (link ++ behind) = true) :
    IsLinkIn (link ++ behind) ⟨0, link.length⟩ where
  inside := by
    rw [List.length_append]
    exact Nat.le_add_right _ _
  content := by
    rcases begins_iff.mp hbegins with ⟨opening, hopening, hfront⟩
    rcases Text.prefix_of_prefix_append hfront hopening.isBlank_eq_false hends with ⟨rest, rfl⟩
    rcases hopening with ⟨scheme, c, hscheme, _, rfl⟩
    refine ⟨scheme, c :: rest, hscheme, List.cons_ne_nil c rest, ?_, ?_⟩
    · intro d hd
      rw [← Bool.not_eq_true']
      apply hlink
      rw [List.append_assoc]
      exact List.mem_append_right scheme hd
    · rw [Stretch.content, List.take_left, List.drop_zero, List.append_assoc,
        List.singleton_append]
  ends := by
    rw [List.getElem?_append_right (Nat.le_refl _), Nat.sub_self, ← List.head?_eq_getElem?]
    intro c hc
    rwa [hc, Option.any_some, Bool.not_eq_false'] at hends

/-- A link at the front, and everything inside it, is one link. -/
theorem AreLinks.cons (hbegins : begins (link ++ behind) = true) :
    AreLinks (link ++ behind)
      (⟨0, link.length⟩ :: stretches.map (Stretch.shift link.length)) where
  apart := by
    refine List.pairwise_cons.mpr ⟨?_, h.apart_shift _⟩
    intro shifted hshifted
    rcases List.mem_map.mp hshifted with ⟨stretch, _, rfl⟩
    exact Nat.le_add_right _ _
  links := List.forall_mem_cons.mpr ⟨isLinkIn_front hlink hends hbegins, h.links_shift link⟩
  whole := by
    intro opening position hopening hfront
    by_cases hposition : position < link.length
    · rw [List.drop_append_of_le_length (Nat.le_of_lt hposition)] at hfront
      have hinside := Text.prefix_of_prefix_append hfront hopening.isBlank_eq_false hends
      have hlength : position + opening.length ≤ link.length := by
        have hle := hinside.length_le
        rw [List.length_drop] at hle
        omega
      exact ⟨_, List.mem_cons_self, Nat.zero_le _, hlength⟩
    · rcases h.whole_shift hopening hfront (Nat.le_of_not_lt hposition) with
        ⟨stretch, hstretch, hbounds⟩
      exact ⟨stretch, List.mem_cons_of_mem _ hstretch, hbounds⟩

end

end

end Link

/-!
## All links
-/

/--
The links of a text are the contents of stretches of it, one behind the other.  Each is a scheme and
one or more characters that are not blank, with a blank or the end of the text behind it, and every
scheme in the text that a character other than a blank follows lies, with this character, inside one
of them.
-/
theorem links_eq_contents (text : Text) :
    ∃ stretches, Link.AreLinks text stretches ∧
      links text = stretches.map fun stretch => stretch.content text := by
  fun_induction links text with
  | case1 =>
      refine ⟨[], ⟨.nil, List.forall_mem_nil _, ?_⟩, rfl⟩
      intro opening position hopening hfront
      rw [List.drop_nil, List.prefix_nil] at hfront
      exact absurd hfront hopening.ne_nil
  | case2 c rest hbegins others behind _ hread ih =>
      rcases ih with ⟨stretches, hlinks, hcontents⟩
      rcases eq_append_of_readWhile hread with ⟨rfl, hothers, hends⟩
      have hlink : ∀ d ∈ c :: others, (!isBlank d) = true :=
        List.forall_mem_cons.mpr ⟨Link.head_of_begins hbegins, hothers⟩
      refine ⟨_, hlinks.cons hlink hends hbegins, ?_⟩
      rw [List.map_cons, List.map_map, hcontents]
      congr 1
      · exact List.take_left.symm
      · exact List.map_congr_left fun stretch _ => (stretch.content_shift (c :: others) behind).symm
  | case3 c rest hnone ih =>
      rcases ih with ⟨stretches, hlinks, hcontents⟩
      refine ⟨_, hlinks.skip hnone, ?_⟩
      rw [hcontents, List.map_map]
      exact List.map_congr_left fun stretch _ => (stretch.content_shift [c] rest).symm

end PaperFilter
