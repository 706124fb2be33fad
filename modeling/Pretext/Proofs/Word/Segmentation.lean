import Pretext.Proofs.Word.Groups
import Pretext.Vocabulary.Basic

/-! What an alignment accepts, told by ranges of the sentence: spans that tile it, one for each word of
the second tokenization, each of which takes the tokens of its word and no more. The words that the
marks tell are such spans where they are as many and as long. -/
namespace Pretext

section

variable {α : Type}

/-- The entries at the positions of a span. -/
def Span.slice (span : Span) (entries : List α) : List α :=
  (entries.drop span.start).take span.length

theorem Span.slice_append (before pieces rest : List α) :
    Span.slice ⟨before.length, before.length + pieces.length⟩ (before ++ (pieces ++ rest)) =
      pieces := by
  rw [slice, length, Nat.add_sub_cancel_left, List.drop_left, List.take_left]

/-- The spans of consecutive groups have these groups as their entries. -/
theorem Span.map_slice_consecutive (before : List α) (groups : List (List α)) :
    (Span.consecutive before.length (groups.map List.length)).map
        (fun span => span.slice (before ++ groups.flatten)) = groups := by
  induction groups generalizing before with
  | nil => rfl
  | cons group groups ih =>
      have hRest := ih (before ++ group)
      rw [List.length_append, List.append_assoc] at hRest
      rw [List.map_cons, Span.consecutive, List.map_cons, List.flatten_cons, slice_append, hRest]

end

namespace Vocabulary

/-- The number of characters that some tokens stand for. -/
def chars (vocabulary : Vocabulary) (pieces : List TokenId) : Nat :=
  (pieces.map vocabulary.charCount).sum

/-- The tokens bring a word of `count` characters to its end with the last of them and not before. The
unknown token takes all that is left. -/
structure Exhausts (vocabulary : Vocabulary) (count : Nat) (pieces : List TokenId) : Prop where
  known : ∀ id ∈ pieces.dropLast, id ≠ vocabulary.special.unk
  short : ∀ part, part <+: pieces → part ≠ [] → part ≠ pieces → vocabulary.chars part < count
  full : pieces.getLast? = some vocabulary.special.unk ∨ vocabulary.chars pieces = count

/-- The tokens at the positions of a span are those of a word. A word of unknown length goes on as far
as the marks say. -/
def Takes (vocabulary : Vocabulary) (sentence : Sentence) (span : Span) : WordLength → Prop
  | .chars count => vocabulary.Exhausts count (span.slice sentence)
  | .unknown =>
    (∀ id ∈ (span.slice sentence).tail, vocabulary.continues id = true)
      ∧ ∀ id, sentence[span.stop]? = some id → vocabulary.continues id = false

/-- The spans divide a sentence among words of the given lengths. -/
structure Divides (vocabulary : Vocabulary) (lengths : List WordLength) (sentence : Sentence)
    (spans : List Span) : Prop where
  tile : Span.Tile 0 sentence.length spans
  takes : List.Forall₂ (vocabulary.Takes sentence) spans lengths

variable {vocabulary : Vocabulary} {count reached : Nat} {pieces rest before sentence : List TokenId}
  {length : WordLength} {lengths : List WordLength} {span : Span} {spans : List Span}

theorem chars_cons (id : TokenId) (pieces : List TokenId) :
    vocabulary.chars (id :: pieces) = vocabulary.charCount id + vocabulary.chars pieces := by
  rw [chars, List.map_cons, List.sum_cons, chars]

/-- Every beginning of a longer word is its first token or goes on behind it. -/
private theorem forall_short_cons {next id : TokenId} {more : List TokenId} :
    (∀ part, part <+: id :: next :: more → part ≠ [] → part ≠ id :: next :: more →
        reached + vocabulary.chars part < count) ↔
      reached + vocabulary.charCount id < count
        ∧ ∀ part, part <+: next :: more → part ≠ [] → part ≠ next :: more →
          reached + vocabulary.charCount id + vocabulary.chars part < count := by
  constructor
  · intro h
    refine ⟨?_, fun part hPart _ hProper => ?_⟩
    · have hFirst := h [id] (List.prefix_cons_inj id |>.mpr List.nil_prefix)
        (List.cons_ne_nil _ _) (by simp)
      rwa [chars_cons, show vocabulary.chars [] = 0 from rfl, Nat.add_zero] at hFirst
    · have hMore := h (id :: part) (List.prefix_cons_inj id |>.mpr hPart) (List.cons_ne_nil _ _)
        (by simpa using hProper)
      rwa [chars_cons, ← Nat.add_assoc] at hMore
  · rintro ⟨hFirst, hMore⟩ part hPart hSome hProper
    rcases List.prefix_cons_iff.mp hPart with rfl | ⟨tail, rfl, hTail⟩
    · exact absurd rfl hSome
    · rw [chars_cons, ← Nat.add_assoc]
      by_cases hNil : tail = []
      · rw [hNil]
        exact hFirst
      · exact hMore tail hTail hNil (by simpa using hProper)

/-- Tokens fill a word if none but the last is unknown, if no beginning of them is enough, and if all
of them are or the last is unknown. -/
theorem fills_iff :
    vocabulary.Fills count reached pieces ↔ pieces ≠ []
      ∧ (∀ id ∈ pieces.dropLast, id ≠ vocabulary.special.unk)
      ∧ (∀ part, part <+: pieces → part ≠ [] → part ≠ pieces →
        reached + vocabulary.chars part < count)
      ∧ (pieces.getLast? = some vocabulary.special.unk
        ∨ reached + vocabulary.chars pieces = count) := by
  induction pieces generalizing reached with
  | nil => simp [Fills]
  | cons id more ih =>
      cases more with
      | nil =>
          have hShort : ∀ part, part <+: [id] → part ≠ [] → part ≠ [id] →
              reached + vocabulary.chars part < count := by
            intro part hPart hSome hProper
            rcases List.prefix_cons_iff.mp hPart with rfl | ⟨tail, rfl, hTail⟩
            · exact absurd rfl hSome
            · exact absurd (by rw [List.prefix_nil.mp hTail]) hProper
          have hChars : vocabulary.chars [id] = vocabulary.charCount id := by
            rw [chars_cons, show vocabulary.chars [] = 0 from rfl, Nat.add_zero]
          rw [Fills, hChars, List.getLast?_singleton, Option.some_inj]
          exact ⟨fun h => ⟨List.cons_ne_nil _ _, by simp, hShort, h⟩, fun h => h.2.2.2⟩
      | cons next more =>
          rw [Fills, ih, forall_short_cons, List.dropLast_cons_cons, List.forall_mem_cons,
            List.getLast?_cons_cons, chars_cons id, ← Nat.add_assoc]
          simp only [ne_eq, reduceCtorEq, not_false_eq_true, true_and]
          tauto

theorem fills_zero_iff :
    vocabulary.Fills count 0 pieces ↔ pieces ≠ [] ∧ vocabulary.Exhausts count pieces := by
  simp only [fills_iff, Nat.zero_add]
  exact and_congr_right fun _ => ⟨fun ⟨hKnown, hShort, hFull⟩ => ⟨hKnown, hShort, hFull⟩,
    fun ⟨hKnown, hShort, hFull⟩ => ⟨hKnown, hShort, hFull⟩⟩

/-- A span takes a word exactly if its tokens complete the word before those behind it. -/
theorem completes_iff_takes (before : List TokenId) :
    vocabulary.Completes 0 pieces rest length ↔ pieces ≠ []
      ∧ vocabulary.Takes (before ++ (pieces ++ rest))
        ⟨before.length, before.length + pieces.length⟩ length := by
  cases length with
  | chars count => rw [Completes, Takes, Span.slice_append, fills_zero_iff]
  | unknown =>
      have hNext : (before ++ (pieces ++ rest))[before.length + pieces.length]? = rest.head? := by
        rw [List.getElem?_append_right (Nat.le_add_right ..), Nat.add_sub_cancel_left,
          List.getElem?_append_right (Nat.le_refl _), Nat.sub_self, List.head?_eq_getElem?]
      rw [Completes, Takes, Span.slice_append, hNext, Joined, Begins, and_assoc,
        Option.any_eq_false]

/-- What is read tiles the sentence, and each span takes its word. -/
private theorem tile_takes_of_reads (before : List TokenId) {position : Nat}
    (h : vocabulary.Reads position lengths rest spans) (hPosition : before.length = position) :
    Span.Tile position (before ++ rest).length spans
      ∧ List.Forall₂ (vocabulary.Takes (before ++ rest)) spans lengths := by
  induction h generalizing before with
  | done position => exact ⟨by simpa [Span.Tile] using hPosition.symm, .nil⟩
  | @word position length lengths pieces rest spans first more ih =>
      obtain ⟨hTile, hTakes⟩ := ih (before ++ pieces) (by rw [List.length_append, hPosition])
      rw [List.append_assoc] at hTile hTakes
      obtain ⟨hPieces, hFirst⟩ := (completes_iff_takes before).mp first
      rw [hPosition] at hFirst
      have hPos : 0 < pieces.length := List.length_pos_iff.mpr hPieces
      exact ⟨⟨rfl, by show position < position + pieces.length; omega, hTile⟩, .cons hFirst hTakes⟩

/-- Tokens up to a later position are cut off, and the span that has them is theirs. -/
private theorem exists_append_of_lt (hStart : span.start = before.length)
    (hStop : before.length < span.stop) (hLast : span.stop ≤ (before ++ rest).length) :
    ∃ pieces more, rest = pieces ++ more ∧ pieces ≠ []
      ∧ span = ⟨before.length, before.length + pieces.length⟩ := by
  rw [List.length_append] at hLast
  have hLength : (rest.take (span.stop - before.length)).length = span.stop - before.length :=
    List.length_take_of_le (by omega)
  refine ⟨rest.take (span.stop - before.length), rest.drop (span.stop - before.length),
    (List.take_append_drop ..).symm, ?_, ?_⟩
  · exact List.length_pos_iff.mp (by omega)
  · rw [hLength, Nat.add_sub_cancel' (Nat.le_of_lt hStop), ← hStart]

/-- Spans that tile a sentence and take their words are what is read. -/
private theorem reads_of_tile_takes (before : List TokenId)
    (hTakes : List.Forall₂ (vocabulary.Takes (before ++ rest)) spans lengths)
    (hTile : Span.Tile before.length (before ++ rest).length spans) :
    vocabulary.Reads before.length lengths rest spans := by
  induction spans generalizing before rest lengths with
  | nil =>
      cases hTakes
      have hNil : rest = [] := by simpa [Span.Tile] using hTile
      rw [hNil]
      exact .done _
  | cons span spans ih =>
      obtain ⟨length, lengths, hFirst, hMore, rfl⟩ := List.forall₂_cons_left_iff.mp hTakes
      obtain ⟨hStart, hStop, hRest⟩ := hTile
      obtain ⟨pieces, more, rfl, hPieces, rfl⟩ := exists_append_of_lt hStart hStop hRest.le
      refine .word ((completes_iff_takes before).mpr ⟨hPieces, hFirst⟩) ?_
      rw [← List.append_assoc] at hMore hRest
      rw [← List.length_append] at hRest ⊢
      exact ih _ hMore hRest

/-- To read a sentence along some words is to divide it among them. -/
theorem reads_iff_divides :
    vocabulary.Reads 0 lengths sentence spans ↔ vocabulary.Divides lengths sentence spans := by
  constructor
  · intro h
    obtain ⟨hTile, hTakes⟩ := tile_takes_of_reads [] h rfl
    exact ⟨hTile, hTakes⟩
  · intro h
    exact reads_of_tile_takes [] h.takes h.tile

/-- The marks group the tokens of a sentence into the lists of pieces it is made of. -/
theorem map_slice_groups {groups : List (List TokenId)}
    (hJoined : ∀ group ∈ groups, vocabulary.Joined group)
    (hBegins : ∀ group ∈ groups.tail, vocabulary.Begins group) :
    (vocabulary.groups groups.flatten).map (fun span => span.slice groups.flatten) = groups := by
  rw [groups_flatten hJoined hBegins]
  exact Span.map_slice_consecutive [] groups

/-- The words of a sentence have the lengths of the tokens that the marks group together. -/
theorem wordLengths_eq_map_groups (vocabulary : Vocabulary) (sentence : Sentence) :
    vocabulary.wordLengths sentence =
      (vocabulary.groups sentence).map fun span => vocabulary.groupLength (span.slice sentence) := by
  obtain ⟨groups, rfl, hJoined, hBegins⟩ := vocabulary.exists_eq_flatten sentence
  rw [wordLengths_flatten hJoined hBegins]
  conv => lhs; rw [← map_slice_groups hJoined hBegins]
  rw [List.map_map]
  rfl

end Vocabulary

/-- An alignment finds the spans that divide the sentence among the words of its second tokenization,
of which there are one list at most. Where there are none, the mismatch is reported for the sentence. -/
theorem aligned_iff_divides (vocabulary alternate : Vocabulary) (sentence second : Sentence)
    (number : Nat) :
    let lengths := (alternate.groups second).map fun span =>
      alternate.groupLength (span.slice second)
    (∀ spans, alignSentence vocabulary sentence alternate second number = .ok spans ↔
        vocabulary.Divides lengths sentence spans)
      ∧ (∀ spans others, vocabulary.Divides lengths sentence spans →
        vocabulary.Divides lengths sentence others → spans = others)
      ∧ ((¬ ∃ spans, vocabulary.Divides lengths sentence spans) →
        ∃ mismatch, alignSentence vocabulary sentence alternate second number =
          .error (.misaligned .alternate (.words number mismatch))) := by
  intro lengths
  have hIff : ∀ spans, alignSentence vocabulary sentence alternate second number = .ok spans ↔
      vocabulary.Divides lengths sentence spans := by
    intro spans
    rw [alignSentence_eq_ok_iff, alternate.wordLengths_eq_map_groups, Vocabulary.reads_iff_divides]
  refine ⟨hIff, ?_, ?_⟩
  · intro spans others hSpans hOthers
    have hSame := ((hIff spans).mpr hSpans).symm.trans ((hIff others).mpr hOthers)
    exact Except.ok.inj hSame
  · intro hNone
    cases hAlign : align vocabulary sentence alternate second with
    | ok spans =>
        have hFound : alignSentence vocabulary sentence alternate second number = .ok spans := by
          rw [alignSentence, hAlign]
          rfl
        exact absurd ⟨spans, (hIff spans).mp hFound⟩ hNone
    | error mismatch =>
        refine ⟨mismatch, ?_⟩
        rw [alignSentence, hAlign]
        rfl

/-- Pieces without marks, of which two make up one word of the other vocabulary. -/
def unmarkedPieces : Vocabulary :=
  .ofTable ["[PAD]", "[UNK]", "[CLS]", "[SEP]", "[MASK]", "the", "ab", "cd", "run", "##ning"]
    ⟨2, 3, 4, 0, 1⟩

def casedPieces : Vocabulary :=
  .ofTable ["[PAD]", "[UNK]", "[CLS]", "[SEP]", "[MASK]", "The", "Run", "##ning", "AbCd"]
    ⟨2, 3, 4, 0, 1⟩

/-- The pieces `ab` and `cd` make up one word, and the unknown word takes the marked piece behind it. -/
theorem aligned_iff_divides_unmarked :
    unmarkedPieces.Divides [.chars 3, .chars 4, .unknown] [5, 6, 7, 8, 9] [⟨0, 1⟩, ⟨1, 3⟩, ⟨3, 5⟩]
      ∧ ∀ others, unmarkedPieces.Divides [.chars 3, .chars 4, .unknown] [5, 6, 7, 8, 9] others →
        others = [⟨0, 1⟩, ⟨1, 3⟩, ⟨3, 5⟩] := by
  obtain ⟨hIff, hUnique, -⟩ :=
    aligned_iff_divides unmarkedPieces casedPieces [5, 6, 7, 8, 9] [5, 8, 1] 0
  have hDivides := (hIff [⟨0, 1⟩, ⟨1, 3⟩, ⟨3, 5⟩]).mp (by decide +kernel)
  have hLengths : ((casedPieces.groups [5, 8, 1]).map fun span =>
      casedPieces.groupLength (span.slice [5, 8, 1])) = [.chars 3, .chars 4, .unknown] := by
    decide +kernel
  rw [hLengths] at hDivides hUnique
  exact ⟨hDivides, fun others hOthers => hUnique _ _ hOthers hDivides⟩

/-- Where the words that the marks tell are as many as those of the second tokenization, and each has
the length of the other or one of the two is unknown, an alignment finds just these. So it does for a
sentence that is its own second tokenization. -/
theorem aligned_eq_groups_of_matches (vocabulary alternate : Vocabulary)
    (sentence second : Sentence) (number : Nat) :
    (List.Forall₂ vocabulary.Matches
        ((vocabulary.groups sentence).map fun span => span.slice sentence)
        (alternate.wordLengths second) →
      alignSentence vocabulary sentence alternate second number =
        .ok (vocabulary.groups sentence))
      ∧ alignSentence vocabulary sentence vocabulary sentence number =
        .ok (vocabulary.groups sentence) := by
  constructor
  · intro hMatches
    obtain ⟨groups, rfl, hJoined, hBegins⟩ := vocabulary.exists_eq_flatten sentence
    rw [Vocabulary.map_slice_groups hJoined hBegins] at hMatches
    exact alignSentence_of_align number (Vocabulary.align_flatten hMatches hJoined hBegins)
  · exact alignSentence_of_align number (align_self vocabulary sentence)

/-- A vocabulary with an entry that has no characters. -/
def hollowPieces : Vocabulary :=
  .ofTable ["[PAD]", "[UNK]", "[CLS]", "[SEP]", "[MASK]", "run", "##ning", ""] ⟨2, 3, 4, 0, 1⟩

/-- The first word has a piece without characters, the third is unknown here and the last is unknown
there. -/
theorem aligned_eq_groups_of_matches_hollow :
    List.Forall₂ hollowPieces.Matches [[7, 6], [5, 6], [1], [5, 6]]
        (casedPieces.wordLengths [8, 6, 7, 5, 1])
      ∧ alignSentence hollowPieces [7, 6, 5, 6, 1, 5, 6] casedPieces [8, 6, 7, 5, 1] 0 =
        .ok [⟨0, 2⟩, ⟨2, 4⟩, ⟨4, 5⟩, ⟨5, 7⟩] := by
  have hLengths : casedPieces.wordLengths [8, 6, 7, 5, 1] =
      [.chars 4, .chars 7, .chars 3, .unknown] := by decide +kernel
  have hGroups : hollowPieces.groups [7, 6, 5, 6, 1, 5, 6] =
      [⟨0, 2⟩, ⟨2, 4⟩, ⟨4, 5⟩, ⟨5, 7⟩] := by decide +kernel
  have hFirst : hollowPieces.Matches [7, 6] (.chars 4) := Or.inr ⟨by decide, by decide +kernel⟩
  have hSecond : hollowPieces.Matches [5, 6] (.chars 7) := Or.inr ⟨by decide, by decide +kernel⟩
  have hMatches : List.Forall₂ hollowPieces.Matches [[7, 6], [5, 6], [1], [5, 6]]
      (casedPieces.wordLengths [8, 6, 7, 5, 1]) := by
    rw [hLengths]
    exact .cons hFirst (.cons hSecond (.cons (Or.inl rfl) (.cons trivial .nil)))
  refine ⟨hMatches, ?_⟩
  rw [← hGroups]
  refine (aligned_eq_groups_of_matches hollowPieces casedPieces _ _ 0).1 ?_
  rw [hGroups]
  exact hMatches

end Pretext
