import Mathlib.Algebra.GroupWithZero.Nat
import Mathlib.Data.List.Forall2
import Pretext.Proofs.Word.Reading

/-! Sentences whose words are given as lists of pieces. Such words are read off the marks again, and
an alignment finds them where no two lengths contradict each other. -/
namespace Pretext

/-- Spans of the given lengths that follow each other from a position on. -/
def Span.consecutive (position : Nat) : List Nat → List Span
  | [] => []
  | length :: rest => ⟨position, position + length⟩ :: consecutive (position + length) rest

namespace Vocabulary

/-- The length of a word of some pieces, which is known if all of them are. -/
def groupLength (vocabulary : Vocabulary) (pieces : List TokenId) : WordLength :=
  if vocabulary.special.unk ∈ pieces then .unknown
  else .chars (pieces.map vocabulary.charCount).sum

/-- The pieces are as long as a word is, or one of the two is unknown. -/
def Matches (vocabulary : Vocabulary) (pieces : List TokenId) : WordLength → Prop
  | .chars count =>
    pieces = [vocabulary.special.unk]
      ∨ vocabulary.special.unk ∉ pieces ∧ (pieces.map vocabulary.charCount).sum = count
  | .unknown => True

variable {vocabulary : Vocabulary} {position reached count : Nat} {length : WordLength}
  {lengths : List WordLength} {pieces more rest : List TokenId} {groups : List (List TokenId)}

theorem groupLength_singleton (id : TokenId) :
    vocabulary.groupLength [id] = vocabulary.tokenLength id := by
  by_cases hId : vocabulary.special.unk = id
  · simp [groupLength, tokenLength, hId]
  · simp [groupLength, tokenLength, hId, Ne.symm hId]

/-- A group that grows by a token grows by the token's length. -/
theorem join_groupLength (pieces : List TokenId) (id : TokenId) :
    (vocabulary.groupLength pieces).join (vocabulary.tokenLength id) =
      vocabulary.groupLength (pieces ++ [id]) := by
  rw [← groupLength_singleton]
  by_cases hPieces : vocabulary.special.unk ∈ pieces
  · simp [groupLength, WordLength.join, hPieces]
  · by_cases hId : vocabulary.special.unk = id
    · simp [groupLength, WordLength.join, hId]
    · simp [groupLength, WordLength.join, hPieces, hId]

private theorem lengthsAfter_append (pieces : List TokenId)
    (hMore : ∀ id ∈ more, vocabulary.continues id = true) :
    vocabulary.lengthsAfter (vocabulary.groupLength pieces) (more ++ rest) =
      vocabulary.lengthsAfter (vocabulary.groupLength (pieces ++ more)) rest := by
  induction more generalizing pieces with
  | nil => rw [List.append_nil, List.nil_append]
  | cons id more ih =>
      obtain ⟨hId, hMore⟩ := List.forall_mem_cons.mp hMore
      rw [List.cons_append, lengthsAfter, if_pos hId, join_groupLength, ih _ hMore,
        List.append_assoc, List.singleton_append]

/-- The tokens of one word make one length. -/
theorem Joined.lengthsAfter {id : TokenId} (hJoined : vocabulary.Joined (id :: more)) :
    vocabulary.lengthsAfter (vocabulary.tokenLength id) (more ++ rest) =
      vocabulary.lengthsAfter (vocabulary.groupLength (id :: more)) rest := by
  rw [← groupLength_singleton]
  exact lengthsAfter_append [id] hJoined.2

/-- The tokens of several words make a length for each of them. -/
private theorem lengthsAfter_flatten (word : WordLength)
    (hJoined : ∀ group ∈ groups, vocabulary.Joined group)
    (hBegins : ∀ group ∈ groups, vocabulary.Begins group) :
    vocabulary.lengthsAfter word groups.flatten = word :: groups.map vocabulary.groupLength := by
  induction groups generalizing word with
  | nil => rfl
  | cons group groups ih =>
      obtain ⟨hGroup, hRest⟩ := List.forall_mem_cons.mp hJoined
      obtain ⟨hFirst, hRestBegins⟩ := List.forall_mem_cons.mp hBegins
      obtain ⟨id, more, rfl⟩ := List.exists_cons_of_ne_nil hGroup.1
      have hId : ¬ vocabulary.continues id = true := by simpa [Begins] using hFirst
      rw [List.flatten_cons, List.cons_append, Vocabulary.lengthsAfter, if_neg hId,
        hGroup.lengthsAfter, ih _ hRest hRestBegins, List.map_cons]

/-- The words of a sentence have the lengths of the lists of pieces it is made of. The first of
these may begin as it will. -/
theorem wordLengths_flatten (hJoined : ∀ group ∈ groups, vocabulary.Joined group)
    (hBegins : ∀ group ∈ groups.tail, vocabulary.Begins group) :
    vocabulary.wordLengths groups.flatten = groups.map vocabulary.groupLength := by
  cases groups with
  | nil => rfl
  | cons group groups =>
      obtain ⟨hGroup, hRest⟩ := List.forall_mem_cons.mp hJoined
      obtain ⟨id, more, rfl⟩ := List.exists_cons_of_ne_nil hGroup.1
      rw [List.flatten_cons, List.cons_append, wordLengths, hGroup.lengthsAfter,
        lengthsAfter_flatten _ hRest hBegins, List.map_cons]

/-- Pieces that have the length of a word reach its end with the last of them and not before, since
each that continues a word has a character at least. -/
theorem Joined.fills (hJoined : vocabulary.Joined pieces) (hKnown : vocabulary.special.unk ∉ pieces)
    (hCount : reached + (pieces.map vocabulary.charCount).sum = count) :
    vocabulary.Fills count reached pieces := by
  induction pieces generalizing reached with
  | nil => exact hJoined.1 rfl
  | cons id rest ih =>
      obtain ⟨hId, hRest⟩ := not_or.mp (mt List.mem_cons.mpr hKnown)
      rw [List.map_cons, List.sum_cons, ← Nat.add_assoc] at hCount
      cases rest with
      | nil => exact Or.inr hCount
      | cons next rest =>
          obtain ⟨hNext, hMore⟩ := List.forall_mem_cons.mp hJoined.2
          have hPos := charCount_pos_of_continues hNext
          refine ⟨Ne.symm hId, ?_, ih ⟨List.cons_ne_nil _ _, hMore⟩ hRest hCount⟩
          rw [List.map_cons, List.sum_cons] at hCount
          omega

/-- Tokens that match the length of a word complete it. -/
theorem Joined.completes (hJoined : vocabulary.Joined pieces) (hMatches : vocabulary.Matches pieces length)
    (hRest : vocabulary.Begins rest) : vocabulary.Completes 0 pieces rest length := by
  cases length with
  | unknown => exact ⟨hJoined, hRest⟩
  | chars count =>
      rcases hMatches with rfl | ⟨hKnown, hSum⟩
      · exact Or.inl rfl
      · exact hJoined.fills hKnown (by rw [Nat.zero_add, hSum])

private theorem begins_flatten (hJoined : ∀ group ∈ groups, vocabulary.Joined group)
    (hBegins : ∀ group ∈ groups, vocabulary.Begins group) : vocabulary.Begins groups.flatten := by
  cases groups with
  | nil => rfl
  | cons group groups =>
      obtain ⟨id, more, rfl⟩ := List.exists_cons_of_ne_nil (hJoined group (List.mem_cons_self ..)).1
      exact hBegins (id :: more) (List.mem_cons_self ..)

/-- A sentence is read as the lists of pieces it is made of when each matches the length at its
place. -/
theorem reads_flatten (hMatches : List.Forall₂ vocabulary.Matches groups lengths)
    (hJoined : ∀ group ∈ groups, vocabulary.Joined group)
    (hBegins : ∀ group ∈ groups.tail, vocabulary.Begins group) :
    vocabulary.Reads position lengths groups.flatten
      (Span.consecutive position (groups.map List.length)) := by
  induction hMatches generalizing position with
  | nil => exact .done position
  | @cons group length groups lengths hFirst hMore ih =>
      obtain ⟨hGroup, hJoined⟩ := List.forall_mem_cons.mp hJoined
      have hRest : ∀ group ∈ groups.tail, vocabulary.Begins group :=
        fun group hGroup => hBegins group (List.mem_of_mem_tail hGroup)
      exact .word (hGroup.completes hFirst (begins_flatten hJoined hBegins)) (ih hJoined hRest)

end Vocabulary

end Pretext
