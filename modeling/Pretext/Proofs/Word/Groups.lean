import Pretext.Proofs.Word.Compatible
import Pretext.Word.Span

/-! The words of a sentence as its marks tell them are the pieces it is made of. An alignment finds the
same words where no length contradicts them, and so it does for a sentence that is its own second
tokenization. -/
namespace Pretext

namespace Vocabulary

variable {vocabulary : Vocabulary} {word : Span} {more rest : List TokenId}
  {groups : List (List TokenId)}

private theorem groupsAfter_append (word : Span)
    (hMore : ∀ id ∈ more, vocabulary.continues id = true) :
    vocabulary.groupsAfter word (more ++ rest) =
      vocabulary.groupsAfter ⟨word.start, word.stop + more.length⟩ rest := by
  induction more generalizing word with
  | nil => rfl
  | cons id more ih =>
      obtain ⟨hId, hMore⟩ := List.forall_mem_cons.mp hMore
      rw [List.cons_append, groupsAfter, if_pos hId, ih _ hMore, List.length_cons,
        Nat.add_right_comm, Nat.add_assoc]

private theorem Joined.groupsAfter {id : TokenId} (position : Nat)
    (hJoined : vocabulary.Joined (id :: more)) :
    vocabulary.groupsAfter ⟨position, position + 1⟩ (more ++ rest) =
      vocabulary.groupsAfter ⟨position, position + (id :: more).length⟩ rest := by
  have hMore : ∀ id ∈ more, vocabulary.continues id = true := hJoined.2
  rw [groupsAfter_append _ hMore, List.length_cons, Nat.add_assoc, Nat.add_comm 1]

/-- The tokens of several words make a group for each of them. -/
private theorem groupsAfter_flatten (word : Span)
    (hJoined : ∀ group ∈ groups, vocabulary.Joined group)
    (hBegins : ∀ group ∈ groups, vocabulary.Begins group) :
    vocabulary.groupsAfter word groups.flatten =
      word :: Span.consecutive word.stop (groups.map List.length) := by
  induction groups generalizing word with
  | nil => rfl
  | cons group groups ih =>
      obtain ⟨hGroup, hRest⟩ := List.forall_mem_cons.mp hJoined
      obtain ⟨hFirst, hRestBegins⟩ := List.forall_mem_cons.mp hBegins
      obtain ⟨id, more, rfl⟩ := List.exists_cons_of_ne_nil hGroup.1
      have hId : ¬ vocabulary.continues id = true := by simpa [Begins] using hFirst
      rw [List.flatten_cons, List.cons_append, Vocabulary.groupsAfter, if_neg hId,
        hGroup.groupsAfter, ih _ hRest hRestBegins]
      rfl

/-- The marks give back the lists of pieces a sentence is made of. The first of these may begin as
it will. -/
theorem groups_flatten (hJoined : ∀ group ∈ groups, vocabulary.Joined group)
    (hBegins : ∀ group ∈ groups.tail, vocabulary.Begins group) :
    vocabulary.groups groups.flatten = Span.consecutive 0 (groups.map List.length) := by
  cases groups with
  | nil => rfl
  | cons group groups =>
      obtain ⟨hGroup, hRest⟩ := List.forall_mem_cons.mp hJoined
      obtain ⟨id, more, rfl⟩ := List.exists_cons_of_ne_nil hGroup.1
      rw [List.flatten_cons, List.cons_append, Vocabulary.groups, hGroup.groupsAfter 0,
        groupsAfter_flatten _ hRest hBegins]
      rfl

/-- Every sentence is made of such lists: a piece that continues a word joins the piece before it. -/
theorem exists_eq_flatten (vocabulary : Vocabulary) (sentence : Sentence) :
    ∃ groups : List (List TokenId), sentence = groups.flatten
      ∧ (∀ group ∈ groups, vocabulary.Joined group)
      ∧ ∀ group ∈ groups.tail, vocabulary.Begins group := by
  induction sentence with
  | nil => exact ⟨[], rfl, by simp, by simp⟩
  | cons id rest ih =>
      obtain ⟨groups, rfl, hJoined, hBegins⟩ := ih
      have hAlone : vocabulary.Joined [id] := ⟨List.cons_ne_nil _ _, by simp⟩
      cases groups with
      | nil => exact ⟨[[id]], rfl, by simpa using hAlone, by simp⟩
      | cons group groups =>
          obtain ⟨hGroup, hRest⟩ := List.forall_mem_cons.mp hJoined
          obtain ⟨next, more, rfl⟩ := List.exists_cons_of_ne_nil hGroup.1
          cases hNext : vocabulary.continues next with
          | true =>
              have hLonger : vocabulary.Joined (id :: next :: more) :=
                ⟨List.cons_ne_nil _ _, List.forall_mem_cons.mpr ⟨hNext, hGroup.2⟩⟩
              exact ⟨(id :: next :: more) :: groups, rfl,
                List.forall_mem_cons.mpr ⟨hLonger, hRest⟩, hBegins⟩
          | false =>
              exact ⟨[id] :: (next :: more) :: groups, rfl,
                List.forall_mem_cons.mpr ⟨hAlone, hJoined⟩,
                List.forall_mem_cons.mpr ⟨hNext, hBegins⟩⟩

theorem matches_groupLength (pieces : List TokenId) :
    vocabulary.Matches pieces (vocabulary.groupLength pieces) := by
  unfold groupLength
  split
  · trivial
  · rename_i hKnown
    exact Or.inr ⟨hKnown, rfl⟩

/-- An alignment finds the lists of pieces that the marks tell if each matches the length at its
place. -/
theorem align_flatten {alternate : Vocabulary} {second : Sentence}
    (hMatches : List.Forall₂ vocabulary.Matches groups (alternate.wordLengths second))
    (hJoined : ∀ group ∈ groups, vocabulary.Joined group)
    (hBegins : ∀ group ∈ groups.tail, vocabulary.Begins group) :
    align vocabulary groups.flatten alternate second = .ok (vocabulary.groups groups.flatten) := by
  rw [align_eq_ok_iff, groups_flatten hJoined hBegins]
  exact reads_flatten hMatches hJoined hBegins

end Vocabulary

/-- Aligned with itself, a sentence falls into the words that its marks tell, whatever its tokens
are spelled as and also where they are unknown. -/
theorem align_self (vocabulary : Vocabulary) (sentence : Sentence) :
    align vocabulary sentence vocabulary sentence = .ok (vocabulary.groups sentence) := by
  obtain ⟨groups, rfl, hJoined, hBegins⟩ := vocabulary.exists_eq_flatten sentence
  refine Vocabulary.align_flatten ?_ hJoined hBegins
  rw [Vocabulary.wordLengths_flatten hJoined hBegins, List.forall₂_map_right_iff, List.forall₂_same]
  exact fun group _ => Vocabulary.matches_groupLength group

end Pretext
