import Pretext.Proofs.Masked.Sample

/-! A word is hidden in one piece or not at all, and so is every run of marked words. -/
namespace Pretext

/-- What is the same from each position to the next is the same from the first to the last. -/
private theorem eq_of_forall_succ_eq {α : Type} {f : Nat → α} {first last : Nat} (h : first ≤ last)
    (hStep : ∀ position, first ≤ position → position < last → f position = f (position + 1)) :
    f first = f last := by
  induction h with
  | refl => rfl
  | @step last hLe ih =>
      rw [ih fun position hFirst hLast => hStep position hFirst (by omega)]
      exact hStep last hLe (Nat.lt_succ_self last)

namespace Candidates

theorem isMarked_eq_true {values : List UInt32} {payload : Nat} {word : Span}
    (h : ∃ position ∈ word.positions, ∃ value, values[position - 1]? = some value ∧ value ≠ 0)
    (hFirst : 1 ≤ word.start) (hLast : word.stop ≤ payload + 1) :
    isMarked (values.take payload) word = true := by
  obtain ⟨position, hPosition, value, hValue, hNe⟩ := h
  have hBounds := Span.mem_positions.mp hPosition
  apply List.any_eq_true.mpr
  refine ⟨position, hPosition, ?_⟩
  rw [List.getElem?_take_of_lt (by omega), hValue]
  simpa using hNe

end Candidates

namespace Masker

variable {masker : Masker} {block : Block} {sample : MaskedSample} {g : Generator}

namespace Selects

variable {words salient plain : List Span} {candidate : Span} {position other : Nat}

/-- Candidates are selected whole. -/
theorem mem_selected_of_candidate (h : masker.Selects block words salient plain sample)
    (hCandidate : candidate ∈ (block.candidates (masker.payload block).length words).all)
    (hPosition : position ∈ candidate.positions) (hOther : other ∈ candidate.positions)
    (hSelected : position ∈ masker.selected block salient plain) :
    other ∈ masker.selected block salient plain := by
  obtain ⟨span, hSpan, hIn⟩ := List.mem_flatMap.mp hSelected
  have hOffered : candidate ∈ salient ++ plain :=
    (h.salient_perm.append h.plain_perm).mem_iff.mpr hCandidate
  have hEq : span = candidate :=
    Span.eq_of_mem_positions h.offered_nodup ((select_sublist _ _).subset hSpan) hOffered hIn hPosition
  rw [hEq] at hSpan
  exact List.mem_flatMap.mpr ⟨candidate, hSpan, hOther⟩

/-- A candidate is hidden in one piece. -/
theorem lossMask_eq_of_candidate (h : masker.Selects block words salient plain sample)
    (hCandidate : candidate ∈ (block.candidates (masker.payload block).length words).all)
    (hPosition : position ∈ candidate.positions) (hOther : other ∈ candidate.positions) :
    sample.lossMask[position]? = sample.lossMask[other]? := by
  have hFits := h.fits
  have hInside : ∀ inner ∈ candidate.positions, inner < masker.length := by
    intro inner hInner
    have hWords := (Block.candidates_perm h.tile).mem_iff.mp
      (List.mem_flatMap.mpr ⟨candidate, hCandidate, hInner⟩)
    have hBounds := h.tile.mem_flatMap_positions.mp hWords
    omega
  by_cases hSelected : position ∈ masker.selected block salient plain
  · rw [h.lossMask_of_mem hSelected,
      h.lossMask_of_mem (h.mem_selected_of_candidate hCandidate hPosition hOther hSelected)]
  · have hOtherSelected : other ∉ masker.selected block salient plain :=
      fun hIn => hSelected (h.mem_selected_of_candidate hCandidate hOther hPosition hIn)
    rw [h.lossMask_of_not_mem (hInside position hPosition) hSelected,
      h.lossMask_of_not_mem (hInside other hOther) hOtherSelected]

/-- Neighbouring positions of one word are hidden together. -/
theorem lossMask_succ_of_word (h : masker.Selects block words salient plain sample) {word : Span}
    (hWord : word ∈ words) (hPosition : position ∈ word.positions)
    (hNext : position + 1 ∈ word.positions) :
    sample.lossMask[position]? = sample.lossMask[position + 1]? := by
  obtain ⟨candidate, hCandidate, hIn, hNextIn⟩ :=
    Block.exists_candidate_of_word h.tile hWord hPosition hNext
  exact h.lossMask_eq_of_candidate hCandidate hIn hNextIn

/-- All positions of a word are to be predicted, or none. -/
theorem lossMask_eq_of_word (h : masker.Selects block words salient plain sample) {word : Span}
    (hWord : word ∈ words) (hPosition : position ∈ word.positions)
    (hOther : other ∈ word.positions) (hLe : position ≤ other) :
    sample.lossMask[position]? = sample.lossMask[other]? := by
  rw [Span.mem_positions] at hPosition hOther
  apply eq_of_forall_succ_eq (f := fun position => sample.lossMask[position]?) hLe
  intro between hFirst hLast
  exact h.lossMask_succ_of_word hWord (Span.mem_positions.mpr (by omega))
    (Span.mem_positions.mpr (by omega))

/-- Neighbouring positions of marked words are hidden together, also where one word ends. -/
theorem lossMask_succ_of_marked (h : masker.Selects block words salient plain sample)
    {values : List (List UInt32)} (hValues : block.auxiliary = some values)
    (hFirst : 1 ≤ position) (hLast : position < (masker.payload block).length)
    (hMarked : ∀ word ∈ words, position ∈ word.positions ∨ position + 1 ∈ word.positions →
      Candidates.isMarked (values.flatten.take (masker.payload block).length) word = true) :
    sample.lossMask[position]? = sample.lossMask[position + 1]? := by
  obtain ⟨word, hWord, hPosition⟩ := h.tile.exists_mem hFirst (by omega)
  obtain ⟨next, hNext, hNextPosition⟩ :=
    h.tile.exists_mem (show 1 ≤ position + 1 by omega) (show _ < _ + 1 by omega)
  obtain ⟨candidate, hCandidate, hIn, hNextIn⟩ :=
    Block.exists_candidate_of_marked h.tile hValues hWord hNext
      (hMarked word hWord (Or.inl hPosition)) (hMarked next hNext (Or.inr hNextPosition))
      hPosition hNextPosition
  exact h.lossMask_eq_of_candidate hCandidate hIn hNextIn

end Selects

/-- The words of a block cover its payload, and each of them is hidden in one piece or not at all,
however it was cut off at the end of the frame. So is every range of the payload of which all words
have a marked position, across the ends of sentences too. -/
theorem lossMask_eq_of_build (h : (masker.build block g).1 = .ok sample) :
    (∀ position, 1 ≤ position → position ≤ (masker.payload block).length →
      ∃ word, block.IsWord masker.vocabulary (masker.payload block).length word
        ∧ position ∈ word.positions)
    ∧ (∀ word, block.IsWord masker.vocabulary (masker.payload block).length word →
      ∀ position ∈ word.positions, ∀ other ∈ word.positions,
        sample.lossMask[position]? = sample.lossMask[other]?)
    ∧ ∀ values, block.auxiliary = some values → ∀ first last, 1 ≤ first → first ≤ last →
      last ≤ (masker.payload block).length →
      (∀ word, block.IsWord masker.vocabulary (masker.payload block).length word →
        (∃ position ∈ word.positions, first ≤ position ∧ position ≤ last) →
        ∃ position ∈ word.positions, ∃ value,
          values.flatten[position - 1]? = some value ∧ value ≠ 0) →
      sample.lossMask[first]? = sample.lossMask[last]? := by
  obtain ⟨words, salient, plain, hSelects⟩ := exists_selects_of_build h
  have hWords : ∀ word, word ∈ words ↔
      block.IsWord masker.vocabulary (masker.payload block).length word :=
    fun word => Block.mem_words hSelects.words_eq
  refine ⟨?_, ?_, ?_⟩
  · intro position hFirst hLast
    obtain ⟨word, hWord, hPosition⟩ := hSelects.tile.exists_mem hFirst (by omega)
    exact ⟨word, (hWords word).mp hWord, hPosition⟩
  · intro word hWord position hPosition other hOther
    have hIn := (hWords word).mpr hWord
    rcases Nat.le_total position other with hLe | hLe
    · exact hSelects.lossMask_eq_of_word hIn hPosition hOther hLe
    · exact (hSelects.lossMask_eq_of_word hIn hOther hPosition hLe).symm
  · intro values hValues first last hFirst hLe hLast hMarked
    apply eq_of_forall_succ_eq (f := fun position => sample.lossMask[position]?) hLe
    intro position hPosition hLt
    apply hSelects.lossMask_succ_of_marked hValues (by omega) (by omega)
    intro word hWord hNear
    obtain ⟨hStart, -, hStop⟩ := hSelects.tile.bounds hWord
    apply Candidates.isMarked_eq_true _ hStart hStop
    apply hMarked word ((hWords word).mp hWord)
    rcases hNear with hIn | hIn
    · exact ⟨position, hIn, by omega, by omega⟩
    · exact ⟨position + 1, hIn, by omega, by omega⟩

/-- The run of marked words that begins in the first sentence and ends in the second. -/
theorem lossMask_eq_of_build_tiny :
    (tiny.build .tiny ⟨10⟩).1 = .ok .tiny
      ∧ MaskedSample.tiny.lossMask[3]? = MaskedSample.tiny.lossMask[5]? := by
  have hBuild : (tiny.build .tiny ⟨10⟩).1 = .ok .tiny := by decide +kernel
  have hWords : Block.tiny.words tiny.vocabulary (tiny.payload .tiny).length =
      .ok [⟨1, 3⟩, ⟨3, 4⟩, ⟨4, 6⟩, ⟨6, 7⟩] := by decide +kernel
  refine ⟨hBuild, (lossMask_eq_of_build hBuild).2.2 _ rfl 3 5 (by decide) (by decide) (by decide) ?_⟩
  intro word hWord hMeets
  rw [← Block.mem_words hWords] at hWord
  obtain ⟨position, hPosition, hFirst, hLast⟩ := hMeets
  rw [Span.mem_positions] at hPosition
  simp only [List.mem_cons, List.not_mem_nil, or_false] at hWord
  rcases hWord with rfl | rfl | rfl | rfl
  · exact absurd hPosition.2 (show ¬ position < 3 by omega)
  · exact ⟨3, by decide, 1, by decide, by decide⟩
  · exact ⟨4, by decide, 1, by decide, by decide⟩
  · exact absurd hPosition.1 (show ¬ 6 ≤ position by omega)

end Masker

end Pretext
