import Pretext.Masked.Selection
import Pretext.Proofs.Word.Tiling

/-! The candidates divide the words among them. Marked words are joined to their marked neighbours,
so that no candidate ends inside a word or between two marked ones. -/
namespace Pretext

namespace Span

/-- A span and the span that follows it have the positions of the span from end to end. -/
theorem positions_join {first second : Span} (hFirst : first.start ≤ first.stop)
    (hNext : first.stop = second.start) (hSecond : second.start ≤ second.stop) :
    positions ⟨first.start, second.stop⟩ = first.positions ++ second.positions := by
  have hLength : second.stop - first.start = first.length + second.length := by
    simp only [length]
    omega
  have hStart : second.start = first.start + first.length := by
    simp only [length]
    omega
  show List.range' first.start (second.stop - first.start) = _
  rw [hLength, ← List.range'_append_1, ← hStart]
  rfl

end Span

namespace Candidates

variable {marked : Span → Bool} {span : Option Span} {first last position : Nat} {word : Span}
  {words : List Span}

/-- Every candidate, salient or plain. -/
def all (candidates : Candidates) : List Span := candidates.salient ++ candidates.plain

/-- The candidates have the positions of the words, neither more nor fewer, if none of the words
ends before it begins. -/
theorem separate_perm (hSpan : ∀ opened ∈ span, opened.start ≤ opened.stop)
    (hWords : ∀ word ∈ words, word.start ≤ word.stop) :
    ((separate marked span words).all.flatMap Span.positions).Perm
      ((span.toList ++ words).flatMap Span.positions) := by
  induction words generalizing span with
  | nil =>
      simp [separate, all]
  | cons word rest ih =>
      have hWord := hWords word (List.mem_cons_self ..)
      have hRest : ∀ next ∈ rest, next.start ≤ next.stop :=
        fun next hNext => hWords next (List.mem_cons_of_mem _ hNext)
      unfold separate
      split
      · split
        · exact ih (by simpa using hWord) hRest
        · rename_i previous
          have hPrevious : previous.start ≤ previous.stop := hSpan previous rfl
          split
          · rename_i hNext
            refine (ih (by simp; omega) hRest).trans ?_
            simp [Span.positions_join hPrevious hNext hWord]
          · have hFound := @ih (some word) (by simpa using hWord) hRest
            simpa [all] using hFound.append_left previous.positions
      · have hFound := @ih none (by simp) hRest
        simp only [all, List.flatMap_append, List.flatMap_cons, List.append_assoc,
          Option.toList_none, List.nil_append] at hFound ⊢
        apply List.Perm.append_left
        exact List.perm_append_comm_assoc .. |>.trans (hFound.append_left _)

theorem mem_plain : word ∈ (separate marked span words).plain ↔ word ∈ words ∧ marked word = false := by
  induction words generalizing span with
  | nil => simp [separate]
  | cons next rest ih =>
      unfold separate
      split
      · rename_i hMarked
        have hIff : word ∈ rest ∧ marked word = false ↔ word ∈ next :: rest ∧ marked word = false := by
          constructor
          · rintro ⟨hRest, hPlain⟩
            exact ⟨List.mem_cons_of_mem _ hRest, hPlain⟩
          · rintro ⟨hWord, hPlain⟩
            rcases List.mem_cons.mp hWord with rfl | hRest
            · rw [hMarked] at hPlain
              cases hPlain
            · exact ⟨hRest, hPlain⟩
        split
        · exact ih.trans hIff
        · split
          · exact ih.trans hIff
          · exact ih.trans hIff
      · rename_i hMarked
        rw [List.mem_cons, ih, List.mem_cons]
        constructor
        · rintro (rfl | ⟨hRest, hPlain⟩)
          · exact ⟨Or.inl rfl, by simpa using hMarked⟩
          · exact ⟨Or.inr hRest, hPlain⟩
        · rintro ⟨rfl | hRest, hPlain⟩
          · exact Or.inl rfl
          · exact Or.inr ⟨hRest, hPlain⟩

/-- No candidate is empty. -/
theorem start_lt_stop_of_mem_separate (hSpan : ∀ opened ∈ span, opened.start < opened.stop)
    (hWords : ∀ word ∈ words, word.start < word.stop) {candidate : Span}
    (h : candidate ∈ (separate marked span words).all) : candidate.start < candidate.stop := by
  induction words generalizing span with
  | nil => exact hSpan candidate (by simpa [separate, all] using h)
  | cons word rest ih =>
      have hWord := hWords word (List.mem_cons_self ..)
      have hRest : ∀ next ∈ rest, next.start < next.stop :=
        fun next hNext => hWords next (List.mem_cons_of_mem _ hNext)
      unfold separate at h
      split at h
      · split at h
        · exact ih (by simpa using hWord) hRest h
        · rename_i previous
          have hPrevious : previous.start < previous.stop := hSpan previous rfl
          split at h
          · exact ih (by simp; omega) hRest h
          · rcases List.mem_cons.mp h with rfl | h
            · exact hPrevious
            · exact ih (by simpa using hWord) hRest h
      · simp only [all, List.mem_append, List.mem_cons, Option.mem_toList] at h
        rcases h with (h | h) | rfl | h
        · exact hSpan candidate h
        · exact @ih none (by simp) hRest (List.mem_append_left _ h)
        · exact hWord
        · exact @ih none (by simp) hRest (List.mem_append_right _ h)

/-- A position of a marked word, or of the span that is open before the words. -/
def Joins (marked : Span → Bool) (span : Option Span) (words : List Span) (position : Nat) : Prop :=
  (∃ opened ∈ span, position ∈ opened.positions)
    ∨ ∃ word ∈ words, marked word = true ∧ position ∈ word.positions

/-- A span that takes in the next word takes in its positions. -/
theorem Joins.extend {joined : Span} (h : Joins marked span (word :: words) position)
    (hSpan : ∀ opened ∈ span, position ∈ opened.positions → position ∈ joined.positions)
    (hWord : position ∈ word.positions → position ∈ joined.positions) :
    Joins marked (some joined) words position := by
  rcases h with ⟨opened, hOpened, hPosition⟩ | ⟨next, hNext, hMarked, hPosition⟩
  · exact Or.inl ⟨joined, rfl, hSpan opened hOpened hPosition⟩
  · rcases List.mem_cons.mp hNext with rfl | hNext
    · exact Or.inl ⟨joined, rfl, hWord hPosition⟩
    · exact Or.inr ⟨next, hNext, hMarked, hPosition⟩

/-- A word that is not marked closes the span before it. -/
theorem Joins.close (h : Joins marked span (word :: words) position) (hPlain : marked word = false) :
    (∃ opened ∈ span, position ∈ opened.positions) ∨ Joins marked none words position := by
  rcases h with hOpened | ⟨next, hNext, hMarked, hPosition⟩
  · exact Or.inl hOpened
  · rcases List.mem_cons.mp hNext with rfl | hNext
    · rw [hPlain] at hMarked
      cases hMarked
    · exact Or.inr (Or.inr ⟨next, hNext, hMarked, hPosition⟩)

/-- Without a span still open, nothing is joined before the first word. -/
theorem Joins.le_of_none (hWords : Span.Tile first last words)
    (h : Joins marked none words position) : first ≤ position := by
  rcases h with ⟨_, hNone, _⟩ | ⟨word, hWord, _, hPosition⟩
  · cases hNone
  · obtain ⟨hFirst, -, -⟩ := hWords.bounds hWord
    exact Nat.le_trans hFirst (Span.mem_positions.mp hPosition).1

/-- A span that the next word follows without a gap takes it in. -/
private theorem Joins.merge {previous : Span} (hSpan : previous.start < previous.stop)
    (hWord : word.start < word.stop) (hStop : previous.stop = word.start)
    (h : Joins marked (some previous) (word :: words) position) :
    Joins marked (some ⟨previous.start, word.stop⟩) words position := by
  apply h.extend
  · intro opened hOpened hPosition
    cases hOpened
    rw [Span.mem_positions] at hPosition ⊢
    show previous.start ≤ position ∧ position < word.stop
    omega
  · intro hPosition
    rw [Span.mem_positions] at hPosition ⊢
    show previous.start ≤ position ∧ position < word.stop
    omega

/-- A word that is not marked has neighbouring positions of others on one side of it. -/
private theorem Joins.one_side (hWords : Span.Tile first last (word :: words))
    (hSpan : ∀ opened ∈ span, opened.stop = first) (hPlain : marked word = false)
    (h : Joins marked span (word :: words) position)
    (hNext : Joins marked span (word :: words) (position + 1)) :
    (∃ opened ∈ span, position ∈ opened.positions ∧ position + 1 ∈ opened.positions)
      ∨ Joins marked none words position ∧ Joins marked none words (position + 1) := by
  obtain ⟨-, hLt, hRest⟩ := hWords
  have hApart : ∀ opened ∈ span, ∀ before after, before ∈ opened.positions →
      Joins marked none words after → before + 1 < after := by
    intro opened hOpened before after hBefore hAfter
    have hEnd := (Span.mem_positions.mp hBefore).2
    have hStop := hSpan opened hOpened
    have hLe := hAfter.le_of_none hRest
    omega
  rcases h.close hPlain with ⟨opened, hOpened, hPosition⟩ | h
  · rcases hNext.close hPlain with ⟨other, hOther, hOtherPosition⟩ | hNext
    · cases hOpened.symm.trans hOther
      exact Or.inl ⟨opened, hOpened, hPosition, hOtherPosition⟩
    · exact absurd (hApart opened hOpened _ _ hPosition hNext) (Nat.lt_irrefl _)
  · rcases hNext.close hPlain with ⟨opened, hOpened, hPosition⟩ | hNext
    · have hLt := hApart opened hOpened _ _ hPosition h
      omega
    · exact Or.inr ⟨h, hNext⟩

/-- Where words follow each other without a gap, neighbouring positions of marked words are in one
salient span, whether or not a word ends between them. -/
theorem exists_salient_of_joins (span : Option Span) (hWords : Span.Tile first last words)
    (hSpan : ∀ opened ∈ span, opened.start < opened.stop ∧ opened.stop = first)
    (h : Joins marked span words position) (hNext : Joins marked span words (position + 1)) :
    ∃ salient ∈ (separate marked span words).salient,
      position ∈ salient.positions ∧ position + 1 ∈ salient.positions := by
  induction words generalizing span first with
  | nil =>
      rcases h with ⟨opened, hOpened, hPosition⟩ | ⟨word, hWord, -⟩
      · rcases hNext with ⟨other, hOther, hOtherPosition⟩ | ⟨word, hWord, -⟩
        · cases hOpened.symm.trans hOther
          exact ⟨opened, by simpa [separate] using hOpened, hPosition, hOtherPosition⟩
        · cases hWord
      · cases hWord
  | cons word rest ih =>
      obtain ⟨hStart, hLt, hRest⟩ := hWords
      unfold separate
      split
      · split
        · have hExtend : ∀ other, Joins marked none (word :: rest) other →
              Joins marked (some word) rest other :=
            fun other hOther => hOther.extend (by simp) id
          exact ih _ hRest (by simp; omega) (hExtend _ h) (hExtend _ hNext)
        · rename_i previous
          obtain ⟨hPrevious, hStop⟩ := hSpan previous rfl
          have hGap : previous.stop = word.start := hStop.trans hStart.symm
          have hWord : word.start < word.stop := by omega
          rw [if_pos hGap]
          exact ih _ hRest (by simp; omega) (h.merge hPrevious hWord hGap)
            (hNext.merge hPrevious hWord hGap)
      · rename_i hMarked
        have hPlain : marked word = false := by simpa using hMarked
        have hStops : ∀ opened ∈ span, opened.stop = first :=
          fun opened hOpened => (hSpan opened hOpened).2
        rcases h.one_side ⟨hStart, hLt, hRest⟩ hStops hPlain hNext with ⟨opened, hOpened, hBoth⟩ | hRestBoth
        · exact ⟨opened, List.mem_append_left _ (by simpa using hOpened), hBoth⟩
        · obtain ⟨salient, hSalient, hBoth⟩ := ih none hRest (by simp) hRestBoth.1 hRestBoth.2
          exact ⟨salient, List.mem_append_right _ hSalient, hBoth⟩

end Candidates

namespace Block

open Candidates

variable {block : Block} {payload first last position : Nat} {words : List Span}

/-- The candidates have the positions of the words, each of them once. -/
theorem candidates_perm (hWords : Span.Tile first last words) :
    ((block.candidates payload words).all.flatMap Span.positions).Perm
      (words.flatMap Span.positions) := by
  unfold candidates
  split
  · exact List.Perm.refl _
  · exact separate_perm (by simp) fun word hWord => Nat.le_of_lt (hWords.bounds hWord).2.1

/-- No candidate is empty. -/
theorem start_lt_stop_of_mem_candidates (hWords : Span.Tile first last words) {candidate : Span}
    (h : candidate ∈ (block.candidates payload words).all) : candidate.start < candidate.stop := by
  unfold candidates at h
  split at h
  · exact (hWords.bounds h).2.1
  · exact start_lt_stop_of_mem_separate (by simp) (fun word hWord => (hWords.bounds hWord).2.1) h

/-- No candidate ends inside a word. -/
theorem exists_candidate_of_word (hWords : Span.Tile first last words) {word : Span}
    (hWord : word ∈ words) (h : position ∈ word.positions) (hNext : position + 1 ∈ word.positions) :
    ∃ candidate ∈ (block.candidates payload words).all,
      position ∈ candidate.positions ∧ position + 1 ∈ candidate.positions := by
  unfold candidates
  split
  · exact ⟨word, hWord, h, hNext⟩
  · rename_i values _
    cases hMarked : isMarked (values.flatten.take payload) word with
    | false =>
        exact ⟨word, List.mem_append_right _ (mem_plain.mpr ⟨hWord, hMarked⟩), h, hNext⟩
    | true =>
        obtain ⟨salient, hSalient, hBoth⟩ := exists_salient_of_joins none hWords (by simp)
          (Or.inr ⟨word, hWord, hMarked, h⟩) (Or.inr ⟨word, hWord, hMarked, hNext⟩)
        exact ⟨salient, List.mem_append_left _ hSalient, hBoth⟩

/-- No candidate ends between two words that both are marked. -/
theorem exists_candidate_of_marked (hWords : Span.Tile first last words) {values : List (List UInt32)}
    (hValues : block.auxiliary = some values) {word next : Span} (hWord : word ∈ words)
    (hNext : next ∈ words) (hMarked : isMarked (values.flatten.take payload) word = true)
    (hNextMarked : isMarked (values.flatten.take payload) next = true)
    (hPosition : position ∈ word.positions) (hNextPosition : position + 1 ∈ next.positions) :
    ∃ candidate ∈ (block.candidates payload words).all,
      position ∈ candidate.positions ∧ position + 1 ∈ candidate.positions := by
  unfold candidates
  rw [hValues]
  obtain ⟨salient, hSalient, hBoth⟩ := exists_salient_of_joins none hWords (by simp)
    (Or.inr ⟨word, hWord, hMarked, hPosition⟩) (Or.inr ⟨next, hNext, hNextMarked, hNextPosition⟩)
  exact ⟨salient, List.mem_append_left _ hSalient, hBoth⟩

end Block

end Pretext
