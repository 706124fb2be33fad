import Pretext.Proofs.Masked.Neutral
import Pretext.Proofs.Masked.Priority

/-! Salient spans are the maximal runs of marked words. Hence when a sample has anything to predict: a
run is taken as a whole or not at all, so that a budget for each of its words may not do for the run. -/
namespace Pretext

namespace Span

variable {first last : Nat} {spans more : List Span}

/-- From where the first span starts to where the last one stops. -/
def hull (spans : List Span) : Option Span :=
  match spans.head?, spans.getLast? with
  | some first, some last => some ⟨first.start, last.stop⟩
  | _, _ => none

/-- Two parts of a tiling tile a range each, and the ranges meet. -/
theorem Tile.exists_middle (h : Tile first last (spans ++ more)) :
    ∃ middle, Tile first middle spans ∧ Tile middle last more := by
  induction spans generalizing first with
  | nil => exact ⟨first, rfl, h⟩
  | cons span rest ih =>
      obtain ⟨hStart, hLt, hRest⟩ := h
      obtain ⟨middle, hSpans, hMore⟩ := ih hRest
      exact ⟨middle, ⟨hStart, hLt, hSpans⟩, hMore⟩

/-- Spans that tile a range have the range as their hull. -/
theorem Tile.hull_eq (h : Tile first last spans) (hNe : spans ≠ []) :
    hull spans = some ⟨first, last⟩ := by
  have hLast : ∀ span, spans.getLast? = some span → span.stop = last := by
    intro span hSpan
    obtain ⟨before, rfl⟩ := List.getLast?_eq_some_iff.mp hSpan
    obtain ⟨_, -, -, -, hStop⟩ := h.exists_middle
    exact hStop
  cases spans with
  | nil => exact absurd rfl hNe
  | cons span rest =>
      obtain ⟨hStart, -, -⟩ := h
      rw [hull, List.head?_cons, List.getLast?_eq_some_getLast (List.cons_ne_nil _ _)]
      simp only [hStart, hLast _ (List.getLast?_eq_some_getLast _)]

/-- Spans without gaps are together as long as the range they tile. -/
theorem Tile.sum_length (h : Tile first last spans) :
    (spans.map length).sum = last - first := by
  have hPositions := congrArg List.length h.positions_eq
  rw [List.length_flatMap, List.length_range'] at hPositions
  simpa using hPositions

/-- The hull of a tiling is as long as its spans together. -/
theorem Tile.length_hull {span : Span} (h : Tile first last spans) (hSpan : hull spans = some span) :
    span.length = (spans.map length).sum := by
  rw [h.sum_length]
  rw [h.hull_eq (fun hNil => by rw [hNil] at hSpan; cases hSpan)] at hSpan
  cases hSpan
  rfl

end Span

namespace Candidates

variable {marked : Span → Bool} {opened words run : List Span} {word candidate : Span}
  {first last : Nat}

/-- Some words in a row that all are marked, next to which there is no other such word. -/
structure IsRun (marked : Span → Bool) (words run : List Span) : Prop where
  nonempty : run ≠ []
  all_marked : ∀ word ∈ run, marked word = true
  maximal : ∃ before after, words = before ++ (run ++ after)
    ∧ (∀ word ∈ before.getLast?, marked word = false)
    ∧ ∀ word ∈ after.head?, marked word = false

/-- The words of a run follow each other without a gap. -/
theorem IsRun.exists_tile (h : IsRun marked words run) (hWords : Span.Tile first last words) :
    ∃ start stop, Span.Tile start stop run := by
  obtain ⟨before, after, rfl, -, -⟩ := h.maximal
  obtain ⟨_, -, hRest⟩ := hWords.exists_middle
  obtain ⟨_, hRun, -⟩ := hRest.exists_middle
  exact ⟨_, _, hRun⟩

/-- Where all words are marked, they are the one run. -/
theorem isRun_of_marked (hWords : ∀ word ∈ words, marked word = true) :
    IsRun marked words run ↔ words ≠ [] ∧ run = words := by
  constructor
  · rintro ⟨hNe, -, before, after, rfl, hBefore, hAfter⟩
    have hNil : before = [] := by
      apply List.getLast?_eq_none_iff.mp
      apply Option.eq_none_iff_forall_not_mem.mpr
      intro word hWord
      have hMarked := hWords word (List.mem_append_left _ (List.mem_of_mem_getLast? hWord))
      exact absurd (hBefore word hWord) (by simp [hMarked])
    have hAfterNil : after = [] := by
      apply List.head?_eq_none_iff.mp
      apply Option.eq_none_iff_forall_not_mem.mpr
      intro word hWord
      have hMarked := hWords word
        (List.mem_append_right _ (List.mem_append_right _ (List.mem_of_mem_head? hWord)))
      exact absurd (hAfter word hWord) (by simp [hMarked])
    simp [hNil, hAfterNil, hNe]
  · rintro ⟨hNe, rfl⟩
    exact ⟨hNe, hWords, [], [], by simp, by simp, by simp⟩

/-- A run stays one when a word that is not marked follows, whatever is behind it. -/
theorem IsRun.append_unmarked (h : IsRun marked opened run) (hPlain : marked word = false)
    (words : List Span) : IsRun marked (opened ++ word :: words) run := by
  obtain ⟨hNe, hRun, before, after, rfl, hBefore, hAfter⟩ := h
  refine ⟨hNe, hRun, before, after ++ word :: words, by simp, hBefore, ?_⟩
  cases after with
  | nil => simpa using hPlain
  | cons next after => exact hAfter

/-- A run stays one when a word that is not marked comes first, whatever is before it. -/
theorem IsRun.unmarked_append (h : IsRun marked words run) (hPlain : marked word = false)
    (opened : List Span) : IsRun marked (opened ++ word :: words) run := by
  obtain ⟨hNe, hRun, before, after, rfl, hBefore, hAfter⟩ := h
  refine ⟨hNe, hRun, opened ++ word :: before, after, by simp, ?_, hAfter⟩
  intro other hOther
  rw [List.getLast?_append_cons, List.getLast?_cons] at hOther
  cases hOther
  cases hLast : before.getLast? with
  | none => exact hPlain
  | some last => exact hBefore last hLast

/-- A run does not reach over a word that is not marked. -/
theorem IsRun.before_or_behind (h : IsRun marked (opened ++ word :: words) run)
    (hPlain : marked word = false) : IsRun marked opened run ∨ IsRun marked words run := by
  obtain ⟨hNe, hRun, before, after, hSplit, hBefore, hAfter⟩ := h
  have hWord : word ∉ run := fun hIn => by simp [hRun word hIn] at hPlain
  rcases List.append_eq_append_iff.mp hSplit with ⟨skipped, rfl, hRest⟩ | ⟨kept, rfl, hRest⟩
  · -- the run starts at the word or behind it
    cases skipped with
    | nil =>
        cases run with
        | nil => exact absurd rfl hNe
        | cons next run =>
            cases hRest
            exact absurd (List.mem_cons_self ..) hWord
    | cons _ skipped =>
        cases hRest
        refine Or.inr ⟨hNe, hRun, skipped, after, rfl, ?_, hAfter⟩
        intro other hOther
        apply hBefore other
        rw [List.getLast?_append_cons, List.getLast?_cons, hOther]
        rfl
  · -- the run starts before the word, hence also stops before it
    rcases List.append_eq_append_iff.mp hRest with ⟨skipped, rfl, rfl⟩ | ⟨left, rfl, hRight⟩
    · refine Or.inl ⟨hNe, hRun, before, skipped, rfl, hBefore, ?_⟩
      intro other hOther
      apply hAfter other
      rw [List.head?_append, hOther]
      rfl
    · cases left with
      | nil => exact Or.inl ⟨hNe, hRun, before, [], by simp, hBefore, by simp⟩
      | cons _ left =>
          cases hRight
          exact absurd (List.mem_append_right _ (List.mem_cons_self ..)) hWord

/-- A word that is not marked separates the runs before it from those behind it. -/
theorem isRun_of_unmarked (hPlain : marked word = false) :
    IsRun marked (opened ++ word :: words) run ↔
      IsRun marked opened run ∨ IsRun marked words run := by
  constructor
  · exact fun h => h.before_or_behind hPlain
  · rintro (hRun | hRun)
    · exact hRun.append_unmarked hPlain words
    · exact hRun.unmarked_append hPlain opened

/-- Where all words are marked there is one run, of all of them. -/
private theorem exists_run_of_marked (hWords : ∀ word ∈ words, marked word = true) :
    (∃ run, IsRun marked words run ∧ Span.hull run = some candidate) ↔
      Span.hull words = some candidate := by
  simp only [isRun_of_marked hWords]
  constructor
  · rintro ⟨run, ⟨-, rfl⟩, hCandidate⟩
    exact hCandidate
  · intro hCandidate
    refine ⟨words, ⟨?_, rfl⟩, hCandidate⟩
    rintro rfl
    cases hCandidate

/-- A marked word that follows without a gap continues the run. -/
private theorem separate_of_marked (hWords : Span.Tile first last (opened ++ word :: words))
    (hMarked : marked word = true) :
    separate marked (Span.hull opened) (word :: words) =
      separate marked (Span.hull (opened ++ [word])) words := by
  obtain ⟨middle, hTile, hStart, hLt, hRest⟩ := hWords.exists_middle
  have hNext : Span.Tile first word.stop (opened ++ [word]) := hTile.append ⟨hStart, hLt, rfl⟩
  rw [hNext.hull_eq (by simp)]
  by_cases hNil : opened = []
  · subst hNil
    have hFirst : first = word.start := (show first = middle from hTile).trans hStart.symm
    rw [hFirst]
    exact if_pos hMarked
  · rw [hTile.hull_eq hNil]
    exact (if_pos hMarked).trans (if_pos hStart.symm)

/-- Where words follow each other without a gap, the salient spans are the runs of marked words. The
words in `opened` are those of the run that is not closed yet. -/
theorem mem_salient_iff (hWords : Span.Tile first last (opened ++ words))
    (hOpened : ∀ word ∈ opened, marked word = true) :
    candidate ∈ (separate marked (Span.hull opened) words).salient ↔
      ∃ run, IsRun marked (opened ++ words) run ∧ Span.hull run = some candidate := by
  induction words generalizing opened first with
  | nil =>
      rw [List.append_nil, exists_run_of_marked hOpened]
      exact Option.mem_toList
  | cons word rest ih =>
      cases hMarked : marked word with
      | true =>
          have hSplit : opened ++ word :: rest = opened ++ [word] ++ rest := by simp
          rw [separate_of_marked hWords hMarked]
          rw [hSplit] at hWords ⊢
          apply ih hWords
          intro next hNext
          rcases List.mem_append.mp hNext with hNext | hNext
          · exact hOpened next hNext
          · rw [List.mem_singleton.mp hNext, hMarked]
      | false =>
          obtain ⟨_, -, -, -, hRest⟩ := hWords.exists_middle
          have hFound := @ih [] _ hRest (by simp)
          simp only [isRun_of_unmarked hMarked, or_and_right, exists_or,
            exists_run_of_marked hOpened]
          unfold separate
          rw [if_neg (by simp [hMarked])]
          exact List.mem_append.trans (or_congr Option.mem_toList hFound)

end Candidates

/-- Whether the auxiliary channel marks a position of a span, in a payload of so many tokens. -/
def Block.isMarked (block : Block) (payload : Nat) (span : Span) : Bool :=
  match block.auxiliary with
  | none => false
  | some values => Candidates.isMarked (values.flatten.take payload) span

namespace Block

variable {block : Block} {payload first last : Nat} {words : List Span} {candidate : Span}

/-- A block without an auxiliary channel has the candidates that it has when nothing is marked. -/
theorem candidates_eq_separate (block : Block) (payload : Nat) (words : List Span) :
    block.candidates payload words = Candidates.separate (block.isMarked payload) none words := by
  unfold candidates isMarked
  cases block.auxiliary with
  | none => exact (Candidates.separate_of_unmarked fun _ _ => rfl).symm
  | some values => rfl

/-- The candidates are the words that are not marked and the runs of those that are. -/
theorem mem_candidates_iff (hWords : Span.Tile first last words) :
    candidate ∈ (block.candidates payload words).all ↔
      (candidate ∈ words ∧ block.isMarked payload candidate = false)
        ∨ ∃ run, Candidates.IsRun (block.isMarked payload) words run
          ∧ Span.hull run = some candidate := by
  have hRuns : candidate ∈ (block.candidates payload words).salient ↔
      ∃ run, Candidates.IsRun (block.isMarked payload) ([] ++ words) run
        ∧ Span.hull run = some candidate := by
    have hTile : Span.Tile first last ([] ++ words) := hWords
    rw [candidates_eq_separate]
    exact Candidates.mem_salient_iff hTile (by simp)
  rw [Candidates.all, List.mem_append, hRuns, candidates_eq_separate, Candidates.mem_plain]
  exact or_comm

end Block

namespace Masker

variable {masker : Masker} {block : Block} {sample : MaskedSample} {g : Generator}

/-- Something is hidden exactly if the budget suffices for one of the candidates. -/
theorem Selects.maskedPositions_ne_nil_iff {words salient plain : List Span}
    (h : masker.Selects block words salient plain sample) :
    sample.maskedPositions ≠ [] ↔
      ∃ candidate ∈ (block.candidates (masker.payload block).length words).all,
        candidate.length ≤ masker.budget block := by
  have hOffered : ∀ {candidate}, candidate ∈ salient ++ plain ↔
      candidate ∈ (block.candidates (masker.payload block).length words).all :=
    fun {candidate} => (h.salient_perm.append h.plain_perm).mem_iff
  constructor
  · intro hNe
    obtain ⟨position, hPosition⟩ := List.exists_mem_of_ne_nil _ hNe
    obtain ⟨span, hSpan, -⟩ := List.mem_flatMap.mp (h.maskedPositions_perm.mem_iff.mp hPosition)
    exact ⟨span, hOffered.mp ((select_sublist _ _).subset hSpan), length_le_of_mem_select hSpan⟩
  · rintro ⟨candidate, hCandidate, hFits⟩ hNil
    have hPos := h.length_pos hCandidate
    have hNone : masker.selected block salient plain = [] :=
      (hNil ▸ h.maskedPositions_perm).nil_eq.symm
    have hOut : candidate ∉ select (masker.budget block) (salient ++ plain) := by
      intro hIn
      have hStart : candidate.start ∈ candidate.positions := by
        rw [Span.length] at hPos
        exact Span.mem_positions.mpr (by omega)
      have hSelected : candidate.start ∈ masker.selected block salient plain :=
        List.mem_flatMap.mpr ⟨candidate, hIn, hStart⟩
      rw [hNone] at hSelected
      cases hSelected
    have hOver := lt_of_not_mem_select (hOffered.mpr hCandidate) hPos hOut
    rw [← selected, hNone, List.length_nil] at hOver
    omega

/-- A sample has something to predict exactly if the budget suffices for a word that is not marked, or
for all the words of a run of marked ones. -/
theorem maskedPositions_ne_nil_of_build (h : (masker.build block g).1 = .ok sample) :
    ∃ words, block.words masker.vocabulary (masker.payload block).length = .ok words
      ∧ (sample.maskedPositions ≠ [] ↔
        (∃ word ∈ words, block.isMarked (masker.payload block).length word = false
          ∧ word.length ≤ masker.budget block)
        ∨ ∃ run, Candidates.IsRun (block.isMarked (masker.payload block).length) words run
          ∧ (run.map Span.length).sum ≤ masker.budget block) := by
  obtain ⟨words, salient, plain, hSelects⟩ := exists_selects_of_build h
  refine ⟨words, hSelects.words_eq, ?_⟩
  rw [hSelects.maskedPositions_ne_nil_iff]
  simp only [Block.mem_candidates_iff hSelects.tile, or_and_right, exists_or, and_assoc]
  apply or_congr_right
  constructor
  · rintro ⟨candidate, ⟨run, hRun, hHull⟩, hFits⟩
    refine ⟨run, hRun, ?_⟩
    obtain ⟨_, _, hTile⟩ := hRun.exists_tile hSelects.tile
    rwa [← hTile.length_hull hHull]
  · rintro ⟨run, hRun, hFits⟩
    obtain ⟨_, _, hTile⟩ := hRun.exists_tile hSelects.tile
    have hHull := hTile.hull_eq hRun.nonempty
    exact ⟨_, ⟨run, hRun, hHull⟩, by rwa [hTile.length_hull hHull]⟩

/-- The budget of three does for the run of two words in the middle. -/
theorem maskedPositions_ne_nil_of_build_tiny :
    (tiny.build .tiny ⟨10⟩).1 = .ok .tiny ∧ MaskedSample.tiny.maskedPositions ≠ [] := by
  have hBuild : (tiny.build .tiny ⟨10⟩).1 = .ok .tiny := by decide +kernel
  obtain ⟨words, hWords, hIff⟩ := maskedPositions_ne_nil_of_build hBuild
  have hFound : Block.tiny.words tiny.vocabulary (tiny.payload .tiny).length =
      .ok [⟨1, 3⟩, ⟨3, 4⟩, ⟨4, 6⟩, ⟨6, 7⟩] := by decide +kernel
  cases hFound.symm.trans hWords
  refine ⟨hBuild, hIff.mpr (Or.inr ⟨[⟨3, 4⟩, ⟨4, 6⟩], ⟨by simp, ?_, ?_⟩, ?_⟩)⟩
  · decide +kernel
  · exact ⟨[⟨1, 3⟩], [⟨6, 7⟩], rfl, by decide +kernel, by decide +kernel⟩
  · decide +kernel

/-- Two words of one token, both of which are marked, are one run. The budget of one would do for
either, but not for the run. -/
theorem exists_nothing_masked :
    ∃ block words sample,
      (Block.ofSentences ⟨0, 2, 0, 0⟩ [[7], [8]]).withAuxiliary [[1], [1]] = .ok block
      ∧ block.words tiny.vocabulary (tiny.payload block).length = .ok words
      ∧ (tiny.build block ⟨10⟩).1 = .ok sample
      ∧ 1 ≤ tiny.budget block ∧ (∃ word ∈ words, word.length ≤ tiny.budget block)
      ∧ sample.maskedPositions = [] := by
  refine ⟨⟨⟨0, 2, 0, 0⟩, [[7], [8]], some [[1], [1]], none⟩, [⟨1, 2⟩, ⟨2, 3⟩],
    ⟨[2, 7, 8, 3, 0, 0, 0, 0, 0, 0], [1, 1, 1, 1, 0, 0, 0, 0, 0, 0], List.replicate 10 noLabel,
      List.replicate 10 0, List.replicate 10 0, [0]⟩, rfl, ?_, ?_, ?_, ⟨⟨1, 2⟩, ?_, ?_⟩, ?_⟩ <;>
    decide +kernel

end Masker

end Pretext
