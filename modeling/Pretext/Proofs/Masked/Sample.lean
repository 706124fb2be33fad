import Mathlib.Data.List.Flatten
import Pretext.Proofs.Frame
import Pretext.Proofs.Masked.Candidates
import Pretext.Proofs.Masked.Draft
import Pretext.Proofs.Masked.Selection
import Pretext.Proofs.Masked.Words
import Pretext.Vocabulary.Basic

/-! How a sample came about: which candidates were offered, in which order, and what was hidden. What
the generator decides enters as an arbitrary order and as arbitrary replacements. -/
namespace Pretext

/-- The tokens of a block that are framed, as many of the first as there is room for. -/
def Masker.payload (masker : Masker) (block : Block) : List TokenId :=
  block.sentences.flatten.take (masker.length - 2)

/-- The frame before anything is hidden. -/
def Masker.unhidden (masker : Masker) (block : Block) : List TokenId :=
  masker.vocabulary.special.cls ::
      (masker.payload block ++ [masker.vocabulary.special.sep]) ++
    List.replicate (masker.length - ((masker.payload block).length + 2))
      masker.vocabulary.special.pad

/-- What a masker may put in place of a token. -/
def Masker.noise (masker : Masker) : TokenId → Generator → TokenId × Generator :=
  masker.policy.draw masker.vocabulary.special.mask masker.replacements

/-- How many positions of the frame may be hidden. -/
def Masker.budget (masker : Masker) (block : Block) : Nat :=
  maskBudget masker.rate masker.length (masker.payload block).length

/-- The positions that are selected from candidates in a given order. -/
def Masker.selected (masker : Masker) (block : Block) (salient plain : List Span) : List Nat :=
  (select (masker.budget block) (salient ++ plain)).flatMap Span.positions

/-- The sample has `tokens`, save that `positions` are hidden and labelled. -/
structure Masker.Hides (masker : Masker) (tokens : List TokenId) (positions : List Nat)
    (sample : MaskedSample) : Prop where
  length_tokens : sample.tokens.length = tokens.length
  length_labels : sample.labels.length = tokens.length
  length_lossMask : sample.lossMask.length = tokens.length
  hidden : ∀ {position token}, position ∈ positions → tokens[position]? = some token →
    ∃ drawn, sample.tokens[position]? = some (masker.noise token drawn).1
      ∧ sample.labels[position]? = some (Int64.ofNat token.toNat)
      ∧ sample.lossMask[position]? = some 1
  kept : ∀ {position token}, position ∉ positions → tokens[position]? = some token →
    sample.tokens[position]? = some token ∧ sample.labels[position]? = some noLabel
      ∧ sample.lossMask[position]? = some 0

/-- The sample is one of the block, for which the candidates were offered in the given orders. -/
structure Masker.Selects (masker : Masker) (block : Block) (words salient plain : List Span)
    (sample : MaskedSample) : Prop where
  fits : (masker.payload block).length + 2 ≤ masker.length
  words_eq : block.words masker.vocabulary (masker.payload block).length = .ok words
  salient_perm : salient.Perm (block.candidates (masker.payload block).length words).salient
  plain_perm : plain.Perm (block.candidates (masker.payload block).length words).plain
  hides : masker.Hides (masker.unhidden block) (masker.selected block salient plain) sample
  length_padMask : sample.padMask.length = masker.length
  length_segments : sample.segments.length = masker.length

namespace Masker

variable {masker : Masker} {block : Block} {sample : MaskedSample} {plan : MaskPlan} {g : Generator}

theorem length_unhidden (h : (masker.payload block).length + 2 ≤ masker.length) :
    (masker.unhidden block).length = masker.length := by
  simp only [unhidden, List.length_append, List.length_cons, List.length_nil,
    List.length_replicate]
  omega

/-- No plan is made for a block without context. -/
theorem plan_of_le (h : block.sentences.length ≤ 1) :
    masker.plan block =
      .error (.blockTooShort block.window.start block.window.stop block.sentences.length) := by
  rw [plan, Block.requireContext_of_le h]
  rfl

theorem plan_of_narrow (hContext : 1 < block.sentences.length) (hNarrow : masker.length < 2) :
    masker.plan block = .error (.sequenceTooLong 2 masker.length) := by
  have hFill : masker.frame.fill (masker.payload block) none =
      .error (.sequenceTooLong 2 masker.length) := Frame.fill_take_of_lt _ _ none hNarrow
  rw [plan, Block.requireContext_of_lt hContext]
  change (masker.frame.fill (masker.payload block) none >>= fun framed => _) = _
  rw [hFill]
  rfl

/-- Where there is context, and room for the tokens of the frame, a plan depends on the words. -/
theorem exists_plan_eq (hContext : 1 < block.sentences.length) (hRoom : 2 ≤ masker.length) :
    ∃ framed, masker.frame.Holds (masker.payload block) none framed
      ∧ masker.plan block =
        (block.words masker.vocabulary (masker.payload block).length).map fun words =>
          ⟨framed, (masker.payload block).length,
            block.candidates (masker.payload block).length words⟩ := by
  obtain ⟨framed, hFill, hHolds⟩ : ∃ framed,
      masker.frame.fill (masker.payload block) none = .ok framed
        ∧ masker.frame.Holds (masker.payload block) none framed :=
    Frame.fill_take_of_le _ _ none hRoom
  refine ⟨framed, hHolds, ?_⟩
  rw [plan, Block.requireContext_of_lt hContext]
  change (masker.frame.fill (masker.payload block) none >>= fun framed =>
    block.words masker.vocabulary (masker.payload block).length >>= fun words => _) = _
  rw [hFill]
  rfl

/-- What a plan consists of, if there is one. -/
theorem eq_of_plan_ok (h : masker.plan block = .ok plan) :
    (masker.payload block).length + 2 ≤ masker.length
      ∧ masker.frame.Holds (masker.payload block) none plan.framed
      ∧ plan.payload = (masker.payload block).length
      ∧ ∃ words, block.words masker.vocabulary (masker.payload block).length = .ok words
        ∧ plan.candidates = block.candidates (masker.payload block).length words := by
  rcases Nat.lt_or_ge 1 block.sentences.length with hContext | hShort
  · rcases Nat.lt_or_ge masker.length 2 with hNarrow | hRoom
    · rw [plan_of_narrow hContext hNarrow] at h
      cases h
    · obtain ⟨framed, hHolds, hPlan⟩ := exists_plan_eq hContext hRoom
      rw [hPlan] at h
      have hPayload : (masker.payload block).length ≤ masker.length - 2 := List.length_take_le ..
      cases hWords : block.words masker.vocabulary (masker.payload block).length with
      | error failure =>
          rw [hWords] at h
          cases h
      | ok words =>
          rw [hWords] at h
          cases h
          exact ⟨by omega, hHolds, rfl, words, rfl, rfl⟩
  · rw [plan_of_le hShort] at h
    cases h

/-- Hiding distinct positions one after the other hides each of them and nothing else. -/
theorem hides_hideAll {tokens : List TokenId} {positions : List Nat} {draft : MaskDraft}
    (hNodup : positions.Nodup)
    (hDraft : (MaskDraft.hideAll masker.noise positions (.ofTokens tokens) g).1 = draft)
    (hTokens : sample.tokens = draft.tokens) (hLabels : sample.labels = draft.labels)
    (hLoss : sample.lossMask = draft.lossMask) : masker.Hides tokens positions sample := by
  have hLength : draft.tokens.length = tokens.length :=
    hDraft ▸ MaskDraft.length_tokens_hideAll g
  have hEven : draft.Even := hDraft ▸ MaskDraft.even_hideAll (MaskDraft.even_ofTokens tokens) g
  have hEntry : ∀ position, draft.entry position =
      (sample.tokens[position]?, sample.labels[position]?, sample.lossMask[position]?) := by
    intro position
    rw [hTokens, hLabels, hLoss]
    rfl
  refine ⟨?_, ?_, ?_, ?_, ?_⟩
  · rw [hTokens, hLength]
  · rw [hLabels, hEven.1, hLength]
  · rw [hLoss, hEven.2, hLength]
  · intro position token hPosition hToken
    obtain ⟨drawn, hHidden⟩ : ∃ drawn, draft.entry position =
        (some (masker.noise token drawn).1, some (Int64.ofNat token.toNat), some 1) :=
      hDraft ▸ MaskDraft.entry_hideAll_of_mem hNodup (MaskDraft.even_ofTokens tokens) hPosition
        hToken g
    rw [hEntry] at hHidden
    simp only [Prod.mk.injEq] at hHidden
    exact ⟨drawn, hHidden⟩
  · intro position token hPosition hToken
    have hKept : draft.entry position = (MaskDraft.ofTokens tokens).entry position :=
      hDraft ▸ MaskDraft.entry_hideAll_of_not_mem hPosition g
    obtain ⟨hLt, rfl⟩ := List.getElem?_eq_some_iff.mp hToken
    rw [hEntry] at hKept
    simpa [MaskDraft.entry, MaskDraft.ofTokens, hLt] using hKept

/-- A token is replaced only where the loss mask is 1. -/
theorem Hides.getElem?_tokens {tokens : List TokenId} {positions : List Nat}
    (h : masker.Hides tokens positions sample) {position : Nat}
    (hLoss : sample.lossMask[position]? ≠ some 1) : sample.tokens[position]? = tokens[position]? := by
  cases hToken : tokens[position]? with
  | none =>
      have hLength := List.getElem?_eq_none_iff.mp hToken
      exact List.getElem?_eq_none (h.length_tokens ▸ hLength)
  | some token =>
      by_cases hPosition : position ∈ positions
      · obtain ⟨-, -, -, hOne⟩ := h.hidden hPosition hToken
        exact absurd hOne hLoss
      · exact (h.kept hPosition hToken).1

/-- The words of a block tile its payload. -/
theorem tile_of_words_ok {words : List Span}
    (h : block.words masker.vocabulary (masker.payload block).length = .ok words) :
    Span.Tile 1 ((masker.payload block).length + 1) words := by
  apply Block.tile_words _ h
  rw [payload, List.length_take]
  exact Nat.min_le_right ..

/-- Everything that is offered has its positions in the payload, and no position twice. -/
theorem perm_of_offered {payload : Nat} {words salient plain : List Span}
    (hSalient : salient.Perm (block.candidates payload words).salient)
    (hPlain : plain.Perm (block.candidates payload words).plain)
    (hWords : Span.Tile 1 (payload + 1) words) :
    ((salient ++ plain).flatMap Span.positions).Perm (words.flatMap Span.positions) :=
  ((hSalient.append hPlain).flatMap_right _).trans (Block.candidates_perm hWords)

/-- No position is selected twice, in whatever order the candidates are offered. -/
theorem nodup_selected {payload : Nat} {words salient plain : List Span}
    (hSalient : salient.Perm (block.candidates payload words).salient)
    (hPlain : plain.Perm (block.candidates payload words).plain)
    (hWords : Span.Tile 1 (payload + 1) words) : (masker.selected block salient plain).Nodup := by
  have hAll := (perm_of_offered hSalient hPlain hWords).nodup_iff.mpr hWords.nodup_positions
  exact ((select_sublist _ _).flatMap _).nodup hAll

/-- The candidates of a plan are selected in some order. -/
theorem exists_selectFrom (masker : Masker) (plan : MaskPlan) (g : Generator) :
    ∃ salient plain, salient.Perm plan.candidates.salient ∧ plain.Perm plan.candidates.plain
      ∧ (masker.selectFrom plan g).1 =
        select (maskBudget masker.rate masker.length plan.payload) (salient ++ plain) :=
  ⟨_, _, shuffle_perm plan.candidates.salient g, shuffle_perm plan.candidates.plain _, rfl⟩

/-- No position is hidden twice. -/
theorem nodup_selectFrom (h : masker.plan block = .ok plan) (g : Generator) :
    ((masker.selectFrom plan g).1.flatMap Span.positions).Nodup := by
  obtain ⟨-, -, hPayload, words, hWords, hCandidates⟩ := eq_of_plan_ok h
  obtain ⟨salient, plain, hSalient, hPlain, hSpans⟩ := exists_selectFrom masker plan g
  rw [hCandidates] at hSalient hPlain
  rw [hSpans, hPayload]
  exact nodup_selected hSalient hPlain (tile_of_words_ok hWords)

/-- A draw hides what is selected. -/
theorem hides_draw (plan : MaskPlan) (window : Window) (g : Generator)
    (hNodup : ((masker.selectFrom plan g).1.flatMap Span.positions).Nodup) :
    masker.Hides plan.framed.tokens ((masker.selectFrom plan g).1.flatMap Span.positions)
      (masker.draw plan window g).1 := by
  unfold draw
  generalize masker.selectFrom plan g = selected at hNodup ⊢
  obtain ⟨spans, after⟩ := selected
  cases hDraft : MaskDraft.hideAll masker.noise (spans.flatMap Span.positions)
      (.ofTokens plan.framed.tokens) after with
  | mk draft last =>
      unfold noise at hDraft
      simp only [hDraft]
      exact hides_hideAll hNodup (congrArg Prod.fst hDraft) rfl rfl rfl

/-- What does not change while positions are hidden is taken from the plan. -/
theorem frame_draw (masker : Masker) (plan : MaskPlan) (window : Window) (g : Generator) :
    (masker.draw plan window g).1.padMask = plan.framed.padMask
      ∧ (masker.draw plan window g).1.segments = List.replicate plan.framed.tokens.length 0
      ∧ (masker.draw plan window g).1.blocks = [window.block.toInt64] := by
  unfold draw
  exact ⟨rfl, rfl, rfl⟩

/-- A sample is drawn from a plan. -/
theorem exists_plan_of_build (h : (masker.build block g).1 = .ok sample) :
    ∃ plan, masker.plan block = .ok plan ∧ (masker.draw plan block.window g).1 = sample := by
  unfold build at h
  cases hPlan : masker.plan block with
  | error failure =>
      rw [hPlan] at h
      cases h
  | ok plan =>
      rw [hPlan] at h
      exact ⟨plan, rfl, Except.ok.inj h⟩

/-- Every sample comes about by some order of the candidates of the block. -/
theorem exists_selects_of_build (h : (masker.build block g).1 = .ok sample) :
    ∃ words salient plain, masker.Selects block words salient plain sample := by
  obtain ⟨plan, hPlan, rfl⟩ := exists_plan_of_build h
  obtain ⟨hFits, hHolds, hPayload, words, hWords, hCandidates⟩ := eq_of_plan_ok hPlan
  obtain ⟨salient, plain, hSalient, hPlain, hSpans⟩ := exists_selectFrom masker plan g
  obtain ⟨hPad, hSegments, -⟩ := masker.frame_draw plan block.window g
  have hTokens : plan.framed.tokens = masker.unhidden block := hHolds.tokens_eq
  rw [hCandidates] at hSalient hPlain
  rw [hPayload] at hSpans
  refine ⟨words, salient, plain, hFits, hWords, hSalient, hPlain, ?_, ?_, ?_⟩
  · rw [selected, budget, ← hSpans, ← hTokens]
    exact hides_draw plan block.window g (nodup_selectFrom hPlan g)
  · rw [hPad]
    exact hHolds.length_padMask
  · rw [hSegments, List.length_replicate]
    exact hHolds.length_tokens

namespace Selects

variable {words salient plain : List Span} {position : Nat}

theorem tile (h : masker.Selects block words salient plain sample) :
    Span.Tile 1 ((masker.payload block).length + 1) words :=
  tile_of_words_ok h.words_eq

theorem offered_nodup (h : masker.Selects block words salient plain sample) :
    ((salient ++ plain).flatMap Span.positions).Nodup :=
  (perm_of_offered h.salient_perm h.plain_perm h.tile).nodup_iff.mpr h.tile.nodup_positions

/-- Only positions of the payload are selected, which lie between the opening token and the closing
separator. -/
theorem bounds_of_mem_selected (h : masker.Selects block words salient plain sample)
    (hPosition : position ∈ masker.selected block salient plain) :
    1 ≤ position ∧ position ≤ (masker.payload block).length := by
  have hOffered : position ∈ (salient ++ plain).flatMap Span.positions :=
    ((select_sublist _ _).flatMap _).subset hPosition
  have hWord := (perm_of_offered h.salient_perm h.plain_perm h.tile).mem_iff.mp hOffered
  have hBounds := h.tile.mem_flatMap_positions.mp hWord
  omega

theorem exists_unhidden (h : masker.Selects block words salient plain sample)
    (hPosition : position < masker.length) : ∃ token, (masker.unhidden block)[position]? = some token := by
  rw [← length_unhidden h.fits] at hPosition
  exact ⟨_, List.getElem?_eq_getElem hPosition⟩

theorem lossMask_of_mem (h : masker.Selects block words salient plain sample)
    (hPosition : position ∈ masker.selected block salient plain) :
    sample.lossMask[position]? = some 1 := by
  have hBounds := h.bounds_of_mem_selected hPosition
  have hFits := h.fits
  obtain ⟨token, hToken⟩ := h.exists_unhidden (show position < masker.length by omega)
  obtain ⟨_, -, -, hLoss⟩ := h.hides.hidden hPosition hToken
  exact hLoss

theorem lossMask_of_not_mem (h : masker.Selects block words salient plain sample)
    (hLength : position < masker.length)
    (hPosition : position ∉ masker.selected block salient plain) :
    sample.lossMask[position]? = some 0 := by
  obtain ⟨token, hToken⟩ := h.exists_unhidden hLength
  exact (h.hides.kept hPosition hToken).2.2

/-- What is to be predicted is what was selected. -/
theorem lossMask_eq_one_iff (h : masker.Selects block words salient plain sample) :
    sample.lossMask[position]? = some 1 ↔ position ∈ masker.selected block salient plain := by
  refine ⟨fun hOne => ?_, h.lossMask_of_mem⟩
  by_contra hPosition
  have hLength : position < masker.length := by
    rw [← length_unhidden h.fits, ← h.hides.length_lossMask]
    exact (List.getElem?_eq_some_iff.mp hOne).1
  rw [h.lossMask_of_not_mem hLength hPosition] at hOne
  cases hOne

end Selects

/-- A masker over ten pieces, for frames of ten positions. -/
def tiny : Masker where
  vocabulary := .ofTable
    ["[PAD]", "[UNK]", "[CLS]", "[SEP]", "[MASK]", "run", "##ning", "fox", "jump", "##ed"]
    ⟨2, 3, 4, 0, 1⟩
  length := 10
  rate := 0.5
  policy := .standard

end Masker

/-- Four words in two sentences. The last word of the first and the first of the second are marked. -/
def Block.tiny : Block where
  window := ⟨0, 2, 0, 0⟩
  sentences := [[5, 6, 7], [8, 9, 7]]
  auxiliary := some [[0, 0, 1], [1, 0, 0]]
  alternate := none

/-- A sample of that block, in which the marked words are hidden. -/
def MaskedSample.tiny : MaskedSample where
  tokens := [2, 5, 6, 4, 4, 6, 7, 3, 0, 0]
  padMask := [1, 1, 1, 1, 1, 1, 1, 1, 0, 0]
  labels := [-1, -1, -1, 7, 8, 9, -1, -1, -1, -1]
  lossMask := [0, 0, 0, 1, 1, 1, 0, 0, 0, 0]
  segments := [0, 0, 0, 0, 0, 0, 0, 0, 0, 0]
  blocks := [0]

end Pretext
