import Pretext.Proofs.Collection.Evidence
import Pretext.Proofs.Masked.Restoring

/-! Where the padding token stands for padding alone, the mask of a sample can be told from its
tokens, also when some of these are hidden. -/
namespace Pretext

/-- The mask has a 1 for every token but the padding and for no other position, and the padding
comes last. -/
structure TellsPadding (pad : TokenId) (tokens : List TokenId) (padMask : List UInt8) : Prop where
  length_eq : padMask.length = tokens.length
  one_iff : ∀ position : Nat, padMask[position]? = some 1 ↔
    ∃ token ≠ pad, tokens[position]? = some token
  ones_first : ∃ real padding, padMask = List.replicate real 1 ++ List.replicate padding 0

/-- What frames are made of and what hides a token is not the padding token. -/
structure SpecialIds.PadApart (special : SpecialIds) : Prop where
  cls_ne : special.cls ≠ special.pad
  sep_ne : special.sep ≠ special.pad
  mask_ne : special.mask ≠ special.pad

/-- No sentence has the padding token. -/
def Unpadded (pad : TokenId) (sentences : List Sentence) : Prop :=
  ∀ sentence ∈ sentences, pad ∉ sentence

instance {pad : TokenId} {sentences : List Sentence} : Decidable (Unpadded pad sentences) :=
  inferInstanceAs (Decidable (∀ sentence ∈ sentences, pad ∉ sentence))

namespace TellsPadding

variable {pad : TokenId} {tokens replaced : List TokenId} {padMask : List UInt8}

/-- Tokens without padding, followed by padding: the mask tells where the one ends and the other
begins. -/
theorem append_replicate (hPad : pad ∉ tokens) (padding : Nat) :
    TellsPadding pad (tokens ++ List.replicate padding pad)
      (List.replicate tokens.length 1 ++ List.replicate padding 0) := by
  refine ⟨by simp, ?_, _, _, rfl⟩
  intro position
  rcases Nat.lt_or_ge position tokens.length with hReal | hPadding
  · rw [List.getElem?_append_left (by simpa using hReal), List.getElem?_append_left hReal,
      List.getElem?_replicate_of_lt hReal, List.getElem?_eq_getElem hReal]
    exact iff_of_true rfl ⟨_, ne_of_mem_of_not_mem (List.getElem_mem hReal) hPad, rfl⟩
  · rw [List.getElem?_append_right (by simpa using hPadding), List.getElem?_append_right hPadding]
    apply iff_of_false
    · intro hOne
      have hZero := List.eq_of_mem_replicate (List.mem_of_getElem? hOne)
      exact absurd hZero (by decide)
    · rintro ⟨token, hNe, hToken⟩
      exact hNe (List.eq_of_mem_replicate (List.mem_of_getElem? hToken))

private theorem exists_token_iff {position : Nat} :
    (∃ token ≠ pad, tokens[position]? = some token) ↔
      position < tokens.length ∧ tokens[position]? ≠ some pad := by
  constructor
  · rintro ⟨token, hNe, hToken⟩
    refine ⟨(List.getElem?_eq_some_iff.mp hToken).1, ?_⟩
    rw [hToken]
    exact fun hPad => hNe (Option.some.inj hPad)
  · rintro ⟨hLength, hNe⟩
    have hToken := List.getElem?_eq_getElem hLength
    refine ⟨_, ?_, hToken⟩
    intro hPad
    exact hNe (hPad ▸ hToken)

/-- Tokens may be replaced where neither the old nor the new one is padding. -/
theorem of_replaced (h : TellsPadding pad tokens padMask) (hLength : replaced.length = tokens.length)
    (hPad : ∀ position : Nat, replaced[position]? = some pad ↔ tokens[position]? = some pad) :
    TellsPadding pad replaced padMask := by
  refine ⟨h.length_eq.trans hLength.symm, ?_, h.ones_first⟩
  intro position
  rw [h.one_iff, exists_token_iff, exists_token_iff, hLength, Ne, Ne, hPad]

end TellsPadding

namespace Unpadded

variable {pad : TokenId} {sentences : List Sentence}

@[simp] theorem nil (pad : TokenId) : Unpadded pad [] :=
  List.forall_mem_nil _

@[simp] theorem singleton_iff {sentence : Sentence} : Unpadded pad [sentence] ↔ pad ∉ sentence :=
  List.forall_mem_singleton

theorem not_mem_take (h : Unpadded pad sentences) (limit : Nat) :
    pad ∉ sentences.flatten.take limit := by
  intro hPad
  obtain ⟨sentence, hSentence, hIn⟩ := List.mem_flatten.mp (List.mem_of_mem_take hPad)
  exact h sentence hSentence hIn

end Unpadded

namespace Frame

variable {frame : Frame} {payload : List TokenId} {title : Option Sentence} {framed : Framed}

/-- A frame has padding among its contents only if the payload, the title or one of its own tokens is
padding. -/
theorem pad_not_mem_contents (hCls : frame.cls ≠ frame.pad) (hSep : frame.sep ≠ frame.pad)
    (hPayload : frame.pad ∉ payload) (hTitle : Unpadded frame.pad title.toList) :
    frame.pad ∉ frame.contents payload title := by
  cases title with
  | none => simp [contents, hCls.symm, hSep.symm, hPayload]
  | some text =>
      have hText : frame.pad ∉ text := Unpadded.singleton_iff.mp hTitle
      simp [contents, hCls.symm, hSep.symm, hPayload, hText]

/-- What holds contents without padding tells them from its padding. -/
theorem Holds.tellsPadding (h : frame.Holds payload title framed) (hCls : frame.cls ≠ frame.pad)
    (hSep : frame.sep ≠ frame.pad) (hPayload : frame.pad ∉ payload)
    (hTitle : Unpadded frame.pad title.toList) :
    TellsPadding frame.pad framed.tokens framed.padMask := by
  rw [h.tokens_eq, h.padMask_eq, ← frame.length_contents]
  exact TellsPadding.append_replicate (pad_not_mem_contents hCls hSep hPayload hTitle) _

end Frame

theorem SpecialIds.ne_pad_of_contains {special : SpecialIds} {id : TokenId}
    (h : special.contains id = false) : id ≠ special.pad := by
  rintro rfl
  simp [contains] at h

namespace Masker

variable {masker : Masker} {block : Block} {sample : MaskedSample} {g : Generator}

/-- The tokens that are framed are tokens of the block. -/
theorem pad_not_mem_payload (hBlock : Unpadded masker.vocabulary.special.pad block.sentences) :
    masker.vocabulary.special.pad ∉ masker.payload block :=
  hBlock.not_mem_take _

/-- Hiding a token neither makes padding of it nor hides padding. -/
theorem tokens_eq_pad_iff (hApart : masker.vocabulary.special.PadApart)
    (hBlock : Unpadded masker.vocabulary.special.pad block.sentences) {words salient plain : List Span}
    (h : masker.Selects block words salient plain sample) (position : Nat) :
    sample.tokens[position]? = some masker.vocabulary.special.pad ↔
      (masker.unhidden block)[position]? = some masker.vocabulary.special.pad := by
  by_cases hLoss : sample.lossMask[position]? = some 1
  · apply iff_of_false
    · intro hPad
      rcases h.replaced_cases hLoss hPad with hMask | hSame | ⟨hRandom, -⟩
      · exact hApart.mask_ne hMask.symm
      · exact pad_not_mem_payload hBlock (List.mem_of_getElem? hSame)
      · exact SpecialIds.ne_pad_of_contains hRandom rfl
    · intro hPad
      obtain ⟨hFirst, hLast⟩ := h.bounds_of_mem_selected (h.lossMask_eq_one_iff.mp hLoss)
      rw [unhidden_eq_payload hFirst hLast] at hPad
      exact pad_not_mem_payload hBlock (List.mem_of_getElem? hPad)
  · rw [h.hides.getElem?_tokens hLoss]

/-- Masking puts no padding in place of a token: what it chooses from leaves the special tokens
out. -/
theorem tellsPadding_of_build (hApart : masker.vocabulary.special.PadApart)
    (hBlock : Unpadded masker.vocabulary.special.pad block.sentences)
    (h : (masker.build block g).1 = .ok sample) :
    TellsPadding masker.vocabulary.special.pad sample.tokens sample.padMask := by
  obtain ⟨words, salient, plain, hSelects⟩ := exists_selects_of_build h
  obtain ⟨plan, hPlan, rfl⟩ := exists_plan_of_build h
  obtain ⟨-, hHolds, -⟩ := eq_of_plan_ok hPlan
  have hFrame := hHolds.tellsPadding hApart.cls_ne hApart.sep_ne (pad_not_mem_payload hBlock)
    (Unpadded.nil _)
  rw [hHolds.tokens_eq] at hFrame
  rw [(masker.frame_draw plan block.window g).1]
  exact hFrame.of_replaced hSelects.hides.length_tokens (tokens_eq_pad_iff hApart hBlock hSelects)

end Masker

namespace Splitter

variable {splitter : Splitter} {block : Block} {title : Option Sentence} {sample : PairSample}

/-- What is left of a block when a sentence is taken away is as free of padding as the block. -/
theorem unpadded_context {pad : TokenId} (h : Unpadded pad block.sentences) (number : Nat)
    (keep : Bool) : Unpadded pad (block.context number keep) := by
  intro sentence hSentence
  unfold Block.context at hSentence
  split at hSentence
  · exact h sentence hSentence
  · rcases List.mem_append.mp hSentence with hBefore | hBehind
    · exact h sentence (List.mem_of_mem_take hBefore)
    · exact h sentence (List.mem_of_mem_drop hBehind)

/-- The query and its context are framed, and nothing else is done to them. -/
theorem tellsPadding_of_split (hCls : splitter.frame.cls ≠ splitter.frame.pad)
    (hSep : splitter.frame.sep ≠ splitter.frame.pad)
    (hBlock : Unpadded splitter.frame.pad block.sentences)
    (hTitle : Unpadded splitter.frame.pad title.toList) {g : Generator}
    (h : (splitter.split block title g).1 = .ok sample) :
    TellsPadding splitter.frame.pad sample.query.tokens sample.query.padMask
      ∧ TellsPadding splitter.frame.pad sample.block.tokens sample.block.padMask := by
  obtain ⟨query, hQuery, hPairs⟩ := exists_pairs_of_split h
  constructor
  · have hPayload : splitter.frame.pad ∉ query.take (splitter.frame.length - 2) :=
      fun hPad => hBlock query (List.mem_of_getElem? hQuery) (List.mem_of_mem_take hPad)
    exact hPairs.query_holds.tellsPadding hCls hSep hPayload (Unpadded.nil _)
  · have hContext := unpadded_context hBlock (block.drawn g) (splitter.keeps block g)
    exact hPairs.block_holds.tellsPadding hCls hSep (hContext.not_mem_take _) hTitle

end Splitter

namespace PairCollection

variable {collection : PairCollection} {framed : Framed}

/-- Evidence is framed from what is read. -/
theorem tellsPadding_of_evidence {start stop document : UInt64}
    (hCls : collection.splitter.frame.cls ≠ collection.splitter.frame.pad)
    (hSep : collection.splitter.frame.sep ≠ collection.splitter.frame.pad)
    (hSentences : ∀ sentences, collection.archive.sentences start stop = .ok sentences →
      Unpadded collection.splitter.frame.pad sentences)
    (hTitle : ∀ title, collection.archive.title document = .ok title →
      collection.splitter.frame.pad ∉ title)
    (h : (collection.evidence start stop document).result = .ok framed) :
    TellsPadding collection.splitter.frame.pad framed.tokens framed.padMask := by
  obtain ⟨sentences, title, hRead, hHeading, hHolds⟩ := exists_of_evidence h
  exact hHolds.tellsPadding hCls hSep ((hSentences sentences hRead).not_mem_take _)
    (Unpadded.singleton_iff.mpr (hTitle title hHeading))

/-- The stand-in for evidence holds nothing but tokens of the frame. -/
theorem tellsPadding_of_noEvidence
    (hCls : collection.splitter.frame.cls ≠ collection.splitter.frame.pad)
    (hSep : collection.splitter.frame.sep ≠ collection.splitter.frame.pad)
    (h : collection.noEvidence = .ok framed) :
    TellsPadding collection.splitter.frame.pad framed.tokens framed.padMask :=
  (Frame.holds_of_fill h).tellsPadding hCls hSep List.not_mem_nil
    (Unpadded.singleton_iff.mpr List.not_mem_nil)

end PairCollection

/-- Whatever is framed with a vocabulary that keeps its padding apart, the mask tells it from
everything else: in both kinds of samples, in the blocks that queries should find and in the one that
stands for none. -/
theorem tellsPadding_of_padApart {vocabulary : Vocabulary}
    (hApart : vocabulary.special.PadApart) :
    (∀ (length : Nat) (rate : Float) (policy : NoisePolicy) (block : Block) (g : Generator) sample,
      Unpadded vocabulary.special.pad block.sentences →
      (Masker.build ⟨vocabulary, length, rate, policy⟩ block g).1 = .ok sample →
      TellsPadding vocabulary.special.pad sample.tokens sample.padMask)
    ∧ (∀ (length : Nat) (keepRate : Float) (block : Block) (title : Option Sentence)
        (g : Generator) sample,
      Unpadded vocabulary.special.pad block.sentences →
      Unpadded vocabulary.special.pad title.toList →
      (Splitter.split ⟨.ofSpecial vocabulary.special length, keepRate⟩ block title g).1 =
        .ok sample →
      TellsPadding vocabulary.special.pad sample.query.tokens sample.query.padMask
        ∧ TellsPadding vocabulary.special.pad sample.block.tokens sample.block.padMask)
    ∧ ∀ (settings : Settings) (rows : Rows) (archive : Archive) (collection : PairCollection),
      (PairCollection.ofRows settings vocabulary rows archive).result = .ok collection →
      (∀ (start stop document : UInt64) framed,
        (∀ sentences, archive.sentences start stop = .ok sentences →
          Unpadded vocabulary.special.pad sentences) →
        (∀ title, archive.title document = .ok title → vocabulary.special.pad ∉ title) →
        (collection.evidence start stop document).result = .ok framed →
        TellsPadding vocabulary.special.pad framed.tokens framed.padMask)
      ∧ ∀ framed, collection.noEvidence = .ok framed →
        TellsPadding vocabulary.special.pad framed.tokens framed.padMask := by
  refine ⟨?_, ?_, ?_⟩
  · intro length rate policy block g sample hBlock h
    exact Masker.tellsPadding_of_build hApart hBlock h
  · intro length keepRate block title g sample hBlock hTitle h
    exact Splitter.tellsPadding_of_split hApart.cls_ne hApart.sep_ne hBlock hTitle h
  · intro settings rows archive collection hOpened
    obtain ⟨-, rfl⟩ := PairCollection.ofRows_eq_ok_iff.mp hOpened
    constructor
    · intro start stop document framed hSentences hTitle h
      exact PairCollection.tellsPadding_of_evidence hApart.cls_ne hApart.sep_ne hSentences hTitle h
    · intro framed h
      exact PairCollection.tellsPadding_of_noEvidence hApart.cls_ne hApart.sep_ne h

/-- A masked sample, a pair, evidence and its stand-in, all with the padding 0. -/
theorem tellsPadding_of_padApart_tiny :
    TellsPadding 0 MaskedSample.tiny.tokens MaskedSample.tiny.padMask
      ∧ (TellsPadding 0 PairSample.echo.query.tokens PairSample.echo.query.padMask
        ∧ TellsPadding 0 PairSample.echo.block.tokens PairSample.echo.block.padMask)
      ∧ TellsPadding 0 Framed.tight.tokens Framed.tight.padMask
      ∧ TellsPadding 0 [2, 3, 3, 0, 0, 0, 0, 0, 0, 0] [1, 1, 1, 0, 0, 0, 0, 0, 0, 0] := by
  have hApart : Masker.tiny.vocabulary.special.PadApart := ⟨by decide, by decide, by decide⟩
  obtain ⟨hMasked, hPairs, hBlocks⟩ := tellsPadding_of_padApart hApart
  have hOpened : (PairCollection.ofRows { Settings.standard with length := 10, keepRate := 0 }
      Masker.tiny.vocabulary .tiny .strayed).result = .ok (.tight 0) :=
    PairCollection.ofRows_eq_ok_iff.mpr ⟨by decide +kernel, rfl⟩
  obtain ⟨hEvidence, hNone⟩ := hBlocks _ _ _ _ hOpened
  refine ⟨?_, ?_, ?_, ?_⟩
  · exact hMasked 10 0.5 .standard .tiny ⟨10⟩ .tiny (by decide) (by decide +kernel)
  · exact hPairs 10 0 .echo (some [9]) ⟨11⟩ .echo (by decide) (by decide) (by decide +kernel)
  · refine hEvidence 0 3 0 .tight ?_ ?_ (by decide +kernel)
    · rintro sentences ⟨⟩
      decide
    · rintro title ⟨⟩
      decide
  · exact hNone ⟨_, _⟩ rfl

end Pretext
