import Pretext.Frame
import Pretext.Masked.Policy
import Pretext.Masked.Selection
import Pretext.Random.Draw

/-! Samples for masked-language modelling: a block in which some words are hidden, to be predicted
from the others. What can fail is settled before anything is drawn. -/
namespace Pretext

/-- The label of a position that is not to be predicted. -/
def noLabel : Int64 := -1

/-- A framed block with noise. Labels have the token that stood there where the loss mask is 1. All
of the block is one segment. `blocks` has the number of the block. -/
structure MaskedSample where
  tokens : List TokenId
  padMask : List UInt8
  labels : List Int64
  lossMask : List UInt8
  segments : List UInt8
  blocks : List Int64
deriving DecidableEq

/-- The positions to be predicted. -/
def MaskedSample.maskedPositions (sample : MaskedSample) : List Nat :=
  (sample.lossMask.zipIdx.filter fun entry => entry.1 != 0).map Prod.snd

/-- How samples are made: the vocabulary of the blocks, the length of the frames, the share of the
positions to be predicted, and what is put in place of their tokens. -/
structure Masker where
  vocabulary : Vocabulary
  length : Nat
  rate : Float
  policy : NoisePolicy

/-- What is known of a sample before anything is drawn. -/
structure MaskPlan where
  framed : Framed
  payload : Nat
  candidates : Candidates

/-- The part of a sample that changes with every position that is hidden. -/
structure MaskDraft where
  tokens : List TokenId
  labels : List Int64
  lossMask : List UInt8

namespace MaskDraft

/-- Nothing is hidden. -/
def ofTokens (tokens : List TokenId) : MaskDraft :=
  ⟨tokens, List.replicate tokens.length noLabel, List.replicate tokens.length 0⟩

/-- Put `replacement` in place of `token`. -/
def hide (draft : MaskDraft) (position : Nat) (token replacement : TokenId) : MaskDraft where
  tokens := draft.tokens.set position replacement
  labels := draft.labels.set position (Int64.ofNat token.toNat)
  lossMask := draft.lossMask.set position 1

/-- Hide some positions, one after the other. -/
def hideAll (noise : TokenId → Generator → TokenId × Generator) :
    List Nat → MaskDraft → Generator → MaskDraft × Generator
  | [], draft, g => (draft, g)
  | position :: rest, draft, g =>
    match draft.tokens[position]? with
    | none => hideAll noise rest draft g
    | some token =>
      let (replacement, g) := noise token g
      hideAll noise rest (draft.hide position token replacement) g

end MaskDraft

namespace Masker

/-- The frame of the samples. -/
def frame (masker : Masker) : Frame :=
  .ofSpecial masker.vocabulary.special masker.length

/-- The tokens among which random ones are chosen. Special tokens are not, since they would look
like a part of the frame. -/
def replacements (masker : Masker) : List TokenId :=
  masker.vocabulary.ids.filter fun id => !masker.vocabulary.special.contains id

/-- Frame a block and find its words. -/
def plan (masker : Masker) (block : Block) : Except Failure MaskPlan := do
  block.requireContext
  let payload := flatten block.sentences (masker.frame.room none)
  let framed ← masker.frame.fill payload none
  let words ← block.words masker.vocabulary payload.length
  return ⟨framed, payload.length, block.candidates payload.length words⟩

/-- The spans to be hidden. Salient spans come first. Within both kinds the order is random. -/
def selectFrom (masker : Masker) (plan : MaskPlan) (g : Generator) : List Span × Generator :=
  let (salient, g) := shuffle plan.candidates.salient g
  let (plain, g) := shuffle plan.candidates.plain g
  (select (maskBudget masker.rate masker.length plan.payload) (salient ++ plain), g)

/-- Draw a sample. -/
def draw (masker : Masker) (plan : MaskPlan) (block : Window) (g : Generator) :
    MaskedSample × Generator :=
  let (spans, g) := masker.selectFrom plan g
  let noise := masker.policy.draw masker.vocabulary.special.mask masker.replacements
  let (draft, g) :=
    MaskDraft.hideAll noise (spans.flatMap Span.positions) (.ofTokens plan.framed.tokens) g
  ({ tokens := draft.tokens
     padMask := plan.framed.padMask
     labels := draft.labels
     lossMask := draft.lossMask
     segments := List.replicate plan.framed.tokens.length 0
     blocks := [block.block.toInt64] }, g)

/-- Make a sample of a block. A failure leaves the generator as it was. -/
def build (masker : Masker) (block : Block) (g : Generator) :
    Except Failure MaskedSample × Generator :=
  match masker.plan block with
  | .error failure => (.error failure, g)
  | .ok plan =>
    let (sample, g) := masker.draw plan block.window g
    (.ok sample, g)

/-- A failure has nothing to do with what is drawn. -/
theorem build_error_iff (masker : Masker) (block : Block) (g : Generator) (failure : Failure) :
    (masker.build block g).1 = .error failure ↔ masker.plan block = .error failure := by
  unfold build
  cases masker.plan block <;> simp

end Masker

end Pretext
