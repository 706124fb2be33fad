import Pretext.Proofs.Masked.Sample

/-! What is put in place of the tokens has no say in what is to be predicted. All positions are
selected before the first of them is hidden, and none is hidden twice, so that a label is never
taken from a replacement. -/
namespace Pretext

/-- The samples ask for the same tokens at the same positions, and differ only in what is put in
their place. -/
structure MaskedSample.SameTask (sample other : MaskedSample) : Prop where
  labels_eq : sample.labels = other.labels
  lossMask_eq : sample.lossMask = other.lossMask
  padMask_eq : sample.padMask = other.padMask
  segments_eq : sample.segments = other.segments
  blocks_eq : sample.blocks = other.blocks
  tokens_eq : ∀ position : Nat, sample.lossMask[position]? ≠ some 1 →
    sample.tokens[position]? = other.tokens[position]?

namespace Masker

variable {masker other : Masker} {tokens : List TokenId} {positions : List Nat}
  {sample changed : MaskedSample}

namespace Hides

/-- Labels and loss mask are settled by the tokens and by the positions that are hidden. -/
theorem targets_eq (h : masker.Hides tokens positions sample)
    (hOther : other.Hides tokens positions changed) (position : Nat) :
    sample.labels[position]? = changed.labels[position]?
      ∧ sample.lossMask[position]? = changed.lossMask[position]? := by
  cases hToken : tokens[position]? with
  | none =>
      have hLength := List.getElem?_eq_none_iff.mp hToken
      constructor
      · rw [List.getElem?_eq_none (h.length_labels ▸ hLength),
          List.getElem?_eq_none (hOther.length_labels ▸ hLength)]
      · rw [List.getElem?_eq_none (h.length_lossMask ▸ hLength),
          List.getElem?_eq_none (hOther.length_lossMask ▸ hLength)]
  | some token =>
      by_cases hPosition : position ∈ positions
      · obtain ⟨-, -, hLabel, hLoss⟩ := h.hidden hPosition hToken
        obtain ⟨-, -, hOtherLabel, hOtherLoss⟩ := hOther.hidden hPosition hToken
        exact ⟨hLabel.trans hOtherLabel.symm, hLoss.trans hOtherLoss.symm⟩
      · obtain ⟨-, hLabel, hLoss⟩ := h.kept hPosition hToken
        obtain ⟨-, hOtherLabel, hOtherLoss⟩ := hOther.kept hPosition hToken
        exact ⟨hLabel.trans hOtherLabel.symm, hLoss.trans hOtherLoss.symm⟩

end Hides

/-- Maskers that select the same positions set the same task. -/
theorem sameTask_draw {plan : MaskPlan} {g : Generator} (window : Window)
    (hSelected : other.selectFrom plan g = masker.selectFrom plan g)
    (hNodup : ((masker.selectFrom plan g).1.flatMap Span.positions).Nodup) :
    (masker.draw plan window g).1.SameTask (other.draw plan window g).1 := by
  have hHides := hides_draw plan window g hNodup
  rw [← hSelected] at hNodup
  have hChanged := hides_draw plan window g hNodup
  rw [hSelected] at hChanged
  have hTargets := hHides.targets_eq hChanged
  have hLoss := List.ext_getElem? fun position => (hTargets position).2
  obtain ⟨hPad, hSegments, hBlocks⟩ := masker.frame_draw plan window g
  obtain ⟨hOtherPad, hOtherSegments, hOtherBlocks⟩ := other.frame_draw plan window g
  refine ⟨List.ext_getElem? fun position => (hTargets position).1, hLoss,
    hPad.trans hOtherPad.symm, hSegments.trans hOtherSegments.symm,
    hBlocks.trans hOtherBlocks.symm, ?_⟩
  intro position hOne
  rw [hHides.getElem?_tokens hOne, hChanged.getElem?_tokens (hLoss ▸ hOne)]

/-- Whatever the policies are, a block is refused by both maskers for the same reason or by neither,
and the samples have the same task. -/
theorem sameTask_of_policy (masker : Masker) (policy : NoisePolicy) (block : Block) (g : Generator) :
    match (masker.build block g).1, (build { masker with policy := policy } block g).1 with
    | .ok sample, .ok changed => sample.SameTask changed
    | .error failure, .error cause => failure = cause
    | _, _ => False := by
  have hSame : plan { masker with policy := policy } block = masker.plan block := rfl
  unfold build
  rw [hSame]
  cases hPlan : masker.plan block with
  | error failure => exact rfl
  | ok plan => exact sameTask_draw block.window rfl (nodup_selectFrom hPlan g)

end Masker

end Pretext
