import Pretext.Proofs.Masked.Sample

/-! A sample holds the block it was made of: the labels, written back, give the frame as it was. -/
namespace Pretext

/-- A token, or the label in its place where the loss mask is 1. -/
def writeBack (token : TokenId) (label : Int64) (loss : UInt8) : Int64 :=
  if loss = 1 then label else Int64.ofNat token.toNat

theorem writeBack_one (token : TokenId) (label : Int64) : writeBack token label 1 = label :=
  if_pos rfl

theorem writeBack_zero (token : TokenId) (label : Int64) :
    writeBack token label 0 = Int64.ofNat token.toNat :=
  if_neg (by decide)

/-- The tokens of a sample when the labels are written back. -/
def MaskedSample.restored (sample : MaskedSample) : List Int64 :=
  (sample.tokens.zip (sample.labels.zip sample.lossMask)).map fun entry =>
    writeBack entry.1 entry.2.1 entry.2.2

/-- Labels are written back position by position. -/
theorem MaskedSample.getElem?_restored {sample : MaskedSample} {position : Nat} {replacement : TokenId}
    {label : Int64} {loss : UInt8} (hToken : sample.tokens[position]? = some replacement)
    (hLabel : sample.labels[position]? = some label)
    (hLoss : sample.lossMask[position]? = some loss) :
    sample.restored[position]? = some (writeBack replacement label loss) := by
  have hZip : (sample.tokens.zip (sample.labels.zip sample.lossMask))[position]? =
      some (replacement, label, loss) := by
    rw [List.getElem?_zip_eq_some, List.getElem?_zip_eq_some]
    exact ⟨hToken, hLabel, hLoss⟩
  rw [restored, List.getElem?_map, hZip, Option.map_some]

/-- No token is labelled like a position that is not to be predicted. -/
theorem label_ne_noLabel (token : TokenId) : Int64.ofNat token.toNat ≠ noLabel := by
  intro h
  have hLt := token.toNat_lt
  have hInt : (token.toNat : Int) = -1 := by
    rw [← Int64.toInt_ofNat_of_lt (show token.toNat < 2 ^ 63 by omega), h]
    rfl
  omega

theorem choose_mem {α : Type} {elements : List α} {g : Generator} {x : α}
    (h : (g.choose elements).1 = some x) : x ∈ elements := by
  unfold Generator.choose at h
  split at h
  · cases h
  · exact List.mem_of_getElem? h

namespace Masker

variable {masker : Masker} {block : Block} {sample : MaskedSample} {g : Generator}

/-- A replacement is a token of the vocabulary and none of the special ones. -/
theorem mem_replacements {id : TokenId} (h : id ∈ masker.replacements) :
    masker.vocabulary.special.contains id = false ∧ id.toNat < masker.vocabulary.size := by
  unfold replacements Vocabulary.ids at h
  obtain ⟨hId, hSpecial⟩ := List.mem_filter.mp h
  obtain ⟨number, hNumber, rfl⟩ := List.mem_map.mp hId
  refine ⟨by simpa using hSpecial, ?_⟩
  have hLt := List.mem_range.mp hNumber
  have hLe : number.toUInt32.toNat ≤ number := Nat.mod_le number _
  have hSize : masker.vocabulary.size.toUInt32.toNat ≤ masker.vocabulary.size :=
    Nat.mod_le masker.vocabulary.size _
  omega

/-- A token to be hidden gets the mask, stays, or gets a replacement, whatever is drawn. -/
theorem noise_cases (masker : Masker) (token : TokenId) (g : Generator) :
    (masker.noise token g).1 = masker.vocabulary.special.mask ∨ (masker.noise token g).1 = token
      ∨ (masker.noise token g).1 ∈ masker.replacements := by
  unfold noise NoisePolicy.draw
  generalize g.unit = drawn
  obtain ⟨fraction, after⟩ := drawn
  dsimp only
  split
  · exact Or.inl rfl
  · split
    · cases hChoose : (after.choose masker.replacements).1 with
      | none => exact Or.inr (Or.inl (by simp))
      | some replacement =>
          have hMem := choose_mem hChoose
          exact Or.inr (Or.inr (by simpa [hChoose] using hMem))
    · exact Or.inr (Or.inl rfl)

/-- The payload stands behind the opening token. -/
theorem unhidden_eq_payload {position : Nat} (hFirst : 1 ≤ position)
    (hLast : position ≤ (masker.payload block).length) :
    (masker.unhidden block)[position]? = (masker.payload block)[position - 1]? := by
  obtain ⟨index, rfl⟩ : ∃ index, position = index + 1 := ⟨position - 1, by omega⟩
  unfold unhidden
  rw [List.cons_append, List.getElem?_cons_succ, List.append_assoc,
    List.getElem?_append_left (by omega), Nat.add_sub_cancel]

namespace Selects

variable {words salient plain : List Span} {position : Nat} {token : TokenId}

/-- A position has no label exactly if it is not to be predicted. -/
theorem labels_eq_noLabel_iff (h : masker.Selects block words salient plain sample) :
    sample.labels[position]? = some noLabel ↔ sample.lossMask[position]? = some 0 := by
  rcases Nat.lt_or_ge position masker.length with hLength | hLength
  · obtain ⟨token, hToken⟩ := h.exists_unhidden hLength
    by_cases hPosition : position ∈ masker.selected block salient plain
    · obtain ⟨_, -, hLabel, hLoss⟩ := h.hides.hidden hPosition hToken
      rw [hLabel, hLoss]
      constructor
      · intro hNone
        exact absurd (Option.some.inj hNone) (label_ne_noLabel token)
      · intro hZero
        cases hZero
    · obtain ⟨-, hLabel, hLoss⟩ := h.hides.kept hPosition hToken
      rw [hLabel, hLoss]
      exact iff_of_true rfl rfl
  · rw [← length_unhidden h.fits] at hLength
    rw [List.getElem?_eq_none (h.hides.length_labels ▸ hLength),
      List.getElem?_eq_none (h.hides.length_lossMask ▸ hLength)]
    exact iff_of_false (by simp) (by simp)

/-- With the labels written back, a sample has the tokens of the frame again. -/
theorem restored_eq (h : masker.Selects block words salient plain sample) :
    sample.restored = (masker.unhidden block).map fun token => Int64.ofNat token.toNat := by
  apply List.ext_getElem?
  intro position
  rw [List.getElem?_map]
  rcases Nat.lt_or_ge position masker.length with hLength | hLength
  · obtain ⟨token, hToken⟩ := h.exists_unhidden hLength
    rw [hToken, Option.map_some]
    by_cases hPosition : position ∈ masker.selected block salient plain
    · obtain ⟨drawn, hDrawn, hLabel, hLoss⟩ := h.hides.hidden hPosition hToken
      rw [MaskedSample.getElem?_restored hDrawn hLabel hLoss, writeBack_one]
    · obtain ⟨hKept, hLabel, hLoss⟩ := h.hides.kept hPosition hToken
      rw [MaskedSample.getElem?_restored hKept hLabel hLoss, writeBack_zero]
  · rw [← length_unhidden h.fits] at hLength
    have hTokens : sample.tokens.length ≤ position := h.hides.length_tokens ▸ hLength
    have hRestored : sample.restored.length ≤ position := by
      rw [MaskedSample.restored, List.length_map, List.length_zip]
      omega
    rw [List.getElem?_eq_none hLength, List.getElem?_eq_none hRestored]
    rfl

/-- A token that is to be predicted has been replaced by the mask, by itself, or by a token of the
vocabulary that is none of the special ones. -/
theorem replaced_cases (h : masker.Selects block words salient plain sample)
    (hLoss : sample.lossMask[position]? = some 1) (hToken : sample.tokens[position]? = some token) :
    token = masker.vocabulary.special.mask
      ∨ (masker.payload block)[position - 1]? = some token
      ∨ masker.vocabulary.special.contains token = false
        ∧ token.toNat < masker.vocabulary.size := by
  have hPosition := h.lossMask_eq_one_iff.mp hLoss
  obtain ⟨hFirst, hLast⟩ := h.bounds_of_mem_selected hPosition
  have hFits := h.fits
  obtain ⟨original, hOriginal⟩ := h.exists_unhidden (show position < masker.length by omega)
  obtain ⟨drawn, hDrawn, -, -⟩ := h.hides.hidden hPosition hOriginal
  cases hToken.symm.trans hDrawn
  rcases masker.noise_cases original drawn with hMask | hSame | hRandom
  · exact Or.inl hMask
  · rw [unhidden_eq_payload hFirst hLast] at hOriginal
    exact Or.inr (Or.inl (by rw [hSame, hOriginal]))
  · exact Or.inr (Or.inr (mem_replacements hRandom))

end Selects

/-- Of the frame only payload is hidden, and nothing that is hidden is lost: where the loss mask is 1
the label is the token that stood there, and everywhere else the token still stands. What is put in
place of a token never looks like a part of the frame, unless it is the mask. -/
theorem restored_of_build (h : (masker.build block g).1 = .ok sample) :
    (sample.tokens.length = masker.length ∧ sample.padMask.length = masker.length
      ∧ sample.labels.length = masker.length ∧ sample.lossMask.length = masker.length
      ∧ sample.segments.length = masker.length)
    ∧ (∀ position, position < masker.length →
      sample.lossMask[position]? = some 0 ∨ sample.lossMask[position]? = some 1)
    ∧ (∀ position : Nat, sample.lossMask[position]? = some 1 →
      1 ≤ position ∧ position ≤ (masker.payload block).length)
    ∧ (∀ position : Nat, sample.labels[position]? = some noLabel ↔ sample.lossMask[position]? = some 0)
    ∧ sample.restored = (masker.unhidden block).map (fun token => Int64.ofNat token.toNat)
    ∧ ∀ (position : Nat) (token : TokenId), sample.lossMask[position]? = some 1 →
      sample.tokens[position]? = some token →
      token = masker.vocabulary.special.mask
        ∨ (masker.payload block)[position - 1]? = some token
        ∨ masker.vocabulary.special.contains token = false
          ∧ token.toNat < masker.vocabulary.size := by
  obtain ⟨words, salient, plain, hSelects⟩ := exists_selects_of_build h
  have hLength := length_unhidden hSelects.fits
  refine ⟨⟨?_, hSelects.length_padMask, ?_, ?_, hSelects.length_segments⟩, ?_, ?_, ?_,
    hSelects.restored_eq, ?_⟩
  · rw [hSelects.hides.length_tokens, hLength]
  · rw [hSelects.hides.length_labels, hLength]
  · rw [hSelects.hides.length_lossMask, hLength]
  · intro position hPosition
    by_cases hSelected : position ∈ masker.selected block salient plain
    · exact Or.inr (hSelects.lossMask_of_mem hSelected)
    · exact Or.inl (hSelects.lossMask_of_not_mem hPosition hSelected)
  · intro position hLoss
    exact hSelects.bounds_of_mem_selected (hSelects.lossMask_eq_one_iff.mp hLoss)
  · intro position
    exact hSelects.labels_eq_noLabel_iff
  · intro position token hLoss hToken
    exact hSelects.replaced_cases hLoss hToken

/-- A sample of two sentences, with two of its tokens written back. -/
theorem restored_of_build_tiny :
    (tiny.build .tiny ⟨10⟩).1 = .ok .tiny
      ∧ MaskedSample.tiny.restored = [2, 5, 6, 7, 8, 9, 7, 3, 0, 0] := by
  have hBuild : (tiny.build .tiny ⟨10⟩).1 = .ok .tiny := by decide +kernel
  obtain ⟨-, -, -, -, hRestored, -⟩ := restored_of_build hBuild
  refine ⟨hBuild, ?_⟩
  rw [hRestored]
  decide +kernel

end Masker

end Pretext
