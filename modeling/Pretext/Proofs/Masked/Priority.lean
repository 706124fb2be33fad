import Pretext.Proofs.Masked.Sample

/-! What is hidden keeps to the budget and leaves no room for a candidate that was passed over. Plain
words get what the salient spans leave. -/
namespace Pretext

theorem MaskedSample.mem_maskedPositions {sample : MaskedSample} {position : Nat} :
    position ∈ sample.maskedPositions ↔
      ∃ loss, sample.lossMask[position]? = some loss ∧ loss ≠ 0 := by
  simp only [maskedPositions, List.mem_map, List.mem_filter, bne_iff_ne]
  constructor
  · rintro ⟨⟨loss, place⟩, ⟨hEntry, hNe⟩, rfl⟩
    exact ⟨loss, List.mem_zipIdx_iff_getElem?.mp hEntry, hNe⟩
  · rintro ⟨loss, hLoss, hNe⟩
    exact ⟨(loss, position), ⟨List.mem_zipIdx_iff_getElem?.mpr hLoss, hNe⟩, rfl⟩

theorem MaskedSample.nodup_maskedPositions (sample : MaskedSample) :
    sample.maskedPositions.Nodup := by
  have hAll : (sample.lossMask.zipIdx.map Prod.snd).Nodup := by
    rw [List.zipIdx_map_snd]
    exact List.nodup_range'
  exact (List.filter_sublist.map Prod.snd).nodup hAll

namespace Masker

variable {masker : Masker} {block : Block} {sample : MaskedSample} {g : Generator}

namespace Selects

variable {words salient plain : List Span} {span : Span}

/-- What is masked is what was selected. -/
theorem maskedPositions_perm (h : masker.Selects block words salient plain sample) :
    sample.maskedPositions.Perm (masker.selected block salient plain) := by
  have hNodup : (masker.selected block salient plain).Nodup :=
    nodup_selected h.salient_perm h.plain_perm h.tile
  apply (List.perm_ext_iff_of_nodup sample.nodup_maskedPositions hNodup).mpr
  intro position
  rw [MaskedSample.mem_maskedPositions]
  constructor
  · rintro ⟨loss, hLoss, hNe⟩
    by_contra hPosition
    have hLength : position < masker.length := by
      rw [← length_unhidden h.fits, ← h.hides.length_lossMask]
      exact (List.getElem?_eq_some_iff.mp hLoss).1
    rw [h.lossMask_of_not_mem hLength hPosition] at hLoss
    exact hNe (Option.some.inj hLoss).symm
  · intro hPosition
    exact ⟨1, h.lossMask_of_mem hPosition, by decide⟩

/-- A sample never masks more positions than the budget. -/
theorem length_maskedPositions_le (h : masker.Selects block words salient plain sample) :
    sample.maskedPositions.length ≤ masker.budget block := by
  rw [h.maskedPositions_perm.length_eq]
  exact length_select_le _ _

/-- Only a span that is not selected keeps a position. -/
theorem not_mem_select (h : masker.Selects block words salient plain sample) {position : Nat}
    (hPosition : position ∈ span.positions) (hKept : position ∉ sample.maskedPositions) :
    span ∉ select (masker.budget block) (salient ++ plain) := by
  intro hSpan
  apply hKept
  rw [h.maskedPositions_perm.mem_iff]
  exact List.mem_flatMap.mpr ⟨span, hSpan, hPosition⟩

/-- The salient spans are selected as if there were no plain words. -/
theorem length_select_salient_le (h : masker.Selects block words salient plain sample) :
    ((select (masker.budget block) salient).flatMap Span.positions).length ≤
      (sample.maskedPositions.filter (· ∈ (block.candidates (masker.payload block).length
        words).salient.flatMap Span.positions)).length := by
  have hSublist : ((select (masker.budget block) salient).flatMap Span.positions).Sublist
      (masker.selected block salient plain) := by
    rw [selected, select_append, List.flatMap_append]
    exact List.sublist_append_left ..
  have hNodup := hSublist.nodup (nodup_selected h.salient_perm h.plain_perm h.tile)
  apply hNodup.length_le_of_subset
  intro position hPosition
  apply List.mem_filter.mpr
  refine ⟨h.maskedPositions_perm.mem_iff.mpr (hSublist.subset hPosition), ?_⟩
  have hOffered := ((select_sublist _ _).flatMap _).subset hPosition
  exact decide_eq_true ((h.salient_perm.flatMap_right _).mem_iff.mp hOffered)

/-- Every candidate takes something of the budget. -/
theorem length_pos (h : masker.Selects block words salient plain sample)
    (hSpan : span ∈ (block.candidates (masker.payload block).length words).all) :
    0 < span.length := by
  have hLt := Block.start_lt_stop_of_mem_candidates h.tile hSpan
  simp only [Span.length]
  omega

end Selects

/-- The budget is kept, and it is used up as far as the candidates allow: a salient span that keeps a
position does not fit beside the salient positions that are hidden, and a plain word that keeps one
does not fit beside all that are hidden. -/
theorem maximal_of_build (h : (masker.build block g).1 = .ok sample) :
    ∃ words candidates, block.words masker.vocabulary (masker.payload block).length = .ok words
      ∧ candidates = block.candidates (masker.payload block).length words
      ∧ sample.maskedPositions.length ≤ masker.budget block
      ∧ (∀ span ∈ candidates.salient,
        (∃ position ∈ span.positions, position ∉ sample.maskedPositions) →
        masker.budget block < (sample.maskedPositions.filter
          (· ∈ candidates.salient.flatMap Span.positions)).length + span.length)
      ∧ ∀ span ∈ candidates.plain,
        (∃ position ∈ span.positions, position ∉ sample.maskedPositions) →
        masker.budget block < sample.maskedPositions.length + span.length := by
  obtain ⟨words, salient, plain, hSelects⟩ := exists_selects_of_build h
  refine ⟨words, _, hSelects.words_eq, rfl, hSelects.length_maskedPositions_le, ?_, ?_⟩
  · rintro span hSpan ⟨position, hPosition, hKept⟩
    have hOut := hSelects.not_mem_select hPosition hKept
    rw [select_append] at hOut
    have hOver := lt_of_not_mem_select (hSelects.salient_perm.mem_iff.mpr hSpan)
      (hSelects.length_pos (List.mem_append_left _ hSpan))
      (fun hIn => hOut (List.mem_append_left _ hIn))
    have hLe := hSelects.length_select_salient_le
    omega
  · rintro span hSpan ⟨position, hPosition, hKept⟩
    have hOver := lt_of_not_mem_select
      (List.mem_append_right salient (hSelects.plain_perm.mem_iff.mpr hSpan))
      (hSelects.length_pos (List.mem_append_right _ hSpan))
      (hSelects.not_mem_select hPosition hKept)
    rw [hSelects.maskedPositions_perm.length_eq]
    exact hOver

/-- The plain word of two pieces does not fit beside the salient span of three. -/
theorem maximal_of_build_tiny :
    (tiny.build .tiny ⟨10⟩).1 = .ok .tiny
      ∧ tiny.budget .tiny < MaskedSample.tiny.maskedPositions.length + 2 := by
  have hBuild : (tiny.build .tiny ⟨10⟩).1 = .ok .tiny := by decide +kernel
  obtain ⟨words, candidates, hWords, rfl, -, -, hPlain⟩ := maximal_of_build hBuild
  have hFound : Block.tiny.words tiny.vocabulary (tiny.payload .tiny).length =
      .ok [⟨1, 3⟩, ⟨3, 4⟩, ⟨4, 6⟩, ⟨6, 7⟩] := by decide +kernel
  cases hFound.symm.trans hWords
  exact ⟨hBuild, hPlain ⟨1, 3⟩ (by decide +kernel) ⟨1, by decide, by decide +kernel⟩⟩

end Masker

end Pretext
