import Pretext.Masked.Sample

/-! Hiding positions one after the other. Each is hidden once, so that its label is taken before its
token is replaced, and all others stay as they are. -/
namespace Pretext.MaskDraft

variable {noise : TokenId → Generator → TokenId × Generator} {positions : List Nat}
  {draft : MaskDraft} {position other : Nat} {token replacement : TokenId}

/-- What a draft has at one position: token, label and loss mask. -/
def entry (draft : MaskDraft) (position : Nat) : Option TokenId × Option Int64 × Option UInt8 :=
  (draft.tokens[position]?, draft.labels[position]?, draft.lossMask[position]?)

/-- The three lists go along with each other. -/
def Even (draft : MaskDraft) : Prop :=
  draft.labels.length = draft.tokens.length ∧ draft.lossMask.length = draft.tokens.length

theorem entry_hide_of_ne (h : other ≠ position) :
    (draft.hide position token replacement).entry other = draft.entry other := by
  simp only [entry, hide, List.getElem?_set_ne h.symm]

/-- A hidden position has its replacement, its own token as the label, and a one in the loss mask. -/
theorem entry_hide_self (hEven : draft.Even) (h : position < draft.tokens.length) :
    (draft.hide position token replacement).entry position =
      (some replacement, some (Int64.ofNat token.toNat), some 1) := by
  obtain ⟨hLabels, hLoss⟩ := hEven
  simp only [entry, hide]
  rw [List.getElem?_set_self h, List.getElem?_set_self (hLabels ▸ h),
    List.getElem?_set_self (hLoss ▸ h)]

/-- Hiding keeps the three lists as long as each other. -/
theorem even_hide (hEven : draft.Even) : (draft.hide position token replacement).Even := by
  simpa [Even, hide] using hEven

theorem even_ofTokens (tokens : List TokenId) : (ofTokens tokens).Even := by
  simp [Even, ofTokens]

theorem even_hideAll (hEven : draft.Even) (g : Generator) :
    (hideAll noise positions draft g).1.Even := by
  induction positions generalizing draft g with
  | nil => exact hEven
  | cons position rest ih =>
      unfold hideAll
      split
      · exact ih hEven g
      · exact ih (even_hide hEven) _

theorem length_tokens_hideAll (g : Generator) :
    (hideAll noise positions draft g).1.tokens.length = draft.tokens.length := by
  induction positions generalizing draft g with
  | nil => rfl
  | cons position rest ih =>
      unfold hideAll
      split
      · exact ih g
      · exact (ih _).trans (by simp [hide])

/-- Only the given positions are hidden. -/
theorem entry_hideAll_of_not_mem (h : other ∉ positions) (g : Generator) :
    (hideAll noise positions draft g).1.entry other = draft.entry other := by
  induction positions generalizing draft g with
  | nil => rfl
  | cons position rest ih =>
      obtain ⟨hNe, hRest⟩ := List.ne_and_not_mem_of_not_mem_cons h
      unfold hideAll
      split
      · exact ih hRest g
      · exact (ih hRest _).trans (entry_hide_of_ne hNe)

/-- A position that is hidden gets the token as its label that stood there before anything was
hidden. -/
theorem entry_hideAll_of_mem (hNodup : positions.Nodup) (hEven : draft.Even)
    (h : position ∈ positions) (hToken : draft.tokens[position]? = some token) (g : Generator) :
    ∃ drawn, (hideAll noise positions draft g).1.entry position =
      (some (noise token drawn).1, some (Int64.ofNat token.toNat), some 1) := by
  induction positions generalizing draft g with
  | nil => cases h
  | cons next rest ih =>
      obtain ⟨hFresh, hRest⟩ := List.nodup_cons.mp hNodup
      unfold hideAll
      rcases List.mem_cons.mp h with rfl | h
      · have hLength := (List.getElem?_eq_some_iff.mp hToken).1
        rw [hToken]
        refine ⟨g, ?_⟩
        show (hideAll noise rest _ _).1.entry position = _
        rw [entry_hideAll_of_not_mem hFresh, entry_hide_self hEven hLength]
      · have hNe : position ≠ next := fun hEq => hFresh (hEq ▸ h)
        split
        · exact ih hRest hEven h hToken g
        · apply ih hRest (even_hide hEven) h
          rw [← hToken]
          exact List.getElem?_set_ne hNe.symm

end Pretext.MaskDraft
