import Mathlib.Data.List.Perm.Basic
import Pretext.Masked.Selection
import Pretext.Random.Draw

/-! A shuffle changes the order of a list and nothing else, whatever is drawn, and of what is shuffled a
selection takes what fits: in the end nothing more does, and spans that come first are not displaced by
later ones. -/
namespace Pretext

variable {α : Type}

/-- The new element takes the place of another, which moves to the end, or goes to the end itself.
Either way it joins those that were there. -/
theorem placeAt_perm (placed : Array α) (index : Nat) (x : α) :
    (placeAt placed index x).toList.Perm (x :: placed.toList) := by
  unfold placeAt
  split
  · rename_i hIndex
    have hLength : index < placed.toList.length := by simpa using hIndex
    rw [Array.toList_set, Array.toList_push, List.set_append_left _ _ hLength]
    calc
      List.Perm (placed.toList.set index x ++ [placed[index]])
          (placed[index] :: placed.toList.set index x) := List.perm_append_singleton _ _
      List.Perm _ (placed[index] :: x :: placed.toList.eraseIdx index) :=
          (List.set_perm_cons_eraseIdx hLength x).cons _
      List.Perm _ (x :: placed[index] :: placed.toList.eraseIdx index) := List.Perm.swap ..
      List.Perm _ (x :: placed.toList) := (List.getElem_cons_eraseIdx_perm hLength).cons x
  · rw [Array.toList_push]
    exact List.perm_append_singleton _ _

/-- Elements join those that are placed already, and none is lost, whatever places are drawn. -/
theorem shuffleOnto_perm (placed : Array α) (places : Places) (g : Generator) (elements : List α) :
    (shuffleOnto placed places g elements).1.toList.Perm (placed.toList ++ elements) := by
  induction elements generalizing placed places g with
  | nil => simp [shuffleOnto]
  | cons x rest ih =>
      unfold shuffleOnto
      refine (ih _ _ _).trans ?_
      exact ((placeAt_perm placed _ x).append_right rest).trans List.perm_middle.symm

/-- A shuffle is an order of the same elements. -/
theorem shuffle_perm (elements : List α) (g : Generator) : (shuffle elements g).1.Perm elements := by
  have h := shuffleOnto_perm #[] Places.start g elements
  rwa [List.nil_append] at h

variable {budget : Nat} {span : Span} {spans : List Span}

theorem select_zero (spans : List Span) : select 0 spans = [] := by
  cases spans with
  | nil => rfl
  | cons span rest => rw [select, if_pos rfl]

/-- Spans are selected in the order in which they are offered. -/
theorem select_sublist (budget : Nat) (spans : List Span) : (select budget spans).Sublist spans := by
  induction spans generalizing budget with
  | nil => exact List.Sublist.slnil
  | cons span rest ih =>
      unfold select
      split
      · exact List.nil_sublist _
      · split
        · exact (ih budget).cons span
        · exact (ih _).cons_cons span

theorem length_le_of_mem_select (h : span ∈ select budget spans) : span.length ≤ budget := by
  obtain ⟨before, after, hSplit⟩ := List.append_of_mem h
  have hLe := length_select_le budget spans
  rw [hSplit, List.flatMap_append, List.flatMap_cons, List.length_append, List.length_append,
    Span.length_positions] at hLe
  omega

/-- The spans that come first are selected as if there were no others, and the others from what is
left of the budget. -/
theorem select_append (budget : Nat) (spans more : List Span) :
    select budget (spans ++ more) = select budget spans ++
      select (budget - ((select budget spans).flatMap Span.positions).length) more := by
  induction spans generalizing budget with
  | nil => rfl
  | cons span rest ih =>
      rw [List.cons_append, select, select]
      split
      · rename_i hZero
        rw [hZero, Nat.zero_sub, select_zero]
        rfl
      · split
        · exact ih budget
        · rw [ih, List.cons_append, List.flatMap_cons, List.length_append, Span.length_positions,
            Nat.sub_add_eq]

/-- A span that is left out does not fit beside those that are selected. -/
theorem lt_of_not_mem_select (hSpan : span ∈ spans) (hLength : 0 < span.length)
    (h : span ∉ select budget spans) :
    budget < ((select budget spans).flatMap Span.positions).length + span.length := by
  induction spans generalizing budget with
  | nil => cases hSpan
  | cons next rest ih =>
      unfold select at h ⊢
      split
      · omega
      · rename_i hBudget
        rw [if_neg hBudget] at h
        split
        · rename_i hOver
          rw [if_pos hOver] at h
          rcases List.mem_cons.mp hSpan with rfl | hSpan
          · omega
          · exact ih hSpan h
        · rename_i hFits
          rw [if_neg hFits] at h
          obtain ⟨hNe, hRest⟩ := List.ne_and_not_mem_of_not_mem_cons h
          have hSpan := (List.mem_cons.mp hSpan).resolve_left hNe
          have hLeft := ih hSpan hRest
          rw [List.flatMap_cons, List.length_append, Span.length_positions]
          omega

end Pretext
