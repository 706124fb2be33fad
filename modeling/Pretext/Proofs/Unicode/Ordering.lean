import Mathlib.Data.List.Chain
import Pretext.Unicode.CombiningClass

/-! Canonical order. It is what ordering brings about, and ordering leaves alone what has it. No mark
passes a character of class 0, so that the parts of a text between such characters are ordered each
for itself. -/
namespace Pretext.Unicode

/-- Of two marks that follow each other, the second is not of a lower class. A character of class 0
may follow anything. -/
def MarksOrdered (text : List Char) : Prop :=
  text.IsChain fun c d => ¬ (0 < combiningClass d ∧ combiningClass d < combiningClass c)

variable {c starter : Char} {text before after : List Char}

private theorem mem_head?_insertMark {d : Char} (h : d ∈ (insertMark c text).head?) :
    d = c ∨ d ∈ text.head? := by
  cases text with
  | nil => exact Or.inl (Option.some_inj.mp h).symm
  | cons e rest =>
      rw [insertMark] at h
      split at h
      · exact Or.inr h
      · exact Or.inl (Option.some_inj.mp h).symm

/-- A mark joins marks in order at its place among them. -/
private theorem insertMark_ordered (h : MarksOrdered text) : MarksOrdered (insertMark c text) := by
  induction text with
  | nil => exact List.isChain_singleton c
  | cons d rest ih =>
      obtain ⟨hFirst, hRest⟩ := List.isChain_cons.mp h
      rw [insertMark]
      split
      · rename_i hPasses
        refine List.isChain_cons.mpr ⟨?_, ih hRest⟩
        intro e hHead
        rcases mem_head?_insertMark hHead with rfl | hHead
        · omega
        · exact hFirst e hHead
      · rename_i hStays
        exact List.isChain_cons_cons.mpr ⟨hStays, h⟩

/-- After they are put in order, marks are in order. -/
theorem orderMarks_ordered (text : List Char) : MarksOrdered (orderMarks text) := by
  induction text with
  | nil => exact List.isChain_nil
  | cons c rest ih => exact insertMark_ordered ih

/-- Ordering changes nothing exactly where there is nothing to order. -/
theorem orderMarks_eq_iff : orderMarks text = text ↔ MarksOrdered text := by
  constructor
  · intro h
    rw [← h]
    exact orderMarks_ordered text
  · intro h
    induction text with
    | nil => rfl
    | cons c rest ih =>
        rw [orderMarks, ih (List.IsChain.tail h)]
        cases rest with
        | nil => rfl
        | cons d rest => exact if_neg (List.isChain_cons_cons.mp h).1

/-- A mark is never moved past a starter. -/
private theorem insertMark_append (hStarter : combiningClass starter = 0) :
    insertMark c (before ++ starter :: after) = insertMark c before ++ starter :: after := by
  induction before with
  | nil => exact if_neg (by omega)
  | cons d rest ih =>
      rw [List.cons_append, insertMark, insertMark, ih]
      split <;> rfl

/-- A character of class 0 keeps its place, and the marks before it do not mingle with those after
it. -/
theorem orderMarks_append (hStarter : combiningClass starter = 0) :
    orderMarks (before ++ starter :: after) = orderMarks before ++ starter :: orderMarks after := by
  induction before with
  | nil =>
      rw [List.nil_append, orderMarks, orderMarks, List.nil_append]
      cases orderMarks after with
      | nil => rfl
      | cons d rest => exact if_neg (by omega)
  | cons d rest ih =>
      rw [List.cons_append, orderMarks, orderMarks, ih, insertMark_append hStarter]

end Pretext.Unicode
