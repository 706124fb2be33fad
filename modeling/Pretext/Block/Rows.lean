import Pretext.Block.Basic
import Pretext.Failure

/-! The rows of a collection, each of which becomes one sample. -/
namespace Pretext

/-- Windows in the order of the rows. None of them is empty. -/
structure Rows where
  windows : List Window
  filled : ∀ window ∈ windows, window.isEmpty = false
deriving DecidableEq

namespace Rows

/-- The first window without a sentence, with its row. Rows are counted from `row`. -/
def firstEmpty (row : Nat) : List Window → Option (Nat × Window)
  | [] => none
  | window :: rest => if window.isEmpty then some (row, window) else firstEmpty (row + 1) rest

theorem filled_of_firstEmpty {windows : List Window} {row : Nat}
    (h : firstEmpty row windows = none) : ∀ window ∈ windows, window.isEmpty = false := by
  induction windows generalizing row with
  | nil => simp
  | cons window rest ih =>
    unfold firstEmpty at h
    split at h
    · simp at h
    · rename_i hFilled
      simpa [hFilled] using ih h

/-- Windows as rows. The first that is empty is named. -/
def ofWindows (windows : List Window) : Except Failure Rows :=
  match h : firstEmpty 0 windows with
  | none => .ok ⟨windows, filled_of_firstEmpty h⟩
  | some (row, window) => .error (.configuration (.emptyRange row window.start window.stop))

/-- The number of rows. -/
def length (rows : Rows) : Nat := rows.windows.length

/-- The window of a row. -/
def get (rows : Rows) (index : UInt64) : Except Failure Window :=
  match rows.windows[index.toNat]? with
  | some window => .ok window
  | none => .error (.rowOutOfRange index.toNat rows.length)

variable {rows : Rows} {index : UInt64} {window : Window}

theorem get_of_some (h : rows.windows[index.toNat]? = some window) :
    rows.get index = .ok window := by
  rw [get, h]

theorem get_of_none (h : rows.windows[index.toNat]? = none) :
    rows.get index = .error (.rowOutOfRange index.toNat rows.length) := by
  rw [get, h]

theorem getElem?_of_get (h : rows.get index = .ok window) :
    rows.windows[index.toNat]? = some window := by
  unfold get at h
  split at h
  · rename_i found hFound
    rw [hFound, Except.ok.inj h]
  · cases h

theorem start_lt_stop (h : rows.windows[index.toNat]? = some window) :
    window.start.toNat < window.stop.toNat := by
  have hFilled := rows.filled window (List.mem_of_getElem? h)
  rw [Window.isEmpty, decide_eq_false_iff_not, UInt64.not_le] at hFilled
  exact UInt64.lt_iff_toNat_lt.mp hFilled

end Rows

end Pretext
