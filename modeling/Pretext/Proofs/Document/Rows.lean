import Mathlib.Data.List.TakeDrop
import Pretext.Document.Block
import Pretext.Proofs.Json.Spelling

/-! Rows outlive their documents, and no document brings in rows that could not be built from windows.
Reading checks the windows in the same way, whatever the document looks like. -/
namespace Pretext

namespace Window

/-- A window as a document. -/
def value (window : Window) : Json.Value :=
  .object [(some "start_idx", .number (.ofNat window.start.toNat)),
    (some "end_idx", .number (.ofNat window.stop.toNat)),
    (some "doc_idx", .number (.ofNat window.document.toNat)),
    (some "block_idx", .number (.ofNat window.block.toNat))]

variable {window : Window}

theorem isEmpty_iff : window.isEmpty = true ↔ window.stop ≤ window.start :=
  decide_eq_true_iff

theorem isEmpty_eq_false_iff : window.isEmpty = false ↔ window.start < window.stop := by
  rw [isEmpty, decide_eq_false_iff_not, UInt64.not_le]

/-- A row is written as the array of its four numbers. -/
theorem spells_toJson (window : Window) : Json.Spells window.toJson window.value := by
  have hPlain : ∀ name ∈ fieldNames, name.toList.all Json.isPlain = true := by decide
  have hField : ∀ name ∈ fieldNames, ∀ number : UInt64,
      some name = some name ∧ name.toList.all Json.isPlain = true
        ∧ Json.Spells (toString number) (.number (.ofNat number.toNat)) :=
    fun name hName number => ⟨rfl, hPlain name hName, Json.spells_uint64 number⟩
  exact Json.spells_object (.cons (hField _ (by decide) _) (.cons (hField _ (by decide) _)
    (.cons (hField _ (by decide) _) (.cons (hField _ (by decide) _) .nil))))

/-- A window is read if its four fields are there and are numbers of 64 bits. -/
theorem ofJson?_of_fields {value first second third fourth : Json.Value}
    (hFields : value.fields? fieldNames = some [some first, some second, some third, some fourth])
    (hStart : first.uint64? = some window.start) (hStop : second.uint64? = some window.stop)
    (hDocument : third.uint64? = some window.document)
    (hBlock : fourth.uint64? = some window.block) : ofJson? value = some window := by
  rw [ofJson?, hFields]
  simp [Json.required, hStart, hStop, hDocument, hBlock]

/-- A window is read from its document as it is. -/
theorem ofJson?_value (window : Window) : ofJson? window.value = some window := by
  have hFields : window.value.fields? fieldNames =
      some [some (.number (.ofNat window.start.toNat)), some (.number (.ofNat window.stop.toNat)),
        some (.number (.ofNat window.document.toNat)),
        some (.number (.ofNat window.block.toNat))] := by
    simp [value, fieldNames, Json.Value.fields?, Json.Value.member?]
  exact ofJson?_of_fields hFields (Json.Value.uint64?_ofNat _) (Json.Value.uint64?_ofNat _)
    (Json.Value.uint64?_ofNat _) (Json.Value.uint64?_ofNat _)

theorem list?_ofJson?_value (windows : List Window) :
    (Json.Value.array (windows.map value)).list? ofJson? = some windows := by
  rw [Json.Value.list?, List.mapM_map]
  induction windows with
  | nil => rfl
  | cons window windows ih =>
      rw [List.mapM_cons, ih, Function.comp_apply, ofJson?_value]
      rfl

end Window

namespace Rows

/-- A text is an array of windows, however it is written. -/
def IsArrayOf (text : String) (windows : List Window) : Prop :=
  ∃ value, Json.parse? text = some value ∧ value.list? Window.ofJson? = some windows

section

variable {windows : List Window} {window : Window} {row found : Nat} {rows : Rows} {text : String}
  {failure : Failure}

/-- The search ends at the first window without a sentence. -/
theorem exists_of_firstEmpty (h : firstEmpty row windows = some (found, window)) :
    ∃ before after, windows = before ++ window :: after ∧ found = row + before.length
      ∧ window.isEmpty = true ∧ ∀ earlier ∈ before, earlier.isEmpty = false := by
  induction windows generalizing row with
  | nil => cases h
  | cons first rest ih =>
      rw [firstEmpty] at h
      split at h
      · rename_i hEmpty
        cases h
        exact ⟨[], rest, rfl, rfl, hEmpty, List.forall_mem_nil _⟩
      · rename_i hFilled
        obtain ⟨before, after, rfl, rfl, hEmpty, hBefore⟩ := ih h
        refine ⟨first :: before, after, rfl, ?_, hEmpty, ?_⟩
        · rw [List.length_cons]
          omega
        · exact List.forall_mem_cons.mpr ⟨(Bool.not_eq_true _).mp hFilled, hBefore⟩

/-- Windows become rows as they are, if they become rows at all. -/
theorem windows_of_ofWindows (h : ofWindows windows = .ok rows) : rows.windows = windows := by
  unfold ofWindows at h
  split at h
  · cases h
    rfl
  · cases h

/-- The windows of rows that exist are not refused. -/
theorem ofWindows_windows (rows : Rows) : ofWindows rows.windows = .ok rows := by
  unfold ofWindows
  split
  · rfl
  · rename_i found window hFound
    obtain ⟨before, after, hWindows, -, hEmpty, -⟩ := exists_of_firstEmpty hFound
    have hFilled := rows.filled window (hWindows ▸ List.mem_append_cons_self)
    rw [hEmpty] at hFilled
    cases hFilled

/-- Windows become rows if none of them is empty. -/
theorem exists_ofWindows_iff :
    (∃ rows, ofWindows windows = .ok rows) ↔ ∀ window ∈ windows, window.start < window.stop := by
  constructor
  · rintro ⟨rows, hRows⟩ window hWindow
    rw [← windows_of_ofWindows hRows] at hWindow
    exact Window.isEmpty_eq_false_iff.mp (rows.filled window hWindow)
  · intro hFilled
    have hRows : ∀ window ∈ windows, window.isEmpty = false :=
      fun window hWindow => Window.isEmpty_eq_false_iff.mpr (hFilled window hWindow)
    exact ⟨⟨windows, hRows⟩, ofWindows_windows ⟨windows, hRows⟩⟩

/-- Windows that are no rows are refused for the first of them without a sentence. -/
theorem exists_of_ofWindows_error (h : ofWindows windows = .error failure) :
    ∃ row window, windows[row]? = some window ∧ window.stop ≤ window.start
      ∧ (∀ earlier ∈ windows.take row, earlier.start < earlier.stop)
      ∧ failure = .configuration (.emptyRange row window.start window.stop) := by
  unfold ofWindows at h
  split at h
  · cases h
  · rename_i found window hFound
    cases h
    obtain ⟨before, after, rfl, rfl, hEmpty, hBefore⟩ := exists_of_firstEmpty hFound
    rw [Nat.zero_add]
    refine ⟨before.length, window, ?_, Window.isEmpty_iff.mp hEmpty, ?_, rfl⟩
    · rw [List.getElem?_append_right (Nat.le_refl _), Nat.sub_self]
      rfl
    · rw [List.take_left]
      exact fun earlier hEarlier => Window.isEmpty_eq_false_iff.mp (hBefore earlier hEarlier)

/-- Where a whole text is a value, that value comes first and nothing is behind it. -/
theorem first?_of_parse? {value : Json.Value} (h : Json.parse? text = some value) :
    Json.first? text = some (value, []) := by
  unfold Json.parse? at h
  split at h
  · rename_i first hFirst
    rw [hFirst, Option.some.inj h]
  · cases h

/-- A document of windows is what the windows are. -/
theorem ofJson_of_isArrayOf (h : IsArrayOf text windows) :
    ofJson text = (ofWindows windows).mapError .refused := by
  obtain ⟨value, hText, hValue⟩ := h
  rw [ofJson, first?_of_parse? hText]
  simp only [hValue]
  cases ofWindows windows <;> rfl

/-- Windows are written as an array of their documents. -/
theorem parse?_array (windows : List Window) :
    Json.parse? (Json.array (windows.map Window.toJson)) =
      some (.array (windows.map Window.value)) := by
  have hSpelled : List.Forall₂ Json.Spells (windows.map Window.toJson)
      (windows.map Window.value) := by
    rw [List.forall₂_map_left_iff, List.forall₂_map_right_iff, List.forall₂_same]
    exact fun window _ => window.spells_toJson
  rw [Json.parse?, Json.first?_of_spells (Json.spells_array hSpelled)]

example : Json.array ([⟨3, 6, 0, 3⟩].map Window.toJson) =
    "[\x7b\"start_idx\":3,\"end_idx\":6,\"doc_idx\":0,\"block_idx\":3\x7d]" := by
  decide

theorem isArrayOf_array (windows : List Window) :
    IsArrayOf (Json.array (windows.map Window.toJson)) windows :=
  ⟨_, parse?_array windows, Window.list?_ofJson?_value windows⟩

/-- Whatever is read as rows is an array of their windows. -/
theorem isArrayOf_of_ofJson (h : ofJson text = .ok rows) : IsArrayOf text rows.windows := by
  unfold ofJson at h
  split at h
  · cases h
  · rename_i value rest hText
    split at h
    · cases h
    · rename_i windows hWindows
      split at h
      · cases h
      · rename_i found hRows
        split at h
        · rename_i hRest
          cases h
          rw [List.isEmpty_iff.mp hRest] at hText
          rw [windows_of_ofWindows hRows]
          refine ⟨value, ?_, hWindows⟩
          rw [Json.parse?, hText]
        · cases h

end

/-- Rows are written as an array of their windows and read again as they are. Whatever way an array
of windows is written, it is read as the rows that the windows are, which they are if none of them is
without a sentence, and otherwise it is refused as they are, for the first one without. No other text
is read. -/
theorem documents_keep_rows :
    (∀ windows rows, ofWindows windows = .ok rows →
      rows.windows = windows
        ∧ Json.parse? rows.toJson = some (.array (windows.map Window.value))
        ∧ ofJson rows.toJson = .ok rows)
    ∧ (∀ windows, IsArrayOf (Json.array (windows.map Window.toJson)) windows)
    ∧ (∀ windows text, IsArrayOf text windows →
      (∀ rows, ofJson text = .ok rows ↔ ofWindows windows = .ok rows)
        ∧ ((∃ rows, ofWindows windows = .ok rows) ↔
          ∀ window ∈ windows, window.start < window.stop)
        ∧ ((¬ ∀ window ∈ windows, window.start < window.stop) →
          ∃ row window, windows[row]? = some window ∧ window.stop ≤ window.start
            ∧ (∀ earlier ∈ windows.take row, earlier.start < earlier.stop)
            ∧ ofWindows windows =
              .error (.configuration (.emptyRange row window.start window.stop))
            ∧ ofJson text =
              .error (.refused (.configuration (.emptyRange row window.start window.stop)))))
    ∧ ∀ text rows, ofJson text = .ok rows →
      IsArrayOf text rows.windows ∧ ofWindows rows.windows = .ok rows
        ∧ ∀ window ∈ rows.windows, window.start < window.stop := by
  refine ⟨?_, isArrayOf_array, ?_, ?_⟩
  · intro windows rows hRows
    obtain rfl := windows_of_ofWindows hRows
    refine ⟨rfl, parse?_array rows.windows, ?_⟩
    rw [toJson, ofJson_of_isArrayOf (isArrayOf_array rows.windows), hRows]
    rfl
  · intro windows text hText
    rw [ofJson_of_isArrayOf hText]
    refine ⟨?_, exists_ofWindows_iff, ?_⟩
    · intro rows
      cases ofWindows windows <;> simp [Except.mapError]
    · intro hNot
      cases hRows : ofWindows windows with
      | ok rows => exact absurd (exists_ofWindows_iff.mp ⟨rows, hRows⟩) hNot
      | error failure =>
          obtain ⟨row, window, hRow, hEmpty, hBefore, rfl⟩ := exists_of_ofWindows_error hRows
          exact ⟨row, window, hRow, hEmpty, hBefore, rfl, rfl⟩
  · intro text rows hText
    have hRows := ofWindows_windows rows
    exact ⟨isArrayOf_of_ofJson hText, hRows, exists_ofWindows_iff.mp ⟨rows, hRows⟩⟩

/-- The widest numbers are kept, and the second of three windows is the first that is refused. -/
theorem documents_keep_rows_widest :
    (∃ rows, ofWindows [⟨3, 6, 0, 3⟩, ⟨18446744073709551614, 18446744073709551615,
        18446744073709551615, 18446744073709551615⟩] = .ok rows
      ∧ ofJson rows.toJson = .ok rows)
    ∧ ofJson (Json.array
        (([⟨0, 2, 0, 0⟩, ⟨5, 5, 1, 1⟩, ⟨7, 1, 1, 2⟩] : List Window).map Window.toJson)) =
      .error (.refused (.configuration (.emptyRange 1 5 5))) := by
  obtain ⟨hKept, hWritten, hRead, -⟩ := documents_keep_rows
  obtain ⟨rows, hRows⟩ : ∃ rows, ofWindows [⟨3, 6, 0, 3⟩, ⟨18446744073709551614,
      18446744073709551615, 18446744073709551615, 18446744073709551615⟩] = .ok rows :=
    exists_ofWindows_iff.mpr (by decide)
  refine ⟨⟨rows, hRows, (hKept _ rows hRows).2.2⟩, ?_⟩
  obtain ⟨-, -, hRefused⟩ := hRead _ _ (hWritten [⟨0, 2, 0, 0⟩, ⟨5, 5, 1, 1⟩, ⟨7, 1, 1, 2⟩])
  obtain ⟨row, window, hRow, hEmpty, hBefore, -, hText⟩ := hRefused (by decide)
  match row with
  | 0 =>
      cases hRow
      exact absurd hEmpty (by decide)
  | 1 =>
      cases hRow
      exact hText
  | row + 2 => exact absurd (hBefore ⟨5, 5, 1, 1⟩ (by simp)) (by decide)

end Rows

end Pretext
