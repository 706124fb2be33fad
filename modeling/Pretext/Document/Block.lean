import Pretext.Block.Rows
import Pretext.Json.Value

/-! Windows and rows as documents. -/
namespace Pretext

namespace Window

/-- The names of the fields in a document. -/
def fieldNames : List String := ["start_idx", "end_idx", "doc_idx", "block_idx"]

/-- Write a window. -/
def toJson (window : Window) : String :=
  Json.object [("start_idx", toString window.start), ("end_idx", toString window.stop),
    ("doc_idx", toString window.document), ("block_idx", toString window.block)]

/-- Read a window. All of its fields must be there. -/
def ofJson? (value : Json.Value) : Option Window := do
  match ← value.fields? fieldNames with
  | [start, stop, document, block] =>
    return {
      start := ← Json.required start Json.Value.uint64?
      stop := ← Json.required stop Json.Value.uint64?
      document := ← Json.required document Json.Value.uint64?
      block := ← Json.required block Json.Value.uint64? }
  | _ => none

end Window

/-- Why a text holds no rows: it does not spell windows, or not the windows of rows. -/
inductive RowsFault where
  | malformed
  | refused (failure : Failure)
deriving DecidableEq

namespace Rows

/-- Write rows as a bare array. -/
def toJson (rows : Rows) : String :=
  Json.array (rows.windows.map Window.toJson)

/-- Read rows. Whether a window is empty is checked as soon as all windows have been read, whatever
may follow them. -/
def ofJson (text : String) : Except RowsFault Rows :=
  match Json.first? text with
  | none => .error .malformed
  | some (value, rest) =>
    match value.list? Window.ofJson? with
    | none => .error .malformed
    | some windows =>
      match ofWindows windows with
      | .error failure => .error (.refused failure)
      | .ok rows => if rest.isEmpty then .ok rows else .error .malformed

end Rows

end Pretext
