import Pretext.Failure
import Pretext.Token

/-! Sequences of a fixed length: an opening token, perhaps a title, the payload, a closing separator
and padding. -/
namespace Pretext

/-- A framed sequence. The mask is 1 where a token is real and 0 where it is padding, so that a
payload may hold the padding token itself. -/
structure Framed where
  tokens : List TokenId
  padMask : List UInt8
deriving DecidableEq

/-- The number of positions that are not padding. -/
def Framed.realLength (framed : Framed) : Nat :=
  framed.padMask.countP (· != 0)

/-- What a frame is made of, and how long it is. -/
structure Frame where
  cls : TokenId
  sep : TokenId
  pad : TokenId
  length : Nat
deriving DecidableEq

/-- The tokens of a frame around the payload: two of its own, and with a title one more, besides
those of the title. -/
def frameOverhead : Option Sentence → Nat
  | none => 2
  | some title => 3 + title.length

/-- The first tokens of consecutive sentences. -/
def flatten (sentences : List Sentence) (limit : Nat) : List TokenId :=
  sentences.flatten.take limit

namespace Frame

/-- Frames of a length with the special tokens of a vocabulary. -/
def ofSpecial (special : SpecialIds) (length : Nat) : Frame :=
  ⟨special.cls, special.sep, special.pad, length⟩

/-- How many tokens of payload a frame has room for. There is no room if the title alone is too
long, but such a title is not refused before something is framed. -/
def room (frame : Frame) (title : Option Sentence) : Nat :=
  frame.length - frameOverhead title

/-- The tokens before the padding. -/
def contents (frame : Frame) (payload : List TokenId) : Option Sentence → List TokenId
  | none => frame.cls :: (payload ++ [frame.sep])
  | some title => frame.cls :: (title ++ frame.sep :: (payload ++ [frame.sep]))

/-- Frame a payload. Nothing is ever cut off: what does not fit is refused. -/
def fill (frame : Frame) (payload : List TokenId) (title : Option Sentence) :
    Except Failure Framed :=
  let length := payload.length + frameOverhead title
  if frame.length < length then .error (.sequenceTooLong length frame.length)
  else
    let padding := frame.length - length
    .ok {
      tokens := frame.contents payload title ++ List.replicate padding frame.pad
      padMask := List.replicate length 1 ++ List.replicate padding 0 }

/-- As much of some sentences as there is room for, framed. -/
def fillFrom (frame : Frame) (sentences : List Sentence) (title : Option Sentence) :
    Except Failure Framed :=
  frame.fill (flatten sentences (frame.room title)) title

/-- The frame that stands for no block at all: no payload under an empty title. -/
def placeholder (frame : Frame) : Except Failure Framed :=
  frame.fill [] (some [])

/-- A title takes its tokens and a separator, besides the two tokens of every frame. -/
@[simp] theorem length_contents (frame : Frame) (payload : List TokenId)
    (title : Option Sentence) :
    (frame.contents payload title).length = payload.length + frameOverhead title := by
  cases title with
  | none => simp [contents, frameOverhead]
  | some title =>
    simp only [contents, frameOverhead, List.length_cons, List.length_append, List.length_nil]
    omega

end Frame

end Pretext
