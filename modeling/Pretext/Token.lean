/-! Tokens as numbers, the five numbers with a meaning of their own, and the pieces of words that other
tokens stand for. A piece that continues a word is spelled with a mark in front. -/
namespace Pretext

/-- A token is known by its place in a vocabulary. -/
abbrev TokenId := UInt32

/-- The tokens of one sentence, in order. -/
abbrev Sentence := List TokenId

/-- The tokens that frame, separate, hide and pad a sequence, and the one that stands for every
word outside the vocabulary. Nothing keeps two of them from being the same token. -/
structure SpecialIds where
  cls : TokenId
  sep : TokenId
  mask : TokenId
  pad : TokenId
  unk : TokenId
deriving DecidableEq

/-- Whether `id` is one of the five. -/
def SpecialIds.contains (special : SpecialIds) (id : TokenId) : Bool :=
  id == special.cls || id == special.sep || id == special.mask || id == special.pad
    || id == special.unk

/-- The mark of a piece that continues a word. -/
def continuationMark : List Char := ['#', '#']

/-- Whether a spelling is that of a continuation. The mark alone is none: it is a piece that happens
to look like the mark. -/
def isContinuation (surface : String) : Bool :=
  match surface.toList with
  | '#' :: '#' :: _ :: _ => true
  | _ => false

/-- How many characters of the text a piece stands for. The mark of a continuation stands for
none. -/
def pieceLength (surface : String) : Nat :=
  match surface.toList with
  | '#' :: '#' :: c :: rest => (c :: rest).length
  | chars => chars.length

/-- A piece as it follows others in a text: what begins with the mark is joined to what is before
it, and everything else is set off by a space. -/
def joinedPiece (surface : String) : String :=
  match surface.toList with
  | '#' :: '#' :: rest => String.ofList rest
  | _ => " " ++ surface

/-- The text of some pieces. The first is set off by a space as well. -/
def joinPieces : List String → String
  | [] => ""
  | surface :: rest => joinedPiece surface ++ joinPieces rest

theorem joinPieces_append (first second : List String) :
    joinPieces (first ++ second) = joinPieces first ++ joinPieces second := by
  induction first with
  | nil => simp [joinPieces]
  | cons surface rest ih => simp [joinPieces, ih, String.append_assoc]

end Pretext
