import Pretext.Failure
import Pretext.Text.Encoding
import Pretext.Text.Words
import Pretext.Token

/-! What is asked of a vocabulary, what follows from that, and vocabularies that list their spellings. -/
namespace Pretext

/-- A vocabulary numbers the pieces of words and cuts texts into them. Its parts need not agree: a
special token may be missing from it, and a spelling may belong to more than one token. -/
structure Vocabulary where
  special : SpecialIds
  size : Nat
  surface? : TokenId → Option String
  id? : String → Option TokenId
  tokenize : String → Except Failure (List TokenId)

namespace Vocabulary

/-- The numbers of the tokens, in order. The size is made such a number itself, so that of a vocabulary
with more entries than there are numbers only the excess is counted. -/
def ids (vocabulary : Vocabulary) : List TokenId :=
  (List.range vocabulary.size.toUInt32.toNat).map Nat.toUInt32

/-- The spelling that stands for a token outside the vocabulary. -/
def unknownSurface (vocabulary : Vocabulary) : String :=
  (vocabulary.surface? vocabulary.special.unk).getD "[UNK]"

/-- The spellings of some tokens. -/
def surfaces (vocabulary : Vocabulary) (ids : List TokenId) : List String :=
  ids.map fun id => (vocabulary.surface? id).getD vocabulary.unknownSurface

/-- Whether a token continues the word before it. -/
def continues (vocabulary : Vocabulary) (id : TokenId) : Bool :=
  (vocabulary.surface? id).any isContinuation

/-- How many characters of the text a token stands for, which is none if it has no spelling. -/
def charCount (vocabulary : Vocabulary) (id : TokenId) : Nat :=
  pieceLength ((vocabulary.surface? id).getD "")

/-- Whether a token is shown. Padding and the opening token never are, and separators only to a
reader who does not use the text as a query. -/
def isShown (vocabulary : Vocabulary) (strict : Bool) (id : TokenId) : Bool :=
  id != vocabulary.special.pad && id != vocabulary.special.cls
    && !(strict && id == vocabulary.special.sep)

/-- What is put at the end of a query that is too short to find anything. -/
def queryFiller : String := "text here"

/-- The text of some tokens. A strict text can be used as a query: it is escaped, and has three
characters at least. -/
def decode (vocabulary : Vocabulary) (ids : List TokenId) (strict : Bool) : String :=
  let text := joinPieces (vocabulary.surfaces (ids.filter (vocabulary.isShown strict)))
  if strict then
    let escaped := Text.escape text
    if escaped.length < 3 then escaped ++ queryFiller else escaped
  else text

end Vocabulary

/-- The spelling of a token is the entry with its number. -/
def entry? (entries : List String) (id : TokenId) : Option String :=
  entries[id.toNat]?

/-- The token of a spelling is the first entry that is spelled so. -/
def entryId? (entries : List String) (surface : String) : Option TokenId :=
  (entries.idxOf? surface).map Nat.toUInt32

/-- The tokens of some words, if each is an entry. -/
def entryIds (entries : List String) : List (List Char) → Except Failure (List TokenId)
  | [] => .ok []
  | word :: rest =>
    match entryId? entries (String.ofList word) with
    | none => .error (.untokenizable (String.ofList word))
    | some id => (entryIds entries rest).map (id :: ·)

/-- A vocabulary of whole words. Any entries will do, also repeated ones, and any special tokens. A
text is cut at its spaces only, and each word has to be an entry. -/
def Vocabulary.ofTable (entries : List String) (special : SpecialIds) : Vocabulary where
  special := special
  size := entries.length
  surface? := entry? entries
  id? := entryId? entries
  tokenize text :=
    entryIds entries (Text.splitWords (· == ' ') (fun _ => false) text.toList)

end Pretext
