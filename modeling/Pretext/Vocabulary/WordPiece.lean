import Pretext.Journal
import Pretext.Text.Words
import Pretext.Vocabulary.Basic

/-! Vocabularies that cut every word into the longest pieces they know, from left to right. -/
namespace Pretext

/-- The number of a special token, which has to be among the entries. -/
def specialId (entries : List String) (token : String) : Except Failure TokenId :=
  match entryId? entries token with
  | some id => .ok id
  | none => .error (.configuration (.missingSpecial token))

/-- The five special tokens among the entries. The first that is missing is named. -/
def SpecialIds.ofEntries (entries : List String) : Except Failure SpecialIds := do
  let cls ← specialId entries "[CLS]"
  let sep ← specialId entries "[SEP]"
  let mask ← specialId entries "[MASK]"
  let pad ← specialId entries "[PAD]"
  let unk ← specialId entries "[UNK]"
  return ⟨cls, sep, mask, pad, unk⟩

/-- Entries without repetition, among them the special tokens. -/
structure WordPiece where
  entries : List String
  lowerCase : Bool
  special : SpecialIds
  distinct : entries.Nodup
  special_eq : SpecialIds.ofEntries entries = .ok special

namespace WordPiece

/-- The longest beginning of a word that is an entry when it is spelled behind `mark`, with the rest
of the word. Beginnings of `length` characters or less are tried. -/
def longest? (entries : List String) (mark word : List Char) :
    Nat → Option (TokenId × List Char)
  | 0 => none
  | length + 1 =>
    match entryId? entries (String.ofList (mark ++ word.take (length + 1))) with
    | some id => some (id, word.drop (length + 1))
    | none => longest? entries mark word length

/-- The pieces of a word, or of the rest of a word if `mark` is that of a continuation. Each piece
takes a character at least, so that `fuel` may be the number of characters. -/
def pieces? (entries : List String) (mark : List Char) : Nat → List Char → Option (List TokenId)
  | _, [] => some []
  | 0, _ => none
  | fuel + 1, word =>
    match longest? entries mark word word.length with
    | none => none
    | some (id, rest) => (pieces? entries continuationMark fuel rest).map (id :: ·)

/-- Longer words are not cut into pieces. -/
def maxWordLength : Nat := 100

/-- The tokens of a word. A word that is too long, or of which some part is not known, is the one
unknown token. -/
def wordIds (vocab : WordPiece) (word : List Char) : List TokenId :=
  if maxWordLength < word.length then [vocab.special.unk]
  else (pieces? vocab.entries [] word.length word).getD [vocab.special.unk]

/-- The tokens of a text. Special tokens get no special treatment in it. -/
def encode (vocab : WordPiece) (text : String) : List TokenId :=
  (Text.words vocab.lowerCase text.toList).flatMap vocab.wordIds

/-- A piece vocabulary as a vocabulary. Every text has tokens. -/
def vocabulary (vocab : WordPiece) : Vocabulary where
  special := vocab.special
  size := vocab.entries.length
  surface? := entry? vocab.entries
  id? := entryId? vocab.entries
  tokenize text := .ok (vocab.encode text)

/-- A vocabulary of entries that are known to be distinct. -/
def ofDistinct (entries : List String) (distinct : entries.Nodup) (lowerCase : Bool) :
    Logged WordPiece :=
  match h : SpecialIds.ofEntries entries with
  | .error failure => .ofExcept (.error failure)
  | .ok special => do
    Logged.note (.vocabularyBuilt entries.length lowerCase)
    return ⟨entries, lowerCase, special, distinct, h⟩

/-- The first entry that is among those before it, with its number. The entries in `seen`, the last
of which comes first, are those before. -/
def firstRepeat (seen : List String) : List String → Option (String × TokenId)
  | [] => none
  | entry :: rest =>
    if seen.contains entry then some (entry, seen.length.toUInt32)
    else firstRepeat (entry :: seen) rest

theorem nodup_of_firstRepeat {entries seen : List String} (h : firstRepeat seen entries = none) :
    entries.Nodup ∧ ∀ entry ∈ entries, entry ∉ seen := by
  induction entries generalizing seen with
  | nil => simp
  | cons entry rest ih =>
    unfold firstRepeat at h
    split at h
    · simp at h
    · rename_i hSeen
      obtain ⟨hRest, hNew⟩ := ih h
      refine ⟨List.nodup_cons.2 ⟨fun hMem => ?_, hRest⟩, fun other hOther => ?_⟩
      · exact hNew entry hMem (List.mem_cons_self ..)
      · rcases List.mem_cons.1 hOther with rfl | hOther
        · simpa using hSeen
        · exact fun hIn => hNew other hOther (List.mem_cons_of_mem _ hIn)

/-- A vocabulary of a list of entries, which are numbered in order. A repeated entry is refused,
since it would leave a number without an entry. -/
def ofEntries (entries : List String) (lowerCase : Bool) : Logged WordPiece :=
  match h : firstRepeat [] entries with
  | some (entry, id) => .ofExcept (.error (.configuration (.repeatedEntry entry id)))
  | none => ofDistinct entries (nodup_of_firstRepeat h).1 lowerCase

end WordPiece

end Pretext
