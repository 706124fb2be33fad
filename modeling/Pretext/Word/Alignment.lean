import Pretext.Word.Span

/-! The words of a sentence, as a second tokenization of the same text tells them. The two need not
cut the text into the same pieces, but agree on its characters, so that a word is known to be
complete when its characters have been counted. -/
namespace Pretext

/-- How long a word is, if it is known. The characters of an unknown token are not. -/
inductive WordLength where
  | chars (count : Nat)
  | unknown
deriving DecidableEq

/-- The length of a word and its continuation. -/
def WordLength.join : WordLength → WordLength → WordLength
  | .chars first, .chars second => .chars (first + second)
  | _, _ => .unknown

namespace Vocabulary

/-- How long a token is as a part of a word. -/
def tokenLength (vocabulary : Vocabulary) (id : TokenId) : WordLength :=
  if id = vocabulary.special.unk then .unknown else .chars (vocabulary.charCount id)

/-- The lengths of the words of the rest of a sentence, of which one has begun. -/
def lengthsAfter (vocabulary : Vocabulary) (word : WordLength) : Sentence → List WordLength
  | [] => [word]
  | id :: rest =>
    if vocabulary.continues id then
      lengthsAfter vocabulary (word.join (vocabulary.tokenLength id)) rest
    else word :: lengthsAfter vocabulary (vocabulary.tokenLength id) rest

/-- The lengths of the words of a sentence. -/
def wordLengths (vocabulary : Vocabulary) : Sentence → List WordLength
  | [] => []
  | id :: rest => lengthsAfter vocabulary (vocabulary.tokenLength id) rest

end Vocabulary

/-- Where an alignment stands: at the token `position`, in the word number `word`, which began with
the token `start` and of which `reached` characters have been counted. -/
structure AlignmentState where
  position : Nat
  word : Nat
  start : Nat
  reached : Nat

namespace AlignmentState

/-- The state before the first token. -/
def initial : AlignmentState := ⟨0, 0, 0, 0⟩

/-- The word that ends with the current token. -/
def closed (state : AlignmentState) : Span := ⟨state.start, state.position + 1⟩

/-- The state before the next token, which begins a word. -/
def nextWord (state : AlignmentState) : AlignmentState :=
  ⟨state.position + 1, state.word + 1, state.position + 1, 0⟩

/-- The state before the next token, which goes on with the word. -/
def nextToken (state : AlignmentState) (reached : Nat) : AlignmentState :=
  ⟨state.position + 1, state.word, state.start, reached⟩

end AlignmentState

/-- Count the characters of tokens until each of the words is complete. The unknown token takes all
that is left of its word, and a word of unknown length goes on as the marks of the pieces say.
`total` is the number of all words, for messages. -/
def alignFrom (vocabulary : Vocabulary) (total : Nat) (state : AlignmentState) :
    List WordLength → Sentence → Except WordMismatch (List Span)
  | words, [] =>
    if words.isEmpty && state.start == state.position then .ok []
    else .error (.uncovered state.word total)
  | [], _ :: _ => .error (.pastLast state.position total)
  | .unknown :: words, _ :: rest =>
    if rest.head?.any vocabulary.continues then
      alignFrom vocabulary total (state.nextToken state.reached) (.unknown :: words) rest
    else (alignFrom vocabulary total state.nextWord words rest).map (state.closed :: ·)
  | .chars count :: words, id :: rest =>
    let reached :=
      if id = vocabulary.special.unk then count else state.reached + vocabulary.charCount id
    if count < reached then .error (.overrun state.word count reached)
    else if reached = count then
      (alignFrom vocabulary total state.nextWord words rest).map (state.closed :: ·)
    else alignFrom vocabulary total (state.nextToken reached) (.chars count :: words) rest

/-- The words of a sentence, one for each word of its second tokenization. -/
def align (vocabulary : Vocabulary) (sentence : Sentence) (alternate : Vocabulary)
    (second : Sentence) : Except WordMismatch (List Span) :=
  let words := alternate.wordLengths second
  alignFrom vocabulary words.length .initial words sentence

/-- The words of the sentence with a number, which a failure names. -/
def alignSentence (vocabulary : Vocabulary) (sentence : Sentence) (alternate : Vocabulary)
    (second : Sentence) (number : Nat) : Except Failure (List Span) :=
  (align vocabulary sentence alternate second).mapError fun mismatch =>
    .misaligned .alternate (.words number mismatch)

end Pretext
