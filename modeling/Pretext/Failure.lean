import Pretext.Decimal
import Pretext.Token

/-! Why something could not be built. Every cause is a constructor with the facts of the case, and
the wording stands in one place. None of the failures is transient: the same request fails again
with the same cause. -/
namespace Pretext

/-- What accompanies the sentences of a block: numbers that mark salient tokens, or a second
tokenization that keeps the case of letters. -/
inductive Channel where
  | auxiliary
  | alternate
deriving DecidableEq

/-- The name of a channel in messages. -/
def Channel.name : Channel → String
  | .auxiliary => "auxiliary"
  | .alternate => "alternate-case"

/-- Why the tokens of a sentence do not fall into the words of its second tokenization. -/
inductive WordMismatch where
  /-- Token `token` follows the last of `words` words. -/
  | pastLast (token words : Nat)
  /-- Word `word` has `length` characters, but the tokens that should make it up have `reached`. -/
  | overrun (word length reached : Nat)
  /-- The tokens end after `covered` of `words` words, or inside the next. -/
  | uncovered (covered words : Nat)
deriving DecidableEq

/-- How a mismatch is told. -/
def WordMismatch.message : WordMismatch → String
  | .pastLast token words =>
    s!"primary token {token} falls past the last of {words} alternate words"
  | .overrun word length reached =>
    s!"word {word} spans {length} characters but primary pieces reach {reached}"
  | .uncovered covered words =>
    s!"primary tokens cover {covered} of {words} alternate words"

/-- How a channel fails to go along with the sentences. -/
inductive Misalignment where
  /-- The channel has `found` sentences for `primary` sentences of the block. -/
  | sentenceCount (found primary : Nat)
  /-- A sentence has not as many values as tokens. -/
  | valueCount (sentence tokens values : Nat)
  /-- The store of the channel has not as many sentences as the store of the blocks. -/
  | storeSize (held blocks : Nat)
  /-- The channel has no sentence with this number. -/
  | missingSentence (sentence : Nat)
  /-- The words of a sentence do not match. -/
  | words (sentence : Nat) (mismatch : WordMismatch)
deriving DecidableEq

/-- How a misalignment is told. -/
def Misalignment.message : Misalignment → String
  | .sentenceCount found primary => s!"{found} sentences against {primary} primary sentences"
  | .valueCount sentence tokens values =>
    s!"sentence {sentence} has {tokens} tokens but {values} auxiliary values"
  | .storeSize held blocks => s!"store holds {held} sentences, block store holds {blocks}"
  | .missingSentence sentence => s!"no alternate sentence for primary sentence {sentence}"
  | .words sentence mismatch => s!"sentence {sentence}: {mismatch.message}"

/-- Why a file has no text to offer. -/
inductive FileFault where
  | missing
  | directory
  /-- A path goes on behind a file. -/
  | notDirectory
  /-- A path, or a name in it, has too many bytes. -/
  | nameTooLong
  /-- A path has a byte 0, which no name has. -/
  | zeroByte
  | notText
deriving DecidableEq

/-- How the fault of a file is told. -/
def FileFault.message : FileFault → String
  | .missing => "No such file or directory (os error 2)"
  | .directory => "Is a directory (os error 21)"
  | .notDirectory => "Not a directory (os error 20)"
  | .nameTooLong => "File name too long (os error 36)"
  | .zeroByte => "file name contained an unexpected NUL byte"
  | .notText => "stream did not contain valid UTF-8"

/-- The settings that have to be within 0 and 1. -/
inductive Rate where
  | masked
  | short
  | keepQuery
  | maskToken
  | randomToken
deriving DecidableEq

/-- The name of a rate in messages, which is its place in a settings document. -/
def Rate.name : Rate → String
  | .masked => "masked_lm_prob"
  | .short => "short_seq_prob"
  | .keepQuery => "query_in_block_prob"
  | .maskToken => "masking.mask_token_prob"
  | .randomToken => "masking.random_token_prob"

/-- What is wrong with settings, with a vocabulary or with the rows of a collection. -/
inductive Misconfiguration where
  /-- Frames of this length have no room for a token. -/
  | frameTooShort (length : UInt64)
  /-- A rate is not within 0 and 1. -/
  | rateOutside (rate : Rate) (value : Float)
  /-- The shares of the masked and of the random tokens are more than the whole. -/
  | noiseAboveOne
  /-- A settings document cannot be read. -/
  | unreadableSettings
  /-- A row covers no sentence. -/
  | emptyRange (row : Nat) (start stop : UInt64)
  /-- A list of tokens has an entry a second time, at this number. -/
  | repeatedEntry (entry : String) (id : TokenId)
  /-- A vocabulary file repeats lines, so that no entry is left with number `gap`. The first entry
  behind the gap is named. -/
  | repeatedLine (entry path : String) (gap : Nat)
  /-- A special token is not in the vocabulary. -/
  | missingSpecial (token : String)
  /-- The path of a vocabulary file is not a text. It is shown with replacement characters. -/
  | pathNotText (shown : String)
  /-- A vocabulary file cannot be read. -/
  | unreadableVocabulary (path : String) (fault : FileFault)
  /-- The rows of a collection could not be made, for a reason that its maker states. -/
  | rowsRefused (reason : String)
deriving DecidableEq

/-- How a misconfiguration is told. -/
def Misconfiguration.message : Misconfiguration → String
  | .frameTooShort length => s!"max_seq_length must be at least 3, got {length}"
  | .rateOutside rate value =>
    s!"{rate.name} must be within [0, 1], got {Decimal.Layout.plain.float value}"
  | .noiseAboveOne =>
    "masking.mask_token_prob + masking.random_token_prob must not exceed 1"
  | .unreadableSettings => "invalid dataset config JSON"
  | .emptyRange row start stop => s!"mapping row {row} has an empty block range [{start}, {stop})"
  | .repeatedEntry entry id => s!"duplicate vocabulary entry '{entry}' at id {id}"
  | .repeatedLine entry path gap =>
    s!"duplicate vocabulary entry '{entry}' in {path} (id {gap} is missing)"
  | .missingSpecial token => s!"vocabulary is missing special token {token}"
  | .pathNotText shown => s!"vocabulary path {shown} is not UTF-8"
  | .unreadableVocabulary path fault => s!"failed to read vocabulary {path}: {fault.message}"
  | .rowsRefused reason => reason

/-- Why a sample, a block or a vocabulary could not be built. -/
inductive Failure where
  /-- A block needs two sentences: one alone has no context. -/
  | blockTooShort (start stop : UInt64) (sentences : Nat)
  /-- A framed sequence would be longer than the frame. -/
  | sequenceTooLong (length limit : Nat)
  /-- A channel does not go along with the sentences. -/
  | misaligned (channel : Channel) (cause : Misalignment)
  /-- There is no row, or no sentence of a block, with this number. -/
  | rowOutOfRange (index length : Nat)
  /-- A store has no entry with this number. -/
  | missingEntry (store : String) (index length : Nat)
  /-- A word has no token. -/
  | untokenizable (word : String)
  | configuration (cause : Misconfiguration)
  | file (fault : FileFault)
deriving DecidableEq

/-- How a failure is told. -/
def Failure.message : Failure → String
  | .blockTooShort start stop sentences =>
    s!"block [{start}, {stop}) has {sentences} sentence(s); at least 2 are required"
  | .sequenceTooLong length limit =>
    s!"framed sequence length {length} exceeds max_seq_length {limit}"
  | .misaligned channel cause =>
    s!"{channel.name} stream is misaligned with the primary block: {cause.message}"
  | .rowOutOfRange index length =>
    s!"sample index {index} is out of range for a mapping of {length} rows"
  | .missingEntry store index length => s!"{store} store has no entry {index} (len {length})"
  | .untokenizable word => s!"tokenization failed: no entry for '{word}'"
  | .configuration cause => s!"configuration error: {cause.message}"
  | .file fault => fault.message

section

variable {α β : Type} {first : Except Failure α} {next other : α → Except Failure β}

theorem bind_eq_ok_iff {result : β} :
    first.bind next = .ok result ↔ ∃ value, first = .ok value ∧ next value = .ok result := by
  cases first with
  | error failure => simp [Except.bind]
  | ok value => simp [Except.bind]

/-- Two steps fail alike if the second does so after every result of the first. -/
theorem bind_error_congr {failure : Failure}
    (h : ∀ value, first = .ok value → (next value = .error failure ↔ other value = .error failure)) :
    first.bind next = .error failure ↔ first.bind other = .error failure := by
  cases first with
  | error cause => exact Iff.rfl
  | ok value => exact h value rfl

end

end Pretext
