import Pretext.Document.Sample
import Pretext.Settings.Basic
import Pretext.Text.Encoding

/-! Settings as documents. -/
namespace Pretext.Settings

open Json

/-- The names of the fields in a document. -/
def fieldNames : List String :=
  ["name", "data_prefix", "seed", "max_seq_length", "masked_lm_prob", "short_seq_prob",
    "query_in_block_prob", "use_titles", "num_epochs", "max_num_samples", "masking"]

/-- Write settings. -/
def toJson (settings : Settings) : String :=
  object (fieldNames.zip [quote settings.name, quote settings.dataPrefix, toString settings.seed,
    toString settings.length, Json.float settings.maskedRate, Json.float settings.shortRate,
    Json.float settings.keepRate, toString settings.useTitles,
    Json.option toString settings.epochs, Json.option toString settings.samples,
    settings.noise.toJson])

/-- Read settings. What is missing is as in the standard settings. -/
def ofJson? (value : Value) : Option Settings := do
  match ← value.fields? fieldNames with
  | [name, dataPrefix, seed, length, maskedRate, shortRate, keepRate, useTitles, epochs, samples,
      noise] =>
    return {
      name := ← defaulted name standard.name Value.string?
      dataPrefix := ← defaulted dataPrefix standard.dataPrefix Value.string?
      seed := ← defaulted seed standard.seed Value.uint64?
      length := ← defaulted length standard.length Value.uint64?
      maskedRate := ← defaulted maskedRate standard.maskedRate Value.float?
      shortRate := ← defaulted shortRate standard.shortRate Value.float?
      keepRate := ← defaulted keepRate standard.keepRate Value.float?
      useTitles := ← defaulted useTitles standard.useTitles Value.bool?
      epochs := ← defaulted epochs standard.epochs (Value.option? Value.uint64?)
      samples := ← defaulted samples standard.samples (Value.option? Value.uint64?)
      noise := ← defaulted noise standard.noise NoisePolicy.ofJson? }
  | _ => none

/-- The settings that a text spells. They are checked. -/
def ofText (text : String) : Logged Settings :=
  match (parse? text).bind ofJson? with
  | none => .ofExcept (.error (.configuration .unreadableSettings))
  | some settings => do
    settings.validate
    return settings

/-- The settings that a file spells. -/
def ofFile (bytes : Except FileFault (List UInt8)) : Logged Settings :=
  match bytes with
  | .error fault => .ofExcept (.error (.file fault))
  | .ok bytes =>
    match Text.Utf8.decode? bytes with
    | none => .ofExcept (.error (.file .notText))
    | some text => ofText (String.ofList text)

end Pretext.Settings
