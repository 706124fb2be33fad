import Pretext.Journal
import Pretext.Masked.Policy

/-! Settings of collections. -/
namespace Pretext

/-- What whoever makes the rows of a collection has to know. -/
structure RowRequest where
  dataPrefix : String
  epochs : Option UInt64
  samples : Option UInt64
  length : UInt64
  shortRate : Float
  seed : UInt64
  name : String
deriving DecidableEq

/-- The settings of a collection. Some matter only to one kind of collection, some only to whoever
makes the rows. -/
structure Settings where
  /-- The name of the collection, for messages. -/
  name : String
  /-- Where the sentences are kept. -/
  dataPrefix : String
  /-- What all randomness is derived from. -/
  seed : UInt64
  /-- The length of all frames. -/
  length : UInt64
  /-- The share of the positions of a masked sample that are to be predicted. -/
  maskedRate : Float
  /-- The share of rows that are shorter than they could be. -/
  shortRate : Float
  /-- The share of queries that stay in their block. -/
  keepRate : Float
  /-- Whether blocks are framed with the titles of their documents. -/
  useTitles : Bool
  /-- How often the rows should go through all sentences. -/
  epochs : Option UInt64
  /-- How many rows there should be. -/
  samples : Option UInt64
  noise : NoisePolicy
deriving DecidableEq

namespace Settings

/-- The settings that hold where nothing else is said. -/
def standard : Settings where
  name := "train"
  dataPrefix := ""
  seed := 1234
  length := 288
  maskedRate := 0.15
  shortRate := 0.1
  keepRate := 0.1
  useTitles := true
  epochs := none
  samples := none
  noise := .standard

/-- The rates in the order in which they are checked. -/
def rates (settings : Settings) : List (Rate × Float) :=
  [(.masked, settings.maskedRate), (.short, settings.shortRate),
    (.keepQuery, settings.keepRate), (.maskToken, settings.noise.maskShare),
    (.randomToken, settings.noise.randomShare)]

/-- Whether a rate is within 0 and 1. What is no number is not. -/
def isShare (value : Float) : Bool :=
  0.0 ≤ value && value ≤ 1.0

/-- Refuse settings with which no sample could be built. -/
def check (settings : Settings) : Except Failure Unit :=
  if settings.length < 3 then .error (.configuration (.frameTooShort settings.length))
  else
    match settings.rates.find? fun rate => !isShare rate.2 with
    | some (rate, value) => .error (.configuration (.rateOutside rate value))
    | none =>
      if 1.0 < settings.noise.maskShare + settings.noise.randomShare then
        .error (.configuration .noiseAboveOne)
      else .ok ()

/-- Check settings. It is worth noting if they do not say how many rows there should be. -/
def validate (settings : Settings) : Logged Unit := do
  settings.check
  if settings.epochs.isNone && settings.samples.isNone then
    Logged.note (.unboundedSettings settings.name)

/-- What is noted about settings does not decide about them. -/
theorem result_validate (settings : Settings) : settings.validate.result = settings.check := by
  unfold validate
  rw [Logged.result_bind]
  cases settings.check with
  | error failure => rfl
  | ok checked => split <;> rfl

/-- What is made of settings is made of settings that hold. -/
theorem validate_then_eq_ok_iff {α : Type} (settings : Settings) {event : Event}
    {value result : α} :
    (do
      settings.validate
      Logged.note event
      return value : Logged α).result = .ok result ↔ settings.check = .ok () ∧ value = result := by
  rw [Logged.result_bind, result_validate]
  cases settings.check with
  | error failure => simp [bind, Except.bind]
  | ok checked =>
    change Except.ok value = Except.ok result ↔ _
    simp

/-- Frames of settings that hold have room for a token between the two of their own. -/
theorem three_le_of_check {settings : Settings} (h : settings.check = .ok ()) :
    3 ≤ settings.length.toNat := by
  unfold check at h
  split at h
  · cases h
  · rename_i hLength
    exact UInt64.le_iff_toNat_le.mp (UInt64.not_lt.mp hLength)

/-- What the settings say to whoever makes the rows. -/
def request (settings : Settings) : RowRequest where
  dataPrefix := settings.dataPrefix
  epochs := settings.epochs
  samples := settings.samples
  length := settings.length
  shortRate := settings.shortRate
  seed := settings.seed
  name := settings.name

end Settings

end Pretext
