import Pretext.Failure

/-! What is worth noting while something is built. Notes are values: whoever runs a computation
decides what becomes of them. -/
namespace Pretext

/-- How much a note matters. -/
inductive Level where
  | debug
  | info
  | warn
deriving DecidableEq

/-- What happened. -/
inductive Event where
  /-- A vocabulary of pieces was built. -/
  | vocabularyBuilt (entries : Nat) (lowerCase : Bool)
  /-- Settings say neither how often to go through the sentences nor how many rows to make. -/
  | unboundedSettings (name : String)
  /-- A collection of masked samples was opened. -/
  | maskedReady (name : String) (rows : Nat) (length : UInt64) (auxiliary alternate : Bool)
  /-- A collection of query and block pairs was opened. -/
  | pairsReady (name : String) (rows : Nat) (length : UInt64) (titles : Bool) (keepQuery : Float)
  /-- The title of a document has no tokens. -/
  | emptyTitle (document : UInt64) (name : String)
  /-- A masked sample was built. -/
  | maskedBuilt (row : UInt64) (block start stop : UInt64) (masked : Nat)
  /-- A pair was built. -/
  | pairBuilt (row : UInt64) (block start stop document : UInt64)
deriving DecidableEq

/-- How much an event matters. -/
def Event.level : Event → Level
  | .maskedReady .. => .info
  | .pairsReady .. => .info
  | .emptyTitle .. => .warn
  | _ => .debug

/-- How an event is told. -/
def Event.text : Event → String
  | .vocabularyBuilt entries lowerCase =>
    s!"[realm:tokenizer] built WordPiece vocabulary ({entries} entries, lower_case={lowerCase})"
  | .unboundedSettings name =>
    s!"[realm:config] '{name}' sets neither num_epochs nor max_num_samples"
  | .maskedReady name rows length auxiliary alternate =>
    s!"[realm:mlm] dataset '{name}' ready (rows={rows}, max_seq={length}, aux_mask={auxiliary}, "
      ++ s!"alt_case={alternate})"
  | .pairsReady name rows length titles keepQuery =>
    s!"[realm:ict] dataset '{name}' ready (rows={rows}, max_seq={length}, titles={titles}, "
      ++ s!"keep_query_prob={Decimal.Layout.plain.float keepQuery})"
  | .emptyTitle document name => s!"[realm:ict] document {document} of '{name}' has an empty title"
  | .maskedBuilt row block start stop masked =>
    s!"[realm:mlm] sample {row} from block {block} [{start}, {stop}) masked={masked}"
  | .pairBuilt row block start stop document =>
    s!"[realm:ict] sample {row} from block {block} [{start}, {stop}) doc={document}"

/-- A result, or the failure to get one, with the events on the way. A failure keeps the events
before it. -/
structure Logged (α : Type) where
  events : List Event
  result : Except Failure α

namespace Logged

variable {α β : Type}

/-- A result without an event. -/
def ofExcept (result : Except Failure α) : Logged α := ⟨[], result⟩

/-- An event without a result. -/
def note (event : Event) : Logged Unit := ⟨[event], .ok ()⟩

/-- Go on with a result. Nothing happens after a failure. -/
def andThen (first : Logged α) (next : α → Logged β) : Logged β :=
  match first.result with
  | .ok value => ⟨first.events ++ (next value).events, (next value).result⟩
  | .error failure => ⟨first.events, .error failure⟩

instance : Monad Logged where
  pure value := ⟨[], .ok value⟩
  bind := andThen

/-- A computation that may fail can be part of one that takes notes. -/
instance : MonadLift (Except Failure) Logged where
  monadLift := ofExcept

@[simp] theorem result_pure (value : α) : (pure value : Logged α).result = .ok value := rfl

@[simp] theorem result_ofExcept (result : Except Failure α) :
    (ofExcept result).result = result := rfl

@[simp] theorem result_liftM (result : Except Failure α) :
    (liftM result : Logged α).result = result := rfl

@[simp] theorem result_note (event : Event) : (note event).result = .ok () := rfl

/-- Notes do not bear on results: the result of two steps is that of the two without notes. -/
@[simp] theorem result_bind (first : Logged α) (next : α → Logged β) :
    (first >>= next).result = (first.result >>= fun value => (next value).result) := by
  show (andThen first next).result = _
  unfold andThen
  cases first.result <;> rfl

end Logged

end Pretext
