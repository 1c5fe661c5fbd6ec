import Gcosmos.Go
import Gcosmos.Time.Rfc3339

/-!
# The data of the consensus strategy

The consensus strategy of `gserver/internal/gsi/consensusstrategy.go` reads the round views,
proposed headers and vote summaries of the Gordian engine (package `tmconsensus`), the records of
the block-data request cache (package `gsbd`) and the results of the app manager's simulations.
This file gives these types with the fields the modelled code reads or writes, the collaborators
the strategy calls, and the state the strategy keeps between its hooks.

Go's `[]byte` and `string` are both `String` here, so that the conversions `string(b)` of the
source are the identity. A Go map `map[string]uint64` is a function, giving `0` outside its keys
as a Go map lookup does.

## Main definitions

* `GoError`: a Go `error`, the sentinel `ErrProposedBlockChoiceNotReady` or an error by its text.
* `Tm.ProposedHeader`, `Tm.Proposal`, `Tm.RoundView`, `Tm.VoteSummary`: the engine's data.
* `Gsi.Record`, `Gsi.View`: a request-cache record, and what one examination of a candidate
  observes of the cache and the clock.
* `Gsi.JsonCodec`, `Gsi.Runtime`: the JSON encoding of an annotation and the collaborators of a
  strategy.
* `Gsi.Effect`: a call on a shared collaborator (a retrieval, a cache write, a proposal sent).
* `Gsi.ConsensusStrategy`, `Gsi.Config`: the state of a strategy and its fixed fields.

Source: `gserver/internal/gsi/consensusstrategy.go`, lines 20–140.
-/

namespace Gcosmos

/-- A Go `error` value, by what the code does with it: the sentinel
`tmconsensus.ErrProposedBlockChoiceNotReady`, which `ChooseProposedBlock` compares against, or
any other error, by its text. -/
inductive GoError where
  | proposedBlockChoiceNotReady
  | text (msg : String)
  deriving DecidableEq, Repr

/-! ### The engine's data (`tmconsensus`) -/

namespace Tm

/-- `tmconsensus.Annotations`; the strategy reads and writes only the driver annotations. -/
structure Annotations where
  driver : String
  deriving DecidableEq, Repr

/-- `tmconsensus.Header`, by the fields the strategy reads. -/
structure Header where
  height : UInt64
  hash : String
  dataID : String
  annotations : Annotations
  deriving DecidableEq, Repr

/-- `tmconsensus.ProposedHeader`: a header with the round it was proposed in, its proposer and
the proposal annotations, which are not persisted. -/
structure ProposedHeader where
  header : Header
  round : UInt32
  proposerPubKey : String
  annotations : Annotations
  deriving DecidableEq, Repr

/-- `tmconsensus.Proposal`: what a proposer hands to the engine, which builds a header from it. -/
structure Proposal where
  dataID : String
  proposalAnnotations : Annotations
  blockAnnotations : Annotations
  deriving DecidableEq, Repr

/-- `tmconsensus.Validator`, by its public key: the proposer selection picks a validator by its
place in the set, and the strategy compares its key with the signer's; no modelled code reads its
power. -/
structure Validator where
  pubKey : String
  deriving DecidableEq, Repr

/-- `tmconsensus.ValidatorSet`, by its ordered list of validators. -/
structure ValidatorSet where
  validators : List Validator
  deriving DecidableEq, Repr

/-- `tmconsensus.RoundView`, by the fields `EnterRound` reads. -/
structure RoundView where
  height : UInt64
  round : UInt32
  validatorSet : ValidatorSet
  proposedHeaders : List ProposedHeader
  deriving DecidableEq, Repr

/-- `tmconsensus.VoteSummary`, by the fields `DecidePrecommit` reads; the map of prevote power
per block hash is a function, `0` outside its keys. -/
structure VoteSummary where
  availablePower : UInt64
  prevoteBlockPower : String → UInt64
  mostVotedPrevoteHash : String

end Tm

/-! ### The app manager's results (`coreserver`) -/

namespace Core

/-- `event.Attribute`. -/
structure Attribute where
  key : String
  value : String
  deriving DecidableEq, Repr

/-- `event.Event`; its attributes are computed when `Attributes()` is called, which may fail. -/
structure Event where
  type : String
  attributes : Except String (List Attribute)

/-- `server.TxResult`: the result of running a transaction; `error` is the transaction's own
failure, distinct from an error returned by the call that ran it. -/
structure TxResult where
  events : List Event
  gasWanted : UInt64
  gasUsed : UInt64
  error : Option String

end Core

/-! ### The strategy's data (`gsi`, `gsbd`) -/

namespace Gsi

/-- `BlockAnnotation`: the block time claimed by the proposer, as RFC 3339 text. -/
structure BlockAnnotation where
  timeS : String
  deriving DecidableEq, Repr

/-- `BlockAnnotation.Time`: `time.Parse(time.RFC3339, ba.TimeS)`, where `general` is Go's general
parser, tried when the fast path fails. -/
def BlockAnnotation.time (general : String → Except String Time) (ba : BlockAnnotation) :
    Except String Time :=
  Time.parse general ba.timeS

/-- `ProposalDriverAnnotation`: where peers can fetch the block data. -/
structure ProposalDriverAnnotation where
  locations : List String
  deriving DecidableEq, Repr

/-- The fields of an identifier `gsbd.ParseDataID` returns that `ConsiderProposedBlocks` reads: the
height, the round and the transaction count; it discards the data length and the hash. -/
structure ParsedDataID where
  height : UInt64
  round : UInt32
  nTxs : Int
  deriving DecidableEq, Repr

/-- What `gsbd.Provider.Provide` returns: the identifier of the data, the addresses it is served
at and its encoding. -/
structure ProvideResult where
  dataID : String
  addrs : List String
  encoded : String
  deriving DecidableEq, Repr

/-- A record of the block-data request cache as `Get` returns it: whether its `Ready` channel is
closed, and the decoded transactions, which the cache sets before it closes `Ready`. -/
structure Record (Tx : Type) where
  ready : Bool
  transactions : List Tx
  deriving DecidableEq, Repr

/-- What the examination of one candidate observes of the world: the request cache, which
background retrievals write concurrently, and the wall clock. -/
structure View (Tx : Type) where
  cache : String → Option (Record Tx)
  now : Time

/-- `encoding/json` for one Go type: `json.Marshal`, and `json.Unmarshal` into a zero value. What
`Marshal` writes, `Unmarshal` reads back. -/
structure JsonCodec (α : Type) where
  marshal : α → Except String String
  unmarshal : String → Except String α
  unmarshal_marshal : ∀ a b, marshal a = .ok b → unmarshal b = .ok a

/-- The collaborators of a strategy and the library functions it calls: the app manager's
simulations (`Simulate` against the latest state, `SimulateWithState` against a given one), the
identifier codec of package `gsbd` (`DataID`, `ParseDataID`), the JSON encodings of the two
annotations and Go's general RFC 3339 parser. -/
structure Runtime (Tx St : Type) where
  simulate : Tx → Except String (Core.TxResult × St)
  simulateWithState : St → Tx → Except String (Core.TxResult × St)
  dataID : UInt64 → UInt32 → UInt32 → List Tx → String
  parseDataID : String → Except String ParsedDataID
  blockAnnotationJson : JsonCodec BlockAnnotation
  proposalDriverAnnotationJson : JsonCodec ProposalDriverAnnotation
  parseTimeGeneral : String → Except String Time

/-- A call a hook makes on a collaborator shared with the rest of the node: `pbdr.Retrieve`,
`bdrCache.SetImmediatelyAvailable`, or handing a proposal to the engine. -/
inductive Effect (Tx : Type) where
  | retrieve (dataID : String) (driver : String)
  | setImmediatelyAvailable (dataID : String) (txs : List Tx) (encoded : String)
  | sendProposal (p : Tm.Proposal)
  deriving DecidableEq, Repr

/-- The identifier a call of `pbdr.Retrieve` asks for. -/
def Effect.retrievedID {Tx : Type} : Effect Tx → Option String
  | .retrieve dataID _ => some dataID
  | _ => none

/-- Whether an effect hands a proposal to the engine. -/
def Effect.isSendProposal {Tx : Type} : Effect Tx → Bool
  | .sendProposal _ => true
  | _ => false

/-- The fields of `ConsensusStrategy` that its hooks change: the height and round of the round
entered last. -/
structure ConsensusStrategy where
  curH : UInt64
  curR : UInt32
  deriving DecidableEq, Repr

/-- The fields of `ConsensusStrategy` that `NewConsensusStrategy` fixes and the hooks read: the
signer's public key, which may be nil, and the proposer selection. -/
structure Config where
  signerPubKey : Option String
  proposerSelection : UInt64 → UInt32 → Tm.ValidatorSet → Go.Outcome Tm.Validator

end Gsi

end Gcosmos
