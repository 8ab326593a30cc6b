import DataClock.Support.Word

/-!
# Model — Protobufs

The messages the data-clock engine reads and builds (`protobufs.ClockFrame`, the Ed448 signature
oneof, `InclusionCommitment`, `InclusionAggregateProof`, `IntrinsicExecutionOutput`) with the
fields `consensus_frames.go` touches, and Go's `error` as built by `github.com/pkg/errors`.

A pointer field that may be nil is an `Option`.  `ClockFrame.producerKey` is the key read of
`sync`, `GetPublicKeySignatureEd448().PublicKey.KeyValue`: the getter is nil-safe, the two field
reads after it are not, so `none` is a nil dereference.
-/

namespace DataClock

/-- `[]byte`. -/
abbrev Bytes := List UInt8

/-- A Go `error`: a leaf, or `errors.Wrap(cause, message)`. -/
inductive Error where
  | new (text : String)
  | wrap (cause : Error) (message : String)
  deriving DecidableEq, Repr

/-- `protobufs.Ed448PublicKey`. -/
structure Ed448PublicKey where
  keyValue : Bytes
  deriving DecidableEq, Repr

/-- `protobufs.Ed448Signature`; `publicKey` is a message field, nil when unset. -/
structure Ed448Signature where
  publicKey : Option Ed448PublicKey
  signature : Bytes
  deriving DecidableEq, Repr

/-- `protobufs.InclusionCommitment`. -/
structure InclusionCommitment where
  filter : Bytes
  frameNumber : UInt64
  typeUrl : String
  commitment : Bytes
  data : Bytes
  position : UInt32
  deriving DecidableEq, Repr

/-- `protobufs.InclusionAggregateProof`. -/
structure InclusionAggregateProof where
  filter : Bytes
  frameNumber : UInt64
  inclusionCommitments : List InclusionCommitment
  proof : Bytes
  deriving DecidableEq, Repr

/-- `protobufs.ClockFrame`, with the fields the engine reads.  `publicKeySignatureEd448` is the
`public_key_signature` oneof when it holds an Ed448 signature, nil otherwise. -/
structure ClockFrame where
  frameNumber : UInt64
  timestamp : Int
  input : Bytes
  aggregateProofs : List InclusionAggregateProof
  publicKeySignatureEd448 : Option Ed448Signature
  deriving DecidableEq, Repr

/-- `GetPublicKeySignatureEd448().PublicKey.KeyValue`; `none` where a field read hits nil. -/
def ClockFrame.producerKey (f : ClockFrame) : Option Bytes :=
  f.publicKeySignatureEd448.bind fun s => s.publicKey.map (·.keyValue)

@[simp] theorem ClockFrame.producerKey_eq_none (f : ClockFrame) :
    f.producerKey = none ↔
      ∀ s, f.publicKeySignatureEd448 = some s → s.publicKey = none := by
  unfold producerKey
  cases f.publicKeySignatureEd448 <;> simp

/-- `protobufs.IntrinsicExecutionOutput`. -/
structure IntrinsicExecutionOutput where
  address : Bytes
  output : Bytes
  proof : Bytes
  deriving DecidableEq, Repr

end DataClock
