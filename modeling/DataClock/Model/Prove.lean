import DataClock.Model.Protobufs

/-!
# Model — Prove

`DataClockConsensusEngine.prove` (`consensus_frames.go`, lines 58–213), cut where it touches the
engine: the unlocked check of `lastProven` (`shortCircuits`), the section under
`stagedTransactionsMx` (`materialize`, then `applyStaged` on the staging buffer), the proof
construction after the unlock (`buildFrame`), and the update of `lastProven` followed by the log
line that slices `frame.Input[516:]` (`recordOutcome`).  `prove` composes the pieces for a call
that runs alone; `DataClock.Model.Race` interleaves the same pieces.

The collaborators answer through a `ProveWorld`, one per call: the clock store, the token
application, `proto.Marshal` at its three types, the SHAKE-256 digest, the inclusion prover, the
frame prover and `time.Now()`.  Each `(value, err)` pair is an `Except`, except the one of
`GetDataClockFrame`, whose error `prove` assigns to `err` and never reads.  A `TokenRequests` is
the list of its `Requests`; the tries, the application and its output state are type parameters.
-/

namespace DataClock

/-- The 1024 bytes of `expand`, as `digest.Read` fills them. -/
structure Expand where
  bytes : Bytes
  length_eq : bytes.length = 1024

/-- `int(expand[0] % 16)`. -/
def Expand.position (x : Expand) : Nat :=
  (x.bytes.get ⟨0, by rw [x.length_eq]; decide⟩ % 16).toNat

/-- What `prove` reads of the engine besides `lastProven` and the staging buffer. -/
structure ProveCtx where
  filter : Bytes
  /-- `e.provingKey`, as the application and the frame prover receive it. -/
  provingKey : Bytes
  difficulty : UInt32
  /-- `application.TOKEN_ADDRESS`. -/
  tokenAddress : Bytes
  /-- `protobufs.IntrinsicExecutionOutputType`. -/
  intrinsicExecutionOutputType : String

/-- What the collaborators of one `prove` call answer. -/
structure ProveWorld (Tx Tries App Out : Type) where
  /-- `e.clockStore.GetDataClockFrame(filter, frameNumber, false)`: the tries and the error. -/
  getDataClockFrame : Bytes → UInt64 → Tries × Option Error
  materializeApplicationFromFrame : Bytes → ClockFrame → Tries → Except Error App
  /-- `app.ApplyTransitions(frameNumber, requests, commit)`: the new application, the valid and
  the invalid requests. -/
  applyTransitions : App → UInt64 → List Tx → Bool → Except Error (App × List Tx × List Tx)
  materializeStateFromApplication : App → Except Error Out
  marshalOutputs : Out → Except Error Bytes
  marshalRequests : List Tx → Except Error Bytes
  marshalExecutionOutput : IntrinsicExecutionOutput → Except Error Bytes
  /-- `digest.Write(data)` on a fresh SHAKE-256. -/
  digestWrite : Bytes → Option Error
  /-- `digest.Read(expand)` after `data` was written. -/
  digestRead : Bytes → Except Error Expand
  /-- `e.inclusionProver.CommitRaw(expand, polySize)`. -/
  commitRaw : Expand → Nat → Except Error Bytes
  /-- `e.inclusionProver.ProveRaw(expand, position, polySize)`. -/
  proveRaw : Expand → Nat → Nat → Except Error Bytes
  /-- `e.frameProver.ProveDataClockFrame(previousFrame, commitments, aggregateProofs,
  provingKey, timestamp, difficulty)`. -/
  proveDataClockFrame : ClockFrame → List Bytes → List InclusionAggregateProof → Bytes → Int →
    UInt32 → Except Error ClockFrame
  /-- `time.Now().UnixMilli()`. -/
  now : Int

/-- How a `prove` call ends: `return previousFrame, nil`, a new frame, an error, or the panic of
`frame.Input[516:]`. -/
inductive ProveResult where
  | unchanged
  | proven (frame : ClockFrame)
  | failed (err : Error)
  | panic
  deriving DecidableEq, Repr

variable {Tx Tries App Out : Type}

/-- `errors.Wrap(err, "prove")` on a collaborator's error. -/
def wrapProve {α : Type} (x : Except Error α) : Except Error α :=
  x.mapError (·.wrap "prove")

/-- `e.lastProven >= previousFrame.FrameNumber && e.lastProven != 0` (line 61). -/
def shortCircuits (lastProven : UInt64) (previousFrame : ClockFrame) : Bool :=
  decide (previousFrame.frameNumber ≤ lastProven) && lastProven != 0

/-- Lines 66–84, under the lock: the tries of `previousFrame`, then the application.  The
error of `GetDataClockFrame` is overwritten by the next assignment to `err`. -/
def materialize (ctx : ProveCtx) (w : ProveWorld Tx Tries App Out) (previousFrame : ClockFrame) :
    Except Error App :=
  let tries := (w.getDataClockFrame ctx.filter previousFrame.frameNumber).1
  wrapProve (w.materializeApplicationFromFrame ctx.provingKey previousFrame tries)

/-- One `ApplyTransitions` call: the requests it was handed, and its answer. -/
structure ApplyCall (Tx App : Type) where
  requests : List Tx
  result : Except Error (App × List Tx × List Tx)

/-- `app.ApplyTransitions(frameNumber, requests, commit)`, kept with the requests it was handed. -/
def ProveWorld.callApplyTransitions (w : ProveWorld Tx Tries App Out) (app : App)
    (frameNumber : UInt64) (requests : List Tx) (commit : Bool) : ApplyCall Tx App :=
  ⟨requests, w.applyTransitions app frameNumber requests commit⟩

/-- Lines 95–99: `ApplyTransitions` on the staging buffer's requests. -/
def applyStaged (w : ProveWorld Tx Tries App Out) (previousFrame : ClockFrame) (app : App)
    (staged : List Tx) : ApplyCall Tx App :=
  let call := w.callApplyTransitions app (previousFrame.frameNumber + 1) staged true
  { call with result := wrapProve call.result }

/-- `ApplyTransitions` is handed the whole buffer. -/
@[simp] theorem applyStaged_requests (w : ProveWorld Tx Tries App Out) (previousFrame : ClockFrame)
    (app : App) (staged : List Tx) : (applyStaged w previousFrame app staged).requests = staged :=
  rfl

@[simp] theorem applyStaged_result (w : ProveWorld Tx Tries App Out) (previousFrame : ClockFrame)
    (app : App) (staged : List Tx) :
    (applyStaged w previousFrame app staged).result =
      wrapProve (w.applyTransitions app (previousFrame.frameNumber + 1) staged true) :=
  rfl

/-- The one aggregate proof of lines 180–195. -/
def aggregateProof (ctx : ProveCtx) (previousFrame : ClockFrame) (commitment data proof : Bytes) :
    InclusionAggregateProof where
  filter := ctx.filter
  frameNumber := previousFrame.frameNumber + 1
  inclusionCommitments := [{
    filter := ctx.filter
    frameNumber := previousFrame.frameNumber + 1
    typeUrl := ctx.intrinsicExecutionOutputType
    commitment := commitment
    data := data
    position := 0 }]
  proof := proof

/-- Lines 115–203, after the unlock: the execution output, its digest, the KZG commitment and
proof, and the frame. -/
def buildFrame (ctx : ProveCtx) (w : ProveWorld Tx Tries App Out) (previousFrame : ClockFrame)
    (app : App) (validTransactions : List Tx) : Except Error ClockFrame := do
  let outputState ← wrapProve (w.materializeStateFromApplication app)
  let output ← wrapProve (w.marshalOutputs outputState)
  let proof ← wrapProve (w.marshalRequests validTransactions)
  let data ← wrapProve (w.marshalExecutionOutput ⟨ctx.tokenAddress, output, proof⟩)
  match w.digestWrite data with
  | some err => throw (err.wrap "prove")
  | none => pure ()
  let expand ← wrapProve (w.digestRead data)
  let commitment ← wrapProve (w.commitRaw expand 16)
  let proof ← wrapProve (w.proveRaw expand expand.position 16)
  wrapProve (w.proveDataClockFrame previousFrame [proof]
    [aggregateProof ctx previousFrame commitment data proof] ctx.provingKey w.now ctx.difficulty)

/-- Lines 206–212, once `lastProven` is set: the log line's `frame.Input[516:]` panics on an
input shorter than 516 bytes. -/
def recordOutcome (frame : ClockFrame) : ProveResult :=
  if 516 ≤ frame.input.length then .proven frame else .panic

/-- One `prove` call: its previous frame and what its collaborators answer. -/
structure ProveCall (Tx Tries App Out : Type) where
  previousFrame : ClockFrame
  world : ProveWorld Tx Tries App Out

/-- The fields of the engine that `prove` reads and writes; `stagedTransactions` is nil or the
`Requests` of the buffer. -/
structure ProveEngine (Tx : Type) where
  lastProven : UInt64
  stagedTransactions : Option (List Tx)

/-- `e.prove(previousFrame)`, run alone. -/
def prove (ctx : ProveCtx) (w : ProveWorld Tx Tries App Out) (previousFrame : ClockFrame)
    (e : ProveEngine Tx) : ProveResult × ProveEngine Tx :=
  if shortCircuits e.lastProven previousFrame then (.unchanged, e)
  else
    match materialize ctx w previousFrame with
    | .error err => (.failed err, e)
    | .ok app =>
      match (applyStaged w previousFrame app (e.stagedTransactions.getD [])).result with
      | .error err => (.failed err, { e with stagedTransactions := some [] })
      | .ok (app, validTransactions, _) =>
        match buildFrame ctx w previousFrame app validTransactions with
        | .error err => (.failed err, { e with stagedTransactions := some [] })
        | .ok frame =>
          (recordOutcome frame, { lastProven := previousFrame.frameNumber, stagedTransactions := some [] })

end DataClock
