import DataClock.Model.Peers

/-!
# Model — Sync

`DataClockConsensusEngine.sync` (`consensus_frames.go`, lines 271–373): one session pulling frames
from one peer.

The world answers the session's blocking calls: `GetDirectChannel`, then, for each turn of the
polling loop, `GetState()` at the loop condition and the peer's `GetDataFrame` reply (a `Poll`),
and `time.Now()` when the deferred demotion stamps the peer.  A `Session` is all of these, the
polls as a stream, so that quantifying over sessions quantifies over every behaviour of the peer
and of the engine's other goroutines.  The verifier and the prover trie are functions of the frame
and the key, read from `SyncCtx`.

The engine keeps a ghost `trace` of what the session does outside itself: each `GetDataFrame`
exchange (with the frame `latest` it asked after) and each `dataTimeReel.Insert` (with the
candidate the frame was pulled from).  Nothing in the model reads it.

`pollOnce` is one turn of the loop body; `pollLoop` the loop, well founded: a turn that goes on
has inserted the frame numbered `latest.FrameNumber + 1` and found it below `maxFrame`
(`pollOnce_next`), so the lead over `maxFrame` shrinks (after at most one wrap of `+ 1`, at the
first turn).  `sync` adds the channel and the deferred calls.  A nil dereference is `panic`.
-/

namespace DataClock

/-- `SyncStatusNotSyncing`, `SyncStatusSynchronizing`. -/
inductive SyncStatus where
  | notSyncing
  | synchronizing
  deriving DecidableEq, Repr

/-- What `client.GetDataFrame` returned: an error, a nil response, or a response whose
`ClockFrame` may be nil. -/
inductive Reply where
  | error (err : Error)
  /-- `(nil, nil)`, the case of lines 338–341.  The client from `NewDataServiceClient` returns a
  non-nil response whenever its error is nil, so no session reaches it.  The branch is kept because
  the code has it; the results that depend on it assume no reply is this one. -/
  | nilResponse
  | response (clockFrame : Option ClockFrame)
  deriving DecidableEq, Repr

/-- One turn of the polling loop as the world answers it: `e.GetState()`, then the reply. -/
structure Poll where
  state : Nat
  reply : Reply

/-- A session as the world answers it: the error of `GetDirectChannel(peerId, "sync")`, the polls
in order, and `time.Now().UnixMilli()` at the demotion. -/
structure Session where
  channel : Option Error
  polls : Nat → Poll
  now : Int

/-- What a session does outside the engine. -/
inductive SyncEvent where
  /-- `GetDataFrame` for `latest.FrameNumber + 1`, and its reply. -/
  | exchange (peerId : Bytes) (latest : ClockFrame) (reply : Reply)
  /-- `e.dataTimeReel.Insert(frame, true)`, of a frame pulled from `source`. -/
  | insert (frame : ClockFrame) (source : PeerCandidate)
  deriving DecidableEq, Repr

/-- The fields of `DataClockConsensusEngine` that `collect`, `sync` and `GetAheadPeers` read and
write, and the ghost trace. -/
structure Engine where
  peerMap : PeerMap
  uncooperativePeersMap : PeerMap
  latestFrameReceived : UInt64
  syncingStatus : SyncStatus
  trace : List SyncEvent

/-- What `sync` reads besides the engine's fields. -/
structure SyncCtx extends AheadCtx where
  /-- `e.frameProver.VerifyDataClockFrame`. -/
  verifyDataClockFrame : ClockFrame → Option Error
  /-- `e.IsInProverTrie`. -/
  isInProverTrie : Bytes → Bool
  /-- `consensus.EngineStateStopping`, as the integer `GetState()` is compared with. -/
  engineStateStopping : Nat

namespace Engine

/-- Append to the ghost trace. -/
def record (e : Engine) (ev : SyncEvent) : Engine :=
  { e with trace := e.trace ++ [ev] }

/-- The body of `sync`'s second deferred function, past `if cooperative { return }`. -/
def demote (e : Engine) (peerId : Bytes) (now : Int) : Engine :=
  match e.peerMap.get? peerId with
  | none => e
  | some v =>
    { e with
      uncooperativePeersMap := e.uncooperativePeersMap.insert { v with timestamp := now }
      peerMap := e.peerMap.erase peerId }

/-- `sync`'s deferred calls, last registered first: the demotion unless `cooperative`, then
`syncingStatus = SyncStatusNotSyncing` (`cc.Close()` changes no field). -/
def leave (e : Engine) (cooperative : Bool) (peerId : Bytes) (now : Int) : Engine :=
  { (if cooperative then e else e.demote peerId now) with syncingStatus := .notSyncing }

@[simp] theorem record_trace (e : Engine) (ev : SyncEvent) :
    (e.record ev).trace = e.trace ++ [ev] := rfl

@[simp] theorem record_peerMap (e : Engine) (ev : SyncEvent) :
    (e.record ev).peerMap = e.peerMap := rfl

@[simp] theorem record_latestFrameReceived (e : Engine) (ev : SyncEvent) :
    (e.record ev).latestFrameReceived = e.latestFrameReceived := rfl

@[simp] theorem demote_trace (e : Engine) (peerId : Bytes) (now : Int) :
    (e.demote peerId now).trace = e.trace := by
  unfold demote; split <;> rfl

@[simp] theorem demote_latestFrameReceived (e : Engine) (peerId : Bytes) (now : Int) :
    (e.demote peerId now).latestFrameReceived = e.latestFrameReceived := by
  unfold demote; split <;> rfl

/-- The demotion is a `delete` from `peerMap`, whether or not the peer was there. -/
@[simp] theorem demote_peerMap (e : Engine) (peerId : Bytes) (now : Int) :
    (e.demote peerId now).peerMap = e.peerMap.erase peerId := by
  unfold demote
  split
  · rename_i h; exact (PeerMap.erase_of_get?_none h).symm
  · rfl

/-- The demotion of a peer of `peerMap` moves it to the uncooperative map. -/
theorem demote_moves {e : Engine} {peerId : Bytes} (h : e.peerMap.contains peerId = true)
    (now : Int) :
    (e.demote peerId now).peerMap.contains peerId = false ∧
      (e.demote peerId now).uncooperativePeersMap.contains peerId = true := by
  obtain ⟨v, hv⟩ := PeerMap.get?_of_contains h
  unfold demote
  rw [hv]
  simp [PeerMap.contains_erase, PeerMap.contains_insert, (PeerMap.get?_eq_some hv).2]

@[simp] theorem leave_peerMap (e : Engine) (c : Bool) (peerId : Bytes) (now : Int) :
    (e.leave c peerId now).peerMap = if c then e.peerMap else e.peerMap.erase peerId := by
  unfold leave; split <;> simp

@[simp] theorem leave_trace (e : Engine) (c : Bool) (peerId : Bytes) (now : Int) :
    (e.leave c peerId now).trace = e.trace := by
  unfold leave; split <;> simp

@[simp] theorem leave_latestFrameReceived (e : Engine) (c : Bool) (peerId : Bytes) (now : Int) :
    (e.leave c peerId now).latestFrameReceived = e.latestFrameReceived := by
  unfold leave; split <;> simp

end Engine

/-- How `sync`'s body ends: at a `return` (the frame, the error, and `cooperative` for the
deferred demotion), or in a panic. -/
inductive SyncExit where
  | exit (latest : Option ClockFrame) (err : Option Error) (cooperative : Bool) (e : Engine)
  | panic (e : Engine)

/-- Where one turn of the polling loop leaves `sync`: at the loop head again, or out. -/
inductive PollStep where
  | next (latest : ClockFrame) (cooperative : Bool) (e : Engine)
  | out (x : SyncExit)

/-- The body of `sync`'s polling loop (lines 321–370), once `GetState()` was below
`EngineStateStopping`. -/
def pollOnce (ctx : SyncCtx) (maxFrame : UInt64) (peerId : Bytes) (latest : ClockFrame)
    (cooperative : Bool) (reply : Reply) (e : Engine) : PollStep :=
  let e := e.record (.exchange peerId latest reply)
  match reply with
  | .error err => .out (.exit (some latest) (some (.wrap err "sync")) false e)
  | .nilResponse => .out (.exit (some latest) none cooperative e)
  | .response none => .out (.exit (some latest) none false e)
  | .response (some f) =>
    if f.frameNumber ≠ latest.frameNumber + 1 ∨ f.timestamp < latest.timestamp then
      .out (.exit (some latest) none false e)
    else
      match f.producerKey with
      | none => .out (.panic e)
      | some key =>
        let cooperative := cooperative && ctx.isInProverTrie key
        match ctx.verifyDataClockFrame f with
        | some err => .out (.exit none (some (.wrap err "sync")) cooperative e)
        | none =>
          let e := e.record (.insert f ⟨peerId, maxFrame⟩)
          if maxFrame ≤ f.frameNumber then .out (.exit (some f) none cooperative e)
          else .next f cooperative e

/-- The check of lines 344–346 passes: `f` is numbered `latest.FrameNumber + 1` and stamped no
earlier than `latest`. -/
def Follows (latest f : ClockFrame) : Prop :=
  f.frameNumber = latest.frameNumber + 1 ∧ latest.timestamp ≤ f.timestamp

instance (latest f : ClockFrame) : Decidable (Follows latest f) :=
  inferInstanceAs (Decidable (_ ∧ _))

/-- Everything one turn of the loop can do. -/
theorem pollOnce_cases {ctx : SyncCtx} {maxFrame : UInt64} {peerId : Bytes}
    {latest : ClockFrame} {c : Bool} {reply : Reply} {e : Engine} {r : PollStep}
    (h : pollOnce ctx maxFrame peerId latest c reply e = r) :
    let e₁ := e.record (.exchange peerId latest reply)
    (∃ err, reply = .error err ∧ r = .out (.exit (some latest) (some (.wrap err "sync")) false e₁)) ∨
    (reply = .nilResponse ∧ r = .out (.exit (some latest) none c e₁)) ∨
    (∃ fo, reply = .response fo ∧ (∀ f, fo = some f → ¬ Follows latest f) ∧
      r = .out (.exit (some latest) none false e₁)) ∨
    (∃ f, reply = .response (some f) ∧ Follows latest f ∧ f.producerKey = none ∧
      r = .out (.panic e₁)) ∨
    (∃ f key err, reply = .response (some f) ∧ Follows latest f ∧ f.producerKey = some key ∧
      ctx.verifyDataClockFrame f = some err ∧
      r = .out (.exit none (some (.wrap err "sync")) (c && ctx.isInProverTrie key) e₁)) ∨
    (∃ f key, reply = .response (some f) ∧ Follows latest f ∧ f.producerKey = some key ∧
      ctx.verifyDataClockFrame f = none ∧
      let e₂ := e₁.record (.insert f ⟨peerId, maxFrame⟩)
      (maxFrame ≤ f.frameNumber ∧ r = .out (.exit (some f) none (c && ctx.isInProverTrie key) e₂) ∨
        f.frameNumber < maxFrame ∧ r = .next f (c && ctx.isInProverTrie key) e₂)) := by
  subst h
  unfold pollOnce
  match reply with
  | .error err => exact .inl ⟨err, rfl, rfl⟩
  | .nilResponse => exact .inr (.inl ⟨rfl, rfl⟩)
  | .response none => exact .inr (.inr (.inl ⟨none, rfl, by simp, rfl⟩))
  | .response (some f) =>
    simp only
    by_cases hf : Follows latest f
    · have hn : ¬ (f.frameNumber ≠ latest.frameNumber + 1 ∨ f.timestamp < latest.timestamp) := by
        simp only [Follows] at hf; simp [hf.1, hf.2]
      rw [if_neg hn]
      cases hk : f.producerKey with
      | none => exact .inr (.inr (.inr (.inl ⟨f, rfl, hf, hk, rfl⟩)))
      | some key =>
        cases hv : ctx.verifyDataClockFrame f with
        | some err => exact .inr (.inr (.inr (.inr (.inl ⟨f, key, err, rfl, hf, hk, hv, rfl⟩))))
        | none =>
          refine .inr (.inr (.inr (.inr (.inr ⟨f, key, rfl, hf, hk, hv, ?_⟩))))
          by_cases hm : maxFrame ≤ f.frameNumber
          · exact .inl ⟨hm, by simp [hm]⟩
          · exact .inr ⟨UInt64.not_le.mp hm, by simp [hm]⟩
    · have hn : f.frameNumber ≠ latest.frameNumber + 1 ∨ f.timestamp < latest.timestamp := by
        simp only [Follows, not_and_or, not_le] at hf; exact hf
      rw [if_pos hn]
      exact .inr (.inr (.inl ⟨some f, rfl, by simpa using hf, rfl⟩))

/-- A turn that goes on has inserted the next frame, and it is below `maxFrame`. -/
theorem pollOnce_next {ctx : SyncCtx} {maxFrame : UInt64} {peerId : Bytes} {latest : ClockFrame}
    {c : Bool} {reply : Reply} {e : Engine} {f : ClockFrame} {c' : Bool} {e' : Engine}
    (h : pollOnce ctx maxFrame peerId latest c reply e = .next f c' e') :
    f.frameNumber = latest.frameNumber + 1 ∧ f.frameNumber < maxFrame := by
  rcases pollOnce_cases h with ⟨_, _, h⟩ | ⟨_, h⟩ | ⟨_, _, _, h⟩ | ⟨_, _, _, _, h⟩ |
    ⟨_, _, _, _, _, _, _, h⟩ | ⟨g, _, rfl, hg, _, _, ⟨_, h⟩ | ⟨hlt, h⟩⟩ <;> cases h
  exact ⟨hg.1, hlt⟩

/-- How far `latest` is from `maxFrame`: a turn that goes on lowers it. -/
def pollMeasure (maxFrame : UInt64) (latest : ClockFrame) : Nat × Nat :=
  (if latest.frameNumber < maxFrame then 0 else 1, maxFrame.toNat - latest.frameNumber.toNat)

theorem pollMeasure_next {maxFrame : UInt64} {latest f : ClockFrame}
    (h₁ : f.frameNumber = latest.frameNumber + 1) (h₂ : f.frameNumber < maxFrame) :
    Prod.Lex (· < ·) (· < ·) (pollMeasure maxFrame f) (pollMeasure maxFrame latest) := by
  unfold pollMeasure
  rw [if_pos h₂]
  by_cases hl : latest.frameNumber < maxFrame
  · have hf : f.frameNumber.toNat = latest.frameNumber.toNat + 1 := by
      rw [h₁, toNat_succ_of_lt hl]
    have : f.frameNumber.toNat < maxFrame.toNat := h₂
    rw [if_pos hl]
    exact Prod.Lex.right _ (by omega)
  · rw [if_neg hl]
    exact Prod.Lex.left _ _ Nat.zero_lt_one

/-- `for e.GetState() < consensus.EngineStateStopping { … }`, from turn `i`. -/
def pollLoop (ctx : SyncCtx) (maxFrame : UInt64) (peerId : Bytes) (polls : Nat → Poll)
    (i : Nat) (latest : ClockFrame) (cooperative : Bool) (e : Engine) : SyncExit :=
  if (polls i).state < ctx.engineStateStopping then
    match h : pollOnce ctx maxFrame peerId latest cooperative (polls i).reply e with
    | .next f c e' => pollLoop ctx maxFrame peerId polls (i + 1) f c e'
    | .out x => x
  else .exit (some latest) none cooperative e
termination_by pollMeasure maxFrame latest
decreasing_by exact pollMeasure_next (pollOnce_next h).1 (pollOnce_next h).2

theorem pollLoop_next {ctx : SyncCtx} {maxFrame : UInt64} {peerId : Bytes} {polls : Nat → Poll}
    {i : Nat} {latest : ClockFrame} {c : Bool} {e : Engine} {f : ClockFrame} {c' : Bool}
    {e' : Engine} (hs : (polls i).state < ctx.engineStateStopping)
    (h : pollOnce ctx maxFrame peerId latest c (polls i).reply e = .next f c' e') :
    pollLoop ctx maxFrame peerId polls i latest c e =
      pollLoop ctx maxFrame peerId polls (i + 1) f c' e' := by
  rw [pollLoop, if_pos hs]; split <;> simp_all

theorem pollLoop_out {ctx : SyncCtx} {maxFrame : UInt64} {peerId : Bytes} {polls : Nat → Poll}
    {i : Nat} {latest : ClockFrame} {c : Bool} {e : Engine} {x : SyncExit}
    (hs : (polls i).state < ctx.engineStateStopping)
    (h : pollOnce ctx maxFrame peerId latest c (polls i).reply e = .out x) :
    pollLoop ctx maxFrame peerId polls i latest c e = x := by
  rw [pollLoop, if_pos hs]; split <;> simp_all

theorem pollLoop_stop {ctx : SyncCtx} {maxFrame : UInt64} {peerId : Bytes} {polls : Nat → Poll}
    {i : Nat} {latest : ClockFrame} {c : Bool} {e : Engine}
    (hs : ¬ (polls i).state < ctx.engineStateStopping) :
    pollLoop ctx maxFrame peerId polls i latest c e = .exit (some latest) none c e := by
  rw [pollLoop, if_neg hs]

/-- What `sync` returns: `(frame, err)`, or a panic, with the engine. -/
inductive SyncResult where
  | ret (latest : Option ClockFrame) (err : Option Error)
  | panic
  deriving DecidableEq, Repr

/-- `sync`'s body up to a `return`: the status, the channel, the polling loop. -/
def syncBody (ctx : SyncCtx) (s : Session) (currentLatest : ClockFrame) (maxFrame : UInt64)
    (peerId : Bytes) (e : Engine) : SyncExit :=
  let e := { e with syncingStatus := .synchronizing }
  match s.channel with
  | some err => .exit (some currentLatest) (some (.wrap err "sync")) false e
  | none => pollLoop ctx maxFrame peerId s.polls 0 currentLatest true e

/-- The deferred calls, then the return.  A panic also runs them while the stack unwinds, but
nothing recovers it and the process exits, so the engine is left as the panic found it. -/
def SyncExit.finish (peerId : Bytes) (now : Int) : SyncExit → SyncResult × Engine
  | .exit latest err cooperative e => (.ret latest err, e.leave cooperative peerId now)
  | .panic e => (.panic, e)

/-- `e.sync(currentLatest, maxFrame, peerId)`. -/
def sync (ctx : SyncCtx) (s : Session) (currentLatest : ClockFrame) (maxFrame : UInt64)
    (peerId : Bytes) (e : Engine) : SyncResult × Engine :=
  (syncBody ctx s currentLatest maxFrame peerId e).finish peerId s.now

end DataClock
