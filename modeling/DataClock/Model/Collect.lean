import DataClock.Model.Sync

/-!
# Model — Collect

`DataClockConsensusEngine.collect` (`consensus_frames.go`, lines 25–56).  Its outer `for` has no
bound of its own, so `collectLoop` runs at most `passes` passes and otherwise ends `running`:
a claim that `collect` returns is a claim that some number of passes reaches `returned`.  The
`k`-th call to `sync` of the run is answered by the session `sessions k`.

`latest` is a pointer, an `Option ClockFrame`: `sync` sets it to nil on a verification failure,
and `latest.FrameNumber` on nil is a `panic`.
-/

namespace DataClock

/-- How a pass of the inner `range candidates` loop ends. -/
inductive PassOutcome where
  | done (latest : Option ClockFrame) (k : Nat) (e : Engine)
  | panic (e : Engine)

/-- How a run of `collect` ends: `return latest, nil`, a panic, or still looping. -/
inductive CollectOutcome where
  | returned (latest : ClockFrame) (e : Engine)
  | panic (e : Engine)
  | running (latest : Option ClockFrame) (e : Engine)

/-- The engine at the end of a run. -/
def CollectOutcome.engine : CollectOutcome → Engine
  | .returned _ e | .panic e | .running _ e => e

/-- `for _, candidate := range candidates { … }` (lines 36–46), the next `sync` answered by
session `k`. -/
def syncCandidates (ctx : SyncCtx) (sessions : Nat → Session) :
    List PeerCandidate → Option ClockFrame → Nat → Engine → PassOutcome
  | [], latest, k, e => .done latest k e
  | _ :: _, none, _, e => .panic e
  | c :: cs, some l, k, e =>
    if c.maxFrame ≤ max l.frameNumber e.latestFrameReceived then
      syncCandidates ctx sessions cs (some l) k e
    else
      match sync ctx (sessions k) l c.maxFrame c.peerID e with
      | (.ret latest _, e') => syncCandidates ctx sessions cs latest (k + 1) e'
      | (.panic, e') => .panic e'

/-- `collect`'s outer `for` (lines 31–47) for at most `passes` passes, and its return. -/
def collectLoop (ctx : SyncCtx) (sessions : Nat → Session) :
    Nat → Option ClockFrame → Nat → Engine → CollectOutcome
  | 0, latest, _, e => .running latest e
  | _ + 1, none, _, e => .panic e
  | passes + 1, some l, k, e =>
    match getAheadPeers ctx.toAheadCtx e.peerMap e.uncooperativePeersMap
        (max l.frameNumber e.latestFrameReceived) with
    | none => .panic e
    | some [] => .returned l e
    | some candidates =>
      match syncCandidates ctx sessions candidates (some l) k e with
      | .done latest k e => collectLoop ctx sessions passes latest k e
      | .panic e => .panic e

/-- `e.collect(enqueuedFrame)`, for at most `passes` passes of its outer loop. -/
def collect (ctx : SyncCtx) (sessions : Nat → Session) (enqueuedFrame : ClockFrame)
    (passes : Nat) (e : Engine) : CollectOutcome :=
  collectLoop ctx sessions passes (some enqueuedFrame) 0 e

end DataClock
