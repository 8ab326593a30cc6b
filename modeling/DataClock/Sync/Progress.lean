import DataClock.Sync.Collect

/-!
# Sync — does `collect` return?

`remaining latest e` counts the peers of `peerMap` whose `maxFrame` exceeds
`max(latest.FrameNumber, latestFrameReceived)`.  Only `collect`'s own `sync` calls touch the peer
map and `latestFrameReceived` in this model, and each call either deletes its peer or leaves the
map alone (`sync_peerMap`) and never lowers `latest` (`sync_pulled`), so no call raises the count
(`syncCandidates_remaining_le`).

* `collect_progress`: while the engine stays below `EngineStateStopping` and no reply is the
  unreachable `(nil, nil)` (`Steady`), a pass that finds ahead peers lowers the count, since its first `sync`
  demotes its peer or pulls up to its `maxFrame` (`sync_progress`); so `collect` returns or
  panics within the count plus one passes.
* `collect_loops_while_stopping`: `collect` reads no engine state itself.  Once every `GetState()`
  is at or above `EngineStateStopping` and the channels open, each `sync` returns `latest` at once
  and demotes no one (`sync_stopping`), so the next pass finds the same ahead peers, and `collect`
  is still running after any number of passes for as long as `GetAheadPeers` finds one.
-/

namespace DataClock

/-- The peers of `peerMap` ahead of `max(latest.FrameNumber, latestFrameReceived)`; none once
`latest` is nil, when the next pass panics. -/
def remaining (latest : Option ClockFrame) (e : Engine) : Nat :=
  match latest with
  | none => 0
  | some l => e.peerMap.aheadCount (max l.frameNumber e.latestFrameReceived)

/-- Every `GetState()` is below `EngineStateStopping`, and no reply is the `(nil, nil)` the
client never returns. -/
def Steady (ctx : SyncCtx) (sessions : Nat → Session) : Prop :=
  ∀ k i, ((sessions k).polls i).state < ctx.engineStateStopping ∧
    ((sessions k).polls i).reply ≠ .nilResponse

theorem max_le_max_left {a a' : UInt64} (b : UInt64) (h : a ≤ a') : max a b ≤ max a' b := by
  rw [toNat_le_toNat, toNat_max, toNat_max]
  have := toNat_le_toNat.mp h
  omega

theorem le_max_left' (a b : UInt64) : a ≤ max a b := by
  rw [toNat_le_toNat, toNat_max]; omega

/-- The frame a `sync` started below `maxFrame` returns is no lower than where it started. -/
theorem sync_latest_le (ctx : SyncCtx) (s : Session) (l : ClockFrame) (maxFrame : UInt64)
    (peerId : Bytes) (e : Engine) (hlt : l.frameNumber < maxFrame) {l' : ClockFrame}
    (h : (sync ctx s l maxFrame peerId e).1.latest? = some l') : l.frameNumber ≤ l'.frameNumber := by
  obtain ⟨Δ, last, -, hp, hl⟩ := sync_pulled ctx s l maxFrame peerId e hlt
  cases hr : (sync ctx s l maxFrame peerId e).1 with
  | ret lo err =>
    rw [hr] at h; cases h
    rw [hl l' err hr]; exact toNat_le_toNat.mpr hp.le
  | panic => rw [hr] at h; cases h

/-- No `sync` call raises the count. -/
theorem sync_remaining_le (ctx : SyncCtx) (s : Session) (l : ClockFrame) (maxFrame : UInt64)
    (peerId : Bytes) (e : Engine) (hlt : l.frameNumber < maxFrame) :
    remaining (sync ctx s l maxFrame peerId e).1.latest? (sync ctx s l maxFrame peerId e).2 ≤
      remaining (some l) e := by
  cases h : (sync ctx s l maxFrame peerId e).1.latest? with
  | none => exact Nat.zero_le _
  | some l' =>
    have hh := max_le_max_left e.latestFrameReceived (sync_latest_le ctx s l maxFrame peerId e hlt h)
    simp only [remaining, sync_latestFrameReceived]
    refine le_trans (PeerMap.aheadCount_anti _ hh) ?_
    rcases sync_peerMap ctx s l maxFrame peerId e with hm | hm <;> rw [hm]
    exact PeerMap.aheadCount_erase_le _ _ _

/-- No pass raises the count. -/
theorem syncCandidates_remaining_le (ctx : SyncCtx) (sessions : Nat → Session)
    (cs : List PeerCandidate) (latest : Option ClockFrame) (k : Nat) (e : Engine) :
    remaining (syncCandidates ctx sessions cs latest k e).latest?
      (syncCandidates ctx sessions cs latest k e).engine ≤ remaining latest e := by
  induction cs generalizing latest k e with
  | nil => exact le_rfl
  | cons c cs ih =>
    cases latest with
    | none => exact le_rfl
    | some l =>
      rw [syncCandidates]
      split_ifs with hle
      · exact ih _ _ _
      · have hs := sync_remaining_le ctx (sessions k) l c.maxFrame c.peerID e
          (lt_of_not_le_max hle)
        rcases hr : sync ctx (sessions k) l c.maxFrame c.peerID e with ⟨r, e'⟩
        rw [hr] at hs
        cases r with
        | ret lo err => simp only [hr]; exact le_trans (ih _ _ _) hs
        | panic => exact Nat.zero_le _

/-- The first `sync` of a pass lowers the count, when the engine runs and the peer answers. -/
theorem sync_remaining_lt (ctx : SyncCtx) (s : Session) (l : ClockFrame) (e : Engine)
    (hsteady : ∀ i, (s.polls i).state < ctx.engineStateStopping ∧
      (s.polls i).reply ≠ .nilResponse)
    {v : PeerInfo} (hv : v ∈ e.peerMap.entries)
    (hahead : max l.frameNumber e.latestFrameReceived < v.maxFrame) :
    remaining (sync ctx s l v.maxFrame v.peerId e).1.latest? (sync ctx s l v.maxFrame v.peerId e).2 <
      remaining (some l) e := by
  have hlt : l.frameNumber < v.maxFrame := word_lt_of_le_of_lt (le_max_left' _ _) hahead
  have hpos : 0 < remaining (some l) e :=
    lt_of_le_of_lt (Nat.zero_le _) (PeerMap.aheadCount_erase_lt hv hahead)
  cases hr : (sync ctx s l v.maxFrame v.peerId e).1 with
  | panic => exact hpos
  | ret lo err =>
    cases lo with
    | none => exact hpos
    | some l' =>
      have hh := max_le_max_left e.latestFrameReceived
        (sync_latest_le ctx s l v.maxFrame v.peerId e hlt (by rw [hr]; rfl))
      simp only [remaining, SyncResult.latest?, sync_latestFrameReceived]
      rcases sync_progress ctx s l v.maxFrame v.peerId e hsteady hr with hm | hm
      · rw [hm]
        exact lt_of_le_of_lt (PeerMap.aheadCount_anti _ hh) (PeerMap.aheadCount_erase_lt hv hahead)
      · refine lt_of_le_of_lt ?_ (PeerMap.aheadCount_lt hh hv hahead
          (word_le_trans hm (le_max_left' _ _)))
        rcases sync_peerMap ctx s l v.maxFrame v.peerId e with hp | hp <;> rw [hp]
        exact PeerMap.aheadCount_erase_le _ _ _

/-- A pass that finds ahead peers lowers the count, when the engine runs and the peers answer. -/
theorem syncCandidates_remaining_lt {ctx : SyncCtx} {sessions : Nat → Session}
    (hsteady : Steady ctx sessions) {l : ClockFrame} (k : Nat) {e : Engine} {c : PeerCandidate}
    {cs : List PeerCandidate}
    (hg : getAheadPeers ctx.toAheadCtx e.peerMap e.uncooperativePeersMap
      (max l.frameNumber e.latestFrameReceived) = some (c :: cs)) :
    remaining (syncCandidates ctx sessions (c :: cs) (some l) k e).latest?
      (syncCandidates ctx sessions (c :: cs) (some l) k e).engine < remaining (some l) e := by
  obtain ⟨v, hv, hid, hmax, hahead⟩ := getAheadPeers_mem hg (List.mem_cons_self c cs)
  rw [syncCandidates, if_neg (by rw [UInt64.not_le, ← hmax]; exact hahead), ← hid, ← hmax]
  have hs := sync_remaining_lt ctx (sessions k) l e (hsteady k) hv hahead
  rcases hr : sync ctx (sessions k) l v.maxFrame v.peerId e with ⟨r, e'⟩
  rw [hr] at hs
  cases r with
  | ret lo err => exact lt_of_le_of_lt (syncCandidates_remaining_le ..) hs
  | panic => exact hs

/-- While the engine runs and the peers answer, `collect` ends within the count plus one
passes. -/
theorem collectLoop_ends {ctx : SyncCtx} {sessions : Nat → Session}
    (hsteady : Steady ctx sessions) :
    ∀ n l k e, remaining (some l) e < n →
      ∀ l' e', collectLoop ctx sessions n (some l) k e ≠ .running l' e'
  | 0, _, _, _, h => absurd h (Nat.not_lt_zero _)
  | n + 1, l, k, e, h => by
    rw [collectLoop]
    cases hg : getAheadPeers ctx.toAheadCtx e.peerMap e.uncooperativePeersMap
        (max l.frameNumber e.latestFrameReceived) with
    | none => simp
    | some cs =>
      cases cs with
      | nil => simp
      | cons c cs =>
        have hlt := syncCandidates_remaining_lt hsteady k hg
        simp only
        cases hr : syncCandidates ctx sessions (c :: cs) (some l) k e with
        | panic e' => simp
        | done latest' k' e' =>
          rw [hr] at hlt
          cases latest' with
          | none =>
            cases n with
            | zero => omega
            | succ m => simp [collectLoop]
          | some l₁ => exact collectLoop_ends hsteady n l₁ k' e' (by
              simp only [PassOutcome.latest?, PassOutcome.engine] at hlt; omega)

/-- Every `GetState()` of every session is at or above `EngineStateStopping`, and every channel
opens. -/
def Stopping (ctx : SyncCtx) (sessions : Nat → Session) : Prop :=
  ∀ k, (sessions k).channel = none ∧ ∀ i, ctx.engineStateStopping ≤ ((sessions k).polls i).state

/-- While stopping, a pass keeps `latest` and touches no peer. -/
theorem syncCandidates_stopping {ctx : SyncCtx} {sessions : Nat → Session}
    (hstop : Stopping ctx sessions) (l : ClockFrame) :
    ∀ (cs : List PeerCandidate) (k : Nat) (e : Engine), ∃ k' e',
      syncCandidates ctx sessions cs (some l) k e = .done (some l) k' e' ∧
      e'.peerMap = e.peerMap ∧ e'.uncooperativePeersMap = e.uncooperativePeersMap ∧
      e'.latestFrameReceived = e.latestFrameReceived
  | [], k, e => ⟨k, e, rfl, rfl, rfl, rfl⟩
  | c :: cs, k, e => by
    rw [syncCandidates]
    split_ifs
    · exact syncCandidates_stopping hstop l cs k e
    · rw [sync_stopping ctx (sessions k) l c.maxFrame c.peerID e (hstop k).1 ((hstop k).2 0)]
      obtain ⟨k', e', h, h₁, h₂, h₃⟩ := syncCandidates_stopping hstop l cs (k + 1)
        { e with syncingStatus := .notSyncing }
      exact ⟨k', e', h, h₁, h₂, h₃⟩

/-- While stopping, `collect` loops for as long as `GetAheadPeers` finds a candidate. -/
theorem collectLoop_stopping {ctx : SyncCtx} {sessions : Nat → Session}
    (hstop : Stopping ctx sessions) (l : ClockFrame) :
    ∀ n k (e : Engine), (∃ c cs, getAheadPeers ctx.toAheadCtx e.peerMap e.uncooperativePeersMap
      (max l.frameNumber e.latestFrameReceived) = some (c :: cs)) →
      ∃ e', collectLoop ctx sessions n (some l) k e = .running (some l) e'
  | 0, _, e, _ => ⟨e, rfl⟩
  | n + 1, k, e, ⟨c, cs, hg⟩ => by
    rw [collectLoop, hg]
    obtain ⟨k', e', h, h₁, h₂, h₃⟩ := syncCandidates_stopping hstop l (c :: cs) k e
    simp only [h]
    exact collectLoop_stopping hstop l n k' e' ⟨c, cs, by rw [h₁, h₂, h₃]; exact hg⟩

/-- While the engine runs and the peers answer, a pass that finds ahead peers lowers the count,
so `collect` ends within the count plus one passes. -/
theorem collect_progress {ctx : SyncCtx} {sessions : Nat → Session}
    (hsteady : Steady ctx sessions) :
    (∀ l k e c cs, getAheadPeers ctx.toAheadCtx e.peerMap e.uncooperativePeersMap
        (max l.frameNumber e.latestFrameReceived) = some (c :: cs) →
      remaining (syncCandidates ctx sessions (c :: cs) (some l) k e).latest?
        (syncCandidates ctx sessions (c :: cs) (some l) k e).engine < remaining (some l) e) ∧
    ∀ enqueuedFrame e passes, remaining (some enqueuedFrame) e < passes →
      ∀ l' e', collect ctx sessions enqueuedFrame passes e ≠ .running l' e' :=
  ⟨fun _ k _ _ _ hg => syncCandidates_remaining_lt hsteady k hg,
    fun enq e passes h => collectLoop_ends hsteady passes enq 0 e h⟩

theorem collect_loops_while_stopping (ctx : SyncCtx) (sessions : Nat → Session)
    (hstop : Stopping ctx sessions) (enqueuedFrame : ClockFrame) (e : Engine) (c : PeerCandidate)
    (cs : List PeerCandidate)
    (hg : getAheadPeers ctx.toAheadCtx e.peerMap e.uncooperativePeersMap
      (max enqueuedFrame.frameNumber e.latestFrameReceived) = some (c :: cs))
    (passes : Nat) :
    ∃ e', collect ctx sessions enqueuedFrame passes e = .running (some enqueuedFrame) e' :=
  collectLoop_stopping hstop enqueuedFrame passes 0 e ⟨c, cs, hg⟩

/-! ### A peer ahead by three frames -/

/-- A context with one prover trie that holds nobody, no version floor, the sampler that keeps
the candidates in order, and `EngineStateStopping = 7`; `verify` and `trie` are the verifier and
`IsInProverTrie`. -/
def demoCtx (verify : ClockFrame → Option Error) (trie : Bytes → Bool) : SyncCtx where
  frameProverTries := [fun _ => false]
  provingKeyAddress := []
  minimumVersionCutoff := 0
  minimumVersion := []
  sampler := ⟨id, List.Perm.refl⟩
  verifyDataClockFrame := verify
  isInProverTrie := trie
  engineStateStopping := 7

/-- Frame `n`, signed by the key `[1]`. -/
def demoFrame (n : UInt64) : ClockFrame := ⟨n, 0, [], [], some ⟨some ⟨[1]⟩, []⟩⟩

/-- An engine at frame `0` that knows one peer, `[9]`, at `maxFrame = 8`. -/
def demoEngine : Engine :=
  ⟨⟨[⟨[9], 8, 1, []⟩], by decide⟩, ⟨[], by decide⟩, 0, .notSyncing, []⟩

/-- Every session opens its channel and answers each turn with `GetState() = state` and
`reply i`. -/
def demoSessions (state : Nat) (reply : Nat → Reply) : Nat → Session :=
  fun _ => ⟨none, fun i => ⟨state, reply i⟩, 0⟩

theorem getAheadPeers_demoEngine (verify : ClockFrame → Option Error) (trie : Bytes → Bool) :
    getAheadPeers (demoCtx verify trie).toAheadCtx demoEngine.peerMap
      demoEngine.uncooperativePeersMap (max (demoFrame 5).frameNumber demoEngine.latestFrameReceived) =
      some [⟨[9], 8⟩] := rfl

/-- An engine past `EngineStateStopping` whose one peer is ahead never leaves `collect`. -/
theorem collect_loops_while_stopping_demo :
    ¬ ∃ passes, ∀ l' e', collect (demoCtx (fun _ => none) fun _ => true)
      (demoSessions 7 fun _ => .response none) (demoFrame 5) passes demoEngine ≠ .running l' e' :=
  fun ⟨passes, h⟩ =>
    (collect_loops_while_stopping (demoCtx (fun _ => none) fun _ => true)
      (demoSessions 7 fun _ => .response none) (fun _ => ⟨rfl, fun _ => le_rfl⟩) (demoFrame 5)
      demoEngine _ _ (getAheadPeers_demoEngine _ _) passes).elim fun _ he => h _ _ he

end DataClock
