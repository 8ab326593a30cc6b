import DataClock.Sync.Progress

/-!
# Sync — protocol violations

What a `sync` session whose channel opens and whose engine runs does with the peer's first reply
(`sync_first_out`, `sync_first_next`), and what follows at the violations the spec lists:

* `sync_unsigned_frame_panics`: the next frame with no `PublicKeySignatureEd448`, or with no
  public key in it, is dereferenced for its key and panics the node.
* `sync_demotes_iff_violation`: over replies the client can return, a session that returns has
  moved its peer from `peerMap` to the uncooperative map exactly when its channel failed or one of
  its exchanges was a violation (`Reply.violates`); otherwise both maps are as they were.  A frame
  that only fails `VerifyDataClockFrame` is no violation.
* `sync_polls_after_untrusted_producer`: a frame whose producer is outside the prover trie clears
  `cooperative`, is inserted, and the session asks the same peer for the next frame.
* `collect_panics_after_rejected_frame`: a frame that fails `VerifyDataClockFrame` makes `sync`
  hand back a nil frame, and `collect` dereferences it at its next candidate or pass.
-/

namespace DataClock

variable {ctx : SyncCtx} {s : Session} {l : ClockFrame} {maxFrame : UInt64} {peerId : Bytes}
  {e : Engine}

/-- A session that leaves its loop at the first turn. -/
theorem sync_first_out {x : SyncExit} (hch : s.channel = none)
    (hrun : (s.polls 0).state < ctx.engineStateStopping)
    (h : pollOnce ctx maxFrame peerId l true (s.polls 0).reply
      { e with syncingStatus := .synchronizing } = .out x) :
    sync ctx s l maxFrame peerId e = x.finish peerId s.now := by
  unfold sync syncBody
  rw [hch]
  exact congrArg _ (pollLoop_out hrun h)

/-- A session that goes on past its first turn. -/
theorem sync_first_next {f : ClockFrame} {c : Bool} {e' : Engine} (hch : s.channel = none)
    (hrun : (s.polls 0).state < ctx.engineStateStopping)
    (h : pollOnce ctx maxFrame peerId l true (s.polls 0).reply
      { e with syncingStatus := .synchronizing } = .next f c e') :
    sync ctx s l maxFrame peerId e = (pollLoop ctx maxFrame peerId s.polls 1 f c e').finish peerId s.now := by
  unfold sync syncBody
  rw [hch]
  exact congrArg _ (pollLoop_next hrun h)

/-- A turn first records its exchange. -/
theorem pollOnce_trace (ctx : SyncCtx) (maxFrame : UInt64) (peerId : Bytes) (latest : ClockFrame)
    (c : Bool) (reply : Reply) (e : Engine) :
    ∃ Δ, (pollOnce ctx maxFrame peerId latest c reply e).engine.trace =
      e.trace ++ .exchange peerId latest reply :: Δ := by
  rcases pollOnce_cases (r := pollOnce ctx maxFrame peerId latest c reply e) rfl with
    ⟨_, _, h⟩ | ⟨_, h⟩ | ⟨_, _, _, h⟩ | ⟨_, _, _, _, h⟩ | ⟨_, _, _, _, _, _, _, h⟩ |
    ⟨_, _, _, _, _, _, ⟨-, h⟩ | ⟨-, h⟩⟩ <;> rw [h] <;>
    simp [PollStep.engine, SyncExit.engine]

/-- A loop that runs its turn `i` sends that turn's request before anything else. -/
theorem pollLoop_trace (ctx : SyncCtx) (maxFrame : UInt64) (peerId : Bytes) (polls : Nat → Poll)
    (i : Nat) (latest : ClockFrame) (c : Bool) (e : Engine)
    (hs : (polls i).state < ctx.engineStateStopping) :
    ∃ Δ, (pollLoop ctx maxFrame peerId polls i latest c e).engine.trace =
      e.trace ++ .exchange peerId latest (polls i).reply :: Δ := by
  obtain ⟨Δ₁, h₁⟩ := pollOnce_trace ctx maxFrame peerId latest c (polls i).reply e
  cases h : pollOnce ctx maxFrame peerId latest c (polls i).reply e with
  | out x => rw [pollLoop_out hs h]; rw [h] at h₁; exact ⟨Δ₁, h₁⟩
  | next f c' e' =>
    rw [pollLoop_next hs h]; rw [h] at h₁
    obtain ⟨Δ₂, -, h₂, -, -⟩ :=
      pollLoop_pulled ctx maxFrame peerId polls (i + 1) f c' e' (pollOnce_next h).2
    exact ⟨Δ₁ ++ Δ₂, by rw [h₂, show e'.trace = _ from h₁]; simp⟩

theorem sync_unsigned_frame_panics (ctx : SyncCtx) (s : Session) (l f : ClockFrame)
    (maxFrame : UInt64) (peerId : Bytes) (e : Engine) (hch : s.channel = none)
    (hrun : (s.polls 0).state < ctx.engineStateStopping)
    (hreply : (s.polls 0).reply = .response (some f)) (hf : Follows l f)
    (hkey : f.producerKey = none) :
    (sync ctx s l maxFrame peerId e).1 = .panic := by
  obtain ⟨e', h⟩ : ∃ e', pollOnce ctx maxFrame peerId l true (s.polls 0).reply
      { e with syncingStatus := .synchronizing } = .out (.panic e') :=
    ⟨_, by rw [hreply]; simp [pollOnce, hf.1, not_lt.mpr hf.2, hkey]; rfl⟩
  rw [sync_first_out hch hrun h]
  rfl

/-- Frame `6` without a signature, after frame `5`. -/
theorem sync_unsigned_frame_panics_demo :
    (sync (demoCtx (fun _ => none) fun _ => true)
      (demoSessions 0 (fun _ => .response (some ⟨6, 0, [], [], none⟩)) 0) (demoFrame 5) 8 [9]
      demoEngine).1 = .panic :=
  sync_unsigned_frame_panics _ _ (demoFrame 5) ⟨6, 0, [], [], none⟩ _ _ _ rfl
    (show 0 < 7 by decide) rfl (by decide) rfl

/-! ### Demotion exactly at a violation -/

/-- Modelled from the spec: the replies it counts as protocol violations of a peer asked for the
frame after `latest`.  A transport error, a nil response or nil frame, a frame not numbered
`latest.FrameNumber + 1` or stamped before `latest`, and a frame whose producer key is not in the
prover trie. -/
def Reply.violates (ctx : SyncCtx) (latest : ClockFrame) : Reply → Bool
  | .error _ | .nilResponse | .response none => true
  | .response (some f) => !decide (Follows latest f) || f.producerKey.any (!ctx.isInProverTrie ·)

/-- An exchange of the trace whose reply is a violation. -/
def SyncEvent.violates (ctx : SyncCtx) : SyncEvent → Bool
  | .exchange _ latest reply => reply.violates ctx latest
  | .insert .. => false

/-- A turn that goes on or returns appends events, and clears `cooperative` exactly when its
reply is a violation. -/
theorem pollOnce_cooperative {reply : Reply} {c c' : Bool} {e' : Engine}
    (hnil : reply ≠ .nilResponse)
    (h : (∃ f, pollOnce ctx maxFrame peerId l c reply e = .next f c' e') ∨
      ∃ lo err, pollOnce ctx maxFrame peerId l c reply e = .out (.exit lo err c' e')) :
    ∃ Δ, e'.trace = e.trace ++ Δ ∧ c' = (c && !Δ.any (·.violates ctx)) := by
  rcases pollOnce_cases (r := pollOnce ctx maxFrame peerId l c reply e) rfl with
    ⟨err, rfl, hr⟩ | ⟨rfl, -⟩ | ⟨fo, rfl, hfo, hr⟩ | ⟨f, rfl, -, -, hr⟩ |
    ⟨f, key, err, rfl, hf, hk, -, hr⟩ | ⟨f, key, rfl, hf, hk, -, ⟨-, hr⟩ | ⟨-, hr⟩⟩
  -- the `(nil, nil)` reply, excluded
  case inr.inl => exact absurd rfl hnil
  all_goals
    rw [hr] at h
    obtain ⟨_, h⟩ | ⟨_, _, h⟩ := h <;> cases h
  · exact ⟨[_], rfl, by simp [SyncEvent.violates, Reply.violates]⟩
  · refine ⟨[_], rfl, ?_⟩
    cases fo with
    | none => simp [SyncEvent.violates, Reply.violates]
    | some f => simp [SyncEvent.violates, Reply.violates, hfo f rfl]
  · exact ⟨[_], rfl, by simp [SyncEvent.violates, Reply.violates, hf, hk]⟩
  all_goals exact ⟨[.exchange peerId l (.response (some f)), .insert f ⟨peerId, maxFrame⟩],
    by simp, by simp [SyncEvent.violates, Reply.violates, hf, hk]⟩

/-- A loop over replies the client can return that returns has cleared `cooperative` exactly when
one of its exchanges was a violation. -/
theorem pollLoop_cooperative (polls : Nat → Poll)
    (hreach : ∀ i, (polls i).reply ≠ .nilResponse) (i : Nat) (latest : ClockFrame) (c : Bool)
    (e : Engine) {lo : Option ClockFrame} {err : Option Error} {c' : Bool} {e' : Engine}
    (h : pollLoop ctx maxFrame peerId polls i latest c e = .exit lo err c' e') :
    ∃ Δ, e'.trace = e.trace ++ Δ ∧ c' = (c && !Δ.any (·.violates ctx)) := by
  induction i, latest, c, e using pollLoop.induct ctx maxFrame peerId polls with
  | case1 i latest c e hs f c₁ e₁ hn ih =>
    rw [pollLoop_next hs hn] at h
    obtain ⟨Δ₁, ht₁, rfl⟩ := pollOnce_cooperative (hreach i) (.inl ⟨f, hn⟩)
    obtain ⟨Δ₂, ht₂, rfl⟩ := ih h
    exact ⟨Δ₁ ++ Δ₂, by rw [ht₂, ht₁, List.append_assoc], by simp [Bool.and_assoc]⟩
  | case2 i latest c e hs x hx =>
    rw [pollLoop_out hs hx] at h
    subst h
    exact pollOnce_cooperative (hreach i) (.inr ⟨lo, err, hx⟩)
  | case3 i latest c e hs =>
    rw [pollLoop_stop hs] at h
    cases h
    exact ⟨[], by simp, by simp⟩

/-- A session body over replies the client can return that returns has cleared `cooperative`
exactly when its channel failed or one of its exchanges was a violation. -/
theorem syncBody_cooperative (hreach : ∀ i, (s.polls i).reply ≠ .nilResponse)
    {lo : Option ClockFrame} {err : Option Error} {c' : Bool} {e' : Engine}
    (h : syncBody ctx s l maxFrame peerId e = .exit lo err c' e') :
    ∃ Δ, e'.trace = e.trace ++ Δ ∧
      (c' = false ↔ s.channel.isSome ∨ ∃ ev ∈ Δ, ev.violates ctx = true) := by
  unfold syncBody at h
  cases hch : s.channel with
  | some err =>
    rw [hch] at h
    cases h
    exact ⟨[], by simp, by simp⟩
  | none =>
    rw [hch] at h
    obtain ⟨Δ, ht, rfl⟩ := pollLoop_cooperative s.polls hreach 0 l true _ h
    exact ⟨Δ, ht, by simp⟩

theorem sync_demotes_iff_violation (ctx : SyncCtx) (s : Session) (l : ClockFrame)
    (maxFrame : UInt64) (peerId : Bytes) (e : Engine) (hin : e.peerMap.contains peerId = true)
    (hreach : ∀ i, (s.polls i).reply ≠ .nilResponse) (lo : Option ClockFrame)
    (err : Option Error) (hret : (sync ctx s l maxFrame peerId e).1 = .ret lo err) :
    ∃ Δ, (sync ctx s l maxFrame peerId e).2.trace = e.trace ++ Δ ∧
      (((sync ctx s l maxFrame peerId e).2.peerMap.contains peerId = false ∧
          (sync ctx s l maxFrame peerId e).2.uncooperativePeersMap.contains peerId = true) ↔
        s.channel.isSome ∨ ∃ ev ∈ Δ, ev.violates ctx = true) ∧
      (¬ (s.channel.isSome ∨ ∃ ev ∈ Δ, ev.violates ctx = true) →
        (sync ctx s l maxFrame peerId e).2.peerMap = e.peerMap ∧
        (sync ctx s l maxFrame peerId e).2.uncooperativePeersMap = e.uncooperativePeersMap) := by
  have hf := syncBody_frame ctx s l maxFrame peerId e
  rw [sync] at hret ⊢
  generalize hx : syncBody ctx s l maxFrame peerId e = x at hf hret ⊢
  cases x with
  | panic e' => cases hret
  | exit lo' err' c e' =>
    obtain ⟨Δ, ht, hc⟩ := syncBody_cooperative hreach hx
    simp only [SyncExit.engine] at hf
    refine ⟨Δ, by rw [SyncExit.finish_trace, SyncExit.engine, ht], ?_⟩
    cases c with
    | false =>
      have hm := Engine.demote_moves (e := e') (by rw [hf]; exact hin) s.now
      exact ⟨iff_of_true hm (hc.mp rfl), fun hn => absurd (hc.mp rfl) hn⟩
    | true =>
      have hno : ¬ (s.channel.isSome ∨ ∃ ev ∈ Δ, ev.violates ctx = true) :=
        fun hv => Bool.noConfusion (hc.mpr hv)
      have hmaps : (e'.leave true peerId s.now).peerMap = e.peerMap ∧
          (e'.leave true peerId s.now).uncooperativePeersMap = e.uncooperativePeersMap := by
        rw [hf]; exact ⟨rfl, rfl⟩
      refine ⟨iff_of_false (fun hm => ?_) hno, fun _ => hmaps⟩
      simp only [SyncExit.finish, hmaps.1, hin] at hm
      exact Bool.noConfusion hm.1

/-- Frame `6` after frame `5`, signed by a key in the prover trie, that the verifier rejects: no
violation, so `[9]` stays in `peerMap`. -/
theorem sync_demotes_iff_violation_demo :
    ∃ Δ, (sync (demoCtx (fun _ => some (.new "invalid")) fun _ => true)
        (demoSessions 0 (fun _ => .response (some (demoFrame 6))) 0) (demoFrame 5) 8 [9]
        demoEngine).2.trace = demoEngine.trace ++ Δ ∧
      (((sync (demoCtx (fun _ => some (.new "invalid")) fun _ => true)
          (demoSessions 0 (fun _ => .response (some (demoFrame 6))) 0) (demoFrame 5) 8 [9]
          demoEngine).2.peerMap.contains [9] = false ∧
        (sync (demoCtx (fun _ => some (.new "invalid")) fun _ => true)
          (demoSessions 0 (fun _ => .response (some (demoFrame 6))) 0) (demoFrame 5) 8 [9]
          demoEngine).2.uncooperativePeersMap.contains [9] = true) ↔
        (none : Option Error).isSome ∨
          ∃ ev ∈ Δ, ev.violates (demoCtx (fun _ => some (.new "invalid")) fun _ => true) = true) ∧
      (¬ ((none : Option Error).isSome ∨
          ∃ ev ∈ Δ, ev.violates (demoCtx (fun _ => some (.new "invalid")) fun _ => true) = true) →
        (sync (demoCtx (fun _ => some (.new "invalid")) fun _ => true)
          (demoSessions 0 (fun _ => .response (some (demoFrame 6))) 0) (demoFrame 5) 8 [9]
          demoEngine).2.peerMap = demoEngine.peerMap ∧
        (sync (demoCtx (fun _ => some (.new "invalid")) fun _ => true)
          (demoSessions 0 (fun _ => .response (some (demoFrame 6))) 0) (demoFrame 5) 8 [9]
          demoEngine).2.uncooperativePeersMap = demoEngine.uncooperativePeersMap) :=
  sync_demotes_iff_violation _ _ _ _ _ _ rfl (fun _ h => by cases h) _ _
    (by rw [@sync_first_out (demoCtx (fun _ => some (.new "invalid")) fun _ => true)
      (demoSessions 0 (fun _ => .response (some (demoFrame 6))) 0) (demoFrame 5) 8 [9] demoEngine _
      rfl (show 0 < 7 by decide) rfl]; rfl)

theorem sync_polls_after_untrusted_producer (ctx : SyncCtx) (s : Session) (l f : ClockFrame)
    (maxFrame : UInt64) (peerId key : Bytes) (e : Engine) (hch : s.channel = none)
    (hrun₀ : (s.polls 0).state < ctx.engineStateStopping)
    (hrun₁ : (s.polls 1).state < ctx.engineStateStopping)
    (hreply : (s.polls 0).reply = .response (some f)) (hf : Follows l f)
    (hkey : f.producerKey = some key) (htrie : ctx.isInProverTrie key = false)
    (hverify : ctx.verifyDataClockFrame f = none) (hlt : f.frameNumber < maxFrame) :
    ∃ Δ, (sync ctx s l maxFrame peerId e).2.trace = e.trace ++
      [.exchange peerId l (.response (some f)), .insert f ⟨peerId, maxFrame⟩,
        .exchange peerId f (s.polls 1).reply] ++ Δ := by
  have h : pollOnce ctx maxFrame peerId l true (s.polls 0).reply
      { e with syncingStatus := .synchronizing } =
      .next f false (({ e with syncingStatus := .synchronizing }.record
        (.exchange peerId l (.response (some f)))).record (.insert f ⟨peerId, maxFrame⟩)) := by
    have hlt' : ¬ maxFrame ≤ l.frameNumber + 1 := UInt64.not_le.mpr (hf.1 ▸ hlt)
    rw [hreply]
    simp [pollOnce, hf.1, not_lt.mpr hf.2, hkey, htrie, hverify, hlt']
  rw [sync_first_next hch hrun₀ h, SyncExit.finish_trace]
  obtain ⟨Δ, hΔ⟩ := pollLoop_trace ctx maxFrame peerId s.polls 1 f false _ hrun₁
  exact ⟨Δ, by rw [hΔ]; simp⟩

/-- Frames `6` and `7` signed by `[1]`, a key outside the prover trie. -/
theorem sync_polls_after_untrusted_producer_demo :
    ∃ Δ, (sync (demoCtx (fun _ => none) fun _ => false)
      (demoSessions 0 (fun i => .response (some (demoFrame (if i = 0 then 6 else 7)))) 0)
      (demoFrame 5) 8 [9] demoEngine).2.trace =
      [.exchange [9] (demoFrame 5) (.response (some (demoFrame 6))), .insert (demoFrame 6) ⟨[9], 8⟩,
        .exchange [9] (demoFrame 6) (.response (some (demoFrame 7)))] ++ Δ :=
  sync_polls_after_untrusted_producer _ _ _ (demoFrame 6) _ _ [1] _ rfl (show 0 < 7 by decide)
    (show 0 < 7 by decide) rfl (by decide) rfl rfl rfl (by decide)

theorem collect_panics_after_rejected_frame (ctx : SyncCtx) (sessions : Nat → Session)
    (enqueuedFrame : ClockFrame) (e : Engine) (c : PeerCandidate) (cs : List PeerCandidate)
    (hg : getAheadPeers ctx.toAheadCtx e.peerMap e.uncooperativePeersMap
      (max enqueuedFrame.frameNumber e.latestFrameReceived) = some (c :: cs))
    (err : Option Error)
    (hsync : (sync ctx (sessions 0) enqueuedFrame c.maxFrame c.peerID e).1 = .ret none err) :
    ∀ passes, ∃ e', collect ctx sessions enqueuedFrame (passes + 2) e = .panic e' := by
  intro passes
  obtain ⟨v, -, -, hmax, hahead⟩ := getAheadPeers_mem hg (List.mem_cons_self c cs)
  rw [collect, collectLoop, hg]
  simp only
  rw [syncCandidates, if_neg (by rw [UInt64.not_le, ← hmax]; exact hahead)]
  rcases hr : sync ctx (sessions 0) enqueuedFrame c.maxFrame c.peerID e with ⟨r, e'⟩
  rw [hr] at hsync
  subst hsync
  cases cs <;> exact ⟨e', rfl⟩

/-- The peer `[9]` sends frame `6`, and the verifier rejects it. -/
theorem collect_panics_after_rejected_frame_demo :
    ∃ e', collect (demoCtx (fun _ => some (.new "invalid")) fun _ => true)
      (demoSessions 0 fun _ => .response (some (demoFrame 6))) (demoFrame 5) 2 demoEngine =
        .panic e' :=
  collect_panics_after_rejected_frame _ _ _ _ _ _ (getAheadPeers_demoEngine _ _)
    (some (.wrap (.new "invalid") "sync"))
    (by rw [@sync_first_out (demoCtx (fun _ => some (.new "invalid")) fun _ => true)
      (demoSessions 0 (fun _ => .response (some (demoFrame 6))) 0) (demoFrame 5) 8 [9] demoEngine _
      rfl (show 0 < 7 by decide) rfl]; rfl) 0

end DataClock
