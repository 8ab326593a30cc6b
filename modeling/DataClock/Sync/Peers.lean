import DataClock.Sync.Progress
import DataClock.Sync.Ahead

/-!
# Sync — what `collect` writes, and whom it asks

Of the engine's peer maps and `latestFrameReceived`, `collect` itself writes only through
`sync`'s deferred demotion, which moves the peer it synced with from `peerMap` to
`uncooperativePeersMap`, restamped.  So a property of the maps that the demotion keeps holds
after every run (`collectLoop_preserves`), whatever the peers answer and however many passes the
run takes.  Other goroutines write the same maps under `peerMapMx` (new peers, re-admissions) and
move `latestFrameReceived`; the model has no such writer, and the results here are about what
`collect` does itself.

* `collect_writes_only_demotions`: after every run, the peer maps are the start's with some peers
  demoted in turn, and `latestFrameReceived` is the start's.
* `collect_pass_asks_candidates`: every `GetDataFrame` request of a pass, and every frame it hands
  to the time reel, is with an entry that the pass's `GetAheadPeers` call found eligible in the
  maps it read, and no request asks for a frame above the `maxFrame` that entry advertised.  A
  session talks to its own peer only and asks below its `maxFrame` (`sync_session`), and
  `GetAheadPeers` offers only eligible entries (`getAheadPeers_eligible`).
-/

namespace DataClock

/-- Two engines that agree on the peer maps and on `latestFrameReceived`. -/
def SamePeers (e e' : Engine) : Prop :=
  e'.peerMap = e.peerMap ∧ e'.uncooperativePeersMap = e.uncooperativePeersMap ∧
    e'.latestFrameReceived = e.latestFrameReceived

/-! ### Runs -/

section Runs

variable (P : Engine → Prop) (hsame : ∀ e e', SamePeers e e' → P e → P e')
  (hdemote : ∀ e peerId now, P e → P (e.demote peerId now))
include hsame hdemote

theorem sync_preserves (ctx : SyncCtx) (s : Session) (l : ClockFrame) (maxFrame : UInt64)
    (peerId : Bytes) {e : Engine} (h : P e) : P (sync ctx s l maxFrame peerId e).2 := by
  have hf := syncBody_frame ctx s l maxFrame peerId e
  rw [sync]
  generalize syncBody ctx s l maxFrame peerId e = x at hf ⊢
  have hx : P x.engine := hsame e x.engine ⟨by rw [hf], by rw [hf], by rw [hf]⟩ h
  cases x with
  | exit lo err c e' =>
    refine hsame (if c then e' else e'.demote peerId s.now) _ ⟨rfl, rfl, rfl⟩ ?_
    split
    · exact hx
    · exact hdemote _ _ _ hx
  | panic e' => exact hx

theorem syncCandidates_preserves (ctx : SyncCtx) (sessions : Nat → Session) :
    ∀ (cs : List PeerCandidate) (latest : Option ClockFrame) (k : Nat) {e : Engine}, P e →
      P (syncCandidates ctx sessions cs latest k e).engine
  | [], _, _, _, h => h
  | _ :: _, none, _, _, h => h
  | c :: cs, some l, k, e, h => by
    rw [syncCandidates]
    split_ifs
    · exact syncCandidates_preserves ctx sessions cs _ k h
    · have hs := sync_preserves P hsame hdemote ctx (sessions k) l c.maxFrame c.peerID h
      rcases hr : sync ctx (sessions k) l c.maxFrame c.peerID e with ⟨r, e'⟩
      rw [hr] at hs
      cases r with
      | ret lo err => exact syncCandidates_preserves ctx sessions cs lo (k + 1) hs
      | panic => exact hs

theorem collectLoop_preserves (ctx : SyncCtx) (sessions : Nat → Session) :
    ∀ (passes : Nat) (latest : Option ClockFrame) (k : Nat) {e : Engine}, P e →
      P (collectLoop ctx sessions passes latest k e).engine
  | 0, _, _, _, h => h
  | _ + 1, none, _, _, h => h
  | passes + 1, some l, k, e, h => by
    rw [collectLoop]
    split
    · exact h
    · exact h
    next cs _ _ =>
      have hp := syncCandidates_preserves P hsame hdemote ctx sessions cs (some l) k h
      split
      · rename_i heq; rw [heq] at hp; exact collectLoop_preserves ctx sessions passes _ _ hp
      · rename_i heq; rw [heq] at hp; exact hp

end Runs

/-! ### The demotion -/

/-- `e` with the peers of `ds` demoted in turn, each at its time. -/
def Engine.demoteAll (e : Engine) (ds : List (Bytes × Int)) : Engine :=
  ds.foldl (fun e d => e.demote d.1 d.2) e

@[simp] theorem Engine.demoteAll_concat (e : Engine) (ds : List (Bytes × Int)) (peerId : Bytes)
    (now : Int) : e.demoteAll (ds ++ [(peerId, now)]) = (e.demoteAll ds).demote peerId now := by
  simp [Engine.demoteAll]

@[simp] theorem Engine.demoteAll_latestFrameReceived (e : Engine) (ds : List (Bytes × Int)) :
    (e.demoteAll ds).latestFrameReceived = e.latestFrameReceived := by
  induction ds generalizing e with
  | nil => rfl
  | cons d ds ih => exact (ih _).trans (Engine.demote_latestFrameReceived ..)

theorem SamePeers.trans {e e' e'' : Engine} (h : SamePeers e e') (h' : SamePeers e' e'') :
    SamePeers e e'' :=
  ⟨h'.1.trans h.1, h'.2.1.trans h.2.1, h'.2.2.trans h.2.2⟩

/-- The demotion reads only the fields `SamePeers` compares. -/
theorem SamePeers.demote {e e' : Engine} (h : SamePeers e e') (peerId : Bytes) (now : Int) :
    SamePeers (e.demote peerId now) (e'.demote peerId now) := by
  obtain ⟨hp, hu, hl⟩ := h
  unfold Engine.demote
  rw [hp]
  split <;> exact ⟨by simp only [hp], by simp only [hu], hl⟩

/-- The peer an event is with: the one asked for a frame, or the one the frame was pulled from. -/
def SyncEvent.peer : SyncEvent → Bytes
  | .exchange peerId _ _ => peerId
  | .insert _ source => source.peerID

/-- A request for the frame after `latest` asks for one no higher than `maxFrame`. -/
def SyncEvent.Below (maxFrame : UInt64) : SyncEvent → Prop
  | .exchange _ latest _ => latest.frameNumber < maxFrame
  | .insert .. => True

/-- `t'` extends `t` by events satisfying `q` only. -/
def TraceFrom (t : List SyncEvent) (q : SyncEvent → Prop) (t' : List SyncEvent) : Prop :=
  ∃ Δ, t' = t ++ Δ ∧ ∀ ev ∈ Δ, q ev

theorem TraceFrom.refl (t : List SyncEvent) (q : SyncEvent → Prop) : TraceFrom t q t :=
  ⟨[], (List.append_nil t).symm, fun _ h => nomatch h⟩

theorem TraceFrom.trans {t t' t'' : List SyncEvent} {q : SyncEvent → Prop} (h : TraceFrom t q t')
    (h' : TraceFrom t' q t'') : TraceFrom t q t'' := by
  obtain ⟨Δ, rfl, hΔ⟩ := h
  obtain ⟨Δ', rfl, hΔ'⟩ := h'
  refine ⟨Δ ++ Δ', List.append_assoc .., fun ev hev => ?_⟩
  rcases List.mem_append.mp hev with h | h
  · exact hΔ ev h
  · exact hΔ' ev h

theorem TraceFrom.mono {t t' : List SyncEvent} {q q' : SyncEvent → Prop} (h : TraceFrom t q t')
    (hq : ∀ ev, q ev → q' ev) : TraceFrom t q' t' :=
  let ⟨Δ, ht, hΔ⟩ := h
  ⟨Δ, ht, fun ev hev => hq _ (hΔ ev hev)⟩

theorem TraceFrom.record {t : List SyncEvent} {q : SyncEvent → Prop} {e : Engine}
    (h : TraceFrom t q e.trace) (ev : SyncEvent) (hev : q ev) :
    TraceFrom t q (e.record ev).trace :=
  h.trans ⟨[ev], Engine.record_trace e ev, by simpa using hev⟩

/-- What a session with `peerId` up to `maxFrame` appends: events with `peerId`, each request
below `maxFrame`. -/
def SessionEvent (peerId : Bytes) (maxFrame : UInt64) (ev : SyncEvent) : Prop :=
  ev.peer = peerId ∧ ev.Below maxFrame

/-- A turn of the polling loop below `maxFrame` talks to `peerId` only, and asks below
`maxFrame`. -/
theorem pollOnce_session (ctx : SyncCtx) (maxFrame : UInt64) (peerId : Bytes)
    (latest : ClockFrame) (c : Bool) (reply : Reply) (e : Engine)
    (hlt : latest.frameNumber < maxFrame) :
    TraceFrom e.trace (SessionEvent peerId maxFrame)
      (pollOnce ctx maxFrame peerId latest c reply e).engine.trace := by
  have h₁ : TraceFrom e.trace (SessionEvent peerId maxFrame)
      (e.record (.exchange peerId latest reply)).trace :=
    (TraceFrom.refl _ _).record _ ⟨rfl, hlt⟩
  rcases pollOnce_cases (r := pollOnce ctx maxFrame peerId latest c reply e) rfl with
    ⟨_, _, h⟩ | ⟨_, h⟩ | ⟨_, _, _, h⟩ | ⟨_, _, _, _, h⟩ | ⟨_, _, _, _, _, _, _, h⟩ |
    ⟨f, _, _, _, _, _, ⟨-, h⟩ | ⟨-, h⟩⟩ <;> rw [h]
  iterate 5 exact h₁
  all_goals exact h₁.record (.insert f ⟨peerId, maxFrame⟩) ⟨rfl, trivial⟩

theorem pollLoop_session (ctx : SyncCtx) (maxFrame : UInt64) (peerId : Bytes)
    (polls : Nat → Poll) (i : Nat) (latest : ClockFrame) (c : Bool) (e : Engine)
    (hlt : latest.frameNumber < maxFrame) :
    TraceFrom e.trace (SessionEvent peerId maxFrame)
      (pollLoop ctx maxFrame peerId polls i latest c e).engine.trace := by
  induction i, latest, c, e using pollLoop.induct ctx maxFrame peerId polls with
  | case1 i latest c e hs f c' e' h ih =>
    have h₁ := pollOnce_session ctx maxFrame peerId latest c (polls i).reply e hlt
    rw [h] at h₁
    rw [pollLoop_next hs h]
    exact h₁.trans (ih (pollOnce_next h).2)
  | case2 i latest c e hs x h =>
    have h₁ := pollOnce_session ctx maxFrame peerId latest c (polls i).reply e hlt
    rw [h] at h₁
    rw [pollLoop_out hs h]
    exact h₁
  | case3 i latest c e hs =>
    rw [pollLoop_stop hs]
    exact .refl _ _

/-- A session with `peerId`, started below `maxFrame`, talks to `peerId` only and asks below
`maxFrame`. -/
theorem sync_session (ctx : SyncCtx) (s : Session) (l : ClockFrame) (maxFrame : UInt64)
    (peerId : Bytes) (e : Engine) (hlt : l.frameNumber < maxFrame) :
    TraceFrom e.trace (SessionEvent peerId maxFrame) (sync ctx s l maxFrame peerId e).2.trace := by
  rw [sync, SyncExit.finish_trace]
  unfold syncBody
  cases s.channel with
  | some err => exact .refl _ _
  | none => exact pollLoop_session ctx maxFrame peerId s.polls 0 l true _ hlt

/-- A candidate of `GetAheadPeers` is an eligible entry of the peer map. -/
theorem getAheadPeers_eligible {ctx : AheadCtx} {pm um : PeerMap} {frameNumber : UInt64}
    {cs : List PeerCandidate} (h : getAheadPeers ctx pm um frameNumber = some cs)
    {c : PeerCandidate} (hc : c ∈ cs) :
    ∃ v ∈ pm.entries, eligible ctx um frameNumber v = true ∧ c = v.candidate := by
  cases htries : ctx.frameProverTries with
  | nil => simp [getAheadPeers, htries] at h
  | cons trie tries =>
    cases hself : trie ctx.provingKeyAddress
    · obtain ⟨cs', h', hp⟩ := @getAheadPeers_perm ctx pm um frameNumber trie tries htries hself
      rw [h'] at h
      cases h
      obtain ⟨v, hv, rfl⟩ := List.mem_map.mp (hp.subset hc)
      exact ⟨v, (List.mem_filter.mp hv).1, (List.mem_filter.mp hv).2, rfl⟩
    · simp only [getAheadPeers, htries, hself, if_true, Option.some.injEq] at h
      subst h
      cases hc

/-- Every session of a pass over candidates that are entries satisfying `Q` talks to such an
entry only, and asks below the `maxFrame` it advertised. -/
theorem syncCandidates_asks (ctx : SyncCtx) (sessions : Nat → Session) (Q : PeerInfo → Prop) :
    ∀ (cs : List PeerCandidate) (latest : Option ClockFrame) (k : Nat) (e : Engine),
      (∀ c ∈ cs, ∃ v, Q v ∧ c = v.candidate) →
      TraceFrom e.trace (fun ev => ∃ v, Q v ∧ v.peerId = ev.peer ∧ ev.Below v.maxFrame)
        (syncCandidates ctx sessions cs latest k e).engine.trace
  | [], _, _, _, _ => .refl _ _
  | _ :: _, none, _, _, _ => .refl _ _
  | c :: cs, some l, k, e, hcs => by
    have hrest := fun c hc => hcs c (List.mem_cons_of_mem _ hc)
    rw [syncCandidates]
    split_ifs with hle
    · exact syncCandidates_asks ctx sessions Q cs _ k e hrest
    · obtain ⟨v, hv, hc⟩ := hcs c (List.mem_cons_self c cs)
      have hs : TraceFrom e.trace (fun ev => ∃ v, Q v ∧ v.peerId = ev.peer ∧ ev.Below v.maxFrame)
          (sync ctx (sessions k) l c.maxFrame c.peerID e).2.trace :=
        (sync_session ctx (sessions k) l c.maxFrame c.peerID e (lt_of_not_le_max hle)).mono
          fun ev ⟨hp, hb⟩ => by subst hc; exact ⟨v, hv, hp.symm, hb⟩
      rcases hr : sync ctx (sessions k) l c.maxFrame c.peerID e with ⟨r, e'⟩
      rw [hr] at hs
      cases r with
      | ret lo err => exact hs.trans (syncCandidates_asks ctx sessions Q cs lo (k + 1) e' hrest)
      | panic => exact hs

theorem collect_pass_asks_candidates (ctx : SyncCtx) (sessions : Nat → Session) (l : ClockFrame)
    (k : Nat) (e : Engine) (cs : List PeerCandidate)
    (hg : getAheadPeers ctx.toAheadCtx e.peerMap e.uncooperativePeersMap
      (max l.frameNumber e.latestFrameReceived) = some cs) :
    ∃ Δ, (syncCandidates ctx sessions cs (some l) k e).engine.trace = e.trace ++ Δ ∧
      ∀ ev ∈ Δ, ∃ v ∈ e.peerMap.entries, eligible ctx.toAheadCtx e.uncooperativePeersMap
        (max l.frameNumber e.latestFrameReceived) v = true ∧ v.peerId = ev.peer ∧
        ev.Below v.maxFrame := by
  obtain ⟨Δ, ht, hΔ⟩ := syncCandidates_asks ctx sessions
    (fun v => v ∈ e.peerMap.entries ∧ eligible ctx.toAheadCtx e.uncooperativePeersMap
      (max l.frameNumber e.latestFrameReceived) v = true) cs (some l) k e
    fun c hc => let ⟨v, hv, he, hcv⟩ := getAheadPeers_eligible hg hc; ⟨v, ⟨hv, he⟩, hcv⟩
  exact ⟨Δ, ht, fun ev hev => let ⟨v, ⟨hv, he⟩, hp, hb⟩ := hΔ ev hev; ⟨v, hv, he, hp, hb⟩⟩

/-- The pass of the demo engine at frame `5`: its one candidate, `[9]`, answers a nil frame. -/
theorem collect_pass_asks_candidates_demo :
    ∃ Δ, (syncCandidates (demoCtx (fun _ => none) fun _ => true)
        (demoSessions 0 fun _ => .response none) [⟨[9], 8⟩] (some (demoFrame 5)) 0
        demoEngine).engine.trace = demoEngine.trace ++ Δ ∧
      ∀ ev ∈ Δ, ∃ v ∈ demoEngine.peerMap.entries,
        eligible (demoCtx (fun _ => none) fun _ => true).toAheadCtx
          demoEngine.uncooperativePeersMap
          (max (demoFrame 5).frameNumber demoEngine.latestFrameReceived) v = true ∧
        v.peerId = ev.peer ∧ ev.Below v.maxFrame :=
  collect_pass_asks_candidates _ _ _ 0 _ _ (getAheadPeers_demoEngine _ _)

end DataClock
