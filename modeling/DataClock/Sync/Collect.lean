import DataClock.Sync.Session

/-!
# Sync — a run of `collect`

`Collected ctx enq e₀ latest e` is the invariant of `collect`'s two loops: since `e₀` the run has
appended a segment pulled from `enq` up to some `last`, and `latest`, unless nil, is `last`.  Each
`sync` call keeps it (`Collected.sync`, from `sync_pulled`: `collect` calls `sync` only for a
candidate whose `MaxFrame` is above `latest.FrameNumber`), hence each pass (`syncCandidates_collected`)
and each run (`collectLoop_collected`), whatever the peers answer.

**`collect_inserts_successive`.**  For every run of `collect`, cut after any number of passes
(so also the prefixes of a run that never returns), the frames it hands to the time reel are
numbered `enqueuedFrame.FrameNumber + 1, + 2, …` as natural numbers, stamped no earlier than the
one before, each verified and within the `MaxFrame` of its candidate; a run that returns returns
the last of them, or `enqueuedFrame`.
-/

namespace DataClock

/-- The invariant of `collect`'s loops. -/
def Collected (ctx : SyncCtx) (enq : ClockFrame) (e₀ : Engine) (latest : Option ClockFrame)
    (e : Engine) : Prop :=
  ∃ Δ last, e.trace = e₀.trace ++ Δ ∧ PulledSeg ctx enq Δ last ∧ ∀ l, latest = some l → l = last

/-- The frame `sync` hands back, nil on a panic. -/
def SyncResult.latest? : SyncResult → Option ClockFrame
  | .ret l _ => l
  | .panic => none

namespace Collected

variable {ctx : SyncCtx} {enq : ClockFrame} {e₀ : Engine}

theorem start (ctx : SyncCtx) (enq : ClockFrame) (e : Engine) : Collected ctx enq e (some enq) e :=
  ⟨[], enq, by simp, .nil enq, fun _ h => (Option.some.inj h).symm⟩

theorem forget {latest : Option ClockFrame} {e : Engine} (h : Collected ctx enq e₀ latest e) :
    Collected ctx enq e₀ none e := by
  obtain ⟨Δ, last, ht, hp, -⟩ := h
  exact ⟨Δ, last, ht, hp, by simp⟩

/-- A `sync` started below its `maxFrame` keeps the invariant. -/
theorem sync {l : ClockFrame} {e : Engine} (h : Collected ctx enq e₀ (some l) e)
    (s : Session) {maxFrame : UInt64} (peerId : Bytes) (hlt : l.frameNumber < maxFrame) :
    Collected ctx enq e₀ (DataClock.sync ctx s l maxFrame peerId e).1.latest?
      (DataClock.sync ctx s l maxFrame peerId e).2 := by
  obtain ⟨Δ, last, ht, hp, hl⟩ := h
  obtain rfl := hl l rfl
  obtain ⟨Δ', last', ht', hp', hl'⟩ := sync_pulled ctx s l maxFrame peerId e hlt
  refine ⟨Δ ++ Δ', last', by rw [ht', ht, List.append_assoc], hp.trans hp', fun l' h => ?_⟩
  cases hr : (DataClock.sync ctx s l maxFrame peerId e).1 with
  | ret lo err => rw [hr] at h; exact hl' l' err (by rw [hr]; cases h; rfl)
  | panic => rw [hr] at h; cases h

end Collected

/-- The frame a pass ends with, nil on a panic. -/
def PassOutcome.latest? : PassOutcome → Option ClockFrame
  | .done l _ _ => l
  | .panic _ => none

def PassOutcome.engine : PassOutcome → Engine
  | .done _ _ e | .panic e => e

/-- `collect` calls `sync` only below the candidate's `MaxFrame`. -/
theorem lt_of_not_le_max {a b m : UInt64} (h : ¬ m ≤ max a b) : a < m := by
  have := toNat_max a b
  rw [UInt64.not_le, toNat_lt_toNat] at h
  rw [toNat_lt_toNat]; omega

/-- A pass of the inner loop keeps the invariant. -/
theorem syncCandidates_collected (ctx : SyncCtx) (sessions : Nat → Session) (enq : ClockFrame)
    (e₀ : Engine) (cs : List PeerCandidate) (latest : Option ClockFrame) (k : Nat) (e : Engine)
    (h : Collected ctx enq e₀ latest e) :
    Collected ctx enq e₀ (syncCandidates ctx sessions cs latest k e).latest?
      (syncCandidates ctx sessions cs latest k e).engine := by
  induction cs generalizing latest k e with
  | nil => exact h
  | cons c cs ih =>
    cases latest with
    | none => exact h
    | some l =>
      rw [syncCandidates]
      split_ifs with hle
      · exact ih _ _ _ h
      · have hs := h.sync (sessions k) c.peerID (lt_of_not_le_max hle)
        rcases hr : sync ctx (sessions k) l c.maxFrame c.peerID e with ⟨r, e'⟩
        rw [hr] at hs
        cases r with
        | ret lo err => simp only [hr]; exact ih _ _ _ hs
        | panic => simp only [hr]; exact hs

/-- The frame a run of `collect` ends with, nil on a panic. -/
def CollectOutcome.latest? : CollectOutcome → Option ClockFrame
  | .returned l _ => some l
  | .panic _ => none
  | .running l _ => l

/-- Every run of `collect`'s outer loop keeps the invariant. -/
theorem collectLoop_collected (ctx : SyncCtx) (sessions : Nat → Session) (enq : ClockFrame)
    (e₀ : Engine) (passes : Nat) (latest : Option ClockFrame) (k : Nat) (e : Engine)
    (h : Collected ctx enq e₀ latest e) :
    Collected ctx enq e₀ (collectLoop ctx sessions passes latest k e).latest?
      (collectLoop ctx sessions passes latest k e).engine := by
  induction passes generalizing latest k e with
  | zero => exact h
  | succ n ih =>
    cases latest with
    | none => exact h
    | some l =>
      rw [collectLoop]
      cases hg : getAheadPeers ctx.toAheadCtx e.peerMap e.uncooperativePeersMap
          (max l.frameNumber e.latestFrameReceived) with
      | none => exact h.forget
      | some cs =>
        cases cs with
        | nil => exact h
        | cons c cs =>
          have hp := syncCandidates_collected ctx sessions enq e₀ (c :: cs) (some l) k e h
          simp only
          cases hr : syncCandidates ctx sessions (c :: cs) (some l) k e with
          | done latest' k' e' => rw [hr] at hp; exact ih _ _ _ hp
          | panic e' => rw [hr] at hp; exact hp

theorem collect_inserts_successive (ctx : SyncCtx) (sessions : Nat → Session)
    (enqueuedFrame : ClockFrame) (passes : Nat) (e : Engine) :
    ∃ Δ, (collect ctx sessions enqueuedFrame passes e).engine.trace = e.trace ++ Δ ∧
      (inserts Δ).map (·.frameNumber.toNat) =
        List.range' (enqueuedFrame.frameNumber.toNat + 1) (inserts Δ).length ∧
      List.Chain (fun a b => a.timestamp ≤ b.timestamp) enqueuedFrame (inserts Δ) ∧
      (∀ f src, .insert f src ∈ Δ →
        ctx.verifyDataClockFrame f = none ∧ f.frameNumber ≤ src.maxFrame) ∧
      ∀ l e', collect ctx sessions enqueuedFrame passes e = .returned l e' →
        l = (inserts Δ).getLast?.getD enqueuedFrame := by
  obtain ⟨Δ, last, ht, hp, hl⟩ :=
    collectLoop_collected ctx sessions enqueuedFrame e passes _ 0 e (.start ctx enqueuedFrame e)
  refine ⟨Δ, ht, hp.successive.numbers, hp.successive.chain, hp.sound, fun l e' h => ?_⟩
  rw [hp.last_eq]
  exact hl l (by rw [collect] at h; rw [h]; rfl)

end DataClock
