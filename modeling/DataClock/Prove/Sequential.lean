import DataClock.Model.Prove
import DataClock.Support.Word

/-!
# Prove — calls one after another

`prove_cases` says once everything a call can do to the engine: return `previousFrame` when the
check of line 61 holds, otherwise fail with the engine as it was or with the buffer emptied, or
set `lastProven` to `previousFrame.FrameNumber`.  A call gets past the check only when `lastProven`
is below `previousFrame.FrameNumber` or still `0` (`shortCircuits_eq_false`).

* `prove_run_proves_each_number_once`: over any sequence of calls, `lastProven` never decreases,
  and the previous-frame numbers of the calls that return a new frame rise strictly past every
  non-zero one; a call right after a call on the same non-genesis `prev` that did not fail
  returns `prev`.  The genesis frame is not covered: while `lastProven` is `0` the check never
  holds, and `prove(genesis)` proves again each time (`prove_genesis_twice`).
* `prove_returns_frame_after_load_error`: an error of `GetDataClockFrame` is overwritten, and a
  call whose later collaborators succeed returns a new frame from the tries it got.
-/

namespace DataClock

variable {Tx Tries App Out : Type}

def ProveResult.isProven : ProveResult → Bool
  | .proven _ => true
  | _ => false

theorem shortCircuits_eq_false {lastProven : UInt64} {previousFrame : ClockFrame} :
    shortCircuits lastProven previousFrame = false ↔
      lastProven < previousFrame.frameNumber ∨ lastProven = 0 := by
  simp [shortCircuits, imp_iff_not_or, UInt64.not_le]

theorem le_of_shortCircuits_eq_false {lastProven : UInt64} {previousFrame : ClockFrame}
    (h : shortCircuits lastProven previousFrame = false) : lastProven ≤ previousFrame.frameNumber := by
  rcases shortCircuits_eq_false.mp h with h | rfl
  · exact toNat_le_toNat.mpr (Nat.le_of_lt h)
  · exact toNat_le_toNat.mpr (Nat.zero_le _)

/-- Everything a call can do to the engine. -/
theorem prove_cases (ctx : ProveCtx) (w : ProveWorld Tx Tries App Out) (previousFrame : ClockFrame)
    (e : ProveEngine Tx) :
    (shortCircuits e.lastProven previousFrame = true ∧
      prove ctx w previousFrame e = (.unchanged, e)) ∨
    (shortCircuits e.lastProven previousFrame = false ∧
      ((∃ err, prove ctx w previousFrame e = (.failed err, e) ∨
          prove ctx w previousFrame e = (.failed err, { e with stagedTransactions := some [] })) ∨
        ∃ frame, prove ctx w previousFrame e =
          (recordOutcome frame, ⟨previousFrame.frameNumber, some []⟩))) := by
  unfold prove
  cases hs : shortCircuits e.lastProven previousFrame
  · refine .inr ⟨rfl, ?_⟩
    simp only [Bool.false_eq_true, if_false]
    split
    · exact .inl ⟨_, .inl rfl⟩
    split
    · exact .inl ⟨_, .inr rfl⟩
    split
    · exact .inl ⟨_, .inr rfl⟩
    · exact .inr ⟨_, rfl⟩
  · exact .inl ⟨rfl, rfl⟩

/-- A call leaves `lastProven` alone, or sets it to `previousFrame.FrameNumber` past the check. -/
theorem prove_lastProven (ctx : ProveCtx) (w : ProveWorld Tx Tries App Out)
    (previousFrame : ClockFrame) (e : ProveEngine Tx) :
    (prove ctx w previousFrame e).2.lastProven = e.lastProven ∨
      shortCircuits e.lastProven previousFrame = false ∧
        (prove ctx w previousFrame e).2.lastProven = previousFrame.frameNumber := by
  rcases prove_cases ctx w previousFrame e with ⟨-, h⟩ | ⟨hs, ⟨err, h | h⟩ | ⟨frame, h⟩⟩ <;>
    rw [h]
  exacts [.inl rfl, .inl rfl, .inl rfl, .inr ⟨hs, rfl⟩]

theorem prove_lastProven_le (ctx : ProveCtx) (w : ProveWorld Tx Tries App Out)
    (previousFrame : ClockFrame) (e : ProveEngine Tx) :
    e.lastProven ≤ (prove ctx w previousFrame e).2.lastProven := by
  rcases prove_lastProven ctx w previousFrame e with h | ⟨hs, h⟩ <;> rw [h]
  · exact toNat_le_toNat.mpr le_rfl
  · exact le_of_shortCircuits_eq_false hs

/-- A call that returns a new frame got past the check and set `lastProven`. -/
theorem prove_proven {ctx : ProveCtx} {w : ProveWorld Tx Tries App Out}
    {previousFrame : ClockFrame} {e : ProveEngine Tx}
    (h : (prove ctx w previousFrame e).1.isProven = true) :
    shortCircuits e.lastProven previousFrame = false ∧
      (prove ctx w previousFrame e).2.lastProven = previousFrame.frameNumber := by
  rcases prove_cases ctx w previousFrame e with ⟨-, h'⟩ | ⟨hs, ⟨err, h' | h'⟩ | ⟨f, h'⟩⟩ <;>
    rw [h'] at h ⊢
  all_goals first | exact ⟨hs, rfl⟩ | simp [ProveResult.isProven] at h

theorem prove_of_shortCircuits {ctx : ProveCtx} {w : ProveWorld Tx Tries App Out}
    {previousFrame : ClockFrame} {e : ProveEngine Tx}
    (h : shortCircuits e.lastProven previousFrame = true) :
    prove ctx w previousFrame e = (.unchanged, e) := by
  unfold prove; rw [if_pos h]

/-- A call that does not fail leaves `lastProven` non-zero, or at `previousFrame.FrameNumber`. -/
theorem prove_shortCircuits_after {ctx : ProveCtx} {w : ProveWorld Tx Tries App Out}
    {previousFrame : ClockFrame} {e : ProveEngine Tx} (hfn : previousFrame.frameNumber ≠ 0)
    (h : ∀ err, (prove ctx w previousFrame e).1 ≠ .failed err) :
    shortCircuits (prove ctx w previousFrame e).2.lastProven previousFrame = true := by
  rcases prove_cases ctx w previousFrame e with ⟨hs, h'⟩ | ⟨-, ⟨err, h' | h'⟩ | ⟨f, h'⟩⟩
  · rw [h']; exact hs
  · exact absurd (by rw [h']) (h err)
  · exact absurd (by rw [h']) (h err)
  · rw [h']; simp [shortCircuits, hfn]

/-! ### A sequence of calls -/

/-- Each call of a sequence, with its result and the engine after it. -/
def proveRun (ctx : ProveCtx) :
    List (ProveCall Tx Tries App Out) → ProveEngine Tx → List (ProveResult × ProveEngine Tx)
  | [], _ => []
  | c :: cs, e =>
    prove ctx c.world c.previousFrame e :: proveRun ctx cs (prove ctx c.world c.previousFrame e).2

/-- The previous-frame numbers of the calls that returned a new frame, in order. -/
def provenNumbers : List (ProveCall Tx Tries App Out) → List (ProveResult × ProveEngine Tx) →
    List UInt64
  | c :: cs, r :: rs =>
    (if r.1.isProven then [c.previousFrame.frameNumber] else []) ++ provenNumbers cs rs
  | _, _ => []

theorem proveRun_chain (ctx : ProveCtx) :
    ∀ (calls : List (ProveCall Tx Tries App Out)) (e : ProveEngine Tx),
      List.Chain (fun a b => a.lastProven ≤ b.lastProven) e ((proveRun ctx calls e).map (·.2))
  | [], _ => .nil
  | c :: cs, e => .cons (prove_lastProven_le ctx c.world c.previousFrame e) (proveRun_chain ctx cs _)

/-- Once `lastProven` is non-zero, a call returns a new frame only past it. -/
theorem provenNumbers_gt (ctx : ProveCtx) :
    ∀ (calls : List (ProveCall Tx Tries App Out)) (e : ProveEngine Tx),
      ∀ b ∈ provenNumbers calls (proveRun ctx calls e), e.lastProven ≠ 0 → e.lastProven < b
  | [], _, _, hb, _ => by cases hb
  | c :: cs, e, b, hb, h0 => by
    have hle := prove_lastProven_le ctx c.world c.previousFrame e
    simp only [proveRun, provenNumbers, List.mem_append] at hb
    rcases hb with hb | hb
    · split at hb
      · rename_i hp
        obtain rfl := List.mem_singleton.mp hb
        exact (shortCircuits_eq_false.mp (prove_proven hp).1).resolve_right h0
      · cases hb
    · have h0' : (prove ctx c.world c.previousFrame e).2.lastProven ≠ 0 := by
        intro h; rw [toNat_le_toNat, h] at hle; exact h0 (toNat_inj.mpr (by simpa using hle))
      exact word_lt_of_le_of_lt hle (provenNumbers_gt ctx cs _ b hb h0')

theorem provenNumbers_pairwise (ctx : ProveCtx) :
    ∀ (calls : List (ProveCall Tx Tries App Out)) (e : ProveEngine Tx),
      (provenNumbers calls (proveRun ctx calls e)).Pairwise (fun a b => a ≠ 0 → a < b)
  | [], _ => .nil
  | c :: cs, e => by
    simp only [proveRun, provenNumbers]
    refine List.pairwise_append.mpr ⟨?_, provenNumbers_pairwise ctx cs _, fun a ha b hb ha0 => ?_⟩
    · split <;> simp
    · split at ha
      · rename_i hp
        obtain rfl := List.mem_singleton.mp ha
        have hlp := (prove_proven hp).2
        have := provenNumbers_gt ctx cs _ b hb (by rw [hlp]; exact ha0)
        rwa [hlp] at this
      · cases ha

theorem prove_run_proves_each_number_once (ctx : ProveCtx)
    (calls : List (ProveCall Tx Tries App Out)) (e : ProveEngine Tx) :
    List.Chain (fun a b => a.lastProven ≤ b.lastProven) e ((proveRun ctx calls e).map (·.2)) ∧
    (provenNumbers calls (proveRun ctx calls e)).Pairwise (fun a b => a ≠ 0 → a < b) ∧
    ∀ (w₁ w₂ : ProveWorld Tx Tries App Out) (previousFrame : ClockFrame) (e : ProveEngine Tx),
      previousFrame.frameNumber ≠ 0 → (∀ err, (prove ctx w₁ previousFrame e).1 ≠ .failed err) →
        (prove ctx w₂ previousFrame (prove ctx w₁ previousFrame e).2).1 = .unchanged :=
  ⟨proveRun_chain ctx calls e, provenNumbers_pairwise ctx calls e,
    fun _ _ _ _ hfn h => by rw [prove_of_shortCircuits (prove_shortCircuits_after hfn h)]⟩

/-! ### Runs on fixed inputs -/

/-- A context for the runs below. -/
def demoProveCtx : ProveCtx := ⟨[7], [1], 0, [2], "IntrinsicExecutionOutput"⟩

/-- Collaborators that all succeed, except that `GetDataClockFrame` reports `load`; the frame
prover answers frame `previousFrame.FrameNumber + 1` with a 516-byte input. -/
def demoWorld (load : Option Error) : ProveWorld Nat Unit Unit Unit where
  getDataClockFrame _ _ := ((), load)
  materializeApplicationFromFrame _ _ _ := .ok ()
  applyTransitions _ _ requests _ := .ok ((), requests, [])
  materializeStateFromApplication _ := .ok ()
  marshalOutputs _ := .ok []
  marshalRequests _ := .ok []
  marshalExecutionOutput _ := .ok []
  digestWrite _ := none
  digestRead _ := .ok ⟨List.replicate 1024 0, List.length_replicate _ _⟩
  commitRaw _ _ := .ok []
  proveRaw _ _ _ := .ok []
  proveDataClockFrame previousFrame _ _ _ now _ :=
    .ok ⟨previousFrame.frameNumber + 1, now, List.replicate 516 0, [], none⟩
  now := 0

/-- The frame numbered `n`, unsigned. -/
def plainFrame (n : UInt64) : ClockFrame := ⟨n, 0, [], [], none⟩

set_option maxRecDepth 10000 in
theorem prove_run_proves_each_number_once_demo :
    List.Chain (fun a b => a.lastProven ≤ b.lastProven) ⟨0, none⟩
      ((proveRun demoProveCtx [⟨plainFrame 5, demoWorld none⟩, ⟨plainFrame 5, demoWorld none⟩]
        ⟨0, none⟩).map (·.2)) ∧
    (provenNumbers [⟨plainFrame 5, demoWorld none⟩, ⟨plainFrame 5, demoWorld none⟩]
      (proveRun demoProveCtx [⟨plainFrame 5, demoWorld none⟩, ⟨plainFrame 5, demoWorld none⟩]
        ⟨0, none⟩)).Pairwise (fun a b => a ≠ 0 → a < b) ∧
    (prove demoProveCtx (demoWorld none) (plainFrame 5)
      (prove demoProveCtx (demoWorld none) (plainFrame 5) ⟨0, none⟩).2).1 = .unchanged :=
  have h := prove_run_proves_each_number_once demoProveCtx
    [⟨plainFrame 5, demoWorld none⟩, ⟨plainFrame 5, demoWorld none⟩] ⟨0, none⟩
  have hp : (prove demoProveCtx (demoWorld none) (plainFrame 5) ⟨0, none⟩).1 =
      .proven ⟨6, 0, List.replicate 516 0, [], none⟩ := rfl
  ⟨h.1, h.2.1, h.2.2 _ _ _ _ (by decide) fun _ hf => ProveResult.noConfusion (hp.symm.trans hf)⟩

set_option maxRecDepth 10000 in
/-- `prove(genesis); prove(genesis)` from `lastProven = 0` returns a new frame both times. -/
theorem prove_genesis_twice :
    (prove demoProveCtx (demoWorld none) (plainFrame 0) ⟨0, none⟩).1 =
      .proven ⟨1, 0, List.replicate 516 0, [], none⟩ ∧
    (prove demoProveCtx (demoWorld none) (plainFrame 0)
      (prove demoProveCtx (demoWorld none) (plainFrame 0) ⟨0, none⟩).2).1 =
      .proven ⟨1, 0, List.replicate 516 0, [], none⟩ :=
  ⟨rfl, rfl⟩

/-! ### The error of `GetDataClockFrame` -/

theorem prove_returns_frame_after_load_error (ctx : ProveCtx) (w : ProveWorld Tx Tries App Out)
    (previousFrame : ClockFrame) (e : ProveEngine Tx) (tries : Tries) (err : Error)
    (hload : w.getDataClockFrame ctx.filter previousFrame.frameNumber = (tries, some err))
    (hcheck : shortCircuits e.lastProven previousFrame = false) (app : App)
    (hmat : w.materializeApplicationFromFrame ctx.provingKey previousFrame tries = .ok app)
    (app' : App) (valid invalid : List Tx)
    (happly : w.applyTransitions app (previousFrame.frameNumber + 1)
      (e.stagedTransactions.getD []) true = .ok (app', valid, invalid))
    (frame : ClockFrame) (hbuild : buildFrame ctx w previousFrame app' valid = .ok frame)
    (hlen : 516 ≤ frame.input.length) :
    prove ctx w previousFrame e = (.proven frame, ⟨previousFrame.frameNumber, some []⟩) := by
  have hm : materialize ctx w previousFrame = .ok app := by
    simp [materialize, hload, hmat, wrapProve, Except.mapError]
  have ha : (applyStaged w previousFrame app (e.stagedTransactions.getD [])).result =
      .ok (app', valid, invalid) := by
    simp [applyStaged, ProveWorld.callApplyTransitions, happly, wrapProve, Except.mapError]
  unfold prove
  rw [if_neg (by simp [hcheck]), hm]
  simp only [ha, hbuild, recordOutcome, if_pos hlen]

set_option maxRecDepth 10000 in
/-- The clock store fails to load the tries of frame `5`. -/
theorem prove_returns_frame_after_load_error_demo :
    prove demoProveCtx (demoWorld (some (.new "item not found"))) (plainFrame 5) ⟨0, none⟩ =
      (.proven ⟨6, 0, List.replicate 516 0, [], none⟩, ⟨5, some []⟩) :=
  prove_returns_frame_after_load_error demoProveCtx (demoWorld (some (.new "item not found")))
    (plainFrame 5) ⟨0, none⟩ () _ rfl rfl () rfl () [] [] rfl _ rfl (by simp)

end DataClock
