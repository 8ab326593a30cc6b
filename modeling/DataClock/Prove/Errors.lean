import DataClock.Prove.Race

/-!
# Prove — the error exits

`prove` returns an error from eleven places: the materialization (before the buffer is touched),
`ApplyTransitions` (after the buffer is emptied), and the nine calls of the proof construction
(after the unlock).  Two fields are written by one kind of step each
(`raceStep_stagedTransactions`, `raceStep_lastProven`): the buffer by a call's `ApplyTransitions`
step, which empties it, and by a producer's append, which needs the mutex free; `lastProven` by
the update of line 205, which ends the call with a new frame.

* `prove_error_keeps_engine`: a call that fails leaves `lastProven` as it was, and the buffer as it
  was if the materialization failed and emptied otherwise; a call that gets to its update sets
  `lastProven` to `previousFrame.FrameNumber`, and one that does not leaves it
  (`prove_updates_lastProven`).  Over any interleaving, a failed call has released the mutex, no
  step writes the buffer while a call is between its `Lock()` and its materialization, and a
  call's update sets `lastProven` to its previous frame number while every other step leaves it.
* `race_lastProven_recorded`: over any interleaving, `lastProven` is its starting value or the
  previous frame number of a call that has returned a new frame.
-/

namespace DataClock

variable {Tx Tries App Out : Type}

/-! ### One call -/

/-- A call that fails leaves the engine as it was when the materialization failed, and with the
buffer emptied when a later step failed. -/
theorem prove_failed_engine {ctx : ProveCtx} {w : ProveWorld Tx Tries App Out}
    {previousFrame : ClockFrame} {e : ProveEngine Tx} {err : Error}
    (h : (prove ctx w previousFrame e).1 = .failed err) :
    (∀ err', materialize ctx w previousFrame = .error err' → (prove ctx w previousFrame e).2 = e) ∧
      ∀ app, materialize ctx w previousFrame = .ok app →
        (prove ctx w previousFrame e).2 = { e with stagedTransactions := some [] } := by
  unfold prove at h ⊢
  split at h
  · cases h
  rw [if_neg ‹_›]
  refine ⟨fun err' hm => by rw [hm], fun app hm => ?_⟩
  rw [hm] at h ⊢
  simp only at h ⊢
  split at h
  · rfl
  split at h
  · rfl
  · unfold recordOutcome at h; split at h <;> cases h

/-- The update is followed by a new frame or by the log line's panic. -/
theorem recordOutcome_cases (frame : ClockFrame) :
    recordOutcome frame = .proven frame ∨ recordOutcome frame = .panic := by
  unfold recordOutcome; split <;> simp

/-- `prove` sets `lastProven` to `previousFrame.FrameNumber` when it gets to the update of line
205, and leaves it otherwise. -/
theorem prove_updates_lastProven (ctx : ProveCtx) (w : ProveWorld Tx Tries App Out)
    (previousFrame : ClockFrame) (e : ProveEngine Tx) :
    ((∃ frame, (prove ctx w previousFrame e).1 = recordOutcome frame) →
      (prove ctx w previousFrame e).2.lastProven = previousFrame.frameNumber) ∧
    ((∀ frame, (prove ctx w previousFrame e).1 ≠ recordOutcome frame) →
      (prove ctx w previousFrame e).2.lastProven = e.lastProven) := by
  rcases prove_cases ctx w previousFrame e with ⟨-, h⟩ | ⟨-, ⟨err, h | h⟩ | ⟨frame, h⟩⟩ <;> rw [h]
  rotate_right
  · exact ⟨fun _ => rfl, fun hne => absurd rfl (hne frame)⟩
  all_goals
    refine ⟨fun ⟨f, hf⟩ => ?_, fun _ => rfl⟩
    rcases recordOutcome_cases f with h' | h' <;> rw [h'] at hf <;> cases hf

/-! ### Interleaved calls -/

section Steps

variable {ctx : ProveCtx} {calls : Nat → ProveCall Tx Tries App Out} {s s' : Race Tx App}
  {ev : RaceEvent Tx}

/-- The buffer is written by a call's `ApplyTransitions` step, which empties it, and by a
producer's append, taken only while the mutex is free. -/
theorem raceStep_stagedTransactions (h : raceStep ctx calls s ev = some s') :
    s'.stagedTransactions = s.stagedTransactions ∨
      (∃ i app, ev = .apply i ∧ s.pcs i = .applying app ∧ s'.stagedTransactions = some []) ∨
      ∃ tx, ev = .append tx ∧ s.holder = none := by
  cases ev with
  | check i => obtain ⟨-, ⟨-, rfl⟩ | ⟨-, rfl⟩⟩ := raceStep_check h <;> exact .inl rfl
  | lock i => obtain ⟨-, -, rfl⟩ := raceStep_lock h; exact .inl rfl
  | materialize i => obtain ⟨-, ⟨_, rfl⟩ | ⟨_, rfl⟩⟩ := raceStep_materialize h <;> exact .inl rfl
  | apply i =>
    obtain ⟨app, _, hpc, -, ⟨_, rfl⟩ | ⟨_, _, rfl⟩⟩ := raceStep_apply h <;>
      exact .inr (.inl ⟨i, app, rfl, hpc, rfl⟩)
  | build i => obtain ⟨_, _, -, ⟨_, rfl⟩ | ⟨_, rfl⟩⟩ := raceStep_build h <;> exact .inl rfl
  | record i => obtain ⟨_, -, rfl⟩ := raceStep_record h; exact .inl rfl
  | append tx => exact .inr (.inr ⟨tx, rfl, (raceStep_append h).1⟩)

/-- `lastProven` is written only by a call's update, which ends the call with `recordOutcome`. -/
theorem raceStep_lastProven (h : raceStep ctx calls s ev = some s') :
    s'.lastProven = s.lastProven ∨
      ∃ i frame, ev = .record i ∧ s'.pcs i = .done (recordOutcome frame) ∧
        s'.lastProven = (calls i).previousFrame.frameNumber := by
  cases ev with
  | check i => obtain ⟨-, ⟨-, rfl⟩ | ⟨-, rfl⟩⟩ := raceStep_check h <;> exact .inl rfl
  | lock i => obtain ⟨-, -, rfl⟩ := raceStep_lock h; exact .inl rfl
  | materialize i => obtain ⟨-, ⟨_, rfl⟩ | ⟨_, rfl⟩⟩ := raceStep_materialize h <;> exact .inl rfl
  | apply i => obtain ⟨_, _, -, -, ⟨_, rfl⟩ | ⟨_, _, rfl⟩⟩ := raceStep_apply h <;> exact .inl rfl
  | build i => obtain ⟨_, _, -, ⟨_, rfl⟩ | ⟨_, rfl⟩⟩ := raceStep_build h <;> exact .inl rfl
  | record i =>
    obtain ⟨frame, -, rfl⟩ := raceStep_record h
    exact .inr ⟨i, frame, rfl, by simp [Race.setPc], rfl⟩
  | append tx => obtain ⟨-, rfl⟩ := raceStep_append h; exact .inl rfl

/-- A call's update sets `lastProven` to its previous frame number and ends the call with
`recordOutcome`. -/
theorem raceStep_record_lastProven {i : Nat} (h : raceStep ctx calls s (.record i) = some s') :
    s'.lastProven = (calls i).previousFrame.frameNumber ∧
      ∃ frame, s'.pcs i = .done (recordOutcome frame) := by
  obtain ⟨frame, -, rfl⟩ := raceStep_record h
  exact ⟨rfl, frame, by simp [Race.setPc]⟩

/-- A call that has returned stays returned. -/
theorem raceStep_done (h : raceStep ctx calls s ev = some s') {j : Nat} {r : ProveResult}
    (hj : s.pcs j = .done r) : s'.pcs j = .done r := by
  have hne : ∀ i, (∀ r', s.pcs i ≠ .done r') → j ≠ i := fun i hi hji => hi r (hji ▸ hj)
  cases ev with
  | check i =>
    obtain ⟨hpc, ⟨-, rfl⟩ | ⟨-, rfl⟩⟩ := raceStep_check h <;>
      simp [Race.setPc, Function.update_noteq (hne i (by simp [hpc])), hj]
  | lock i =>
    obtain ⟨hpc, -, rfl⟩ := raceStep_lock h
    simp [Race.setPc, Function.update_noteq (hne i (by simp [hpc])), hj]
  | materialize i =>
    obtain ⟨hpc, ⟨_, rfl⟩ | ⟨_, rfl⟩⟩ := raceStep_materialize h <;>
      simp [Race.setPc, Race.unlock, Function.update_noteq (hne i (by simp [hpc])), hj]
  | apply i =>
    obtain ⟨_, _, hpc, -, ⟨_, rfl⟩ | ⟨_, _, rfl⟩⟩ := raceStep_apply h <;>
      simp [Race.setPc, Race.unlock, Race.drain, Function.update_noteq (hne i (by simp [hpc])), hj]
  | build i =>
    obtain ⟨_, _, hpc, ⟨_, rfl⟩ | ⟨_, rfl⟩⟩ := raceStep_build h <;>
      simp [Race.setPc, Function.update_noteq (hne i (by simp [hpc])), hj]
  | record i =>
    obtain ⟨_, hpc, rfl⟩ := raceStep_record h
    simp [Race.setPc, Function.update_noteq (hne i (by simp [hpc])), hj]
  | append tx => obtain ⟨-, rfl⟩ := raceStep_append h; exact hj

/-- While call `i` is between its `Lock()` and its materialization it holds the mutex, so no
step writes the buffer. -/
theorem RaceInv.staged_of_materializing (hs : RaceInv s) {i : Nat}
    (hpc : s.pcs i = .materializing) (h : raceStep ctx calls s ev = some s') :
    s'.stagedTransactions = s.stagedTransactions := by
  rcases raceStep_stagedTransactions h with h' | ⟨j, app, rfl, hj, -⟩ | ⟨tx, rfl, hfree⟩
  · exact h'
  · obtain rfl := hs.holds_unique (i := i) (j := j) (by rw [hpc]; rfl) (by rw [hj]; rfl)
    rw [hpc] at hj; cases hj
  · rw [(hs.threads i).1.mpr (by rw [hpc]; rfl)] at hfree; cases hfree

end Steps

theorem prove_error_keeps_engine (ctx : ProveCtx) (w : ProveWorld Tx Tries App Out)
    (previousFrame : ClockFrame) (e : ProveEngine Tx) (calls : Nat → ProveCall Tx Tries App Out)
    (lastProven : UInt64) (stagedTransactions : Option (List Tx)) (evs : List (RaceEvent Tx))
    (s : Race Tx App)
    (hrun : raceRun ctx calls (Race.init lastProven stagedTransactions) evs = some s) :
    (∀ err, (prove ctx w previousFrame e).1 = .failed err →
      (∀ err', materialize ctx w previousFrame = .error err' → (prove ctx w previousFrame e).2 = e) ∧
      ∀ app, materialize ctx w previousFrame = .ok app →
        (prove ctx w previousFrame e).2 = { e with stagedTransactions := some [] }) ∧
    ((∃ frame, (prove ctx w previousFrame e).1 = recordOutcome frame) →
      (prove ctx w previousFrame e).2.lastProven = previousFrame.frameNumber) ∧
    ((∀ frame, (prove ctx w previousFrame e).1 ≠ recordOutcome frame) →
      (prove ctx w previousFrame e).2.lastProven = e.lastProven) ∧
    (∀ i err, s.pcs i = .done (.failed err) → s.holder ≠ some i ∧ s.unlocks i = s.locks i) ∧
    (∀ i, s.pcs i = .materializing → ∀ ev s', raceStep ctx calls s ev = some s' →
      s'.stagedTransactions = s.stagedTransactions) ∧
    ∀ ev s', raceStep ctx calls s ev = some s' →
      (∀ i, ev = .record i → s'.lastProven = (calls i).previousFrame.frameNumber ∧
        ∃ frame, s'.pcs i = .done (recordOutcome frame)) ∧
      ((∀ i, ev ≠ .record i) → s'.lastProven = s.lastProven) := by
  have hinv := raceRun_induction RaceInv (fun _ _ _ hs h => hs.step h) evs _ s (RaceInv.init _ _) hrun
  obtain ⟨hupdate, hleave⟩ := prove_updates_lastProven ctx w previousFrame e
  refine ⟨fun _ => prove_failed_engine, hupdate, hleave,
    fun i _ hr => (hinv.done_released hr).imp_right (·.1),
    fun i hpc _ _ => hinv.staged_of_materializing hpc, fun ev _ h => ⟨?_, fun hne => ?_⟩⟩
  · rintro i rfl
    exact raceStep_record_lastProven h
  · exact (raceStep_lastProven h).resolve_right fun ⟨i, _, hi, _⟩ => hne i hi

/-- In every reachable state `lastProven` holds its first value, or the previous-frame number of
a call that has made its update and returned. -/
theorem race_lastProven_recorded (ctx : ProveCtx) (calls : Nat → ProveCall Tx Tries App Out)
    (lastProven : UInt64) (stagedTransactions : Option (List Tx)) (evs : List (RaceEvent Tx))
    (s : Race Tx App) (h : raceRun ctx calls (Race.init lastProven stagedTransactions) evs = some s) :
    s.lastProven = lastProven ∨ ∃ i frame, s.pcs i = .done (recordOutcome frame) ∧
      s.lastProven = (calls i).previousFrame.frameNumber := by
  refine raceRun_induction (fun s => s.lastProven = lastProven ∨ ∃ i frame,
      s.pcs i = .done (recordOutcome frame) ∧ s.lastProven = (calls i).previousFrame.frameNumber)
    (fun s s' ev hs hstep => ?_) evs _ s (.inl rfl) h
  rcases raceStep_lastProven hstep with heq | ⟨i, frame, -, hpc, hlp⟩
  · rw [heq]
    exact hs.imp_right fun ⟨i, f, hpc, hlp⟩ => ⟨i, f, raceStep_done hstep hpc, hlp⟩
  · exact .inr ⟨i, frame, hpc, hlp⟩

set_option maxRecDepth 10000 in
/-- Call `0` proves frame `6` from frame `5`; call `1`, on frame `3`, has only passed its check. -/
theorem race_lastProven_recorded_demo :
    ∃ s, raceRun demoProveCtx (fun i => ⟨plainFrame (if i = 0 then 5 else 3), demoWorld none⟩)
      (Race.init 2 none : Race Nat Unit)
      [.check 0, .check 1, .lock 0, .materialize 0, .apply 0, .build 0, .record 0] = some s ∧
      (s.lastProven = 2 ∨ ∃ i frame, s.pcs i = .done (recordOutcome frame) ∧
        s.lastProven = (plainFrame (if i = 0 then 5 else 3)).frameNumber) :=
  ⟨_, rfl, race_lastProven_recorded demoProveCtx
    (fun i => ⟨plainFrame (if i = 0 then 5 else 3), demoWorld none⟩) 2 none
    [.check 0, .check 1, .lock 0, .materialize 0, .apply 0, .build 0, .record 0] _ rfl⟩

/-- `MaterializeApplicationFromFrame` fails. -/
def failingWorld : ProveWorld Nat Unit Unit Unit :=
  { demoWorld none with materializeApplicationFromFrame := fun _ _ _ => .error (.new "no application") }

/-- A producer stages `1`, and a call on frame `5` fails to materialize its application. -/
theorem prove_error_keeps_engine_demo :
    ∃ s, raceRun demoProveCtx (fun _ => ⟨plainFrame 5, failingWorld⟩) (Race.init 4 none)
        [.append 1, .check 0, .lock 0, .materialize 0] = some s ∧
      (∀ err, (prove demoProveCtx failingWorld (plainFrame 5) ⟨4, some [1]⟩).1 = .failed err →
        (∀ err', materialize demoProveCtx failingWorld (plainFrame 5) = .error err' →
          (prove demoProveCtx failingWorld (plainFrame 5) ⟨4, some [1]⟩).2 = ⟨4, some [1]⟩) ∧
        ∀ app, materialize demoProveCtx failingWorld (plainFrame 5) = .ok app →
          (prove demoProveCtx failingWorld (plainFrame 5) ⟨4, some [1]⟩).2 = ⟨4, some []⟩) ∧
      ((∃ frame, (prove demoProveCtx failingWorld (plainFrame 5) ⟨4, some [1]⟩).1 =
          recordOutcome frame) →
        (prove demoProveCtx failingWorld (plainFrame 5) ⟨4, some [1]⟩).2.lastProven = 5) ∧
      ((∀ frame, (prove demoProveCtx failingWorld (plainFrame 5) ⟨4, some [1]⟩).1 ≠
          recordOutcome frame) →
        (prove demoProveCtx failingWorld (plainFrame 5) ⟨4, some [1]⟩).2.lastProven = 4) ∧
      (∀ i err, s.pcs i = .done (.failed err) → s.holder ≠ some i ∧ s.unlocks i = s.locks i) ∧
      (∀ i, s.pcs i = .materializing → ∀ ev s', raceStep demoProveCtx
        (fun _ => ⟨plainFrame 5, failingWorld⟩) s ev = some s' →
          s'.stagedTransactions = s.stagedTransactions) ∧
      ∀ ev s', raceStep demoProveCtx (fun _ => ⟨plainFrame 5, failingWorld⟩) s ev = some s' →
        (∀ i, ev = .record i → s'.lastProven = 5 ∧
          ∃ frame, s'.pcs i = .done (recordOutcome frame)) ∧
        ((∀ i, ev ≠ .record i) → s'.lastProven = s.lastProven) :=
  ⟨_, rfl, prove_error_keeps_engine demoProveCtx failingWorld (plainFrame 5) ⟨4, some [1]⟩
    (fun _ => ⟨plainFrame 5, failingWorld⟩) 4 none [.append 1, .check 0, .lock 0, .materialize 0]
    _ rfl⟩

end DataClock
