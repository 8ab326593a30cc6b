import DataClock.Model.Race
import DataClock.Prove.Sequential

/-!
# Prove — calls and producers interleaved

One inversion lemma per step says what the step does (`raceStep_check`, …, `raceStep_append`);
the invariants below are derived from them, and `raceRun_induction` carries a per-step fact to
every run.

* `race_keeps_staged_transactions` (`RaceInv`, `raceRun_applied`): over any interleaving of
  producers and calls, with any answers of the collaborators, the transactions ever appended are
  the requests handed to the `ApplyTransitions` calls, call after call, followed by the buffer, so
  each is handed to one call once or is still staged; each recorded call's answer is the
  application's answer on exactly its requests; the mutex is held exactly by the call that is
  materializing or applying; a call that has returned has unlocked it as often as it locked it,
  at most once.
* `race_mutual_exclusion`: over any interleaving, at most one call is between its `Lock()` and its
  `Unlock()`, and it is the one the mutex records.
* `race_proves_once_after_update` (`EarlyInv`): when every call proves the same non-genesis
  `prev`, a call that returns a new frame passed its check before any call updated `lastProven`,
  and after an update every check returns `prev`.  Two calls that both check before the first
  update both prove (`race_both_calls_prove`).
* `raceRun_solo`: a call whose steps run with nothing in between ends as the sequential `prove`,
  frees the mutex and moves no other call.
-/

namespace DataClock

variable {Tx Tries App Out : Type}

/-! ### Positions -/

namespace ProvePc

/-- How often a call at this position has locked the mutex. -/
def lockCount : ProvePc Tx App → Nat
  | .entry | .locking | .done .unchanged => 0
  | _ => 1

/-- How often a call at this position has unlocked the mutex. -/
def unlockCount : ProvePc Tx App → Nat
  | .building .. | .recording _ => 1
  | .done .unchanged => 0
  | .done _ => 1
  | _ => 0

/-- The call holds the mutex. -/
def holds : ProvePc Tx App → Bool
  | .materializing | .applying _ => true
  | _ => false

/-- The call got past the check of line 61. -/
def passed : ProvePc Tx App → Bool
  | .entry | .done .unchanged => false
  | _ => true

end ProvePc

/-! ### What each step does -/

section Steps

variable {ctx : ProveCtx} {calls : Nat → ProveCall Tx Tries App Out} {s s' : Race Tx App}
  {i : Nat}

theorem raceStep_check (h : raceStep ctx calls s (.check i) = some s') :
    s.pcs i = .entry ∧
      (shortCircuits s.lastProven (calls i).previousFrame = true ∧
          s' = s.setPc i (.done .unchanged) ∨
        shortCircuits s.lastProven (calls i).previousFrame = false ∧
          s' = { s.setPc i .locking with early := Function.update s.early i !s.recorded }) := by
  simp only [raceStep] at h
  split at h
  · rename_i hpc
    refine ⟨hpc, ?_⟩
    cases hc : shortCircuits s.lastProven (calls i).previousFrame <;>
      simp only [hc, Bool.false_eq_true, if_false, if_true, Option.some.injEq] at h
    · exact .inr ⟨rfl, h.symm⟩
    · exact .inl ⟨rfl, h.symm⟩
  · cases h

theorem raceStep_lock (h : raceStep ctx calls s (.lock i) = some s') :
    s.pcs i = .locking ∧ s.holder = none ∧
      s' = { s.setPc i .materializing with
        holder := some i, locks := Function.update s.locks i (s.locks i + 1) } := by
  simp only [raceStep] at h
  split at h
  · rename_i hpc hh
    exact ⟨hpc, hh, (Option.some.inj h).symm⟩
  · cases h

theorem raceStep_materialize (h : raceStep ctx calls s (.materialize i) = some s') :
    s.pcs i = .materializing ∧
      ((∃ err, s' = (s.setPc i (.done (.failed err))).unlock i) ∨
        ∃ app, s' = s.setPc i (.applying app)) := by
  simp only [raceStep] at h
  split at h
  · rename_i hpc
    refine ⟨hpc, ?_⟩
    split at h
    · exact .inl ⟨_, (Option.some.inj h).symm⟩
    · exact .inr ⟨_, (Option.some.inj h).symm⟩
  · cases h

theorem raceStep_apply (h : raceStep ctx calls s (.apply i) = some s') :
    ∃ (app : App) (call : ApplyCall Tx App), s.pcs i = .applying app ∧
      call = applyStaged (calls i).world (calls i).previousFrame app (s.stagedTransactions.getD []) ∧
      ((∃ err, s' = ((s.drain call).setPc i (.done (.failed err))).unlock i) ∨
        ∃ app' validTransactions,
          s' = ((s.drain call).setPc i (.building app' validTransactions)).unlock i) := by
  simp only [raceStep] at h
  split at h
  · rename_i app hpc
    refine ⟨app, _, hpc, rfl, ?_⟩
    split at h
    · exact .inl ⟨_, (Option.some.inj h).symm⟩
    · exact .inr ⟨_, _, (Option.some.inj h).symm⟩
  · cases h

theorem raceStep_build (h : raceStep ctx calls s (.build i) = some s') :
    ∃ app validTransactions, s.pcs i = .building app validTransactions ∧
      ((∃ err, s' = s.setPc i (.done (.failed err))) ∨ ∃ frame, s' = s.setPc i (.recording frame)) := by
  simp only [raceStep] at h
  split at h
  · rename_i app v hpc
    refine ⟨app, v, hpc, ?_⟩
    split at h
    · exact .inl ⟨_, (Option.some.inj h).symm⟩
    · exact .inr ⟨_, (Option.some.inj h).symm⟩
  · cases h

theorem raceStep_record (h : raceStep ctx calls s (.record i) = some s') :
    ∃ frame, s.pcs i = .recording frame ∧
      s' = { s.setPc i (.done (recordOutcome frame)) with
        lastProven := (calls i).previousFrame.frameNumber, recorded := true } := by
  simp only [raceStep] at h
  split at h
  · rename_i frame hpc
    exact ⟨frame, hpc, (Option.some.inj h).symm⟩
  · cases h

theorem raceStep_append {tx : Tx} (h : raceStep ctx calls s (.append tx) = some s') :
    s.holder = none ∧
      s' = { s with
        stagedTransactions := some (s.stagedTransactions.getD [] ++ [tx])
        appended := s.appended ++ [tx] } := by
  simp only [raceStep] at h
  split at h
  · rename_i hh
    exact ⟨hh, (Option.some.inj h).symm⟩
  · cases h

end Steps

/-! ### The staging buffer and the mutex -/

/-- What call `j`'s position says of the mutex holder and of its lock counts. -/
def ThreadOk (holder : Option Nat) (j : Nat) (pc : ProvePc Tx App) (locks unlocks : Nat) : Prop :=
  (holder = some j ↔ pc.holds = true) ∧ locks = pc.lockCount ∧ unlocks = pc.unlockCount

structure RaceInv (s : Race Tx App) : Prop where
  staging : s.appended = (s.applied.map (·.requests)).flatten ++ s.stagedTransactions.getD []
  threads : ∀ j, ThreadOk s.holder j (s.pcs j) (s.locks j) (s.unlocks j)

theorem RaceInv.init (lastProven : UInt64) (stagedTransactions : Option (List Tx)) :
    RaceInv (Race.init lastProven stagedTransactions : Race Tx App) :=
  ⟨rfl, fun _ => by simp [ThreadOk, Race.init, ProvePc.holds, ProvePc.lockCount,
    ProvePc.unlockCount]⟩

section Threads

variable {s : Race Tx App} {i : Nat} {p : ProvePc Tx App}
  (hs : ∀ j, ThreadOk s.holder j (s.pcs j) (s.locks j) (s.unlocks j))
include hs

/-- A move of call `i` that neither locks nor unlocks. -/
theorem threads_setPc (hh : p.holds = (s.pcs i).holds) (hl : p.lockCount = (s.pcs i).lockCount)
    (hu : p.unlockCount = (s.pcs i).unlockCount) :
    ∀ j, ThreadOk s.holder j ((s.setPc i p).pcs j) (s.locks j) (s.unlocks j) := by
  intro j
  by_cases hj : j = i
  · subst hj
    simp only [Race.setPc, Function.update_same]
    exact ⟨(hs j).1.trans (by rw [hh]), (hs j).2.1.trans hl.symm, (hs j).2.2.trans hu.symm⟩
  · simp only [Race.setPc, Function.update_noteq hj]
    exact hs j

/-- `Lock()` by call `i`, at `locking` while the mutex is free. -/
theorem threads_lock (hfree : s.holder = none) (hpc : s.pcs i = .locking) :
    ∀ j, ThreadOk (some i) j ((s.setPc i .materializing).pcs j)
      (Function.update s.locks i (s.locks i + 1) j) (s.unlocks j) := by
  intro j
  by_cases hj : j = i
  · subst hj
    have := hs j
    rw [hpc, hfree] at this
    simp only [Race.setPc, Function.update_same]
    exact ⟨by simp [ProvePc.holds], by rw [this.2.1]; rfl, this.2.2⟩
  · simp only [Race.setPc, Function.update_noteq hj]
    refine ⟨?_, (hs j).2⟩
    rw [← (hs j).1, hfree]
    simp [Ne.symm hj]

/-- A move of call `i` that unlocks the mutex it holds. -/
theorem threads_unlock (hold : (s.pcs i).holds = true) (hh : p.holds = false)
    (hl : p.lockCount = (s.pcs i).lockCount) (hu : p.unlockCount = (s.pcs i).unlockCount + 1) :
    ∀ j, ThreadOk ((s.setPc i p).unlock i).holder j (((s.setPc i p).unlock i).pcs j)
      (((s.setPc i p).unlock i).locks j) (((s.setPc i p).unlock i).unlocks j) := by
  have hho : s.holder = some i := (hs i).1.mpr hold
  intro j
  by_cases hj : j = i
  · subst hj
    simp only [Race.unlock, Race.setPc, Function.update_same]
    exact ⟨by simp [hh], (hs j).2.1.trans hl.symm, by rw [(hs j).2.2, hu]⟩
  · simp only [Race.unlock, Race.setPc, Function.update_noteq hj]
    refine ⟨?_, (hs j).2⟩
    rw [← (hs j).1, hho]
    simp [Ne.symm hj]

end Threads

theorem recordOutcome_counts (Tx App : Type) (frame : ClockFrame) :
    (ProvePc.done (recordOutcome frame) : ProvePc Tx App).lockCount = 1 ∧
      (ProvePc.done (recordOutcome frame) : ProvePc Tx App).unlockCount = 1 ∧
      (ProvePc.done (recordOutcome frame) : ProvePc Tx App).holds = false ∧
      (ProvePc.done (recordOutcome frame) : ProvePc Tx App).passed = true := by
  unfold recordOutcome; split <;> exact ⟨rfl, rfl, rfl, rfl⟩

/-- Every step keeps the invariant. -/
theorem RaceInv.step {ctx : ProveCtx} {calls : Nat → ProveCall Tx Tries App Out}
    {s s' : Race Tx App} {ev : RaceEvent Tx} (hs : RaceInv s)
    (h : raceStep ctx calls s ev = some s') : RaceInv s' := by
  have ht := hs.threads
  cases ev with
  | check i =>
    obtain ⟨hpc, ⟨-, rfl⟩ | ⟨-, rfl⟩⟩ := raceStep_check h <;>
      exact ⟨hs.staging, threads_setPc ht (by rw [hpc]; rfl) (by rw [hpc]; rfl) (by rw [hpc]; rfl)⟩
  | lock i =>
    obtain ⟨hpc, hfree, rfl⟩ := raceStep_lock h
    exact ⟨hs.staging, threads_lock ht hfree hpc⟩
  | materialize i =>
    obtain ⟨hpc, ⟨err, rfl⟩ | ⟨app, rfl⟩⟩ := raceStep_materialize h
    · exact ⟨hs.staging, threads_unlock ht (by rw [hpc]; rfl) rfl (by rw [hpc]; rfl)
        (by rw [hpc]; rfl)⟩
    · exact ⟨hs.staging, threads_setPc ht (by rw [hpc]; rfl) (by rw [hpc]; rfl) (by rw [hpc]; rfl)⟩
  | apply i =>
    obtain ⟨app, call, hpc, rfl, ⟨err, rfl⟩ | ⟨app', v, rfl⟩⟩ := raceStep_apply h <;>
      refine ⟨by simp [Race.unlock, Race.setPc, Race.drain, hs.staging],
        threads_unlock (s := s.drain _) ht (by rw [Race.drain, hpc]; rfl) rfl
          (by rw [Race.drain, hpc]; rfl) (by rw [Race.drain, hpc]; rfl)⟩
  | build i =>
    obtain ⟨app, v, hpc, ⟨err, rfl⟩ | ⟨frame, rfl⟩⟩ := raceStep_build h <;>
      exact ⟨hs.staging, threads_setPc ht (by rw [hpc]; rfl) (by rw [hpc]; rfl) (by rw [hpc]; rfl)⟩
  | record i =>
    obtain ⟨frame, hpc, rfl⟩ := raceStep_record h
    obtain ⟨hl, hu, hh, -⟩ := recordOutcome_counts Tx App frame
    exact ⟨hs.staging, threads_setPc ht (by rw [hh, hpc]; rfl) (by rw [hl, hpc]; rfl)
      (by rw [hu, hpc]; rfl)⟩
  | append tx =>
    obtain ⟨-, rfl⟩ := raceStep_append h
    exact ⟨by simp [hs.staging], ht⟩

/-- What holds after each step holds after any list of steps. -/
theorem raceRun_induction {ctx : ProveCtx} {calls : Nat → ProveCall Tx Tries App Out}
    (P : Race Tx App → Prop) (hstep : ∀ s s' ev, P s → raceStep ctx calls s ev = some s' → P s') :
    ∀ (evs : List (RaceEvent Tx)) (s s' : Race Tx App), P s → raceRun ctx calls s evs = some s' → P s'
  | [], _, _, hs, h => by cases h; exact hs
  | ev :: evs, s, s', hs, h => by
    simp only [raceRun, Option.bind_eq_some] at h
    obtain ⟨s₁, h₁, h₂⟩ := h
    exact raceRun_induction P hstep evs s₁ s' (hstep s s₁ ev hs h₁) h₂

/-- At most one call holds the mutex. -/
theorem RaceInv.holds_unique {s : Race Tx App} (hs : RaceInv s) {i j : Nat}
    (hi : (s.pcs i).holds = true) (hj : (s.pcs j).holds = true) : i = j :=
  Option.some.inj (((hs.threads i).1.mpr hi).symm.trans ((hs.threads j).1.mpr hj))

/-- A call that has returned has unlocked the mutex as often as it locked it, at most once, and
does not hold it. -/
theorem RaceInv.done_released {s : Race Tx App} (hs : RaceInv s) {i : Nat} {r : ProveResult}
    (hr : s.pcs i = .done r) : s.holder ≠ some i ∧ s.unlocks i = s.locks i ∧ s.locks i ≤ 1 := by
  obtain ⟨hh, hl, hu⟩ := hs.threads i
  rw [hr] at hh hl hu
  refine ⟨fun e => by simpa [ProvePc.holds] using hh.mp e, ?_, ?_⟩ <;> rw [hl]
  · rw [hu]; cases r <;> rfl
  · cases r <;> simp [ProvePc.lockCount]

/-- A recorded call is an `ApplyTransitions` call of some `prove` call: its answer is that call's
application's answer on the recorded requests. -/
def Answered (calls : Nat → ProveCall Tx Tries App Out) (call : ApplyCall Tx App) : Prop :=
  ∃ i app, call.result = wrapProve ((calls i).world.applyTransitions app
    ((calls i).previousFrame.frameNumber + 1) call.requests true)

/-- Only a call's `ApplyTransitions` step records a call, and it records the one it made. -/
theorem raceStep_applied {ctx : ProveCtx} {calls : Nat → ProveCall Tx Tries App Out}
    {s s' : Race Tx App} {ev : RaceEvent Tx} (h : raceStep ctx calls s ev = some s') :
    s'.applied = s.applied ∨ ∃ call, Answered calls call ∧ s'.applied = s.applied ++ [call] := by
  cases ev with
  | check i => obtain ⟨-, ⟨-, rfl⟩ | ⟨-, rfl⟩⟩ := raceStep_check h <;> exact .inl rfl
  | lock i => obtain ⟨-, -, rfl⟩ := raceStep_lock h; exact .inl rfl
  | materialize i => obtain ⟨-, ⟨_, rfl⟩ | ⟨_, rfl⟩⟩ := raceStep_materialize h <;> exact .inl rfl
  | apply i =>
    obtain ⟨app, _, -, rfl, ⟨_, rfl⟩ | ⟨_, _, rfl⟩⟩ := raceStep_apply h <;>
      exact .inr ⟨_, ⟨i, app, rfl⟩, rfl⟩
  | build i => obtain ⟨_, _, -, ⟨_, rfl⟩ | ⟨_, rfl⟩⟩ := raceStep_build h <;> exact .inl rfl
  | record i => obtain ⟨_, -, rfl⟩ := raceStep_record h; exact .inl rfl
  | append tx => obtain ⟨-, rfl⟩ := raceStep_append h; exact .inl rfl

/-- Every recorded call of a run is an `ApplyTransitions` call. -/
theorem raceRun_applied {ctx : ProveCtx} {calls : Nat → ProveCall Tx Tries App Out}
    {lastProven : UInt64} {stagedTransactions : Option (List Tx)} {evs : List (RaceEvent Tx)}
    {s : Race Tx App} (h : raceRun ctx calls (Race.init lastProven stagedTransactions) evs = some s) :
    ∀ call ∈ s.applied, Answered calls call := by
  refine raceRun_induction (fun s => ∀ call ∈ s.applied, Answered calls call)
    (fun s s' _ hs hstep => ?_) evs _ s (fun _ h => by cases h) h
  rcases raceStep_applied hstep with heq | ⟨call, hc, heq⟩ <;> rw [heq]
  · exact hs
  · intro c hc'
    rcases List.mem_append.mp hc' with h | h
    · exact hs c h
    · exact List.mem_singleton.mp h ▸ hc

theorem race_keeps_staged_transactions (ctx : ProveCtx) (calls : Nat → ProveCall Tx Tries App Out)
    (lastProven : UInt64) (stagedTransactions : Option (List Tx)) (evs : List (RaceEvent Tx))
    (s : Race Tx App) (h : raceRun ctx calls (Race.init lastProven stagedTransactions) evs = some s) :
    s.appended = (s.applied.map (·.requests)).flatten ++ s.stagedTransactions.getD [] ∧
      (∀ call ∈ s.applied, ∃ i app, call.result = wrapProve ((calls i).world.applyTransitions app
        ((calls i).previousFrame.frameNumber + 1) call.requests true)) ∧
      ∀ i r, s.pcs i = .done r → s.holder ≠ some i ∧ s.unlocks i = s.locks i ∧ s.locks i ≤ 1 := by
  have hinv := raceRun_induction RaceInv (fun _ _ _ hs h => hs.step h) evs _ s (RaceInv.init _ _) h
  exact ⟨hinv.staging, raceRun_applied h, fun _ _ => hinv.done_released⟩

set_option maxRecDepth 10000 in
/-- A producer stages `1`, a call proves frame `6` from frame `5`, and a producer stages `2`
after the call released the mutex. -/
theorem race_keeps_staged_transactions_demo :
    ∃ s, raceRun demoProveCtx (fun _ => ⟨plainFrame 5, demoWorld none⟩) (Race.init 4 none)
      [.append 1, .check 0, .lock 0, .materialize 0, .apply 0, .append 2, .build 0, .record 0] =
        some s ∧
      s.appended = (s.applied.map (·.requests)).flatten ++ s.stagedTransactions.getD [] ∧
      (∀ call ∈ s.applied, ∃ (_i : Nat) (app : Unit), call.result =
        wrapProve ((demoWorld none).applyTransitions app ((plainFrame 5).frameNumber + 1)
          call.requests true)) ∧
      ∀ i r, s.pcs i = .done r → s.holder ≠ some i ∧ s.unlocks i = s.locks i ∧ s.locks i ≤ 1 :=
  ⟨_, rfl, race_keeps_staged_transactions demoProveCtx (fun _ => ⟨plainFrame 5, demoWorld none⟩) 4
    none [.append 1, .check 0, .lock 0, .materialize 0, .apply 0, .append 2, .build 0, .record 0]
    _ rfl⟩

/-- In every reachable state at most one call is between its `Lock()` and its `Unlock()`, and the
mutex is held by exactly that call. -/
theorem race_mutual_exclusion (ctx : ProveCtx) (calls : Nat → ProveCall Tx Tries App Out)
    (lastProven : UInt64) (stagedTransactions : Option (List Tx)) (evs : List (RaceEvent Tx))
    (s : Race Tx App) (h : raceRun ctx calls (Race.init lastProven stagedTransactions) evs = some s) :
    (∀ i j, (s.pcs i).holds = true → (s.pcs j).holds = true → i = j) ∧
      ∀ i, s.holder = some i ↔ (s.pcs i).holds = true := by
  have hinv := raceRun_induction RaceInv (fun _ _ _ hs h => hs.step h) evs _ s (RaceInv.init _ _) h
  exact ⟨fun _ _ => hinv.holds_unique, fun i => (hinv.threads i).1⟩

/-- Two calls pass their checks; call `0` takes the mutex while call `1` waits at `Lock()`. -/
theorem race_mutual_exclusion_demo :
    ∃ s, raceRun demoProveCtx (fun _ => ⟨plainFrame 5, demoWorld none⟩) (Race.init 4 none)
      [.check 0, .check 1, .lock 0] = some s ∧
      (∀ i j, (s.pcs i).holds = true → (s.pcs j).holds = true → i = j) ∧
      ∀ i, s.holder = some i ↔ (s.pcs i).holds = true :=
  ⟨_, rfl, race_mutual_exclusion demoProveCtx (fun _ => ⟨plainFrame 5, demoWorld none⟩) 4 none
    [.check 0, .check 1, .lock 0] _ rfl⟩

/-! ### A call alone -/

/-- The steps of call `i`, in program order. -/
def callEvents (i : Nat) : List (RaceEvent Tx) :=
  [.check i, .lock i, .materialize i, .apply i, .build i, .record i]

/-- A call that runs from its entry with the mutex free, and no other step in between, ends with
`prove`'s result and engine, frees the mutex, and moves no other call. -/
theorem raceRun_solo (ctx : ProveCtx) (calls : Nat → ProveCall Tx Tries App Out)
    (s : Race Tx App) (i : Nat) (hpc : s.pcs i = .entry) (hfree : s.holder = none) :
    ∃ evs, evs <+: callEvents i ∧
      (raceRun ctx calls s evs).map (fun s' =>
          (s'.pcs, s'.holder, (⟨s'.lastProven, s'.stagedTransactions⟩ : ProveEngine Tx))) =
        some (Function.update s.pcs i (.done (prove ctx (calls i).world (calls i).previousFrame
            ⟨s.lastProven, s.stagedTransactions⟩).1), none,
          (prove ctx (calls i).world (calls i).previousFrame ⟨s.lastProven, s.stagedTransactions⟩).2) := by
  unfold prove
  cases hsc : shortCircuits s.lastProven (calls i).previousFrame
  · simp only [Bool.false_eq_true, if_false]
    cases hm : materialize ctx (calls i).world (calls i).previousFrame with
    | error err =>
      exact ⟨[.check i, .lock i, .materialize i], ⟨[.apply i, .build i, .record i], rfl⟩,
        by simp only [raceRun, raceStep, hpc, hsc, hfree, hm, Bool.false_eq_true, ↓reduceIte,
          Race.setPc, Race.unlock, Option.bind_some, Option.some_bind, Function.update_same,
          Function.update_idem, Option.map_some']⟩
    | ok app =>
      simp only
      cases ha : (applyStaged (calls i).world (calls i).previousFrame app
          (s.stagedTransactions.getD [])).result with
      | error err =>
        exact ⟨[.check i, .lock i, .materialize i, .apply i], ⟨[.build i, .record i], rfl⟩,
          by simp only [raceRun, raceStep, hpc, hsc, hfree, hm, ha, Bool.false_eq_true, ↓reduceIte,
            Race.setPc, Race.unlock, Race.drain, Option.bind_some, Option.some_bind,
            Function.update_same, Function.update_idem, Option.map_some']⟩
      | ok r =>
        obtain ⟨app', v, _⟩ := r
        simp only
        cases hb : buildFrame ctx (calls i).world (calls i).previousFrame app' v with
        | error err =>
          exact ⟨[.check i, .lock i, .materialize i, .apply i, .build i], ⟨[.record i], rfl⟩,
            by simp only [raceRun, raceStep, hpc, hsc, hfree, hm, ha, hb, Bool.false_eq_true,
              ↓reduceIte, Race.setPc, Race.unlock, Race.drain, Option.bind_some, Option.some_bind,
              Function.update_same, Function.update_idem, Option.map_some']⟩
        | ok frame =>
          exact ⟨callEvents i, ⟨[], rfl⟩,
            by simp only [callEvents, raceRun, raceStep, hpc, hsc, hfree, hm, ha, hb,
              Bool.false_eq_true, ↓reduceIte, Race.setPc, Race.unlock, Race.drain, Option.bind_some,
              Option.some_bind, Function.update_same, Function.update_idem, Option.map_some']⟩
  · exact ⟨[.check i], ⟨[.lock i, .materialize i, .apply i, .build i, .record i], rfl⟩,
      by simp only [raceRun, raceStep, hpc, hsc, hfree, ↓reduceIte, Race.setPc, Option.bind_some,
        Option.map_some']⟩

/-! ### Two calls on the same frame -/

/-- For calls that all prove `prev`: an update of `lastProven` wrote `prev.FrameNumber`, and each
call past its check passed it before any update. -/
structure EarlyInv (prev : ClockFrame) (s : Race Tx App) : Prop where
  recorded : s.recorded = true → s.lastProven = prev.frameNumber
  early : ∀ j, (s.pcs j).passed = true → s.early j = true

theorem EarlyInv.init (prev : ClockFrame) (lastProven : UInt64)
    (stagedTransactions : Option (List Tx)) :
    EarlyInv prev (Race.init lastProven stagedTransactions : Race Tx App) :=
  ⟨fun h => by simp [Race.init] at h, fun _ h => by simp [Race.init, ProvePc.passed] at h⟩

/-- A move of call `i` that gets it past its check only if it already was keeps the flags. -/
theorem early_setPc {s : Race Tx App} {i : Nat} {p : ProvePc Tx App}
    (hs : ∀ j, (s.pcs j).passed = true → s.early j = true)
    (hpass : p.passed = true → (s.pcs i).passed = true) :
    ∀ j, ((s.setPc i p).pcs j).passed = true → s.early j = true := by
  intro j hj
  by_cases hji : j = i
  · subst hji; exact hs j (hpass (by simpa [Race.setPc] using hj))
  · exact hs j (by simpa [Race.setPc, Function.update_noteq hji] using hj)

theorem EarlyInv.step {ctx : ProveCtx} {calls : Nat → ProveCall Tx Tries App Out}
    {prev : ClockFrame} (hsame : ∀ i, (calls i).previousFrame = prev) (hfn : prev.frameNumber ≠ 0)
    {s s' : Race Tx App} {ev : RaceEvent Tx} (hs : EarlyInv prev s)
    (h : raceStep ctx calls s ev = some s') : EarlyInv prev s' := by
  have he := hs.early
  cases ev with
  | check i =>
    obtain ⟨hpc, ⟨-, rfl⟩ | ⟨hc, rfl⟩⟩ := raceStep_check h
    · exact ⟨hs.recorded, early_setPc he fun h => nomatch h⟩
    · have hr : s.recorded = false := by
        cases hrec : s.recorded
        · rfl
        · rw [hsame, hs.recorded hrec] at hc; simp [shortCircuits, hfn] at hc
      refine ⟨hs.recorded, fun j hj => ?_⟩
      by_cases hji : j = i
      · subst hji; simp [hr]
      · simp only [Function.update_noteq hji]
        exact he j (by simpa [Race.setPc, Function.update_noteq hji] using hj)
  | lock i =>
    obtain ⟨hpc, -, rfl⟩ := raceStep_lock h
    exact ⟨hs.recorded, early_setPc he fun _ => by rw [hpc]; rfl⟩
  | materialize i =>
    obtain ⟨hpc, ⟨err, rfl⟩ | ⟨app, rfl⟩⟩ := raceStep_materialize h <;>
      exact ⟨hs.recorded, early_setPc he fun _ => by rw [hpc]; rfl⟩
  | apply i =>
    obtain ⟨app, call, hpc, -, ⟨err, rfl⟩ | ⟨app', v, rfl⟩⟩ := raceStep_apply h <;>
      exact ⟨hs.recorded, early_setPc (s := s.drain call) he fun _ => by rw [Race.drain, hpc]; rfl⟩
  | build i =>
    obtain ⟨app, v, hpc, ⟨err, rfl⟩ | ⟨frame, rfl⟩⟩ := raceStep_build h <;>
      exact ⟨hs.recorded, early_setPc he fun _ => by rw [hpc]; rfl⟩
  | record i =>
    obtain ⟨frame, hpc, rfl⟩ := raceStep_record h
    exact ⟨fun _ => hsame i ▸ rfl, early_setPc he fun _ => by rw [hpc]; rfl⟩
  | append tx =>
    obtain ⟨-, rfl⟩ := raceStep_append h
    exact ⟨hs.recorded, he⟩

theorem race_proves_once_after_update (ctx : ProveCtx) (calls : Nat → ProveCall Tx Tries App Out)
    (prev : ClockFrame) (hsame : ∀ i, (calls i).previousFrame = prev) (hfn : prev.frameNumber ≠ 0)
    (lastProven : UInt64) (stagedTransactions : Option (List Tx)) (evs : List (RaceEvent Tx))
    (s : Race Tx App) (h : raceRun ctx calls (Race.init lastProven stagedTransactions) evs = some s) :
    (∀ i frame, s.pcs i = .done (.proven frame) → s.early i = true) ∧
      (s.recorded = true → ∀ i, s.pcs i = .entry →
        raceStep ctx calls s (.check i) = some (s.setPc i (.done .unchanged))) := by
  have hinv := raceRun_induction (EarlyInv prev) (fun _ _ _ hs h => hs.step hsame hfn h) evs _ s
    (EarlyInv.init _ _ _) h
  refine ⟨fun i frame hp => hinv.early i (by rw [hp]; rfl), fun hr i hpc => ?_⟩
  simp only [raceStep, hpc]
  rw [if_pos (by rw [hsame, hinv.recorded hr]; simp [shortCircuits, hfn])]

set_option maxRecDepth 10000 in
/-- Call `0` proves frame `6` from frame `5`; then a check of any other call returns `prev`. -/
theorem race_proves_once_after_update_demo :
    ∃ s, raceRun demoProveCtx (fun _ => ⟨plainFrame 5, demoWorld none⟩) (Race.init 4 none)
      [.check 0, .lock 0, .materialize 0, .apply 0, .build 0, .record 0] = some s ∧
      (∀ i frame, s.pcs i = .done (.proven frame) → s.early i = true) ∧
      (s.recorded = true → ∀ i, s.pcs i = .entry →
        raceStep demoProveCtx (fun _ => ⟨plainFrame 5, demoWorld none⟩) s (.check i) =
          some (s.setPc i (.done .unchanged))) :=
  ⟨_, rfl, race_proves_once_after_update demoProveCtx (fun _ => ⟨plainFrame 5, demoWorld none⟩)
    (plainFrame 5) (fun _ => rfl) (by decide) 4 none
    [.check 0, .lock 0, .materialize 0, .apply 0, .build 0, .record 0] _ rfl⟩

set_option maxRecDepth 10000 in
/-- Two calls on frame `5`, from `lastProven = 4`: both check before either updates `lastProven`,
and both return frame `6`. -/
theorem race_both_calls_prove :
    ∃ s, raceRun demoProveCtx (fun _ => ⟨plainFrame 5, demoWorld none⟩) (Race.init 4 none)
      [.check 0, .check 1, .lock 0, .materialize 0, .apply 0, .build 0, .record 0,
        .lock 1, .materialize 1, .apply 1, .build 1, .record 1] = some s ∧
      s.pcs 0 = .done (.proven ⟨6, 0, List.replicate 516 0, [], none⟩) ∧
      s.pcs 1 = .done (.proven ⟨6, 0, List.replicate 516 0, [], none⟩) :=
  ⟨_, rfl, rfl, rfl⟩

end DataClock
