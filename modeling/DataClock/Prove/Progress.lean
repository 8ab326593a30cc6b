import DataClock.Prove.Serial

/-!
# Prove — no call waits for ever

`stagedTransactionsMx` is the one lock of the interleaved model.  A call holds it from its
`Lock()` to the end of `ApplyTransitions` (or to the failed materialization), over steps that are
enabled whatever the collaborators answer.  So the model never deadlocks: from every reachable
state each pending call can run to its return, by its own steps after those of the call holding
the mutex, if another call holds it.

Each phase of a call has one lemma, from the last (`Finishes.recording`) back to the first
(`Finishes.entry`), chained by the step it takes (`Finishes.cons`).

* `race_call_completes`: after any interleaving of calls and producers, every call can be run to
  its return using only its own steps and those of the call that holds the mutex.
-/

namespace DataClock

variable {Tx Tries App Out : Type}

/-- Call `k` runs from `s` to its return by its own steps alone, leaving the mutex to `holder` and
every other call where it was. -/
def Finishes (ctx : ProveCtx) (calls : Nat → ProveCall Tx Tries App Out) (s : Race Tx App)
    (k : Nat) (holder : Option Nat) : Prop :=
  ∃ evs s', (∀ ev ∈ evs, ev ∈ callEvents k) ∧ raceRun ctx calls s evs = some s' ∧
    (∃ r, s'.pcs k = .done r) ∧ s'.holder = holder ∧ ∀ j, j ≠ k → s'.pcs j = s.pcs j

section Phases

variable {ctx : ProveCtx} {calls : Nat → ProveCall Tx Tries App Out} {s : Race Tx App} {k : Nat}

theorem Finishes.done {r : ProveResult} (hpc : s.pcs k = .done r) :
    Finishes ctx calls s k s.holder :=
  ⟨[], s, List.forall_mem_nil _, rfl, ⟨r, hpc⟩, rfl, fun _ _ => rfl⟩

/-- A step of call `k` that moves no other call, then a run to its return. -/
theorem Finishes.cons {holder : Option Nat} (ev : RaceEvent Tx) (hev : ev ∈ callEvents k)
    (h : ∃ s₁, raceStep ctx calls s ev = some s₁ ∧ (∀ j, j ≠ k → s₁.pcs j = s.pcs j) ∧
      Finishes ctx calls s₁ k holder) :
    Finishes ctx calls s k holder :=
  let ⟨_, h, hother, evs, s', hevs, hrun, hdone, hhold, hframe⟩ := h
  ⟨ev :: evs, s', List.forall_mem_cons.mpr ⟨hev, hevs⟩,
    by simp only [raceRun, h, Option.some_bind]; exact hrun, hdone, hhold,
    fun j hj => (hframe j hj).trans (hother j hj)⟩

theorem Finishes.recording {frame : ClockFrame} (hpc : s.pcs k = .recording frame) :
    Finishes ctx calls s k s.holder := by
  refine Finishes.cons (.record k) (by simp [callEvents]) ?_
  simp only [raceStep, hpc, Option.some.injEq, exists_eq_left']
  exact ⟨fun j hj => Function.update_noteq hj _ _, Finishes.done (Function.update_same _ _ _)⟩

theorem Finishes.building {app : App} {v : List Tx} (hpc : s.pcs k = .building app v) :
    Finishes ctx calls s k s.holder := by
  refine Finishes.cons (.build k) (by simp [callEvents]) ?_
  cases hb : buildFrame ctx (calls k).world (calls k).previousFrame app v with
  | error err =>
    simp only [raceStep, hpc, hb, Option.some.injEq, exists_eq_left']
    exact ⟨fun j hj => Function.update_noteq hj _ _, Finishes.done (Function.update_same _ _ _)⟩
  | ok frame =>
    simp only [raceStep, hpc, hb, Option.some.injEq, exists_eq_left']
    exact ⟨fun j hj => Function.update_noteq hj _ _, Finishes.recording (Function.update_same _ _ _)⟩

/-- The call holding the mutex releases it on its way out, whatever its collaborators answer. -/
theorem Finishes.applying {app : App} (hpc : s.pcs k = .applying app) :
    Finishes ctx calls s k none := by
  refine Finishes.cons (.apply k) (by simp [callEvents]) ?_
  cases ha : (applyStaged (calls k).world (calls k).previousFrame app
      (s.stagedTransactions.getD [])).result with
  | error err =>
    simp only [raceStep, hpc, ha, Option.some.injEq, exists_eq_left']
    exact ⟨fun j hj => Function.update_noteq hj _ _, Finishes.done (Function.update_same _ _ _)⟩
  | ok r =>
    obtain ⟨app', v, _⟩ := r
    simp only [raceStep, hpc, ha, Option.some.injEq, exists_eq_left']
    exact ⟨fun j hj => Function.update_noteq hj _ _, Finishes.building (Function.update_same _ _ _)⟩

theorem Finishes.materializing (hpc : s.pcs k = .materializing) :
    Finishes ctx calls s k none := by
  refine Finishes.cons (.materialize k) (by simp [callEvents]) ?_
  cases hm : materialize ctx (calls k).world (calls k).previousFrame with
  | error err =>
    simp only [raceStep, hpc, hm, Option.some.injEq, exists_eq_left']
    exact ⟨fun j hj => Function.update_noteq hj _ _, Finishes.done (Function.update_same _ _ _)⟩
  | ok app =>
    simp only [raceStep, hpc, hm, Option.some.injEq, exists_eq_left']
    exact ⟨fun j hj => Function.update_noteq hj _ _, Finishes.applying (Function.update_same _ _ _)⟩

theorem Finishes.locking (hpc : s.pcs k = .locking) (hfree : s.holder = none) :
    Finishes ctx calls s k none := by
  refine Finishes.cons (.lock k) (by simp [callEvents]) ?_
  simp only [raceStep, hpc, hfree, Option.some.injEq, exists_eq_left']
  exact ⟨fun j hj => Function.update_noteq hj _ _,
    Finishes.materializing (Function.update_same _ _ _)⟩

theorem Finishes.entry (hpc : s.pcs k = .entry) (hfree : s.holder = none) :
    Finishes ctx calls s k none := by
  refine Finishes.cons (.check k) (by simp [callEvents]) ?_
  cases hsc : shortCircuits s.lastProven (calls k).previousFrame
  · simp only [raceStep, hpc, hsc, Bool.false_eq_true, if_false, Option.some.injEq,
      exists_eq_left']
    exact ⟨fun j hj => Function.update_noteq hj _ _,
      Finishes.locking (Function.update_same _ _ _) hfree⟩
  · simp only [raceStep, hpc, hsc, if_true, Option.some.injEq, exists_eq_left']
    exact ⟨fun j hj => Function.update_noteq hj _ _,
      hfree ▸ Finishes.done (Function.update_same _ _ _)⟩

/-- With the mutex free, a call runs to its return from wherever it is. -/
theorem Finishes.of_free (hfree : s.holder = none) (k : Nat) :
    ∃ holder, Finishes ctx calls s k holder := by
  cases hpc : s.pcs k with
  | entry => exact ⟨_, .entry hpc hfree⟩
  | locking => exact ⟨_, .locking hpc hfree⟩
  | materializing => exact ⟨_, .materializing hpc⟩
  | applying app => exact ⟨_, .applying hpc⟩
  | building app v => exact ⟨_, .building hpc⟩
  | recording frame => exact ⟨_, .recording hpc⟩
  | done r => exact ⟨_, .done hpc⟩

/-- The call holding the mutex runs to its return and frees it. -/
theorem Finishes.of_holds (hk : (s.pcs k).holds = true) : Finishes ctx calls s k none := by
  cases hpc : s.pcs k <;> simp only [hpc, ProvePc.holds, Bool.false_eq_true] at hk
  · exact .materializing hpc
  · exact .applying hpc

end Phases

theorem race_call_completes (ctx : ProveCtx) (calls : Nat → ProveCall Tx Tries App Out)
    (lastProven : UInt64) (stagedTransactions : Option (List Tx)) (evs : List (RaceEvent Tx))
    (s : Race Tx App) (h : raceRun ctx calls (Race.init lastProven stagedTransactions) evs = some s)
    (i : Nat) :
    ∃ evs' s' r, (∀ ev ∈ evs', ev ∈ callEvents i ∨ ∃ j, s.holder = some j ∧ ev ∈ callEvents j) ∧
      raceRun ctx calls s evs' = some s' ∧ s'.pcs i = .done r := by
  have hinv := raceRun_induction RaceInv (fun _ _ _ hs h => hs.step h) evs _ s (RaceInv.init _ _) h
  cases hh : s.holder with
  | none =>
    obtain ⟨_, evs', s', hevs, hrun, ⟨r, hr⟩, -⟩ :=
      (Finishes.of_free hh i : ∃ holder, Finishes ctx calls s i holder)
    exact ⟨evs', s', r, fun ev hev => .inl (hevs ev hev), hrun, hr⟩
  | some j =>
    obtain ⟨evs₁, s₁, hevs₁, hrun₁, ⟨r₁, hr₁⟩, hfree₁, -⟩ :=
      (Finishes.of_holds (((hinv.threads j).1).mp hh) : Finishes ctx calls s j none)
    have hholder : ∀ ev ∈ evs₁, ∃ j', some j = some j' ∧ ev ∈ callEvents j' :=
      fun ev hev => ⟨j, rfl, hevs₁ ev hev⟩
    by_cases hij : i = j
    · subst hij
      exact ⟨evs₁, s₁, r₁, fun ev hev => .inr (hholder ev hev), hrun₁, hr₁⟩
    · obtain ⟨_, evs₂, s₂, hevs₂, hrun₂, ⟨r, hr⟩, -⟩ :=
        (Finishes.of_free hfree₁ i : ∃ holder, Finishes ctx calls s₁ i holder)
      refine ⟨evs₁ ++ evs₂, s₂, r, fun ev hev => ?_, by rw [raceRun_append, hrun₁]; exact hrun₂, hr⟩
      rcases List.mem_append.mp hev with hev | hev
      · exact .inr (hholder ev hev)
      · exact .inl (hevs₂ ev hev)

/-- Call `0` holds the mutex and call `1` waits at `Lock()`: call `0` runs out, then call `1`. -/
theorem race_call_completes_demo :
    ∃ s, raceRun demoProveCtx (fun _ => ⟨plainFrame 5, demoWorld none⟩) (Race.init 4 none)
        [.check 0, .check 1, .lock 0] = some s ∧
      ∃ evs' s' r, (∀ ev ∈ evs', ev ∈ callEvents 1 ∨ ∃ j, s.holder = some j ∧ ev ∈ callEvents j) ∧
        raceRun demoProveCtx (fun _ => ⟨plainFrame 5, demoWorld none⟩) s evs' = some s' ∧
        s'.pcs 1 = .done r :=
  ⟨_, rfl, race_call_completes demoProveCtx (fun _ => ⟨plainFrame 5, demoWorld none⟩) 4 none
    [.check 0, .check 1, .lock 0] _ rfl 1⟩

end DataClock
