import DataClock.Prove.Errors

/-!
# Prove — serial schedules

The interleaved model of `DataClock.Model.Race` and the sequential `prove` of
`DataClock.Model.Prove` are two levels of one design.  A call whose steps run with nothing in
between ends where `prove` ends, frees the mutex, and moves no other call (`raceRun_solo`, in
`DataClock.Prove.Race`).  Runs compose (`raceRun_append`), so calls run one after another
compute the sequential run.

* `raceRun_serial`: for any distinct calls at their entry with the mutex free, the schedule that
  runs each call to its return before the next starts leaves each call with the result
  `proveRun` gives it, and the engine's `lastProven` and buffer as the sequential run leaves
  them; every other call stays where it was.
-/

namespace DataClock

variable {Tx Tries App Out : Type}

/-- `evs` runs the calls `is` one after another, each by a prefix of its own steps. -/
inductive Serial : List Nat → List (RaceEvent Tx) → Prop
  | nil : Serial [] []
  | cons {i : Nat} {is : List Nat} {b evs : List (RaceEvent Tx)} (hb : b <+: callEvents i)
      (h : Serial is evs) : Serial (i :: is) (b ++ evs)

/-- The engine after the calls `cs`, one after another. -/
def proveEnd (ctx : ProveCtx) : List (ProveCall Tx Tries App Out) → ProveEngine Tx → ProveEngine Tx
  | [], e => e
  | c :: cs, e => proveEnd ctx cs (prove ctx c.world c.previousFrame e).2

theorem raceRun_append {ctx : ProveCtx} {calls : Nat → ProveCall Tx Tries App Out} :
    ∀ (s : Race Tx App) (evs evs' : List (RaceEvent Tx)),
      raceRun ctx calls s (evs ++ evs') = (raceRun ctx calls s evs).bind (raceRun ctx calls · evs')
  | _, [], _ => rfl
  | s, ev :: evs, evs' => by
    simp only [List.cons_append, raceRun, Option.bind_assoc]
    congr; funext s₁; exact raceRun_append s₁ evs evs'

theorem raceRun_serial (ctx : ProveCtx) (calls : Nat → ProveCall Tx Tries App Out) :
    ∀ (is : List Nat) (s : Race Tx App), is.Nodup → (∀ i ∈ is, s.pcs i = .entry) →
      s.holder = none →
      ∃ evs s', Serial is evs ∧ raceRun ctx calls s evs = some s' ∧
        is.map s'.pcs =
          (proveRun ctx (is.map calls) ⟨s.lastProven, s.stagedTransactions⟩).map (.done ·.1) ∧
        (⟨s'.lastProven, s'.stagedTransactions⟩ : ProveEngine Tx) =
          proveEnd ctx (is.map calls) ⟨s.lastProven, s.stagedTransactions⟩ ∧
        s'.holder = none ∧ ∀ j, j ∉ is → s'.pcs j = s.pcs j
  | [], s, _, _, hfree => ⟨[], s, .nil, rfl, rfl, rfl, hfree, fun _ _ => rfl⟩
  | i :: is, s, hnd, hentry, hfree => by
    obtain ⟨hi, hnd⟩ := List.nodup_cons.mp hnd
    obtain ⟨b, hb, hrun⟩ := raceRun_solo ctx calls s i (hentry i (List.mem_cons_self i is)) hfree
    obtain ⟨s₁, hs₁, heq⟩ := Option.map_eq_some'.mp hrun
    simp only [Prod.mk.injEq] at heq
    obtain ⟨hpcs, hhold, heng⟩ := heq
    have hother : ∀ j, j ≠ i → s₁.pcs j = s.pcs j := fun j hj => by
      rw [hpcs, Function.update_noteq hj]
    obtain ⟨evs, s', hser, hrun', hmap, hend, hhold', hframe⟩ := raceRun_serial ctx calls is s₁ hnd
      (fun j hj => (hother j (fun h => hi (h ▸ hj))).trans (hentry j (List.mem_cons_of_mem i hj)))
      hhold
    refine ⟨b ++ evs, s', .cons hb hser, by rw [raceRun_append, hs₁]; exact hrun', ?_, ?_, hhold',
      fun j hj => ?_⟩
    · simp only [List.map_cons, proveRun, ← heng, ← hmap, hframe i hi, hpcs, Function.update_same]
    · rw [hend, heng]; rfl
    · rw [hframe j (fun h => hj (List.mem_cons_of_mem i h)),
        hother j (fun h => hj (h ▸ List.mem_cons_self i is))]

/-- Two calls on frame `5` from `lastProven = 4`, one after the other: the first proves frame `6`,
the second returns `prev`. -/
theorem raceRun_serial_demo :
    ∃ evs s', Serial [0, 1] evs ∧
      raceRun demoProveCtx (fun _ => ⟨plainFrame 5, demoWorld none⟩)
        (Race.init 4 none : Race Nat Unit) evs = some s' ∧
      [0, 1].map s'.pcs = (proveRun demoProveCtx ([0, 1].map fun _ => ⟨plainFrame 5, demoWorld none⟩)
        ⟨4, none⟩).map (.done ·.1) ∧
      (⟨s'.lastProven, s'.stagedTransactions⟩ : ProveEngine Nat) =
        proveEnd demoProveCtx ([0, 1].map fun _ => ⟨plainFrame 5, demoWorld none⟩) ⟨4, none⟩ ∧
      s'.holder = none ∧ ∀ j, j ∉ [0, 1] → s'.pcs j = .entry :=
  raceRun_serial demoProveCtx (fun _ => ⟨plainFrame 5, demoWorld none⟩) [0, 1] (Race.init 4 none)
    (by decide) (fun _ _ => rfl) rfl

end DataClock
