import DataClock.Model.Prove
import Mathlib.Logic.Function.Basic

/-!
# Model — Race

`prove` calls running concurrently with the producers that stage transactions.  Call `i` is a
thread whose steps are the pieces of `DataClock.Model.Prove`, each atomic: the unlocked check of
`lastProven` (`check`), `stagedTransactionsMx.Lock()` (`lock`, taken only while the mutex is free),
the materialization, which unlocks on failure (`materialize`), `ApplyTransitions` on the buffer,
the reset of the buffer and the unlock (`apply`), the proof construction (`build`), and the update
of `lastProven` (`record`).  A producer's append is one step taken while the mutex is free.  A
state is reachable when some list of steps leads to it from `Race.init`.

Ghost fields keep what the engine does not: every transaction appended, every `ApplyTransitions`
call with the requests it was handed (`applyStaged`'s record of the call), how often each call
locked and unlocked the mutex, whether some call has updated `lastProven`, and which calls passed
their check before any update.
-/

namespace DataClock

variable {Tx Tries App Out : Type}

/-- Where a `prove` call is. -/
inductive ProvePc (Tx App : Type) where
  /-- Before the check of line 61. -/
  | entry
  /-- Past the check, at `stagedTransactionsMx.Lock()`. -/
  | locking
  /-- Holding the mutex, at `GetDataClockFrame` and `MaterializeApplicationFromFrame`. -/
  | materializing
  /-- Holding the mutex, at `ApplyTransitions`. -/
  | applying (app : App)
  /-- Past the unlock, building the proof. -/
  | building (app : App) (validTransactions : List Tx)
  /-- At `e.lastProven = previousFrame.FrameNumber`. -/
  | recording (frame : ClockFrame)
  | done (r : ProveResult)

/-- The engine's shared fields, where each call is, and the ghost fields. -/
structure Race (Tx App : Type) where
  lastProven : UInt64
  stagedTransactions : Option (List Tx)
  /-- The call holding `stagedTransactionsMx`. -/
  holder : Option Nat
  pcs : Nat → ProvePc Tx App
  appended : List Tx
  /-- The `ApplyTransitions` calls made, in order, each with the requests it was handed. -/
  applied : List (ApplyCall Tx App)
  locks : Nat → Nat
  unlocks : Nat → Nat
  recorded : Bool
  early : Nat → Bool

/-- The engine before any step: `lastProven` and the buffer as given, the mutex free, each call
at its entry.  What the buffer already holds counts as appended. -/
def Race.init (lastProven : UInt64) (stagedTransactions : Option (List Tx)) : Race Tx App where
  lastProven := lastProven
  stagedTransactions := stagedTransactions
  holder := none
  pcs := fun _ => .entry
  appended := stagedTransactions.getD []
  applied := []
  locks := fun _ => 0
  unlocks := fun _ => 0
  recorded := false
  early := fun _ => false

inductive RaceEvent (Tx : Type) where
  | check (i : Nat)
  | lock (i : Nat)
  | materialize (i : Nat)
  | apply (i : Nat)
  | build (i : Nat)
  | record (i : Nat)
  /-- Modelled from the spec: a producer stages `tx` in the "growable list of transaction
  requests guarded by a single mutex". -/
  | append (tx : Tx)

namespace Race

/-- Move call `i` to `pc`. -/
def setPc (s : Race Tx App) (i : Nat) (pc : ProvePc Tx App) : Race Tx App :=
  { s with pcs := Function.update s.pcs i pc }

/-- `e.stagedTransactionsMx.Unlock()` by call `i`. -/
def unlock (s : Race Tx App) (i : Nat) : Race Tx App :=
  { s with holder := none, unlocks := Function.update s.unlocks i (s.unlocks i + 1) }

/-- `e.stagedTransactions = &protobufs.TokenRequests{}` after the `ApplyTransitions` call `call`,
which the ghost `applied` keeps. -/
def drain (s : Race Tx App) (call : ApplyCall Tx App) : Race Tx App :=
  { s with stagedTransactions := some [], applied := s.applied ++ [call] }

end Race

/-- One step; `none` when it is not enabled. -/
def raceStep (ctx : ProveCtx) (calls : Nat → ProveCall Tx Tries App Out) (s : Race Tx App) :
    RaceEvent Tx → Option (Race Tx App)
  | .check i =>
    match s.pcs i with
    | .entry =>
      if shortCircuits s.lastProven (calls i).previousFrame then some (s.setPc i (.done .unchanged))
      else some { s.setPc i .locking with early := Function.update s.early i !s.recorded }
    | _ => none
  | .lock i =>
    match s.pcs i, s.holder with
    | .locking, none =>
      some { s.setPc i .materializing with
        holder := some i, locks := Function.update s.locks i (s.locks i + 1) }
    | _, _ => none
  | .materialize i =>
    match s.pcs i with
    | .materializing =>
      match materialize ctx (calls i).world (calls i).previousFrame with
      | .error err => some ((s.setPc i (.done (.failed err))).unlock i)
      | .ok app => some (s.setPc i (.applying app))
    | _ => none
  | .apply i =>
    match s.pcs i with
    | .applying app =>
      let call := applyStaged (calls i).world (calls i).previousFrame app
        (s.stagedTransactions.getD [])
      match call.result with
      | .error err => some (((s.drain call).setPc i (.done (.failed err))).unlock i)
      | .ok (app, validTransactions, _) =>
        some (((s.drain call).setPc i (.building app validTransactions)).unlock i)
    | _ => none
  | .build i =>
    match s.pcs i with
    | .building app validTransactions =>
      match buildFrame ctx (calls i).world (calls i).previousFrame app validTransactions with
      | .error err => some (s.setPc i (.done (.failed err)))
      | .ok frame => some (s.setPc i (.recording frame))
    | _ => none
  | .record i =>
    match s.pcs i with
    | .recording frame =>
      some { s.setPc i (.done (recordOutcome frame)) with
        lastProven := (calls i).previousFrame.frameNumber, recorded := true }
    | _ => none
  | .append tx =>
    match s.holder with
    | none =>
      some { s with
        stagedTransactions := some (s.stagedTransactions.getD [] ++ [tx])
        appended := s.appended ++ [tx] }
    | some _ => none

/-- The steps `evs`, one after another, from `s`. -/
def raceRun (ctx : ProveCtx) (calls : Nat → ProveCall Tx Tries App Out) (s : Race Tx App) :
    List (RaceEvent Tx) → Option (Race Tx App)
  | [] => some s
  | ev :: evs => (raceStep ctx calls s ev).bind (raceRun ctx calls · evs)

end DataClock
