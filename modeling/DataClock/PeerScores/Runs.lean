import DataClock.Model.PeerScores

/-!
# Peer scores — runs of concurrent calls

What the score store is for, said per peer: a counter that `SetPeerScore` replaces and
`AddPeerScore` adds to, starting from zero (`ScoreOp.apply`).  The map refines it: after any
sequence of calls, in whatever order the mutex admitted them, `GetPeerScore` of a peer reads the
counter run over that peer's own calls only (`getPeerScore_runScores`).

Calls to `AddPeerScore` commute (`addPeerScore_comm`), so every interleaving of goroutines that
only add leaves the same map, and each peer's score is its start plus the sum of its deltas, with
`int64` wrap: no update is lost (`addPeerScore_interleavings`).
-/

namespace DataClock

/-- A call's effect on the score of the peer it writes. -/
def ScoreOp.apply (score : BitVec 64) : ScoreOp → BitVec 64
  | .set _ s => s
  | .add _ scoreDelta => score + scoreDelta

@[simp] theorem ScoreOp.apply_set (score : BitVec 64) (peerId : Bytes) (s : BitVec 64) :
    (ScoreOp.set peerId s).apply score = s := rfl

@[simp] theorem ScoreOp.apply_add (score : BitVec 64) (peerId : Bytes) (scoreDelta : BitVec 64) :
    (ScoreOp.add peerId scoreDelta).apply score = score + scoreDelta := rfl

theorem getPeerScore_run (peerScore : PeerScores) (op : ScoreOp) (id : Bytes) :
    getPeerScore (op.run peerScore) id =
      if id = op.peerId then op.apply (getPeerScore peerScore id) else getPeerScore peerScore id := by
  cases op with
  | set peerId score => simp [ScoreOp.run]
  | add peerId scoreDelta =>
    simp only [ScoreOp.run, addPeerScore_eq, getPeerScore_setPeerScore, ScoreOp.peerId_add,
      ScoreOp.apply_add]
    split_ifs with h <;> simp [h]

theorem getPeerScore_runScores (peerScore : PeerScores) (ops : List ScoreOp) (id : Bytes) :
    getPeerScore (runScores peerScore ops) id =
      (ops.filter (·.peerId == id)).foldl ScoreOp.apply (getPeerScore peerScore id) := by
  induction ops generalizing peerScore with
  | nil => rfl
  | cons op ops ih =>
    rw [runScores_cons, ih, getPeerScore_run]
    by_cases h : id = op.peerId
    · simp [h]
    · simp [h, List.filter_cons, Ne.symm h]

example : getPeerScore (runScores (fun _ => none)
    [.add [1] 5#64, .set [2] 7#64, .add [1] 3#64, .add [2] 1#64]) [1] = 8#64 := by decide

/-- Two `AddPeerScore` calls commute, on one peer or on two. -/
theorem addPeerScore_comm (peerScore : PeerScores) (p q : Bytes) (d e : BitVec 64) :
    addPeerScore (addPeerScore peerScore p d) q e = addPeerScore (addPeerScore peerScore q e) p d := by
  simp only [addPeerScore_eq, setPeerScore]
  by_cases h : p = q
  · subst h
    simp only [getPeerScore, Function.update_same, Option.getD_some, Function.update_idem,
      BitVec.add_assoc, BitVec.add_comm d]
  · simp only [getPeerScore, Function.update_noteq h, Function.update_noteq (Ne.symm h)]
    exact Function.update_comm h _ _ _

theorem runScores_adds_perm (peerScore : PeerScores) {adds adds' : List (Bytes × BitVec 64)}
    (h : adds'.Perm adds) :
    runScores peerScore (adds'.map fun a => .add a.1 a.2) =
      runScores peerScore (adds.map fun a => .add a.1 a.2) := by
  simp only [runScores, List.foldl_map]
  exact h.foldl_eq' (fun a _ b _ m => addPeerScore_comm m a.1 b.1 a.2 b.2) peerScore

theorem getPeerScore_adds (peerScore : PeerScores) (adds : List (Bytes × BitVec 64)) (id : Bytes) :
    getPeerScore (runScores peerScore (adds.map fun a => .add a.1 a.2)) id =
      getPeerScore peerScore id + ((adds.filter (·.1 == id)).map (·.2)).sum := by
  induction adds generalizing peerScore with
  | nil => simp
  | cons a adds ih =>
    rw [List.map_cons, runScores_cons, ih, getPeerScore_run]
    by_cases h : id = a.1
    · simp [h, BitVec.add_assoc]
    · simp [h, List.filter_cons, Ne.symm h]

theorem addPeerScore_interleavings (peerScore : PeerScores) (adds adds' : List (Bytes × BitVec 64))
    (h : adds'.Perm adds) :
    runScores peerScore (adds'.map fun a => .add a.1 a.2) =
      runScores peerScore (adds.map fun a => .add a.1 a.2) ∧
    ∀ id, getPeerScore (runScores peerScore (adds'.map fun a => .add a.1 a.2)) id =
      getPeerScore peerScore id + ((adds.filter (·.1 == id)).map (·.2)).sum := by
  rw [runScores_adds_perm peerScore h]
  exact ⟨rfl, getPeerScore_adds peerScore adds⟩

/-- Two goroutines, one adding `5` and then `3` to peer `[1]`, the other `2` to peer `[2]`, and
two of the orders the mutex may admit their calls in. -/
theorem addPeerScore_interleavings_demo :
    runScores (fun _ => none) ([([1], 5#64), ([2], 2#64), ([1], 3#64)].map fun a => .add a.1 a.2) =
      runScores (fun _ => none)
        ([([1], 5#64), ([1], 3#64), ([2], 2#64)].map fun a => .add a.1 a.2) ∧
    ∀ id, getPeerScore (runScores (fun _ => none)
        ([([1], 5#64), ([2], 2#64), ([1], 3#64)].map fun a => .add a.1 a.2)) id =
      getPeerScore (fun _ => none) id +
        ((([([1], 5#64), ([1], 3#64), ([2], 2#64)] : List (Bytes × BitVec 64)).filter
          (·.1 == id)).map (·.2)).sum :=
  addPeerScore_interleavings (fun _ => none) _ _ (by decide)

end DataClock
