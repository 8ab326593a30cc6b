import Mathlib.Data.BitVec
import DataClock.Model.Protobufs

/-!
# Model — peer scores

`BlossomSub`'s application scores (`blossomsub.go`, lines 769–790).  `b.peerScore` is a
`map[string]int64` keyed by the peer id's bytes, made empty by `NewBlossomSub` and read and written
only between `b.peerScoreMx.Lock()` and `Unlock()`.  So each of `GetPeerScore`, `SetPeerScore` and
`AddPeerScore` is one atomic step on the map, and goroutines that call them concurrently run
their steps in the order the mutex admits them: `runScores`.

The map is `Bytes → Option (BitVec 64)`, `none` for a missing key.  Go's `int64` `+` wraps, as
`BitVec 64`'s does, and a missing key reads as `int64`'s zero value.
-/

namespace DataClock

/-- `b.peerScore`. -/
abbrev PeerScores := Bytes → Option (BitVec 64)

/-- `GetPeerScore(peerId)`, lines 769–774. -/
def getPeerScore (peerScore : PeerScores) (peerId : Bytes) : BitVec 64 :=
  (peerScore peerId).getD 0

/-- `SetPeerScore(peerId, score)`, lines 776–780. -/
def setPeerScore (peerScore : PeerScores) (peerId : Bytes) (score : BitVec 64) : PeerScores :=
  Function.update peerScore peerId (some score)

/-- `AddPeerScore(peerId, scoreDelta)`, lines 782–790: a missing peer gets `scoreDelta`, a present
one its score plus `scoreDelta`. -/
def addPeerScore (peerScore : PeerScores) (peerId : Bytes) (scoreDelta : BitVec 64) :
    PeerScores :=
  match peerScore peerId with
  | none => Function.update peerScore peerId (some scoreDelta)
  | some score => Function.update peerScore peerId (some (score + scoreDelta))

/-- A call that writes the map. -/
inductive ScoreOp where
  | set (peerId : Bytes) (score : BitVec 64)
  | add (peerId : Bytes) (scoreDelta : BitVec 64)
  deriving DecidableEq, Repr

/-- The peer a call writes. -/
def ScoreOp.peerId : ScoreOp → Bytes
  | .set peerId _ | .add peerId _ => peerId

@[simp] theorem ScoreOp.peerId_set (peerId : Bytes) (score : BitVec 64) :
    (ScoreOp.set peerId score).peerId = peerId := rfl

@[simp] theorem ScoreOp.peerId_add (peerId : Bytes) (scoreDelta : BitVec 64) :
    (ScoreOp.add peerId scoreDelta).peerId = peerId := rfl

/-- One call's critical section. -/
def ScoreOp.run (peerScore : PeerScores) : ScoreOp → PeerScores
  | .set peerId score => setPeerScore peerScore peerId score
  | .add peerId scoreDelta => addPeerScore peerScore peerId scoreDelta

/-- The calls' critical sections, in the order `peerScoreMx` admits them. -/
def runScores (peerScore : PeerScores) (ops : List ScoreOp) : PeerScores :=
  ops.foldl ScoreOp.run peerScore

@[simp] theorem runScores_nil (peerScore : PeerScores) : runScores peerScore [] = peerScore := rfl

@[simp] theorem runScores_cons (peerScore : PeerScores) (op : ScoreOp) (ops : List ScoreOp) :
    runScores peerScore (op :: ops) = runScores (op.run peerScore) ops := rfl

/-- Both branches of `AddPeerScore` store the score `GetPeerScore` reads, plus `scoreDelta`. -/
theorem addPeerScore_eq (peerScore : PeerScores) (peerId : Bytes) (scoreDelta : BitVec 64) :
    addPeerScore peerScore peerId scoreDelta =
      setPeerScore peerScore peerId (getPeerScore peerScore peerId + scoreDelta) := by
  unfold addPeerScore setPeerScore getPeerScore
  cases peerScore peerId <;> simp

@[simp] theorem getPeerScore_setPeerScore (peerScore : PeerScores) (peerId id : Bytes)
    (score : BitVec 64) :
    getPeerScore (setPeerScore peerScore peerId score) id =
      if id = peerId then score else getPeerScore peerScore id := by
  unfold getPeerScore setPeerScore
  split_ifs with h
  · subst h; simp
  · simp [Function.update_noteq h]

end DataClock
