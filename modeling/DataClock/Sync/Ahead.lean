import DataClock.Model.Peers
import DataClock.Support.Word
import Mathlib.Algebra.Order.Field.Rat

/-!
# Sync — the candidates of GetAheadPeers

A turn of `GetAheadPeers`'s loop appends the entry it looks at, and raises `maxDiff` to its lead
`maxFrame - frameNumber`, exactly when the entry passes the loop's four checks (`aheadStep_eq`).
So the candidates are the entries that pass, in the order of the map (`foldl_aheadStep_fst`), and
the loop keeps `AheadInv`: every candidate is ahead of `frameNumber`, and `maxDiff` is the largest
lead among the candidates.

* `getAheadPeers_weighs_candidates`: when the node is not in the first prover trie, the sampler
  gets the entries that pass the four checks, each once; `maxDiff` is their largest lead and at
  least `1`, no lead wraps, each candidate is weighed `(maxFrame - frameNumber) / maxDiff` as an
  exact ratio, and every weight lies in `(0, 1]`, with the farthest peer at `1`.
* `getAheadPeers_perm`: it then returns each of those entries exactly once, in the sampler's
  order.
-/

namespace DataClock

/-- `v` passes the four checks of the loop: ahead of `frameNumber`, not uncooperative, seen after
the minimum-version cutoff, and at least the minimum version. -/
def eligible (ctx : AheadCtx) (uncooperativePeersMap : PeerMap) (frameNumber : UInt64)
    (v : PeerInfo) : Bool :=
  decide (frameNumber < v.maxFrame) && !uncooperativePeersMap.contains v.peerId &&
    decide (ctx.minimumVersionCutoff < v.timestamp) && !bytesLt v.version ctx.minimumVersion

/-- The `internal.PeerCandidate` the loop appends for `v`. -/
def PeerInfo.candidate (v : PeerInfo) : PeerCandidate := ⟨v.peerId, v.maxFrame⟩

@[simp] theorem PeerInfo.candidate_maxFrame (v : PeerInfo) : v.candidate.maxFrame = v.maxFrame :=
  rfl

@[simp] theorem PeerInfo.candidate_peerID (v : PeerInfo) : v.candidate.peerID = v.peerId := rfl

section Loop

variable {ctx : AheadCtx} {um : PeerMap} {frameNumber : UInt64}

theorem aheadStep_eq (acc : List PeerCandidate × UInt64) (v : PeerInfo) :
    aheadStep ctx um frameNumber acc v =
      if eligible ctx um frameNumber v then
        (acc.1 ++ [v.candidate], max acc.2 (v.maxFrame - frameNumber))
      else acc := by
  unfold aheadStep eligible
  simp only [← UInt64.not_le, ← Int.not_le]
  split_ifs <;> simp_all [PeerInfo.candidate]

theorem foldl_aheadStep_fst :
    ∀ (l : List PeerInfo) (acc : List PeerCandidate × UInt64),
      (l.foldl (aheadStep ctx um frameNumber) acc).1 =
        acc.1 ++ (l.filter (eligible ctx um frameNumber)).map PeerInfo.candidate
  | [], _ => by simp
  | v :: l, acc => by
    rw [List.foldl_cons, foldl_aheadStep_fst l, aheadStep_eq]
    by_cases hv : eligible ctx um frameNumber v <;> simp [hv, List.filter_cons]

/-- What the loop keeps of `(candidates, maxDiff)`. -/
structure AheadInv (frameNumber : UInt64) (acc : List PeerCandidate × UInt64) : Prop where
  ahead : ∀ c ∈ acc.1, frameNumber < c.maxFrame
  le_maxDiff : ∀ c ∈ acc.1, c.maxFrame - frameNumber ≤ acc.2
  maxDiff_mem : acc.1 = [] ∧ acc.2 = 0 ∨ ∃ c ∈ acc.1, c.maxFrame - frameNumber = acc.2

theorem AheadInv.nil : AheadInv frameNumber ([], 0) :=
  ⟨by simp, by simp, .inl ⟨rfl, rfl⟩⟩

theorem AheadInv.step {acc : List PeerCandidate × UInt64} (hi : AheadInv frameNumber acc)
    (v : PeerInfo) : AheadInv frameNumber (aheadStep ctx um frameNumber acc v) := by
  rw [aheadStep_eq]
  split
  · rename_i hv
    have hlt : frameNumber < v.maxFrame := by
      simp only [eligible, Bool.and_eq_true, decide_eq_true_eq] at hv
      exact hv.1.1.1
    have hmax := toNat_max acc.2 (v.maxFrame - frameNumber)
    refine ⟨?_, ?_, ?_⟩ <;> simp only [List.mem_append, List.mem_singleton]
    · rintro c (hc | rfl)
      exacts [hi.ahead c hc, hlt]
    · rintro c (hc | rfl) <;> rw [toNat_le_toNat, hmax]
      · exact le_max_of_le_left (hi.le_maxDiff c hc)
      · exact le_max_right _ _
    · by_cases hle : acc.2 ≤ v.maxFrame - frameNumber
      · exact .inr ⟨v.candidate, .inr rfl, (word_max_of_le hle).symm⟩
      · rw [word_max_of_not_le hle]
        rcases hi.maxDiff_mem with ⟨-, h0⟩ | ⟨c, hc, hcd⟩
        · exact absurd (by rw [h0]; exact toNat_le_toNat.mpr (Nat.zero_le _)) hle
        · exact .inr ⟨c, .inl hc, hcd⟩
  · exact hi

theorem AheadInv.foldl :
    ∀ (l : List PeerInfo) {acc : List PeerCandidate × UInt64}, AheadInv frameNumber acc →
      AheadInv frameNumber (l.foldl (aheadStep ctx um frameNumber) acc)
  | [], _, hi => hi
  | v :: l, _, hi => AheadInv.foldl l (hi.step v)

end Loop

/-- A lead past `frameNumber` does not wrap, is at least `1`, and weighs in `(0, 1]` against any
`maxDiff` at least as large; it weighs exactly `1` against itself. -/
theorem weigh_weight {frameNumber maxDiff : UInt64} {c : PeerCandidate}
    (hlt : frameNumber < c.maxFrame) (hle : c.maxFrame - frameNumber ≤ maxDiff) :
    (c.maxFrame - frameNumber).toNat = c.maxFrame.toNat - frameNumber.toNat ∧
      1 ≤ (c.maxFrame - frameNumber).toNat ∧
      0 < (weigh frameNumber maxDiff c).weight ∧ (weigh frameNumber maxDiff c).weight ≤ 1 ∧
      (c.maxFrame - frameNumber = maxDiff → (weigh frameNumber maxDiff c).weight = 1) := by
  have hsub := UInt64.toNat_sub_of_le _ _ (toNat_le_toNat.mpr (Nat.le_of_lt hlt))
  have hpos : 1 ≤ (c.maxFrame - frameNumber).toNat := by
    rw [hsub]; exact Nat.sub_pos_of_lt hlt
  have hd : (0 : ℚ) < maxDiff.toNat := by
    exact_mod_cast Nat.lt_of_lt_of_le hpos (toNat_le_toNat.mp hle)
  refine ⟨hsub, hpos, div_pos (by exact_mod_cast hpos) hd,
    div_le_one_of_le₀ (by exact_mod_cast toNat_le_toNat.mp hle) hd.le, fun heq => ?_⟩
  simp only [weigh, heq]
  exact div_self (ne_of_gt hd)

/-- Past the prover-trie check, `GetAheadPeers` hands the weighted candidates of its loop to the
sampler. -/
theorem getAheadPeers_of_not_mem {ctx : AheadCtx} {peerMap uncooperativePeersMap : PeerMap}
    {frameNumber : UInt64} {trie : Bytes → Bool} {tries : List (Bytes → Bool)}
    (htries : ctx.frameProverTries = trie :: tries) (hself : trie ctx.provingKeyAddress = false) :
    let scan := peerMap.entries.foldl (aheadStep ctx uncooperativePeersMap frameNumber) ([], 0)
    getAheadPeers ctx peerMap uncooperativePeersMap frameNumber =
      if scan.1.isEmpty then some []
      else some ((ctx.sampler.draw (scan.1.map (weigh frameNumber scan.2))).map
        (·.peerCandidate)) := by
  unfold getAheadPeers; rw [htries]; simp only [hself]; rfl

/-- Past the prover-trie check, `GetAheadPeers` returns each peer that passes the four checks
exactly once, in the sampler's order. -/
theorem getAheadPeers_perm {ctx : AheadCtx} {peerMap uncooperativePeersMap : PeerMap}
    {frameNumber : UInt64} {trie : Bytes → Bool} {tries : List (Bytes → Bool)}
    (htries : ctx.frameProverTries = trie :: tries) (hself : trie ctx.provingKeyAddress = false) :
    ∃ cs, getAheadPeers ctx peerMap uncooperativePeersMap frameNumber = some cs ∧
      cs.Perm ((peerMap.entries.filter (eligible ctx uncooperativePeersMap frameNumber)).map
        PeerInfo.candidate) := by
  have hfst : (peerMap.entries.foldl (aheadStep ctx uncooperativePeersMap frameNumber) ([], 0)).1 =
      _ := (foldl_aheadStep_fst _ _).trans (List.nil_append _)
  rw [getAheadPeers_of_not_mem htries hself, ← hfst]
  split
  · rename_i h; exact ⟨[], rfl, by rw [List.isEmpty_iff.mp h]⟩
  · refine ⟨_, rfl, ((ctx.sampler.perm _).map _).trans ?_⟩
    simp [weigh, Function.comp_def]

theorem getAheadPeers_weighs_candidates (ctx : AheadCtx) (peerMap uncooperativePeersMap : PeerMap)
    (frameNumber : UInt64) (trie : Bytes → Bool) (tries : List (Bytes → Bool))
    (htries : ctx.frameProverTries = trie :: tries) (hself : trie ctx.provingKeyAddress = false) :
    let scan := peerMap.entries.foldl (aheadStep ctx uncooperativePeersMap frameNumber) ([], 0)
    (getAheadPeers ctx peerMap uncooperativePeersMap frameNumber =
      if scan.1.isEmpty then some []
      else some ((ctx.sampler.draw (scan.1.map (weigh frameNumber scan.2))).map
        (·.peerCandidate))) ∧
    scan.1 = (peerMap.entries.filter (eligible ctx uncooperativePeersMap frameNumber)).map
      PeerInfo.candidate ∧
    (scan.1.map (·.peerID)).Nodup ∧
    (∀ c ∈ scan.1, c.maxFrame - frameNumber ≤ scan.2 ∧
      (c.maxFrame - frameNumber).toNat = c.maxFrame.toNat - frameNumber.toNat) ∧
    (scan.1 ≠ [] → (∃ c ∈ scan.1, c.maxFrame - frameNumber = scan.2) ∧ 1 ≤ scan.2.toNat) ∧
    (∀ c ∈ scan.1, weigh frameNumber scan.2 c =
      ⟨c, ((c.maxFrame.toNat - frameNumber.toNat : ℕ) : ℚ) / scan.2.toNat⟩) ∧
    (∀ c ∈ scan.1,
      0 < (weigh frameNumber scan.2 c).weight ∧ (weigh frameNumber scan.2 c).weight ≤ 1) ∧
    ∀ c ∈ scan.1, c.maxFrame - frameNumber = scan.2 → (weigh frameNumber scan.2 c).weight = 1 := by
  intro scan
  have hi : AheadInv frameNumber scan := AheadInv.foldl _ AheadInv.nil
  have hw : ∀ c ∈ scan.1, _ := fun c hc => weigh_weight (hi.ahead c hc) (hi.le_maxDiff c hc)
  have hfst : scan.1 = _ := (foldl_aheadStep_fst peerMap.entries ([], 0)).trans (List.nil_append _)
  refine ⟨?_, hfst, ?_, fun c hc => ⟨hi.le_maxDiff c hc, (hw c hc).1⟩, fun hne => ?_,
    fun c hc => by rw [weigh, (hw c hc).1], fun c hc => ⟨(hw c hc).2.2.1, (hw c hc).2.2.2.1⟩,
    fun c hc => (hw c hc).2.2.2.2⟩
  · exact getAheadPeers_of_not_mem htries hself
  · rw [hfst, List.map_map]
    exact peerMap.nodup.sublist ((List.filter_sublist _).map _)
  · obtain ⟨c, hc, hcd⟩ := hi.maxDiff_mem.resolve_left (fun h => hne h.1)
    exact ⟨⟨c, hc, hcd⟩, hcd ▸ (hw c hc).2.1⟩

/-- Not in its one prover trie, with no version cutoff; the sampler keeps the order. -/
def aheadDemoCtx : AheadCtx := ⟨[fun _ => false], [], 0, [], ⟨id, List.Perm.refl⟩⟩

/-- At head `5`: `[1]` leads by `3`, `[2]` by `1`, `[3]` is behind, and `[4]` leads but is
uncooperative. -/
def aheadDemoPeers : PeerMap :=
  ⟨[⟨[1], 8, 1, []⟩, ⟨[2], 6, 1, []⟩, ⟨[3], 4, 1, []⟩, ⟨[4], 9, 1, []⟩], by decide⟩

def aheadDemoUncooperative : PeerMap := ⟨[⟨[4], 9, 1, []⟩], by decide⟩

example : aheadDemoPeers.entries.foldl (aheadStep aheadDemoCtx aheadDemoUncooperative 5) ([], 0) =
    ([⟨[1], 8⟩, ⟨[2], 6⟩], 3) := by
  decide

theorem getAheadPeers_weighs_candidates_demo :
    let scan := aheadDemoPeers.entries.foldl (aheadStep aheadDemoCtx aheadDemoUncooperative 5) ([], 0)
    (getAheadPeers aheadDemoCtx aheadDemoPeers aheadDemoUncooperative 5 =
      if scan.1.isEmpty then some []
      else some ((aheadDemoCtx.sampler.draw (scan.1.map (weigh 5 scan.2))).map
        (·.peerCandidate))) ∧
    scan.1 = (aheadDemoPeers.entries.filter (eligible aheadDemoCtx aheadDemoUncooperative 5)).map
      PeerInfo.candidate ∧
    (scan.1.map (·.peerID)).Nodup ∧
    (∀ c ∈ scan.1, c.maxFrame - 5 ≤ scan.2 ∧ (c.maxFrame - 5).toNat = c.maxFrame.toNat - 5) ∧
    (scan.1 ≠ [] → (∃ c ∈ scan.1, c.maxFrame - 5 = scan.2) ∧ 1 ≤ scan.2.toNat) ∧
    (∀ c ∈ scan.1, weigh 5 scan.2 c = ⟨c, ((c.maxFrame.toNat - 5 : ℕ) : ℚ) / scan.2.toNat⟩) ∧
    (∀ c ∈ scan.1, 0 < (weigh 5 scan.2 c).weight ∧ (weigh 5 scan.2 c).weight ≤ 1) ∧
    ∀ c ∈ scan.1, c.maxFrame - 5 = scan.2 → (weigh 5 scan.2 c).weight = 1 :=
  getAheadPeers_weighs_candidates aheadDemoCtx aheadDemoPeers aheadDemoUncooperative 5 _ [] rfl rfl

end DataClock
