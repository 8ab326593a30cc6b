import DataClock.Model.Protobufs
import Mathlib.Data.List.Perm.Basic
import Mathlib.Data.List.Nodup
import Mathlib.Data.Rat.Defs

/-!
# Model — Peers

The engine's peer registry as `GetAheadPeers` and `sync`'s deferred demotion see it.

* `PeerMap` is a `map[string]*peerInfo` keyed by `string(info.peerId)`: a list of entries with
  pairwise distinct ids, the distinctness a field, so that a map with two entries for one peer
  cannot be built.  `erase` is `delete`, `insert` is an assignment at the entry's own key.
* `getAheadPeers` is `GetAheadPeers`: `none` where `GetFrameProverTries()[0]` indexes an empty
  slice; `some []` for Go's `nil`; otherwise the `range e.peerMap` loop (`aheadStep`, its
  accumulators the candidate list and `maxDiff`), the weights, and the sampler.
* `WeightedSampleWithoutReplacement` is not under `src/`: `Sampler` models it from the spec as a
  draw of every candidate once, in some order.
-/

namespace DataClock

/-- The fields of the engine's `peerInfo` that the modelled code reads. -/
structure PeerInfo where
  peerId : Bytes
  maxFrame : UInt64
  timestamp : Int
  version : Bytes
  deriving DecidableEq, Repr

/-- A `map[string]*peerInfo` keyed by the entry's own `peerId`. -/
structure PeerMap where
  entries : List PeerInfo
  nodup : (entries.map PeerInfo.peerId).Nodup

namespace PeerMap

/-- `m[string(id)]`. -/
def get? (m : PeerMap) (id : Bytes) : Option PeerInfo :=
  m.entries.find? (·.peerId == id)

/-- `_, ok := m[string(id)]`. -/
def contains (m : PeerMap) (id : Bytes) : Bool :=
  m.entries.any (·.peerId == id)

/-- `delete(m, string(id))`. -/
def erase (m : PeerMap) (id : Bytes) : PeerMap :=
  ⟨m.entries.filter (·.peerId != id),
    m.nodup.sublist ((List.filter_sublist _).map _)⟩

/-- `m[string(v.peerId)] = v`. -/
def insert (m : PeerMap) (v : PeerInfo) : PeerMap :=
  ⟨v :: (m.erase v.peerId).entries, by
    refine List.nodup_cons.mpr ⟨?_, (m.erase v.peerId).nodup⟩
    simp [erase]⟩

@[ext] theorem ext {m m' : PeerMap} (h : m.entries = m'.entries) : m = m' := by
  cases m; cases m'; cases h; rfl

/-- `delete` of an absent key changes nothing. -/
theorem erase_of_get?_none {m : PeerMap} {id : Bytes} (h : m.get? id = none) : m.erase id = m := by
  ext1
  simp only [erase, get?, List.find?_eq_none] at h ⊢
  exact List.filter_eq_self.mpr fun v hv => by simpa using h v hv

theorem erase_sublist (m : PeerMap) (id : Bytes) : (m.erase id).entries.Sublist m.entries :=
  List.filter_sublist _

theorem get?_eq_some {m : PeerMap} {id : Bytes} {v : PeerInfo} (h : m.get? id = some v) :
    v ∈ m.entries ∧ v.peerId = id :=
  ⟨List.mem_of_find?_eq_some h, by simpa using List.find?_some h⟩

theorem get?_of_contains {m : PeerMap} {id : Bytes} (h : m.contains id = true) :
    ∃ v, m.get? id = some v :=
  Option.isSome_iff_exists.mp (List.find?_isSome.mpr (List.any_eq_true.mp h))

theorem contains_erase (m : PeerMap) (id id' : Bytes) :
    (m.erase id).contains id' = (m.contains id' && !(id' == id)) := by
  rw [Bool.eq_iff_iff]
  simp only [contains, erase, List.any_eq_true, List.mem_filter, Bool.and_eq_true, bne_iff_ne,
    ne_eq, beq_iff_eq, Bool.not_eq_true']
  constructor
  · rintro ⟨v, ⟨hv, hne⟩, rfl⟩; exact ⟨⟨v, hv, rfl⟩, by simpa using hne⟩
  · rintro ⟨⟨v, hv, rfl⟩, hne⟩; exact ⟨v, ⟨hv, by simpa using hne⟩, rfl⟩

theorem contains_insert (m : PeerMap) (v : PeerInfo) (id : Bytes) :
    (m.insert v).contains id = (v.peerId == id || m.contains id) := by
  have h := contains_erase m v.peerId id
  simp only [contains, insert, List.any_cons] at h ⊢
  rw [h]
  by_cases hid : v.peerId = id
  · simp [hid]
  · simp [beq_eq_false_iff_ne.mpr hid, beq_eq_false_iff_ne.mpr (Ne.symm hid)]

/-- A stronger predicate counts fewer, strictly so if it misses a counted element. -/
theorem countP_lt_countP {α : Type} {l : List α} {p q : α → Bool} (hqp : ∀ x ∈ l, q x → p x)
    {a : α} (ha : a ∈ l) (hp : p a) (hq : q a = false) : l.countP q < l.countP p := by
  -- the `p`-elements are the `q`-elements and the others, among which `a`
  have hsplit := List.length_eq_countP_add_countP q (l.filter p)
  rw [← List.countP_eq_length_filter, List.countP_filter, List.countP_filter] at hsplit
  have hqq : (l.countP fun x => q x && p x) = l.countP q :=
    List.countP_congr fun x hx => by cases h : q x <;> simp [h, hqp x hx]
  have hpos : 0 < l.countP fun x => decide ¬ q x = true && p x :=
    List.countP_pos_iff.mpr ⟨a, ha, by simp [hq, hp]⟩
  omega

/-- Peers in `m` ahead of `h`: what `collect`'s outer loop can still sync from. -/
def aheadCount (m : PeerMap) (h : UInt64) : Nat :=
  m.entries.countP fun v => h < v.maxFrame

/-- A higher head counts no more peers ahead. -/
theorem aheadCount_anti (m : PeerMap) {h h' : UInt64} (hh : h ≤ h') :
    m.aheadCount h' ≤ m.aheadCount h :=
  List.countP_mono_left fun v _ hv => by
    simp only [decide_eq_true_eq] at hv ⊢; exact word_lt_of_le_of_lt hh hv

/-- A higher head that passes a peer counts fewer. -/
theorem aheadCount_lt {m : PeerMap} {h h' : UInt64} {v : PeerInfo} (hh : h ≤ h')
    (hv : v ∈ m.entries) (hlt : h < v.maxFrame) (hle : v.maxFrame ≤ h') :
    m.aheadCount h' < m.aheadCount h :=
  countP_lt_countP (fun w _ hw => by
      simp only [decide_eq_true_eq] at hw ⊢; exact word_lt_of_le_of_lt hh hw) hv
    (by simpa using hlt) (by simpa using hle)

/-- Erasing a peer that is ahead lowers the count. -/
theorem aheadCount_erase_lt {m : PeerMap} {v : PeerInfo} {h : UInt64} (hv : v ∈ m.entries)
    (hlt : h < v.maxFrame) : (m.erase v.peerId).aheadCount h < m.aheadCount h := by
  unfold aheadCount erase
  rw [List.countP_filter]
  exact countP_lt_countP (fun x _ hx => by simp_all) hv (by simpa using hlt) (by simp)

/-- Erasing never raises the count. -/
theorem aheadCount_erase_le (m : PeerMap) (id : Bytes) (h : UInt64) :
    (m.erase id).aheadCount h ≤ m.aheadCount h :=
  (m.erase_sublist id).countP_le _

end PeerMap

/-- `internal.PeerCandidate`. -/
structure PeerCandidate where
  peerID : Bytes
  maxFrame : UInt64
  deriving DecidableEq, Repr

/-- `internal.WeightedPeerCandidate`; the weight is the exact ratio that `GetAheadPeers`'s
`float64` division rounds. -/
structure WeightedPeerCandidate where
  peerCandidate : PeerCandidate
  weight : ℚ

/-- Modelled from the spec: `internal.WeightedSampleWithoutReplacement(candidates,
len(candidates))`, "weighted sampling without replacement" of all candidates.  `draw` is the
random order it returns them in. -/
structure Sampler where
  draw : List WeightedPeerCandidate → List WeightedPeerCandidate
  perm : ∀ cs, (draw cs).Perm cs

/-- What `GetAheadPeers` reads besides the peer maps. -/
structure AheadCtx where
  /-- `e.GetFrameProverTries()`, each trie as its `Contains`. -/
  frameProverTries : List (Bytes → Bool)
  provingKeyAddress : Bytes
  /-- `config.GetMinimumVersionCutoff().UnixMilli()`. -/
  minimumVersionCutoff : Int
  /-- `config.GetMinimumVersion()`. -/
  minimumVersion : Bytes
  sampler : Sampler

/-- `bytes.Compare(a, b) < 0`. -/
def bytesLt : Bytes → Bytes → Bool
  | [], [] => false
  | [], _ :: _ => true
  | _ :: _, [] => false
  | x :: xs, y :: ys => x < y || (x == y && bytesLt xs ys)

/-- One turn of `GetAheadPeers`'s `for _, v := range e.peerMap`, on `(candidates, maxDiff)`. -/
def aheadStep (ctx : AheadCtx) (uncooperativePeersMap : PeerMap) (frameNumber : UInt64)
    (acc : List PeerCandidate × UInt64) (v : PeerInfo) : List PeerCandidate × UInt64 :=
  if v.maxFrame ≤ frameNumber then acc
  else if uncooperativePeersMap.contains v.peerId then acc
  else if v.timestamp ≤ ctx.minimumVersionCutoff then acc
  else if bytesLt v.version ctx.minimumVersion then acc
  else (acc.1 ++ [⟨v.peerId, v.maxFrame⟩], max acc.2 (v.maxFrame - frameNumber))

/-- `candidates[i].Weight = float64(candidates[i].MaxFrame-frameNumber) / float64(maxDiff)`. -/
def weigh (frameNumber maxDiff : UInt64) (c : PeerCandidate) : WeightedPeerCandidate :=
  ⟨c, ((c.maxFrame - frameNumber).toNat : ℚ) / maxDiff.toNat⟩

/-- `GetAheadPeers(frameNumber)`; `none` is the panic of `GetFrameProverTries()[0]` on no
tries. -/
def getAheadPeers (ctx : AheadCtx) (peerMap uncooperativePeersMap : PeerMap)
    (frameNumber : UInt64) : Option (List PeerCandidate) :=
  match ctx.frameProverTries with
  | [] => none
  | trie :: _ =>
    if trie ctx.provingKeyAddress then some []
    else
      let (candidates, maxDiff) :=
        peerMap.entries.foldl (aheadStep ctx uncooperativePeersMap frameNumber) ([], 0)
      if candidates.isEmpty then some []
      else some ((ctx.sampler.draw (candidates.map (weigh frameNumber maxDiff))).map
        (·.peerCandidate))

/-- A turn of the `range e.peerMap` loop appends only the entry it looks at, if ahead. -/
theorem mem_aheadStep {ctx : AheadCtx} {um : PeerMap} {frameNumber : UInt64}
    {acc : List PeerCandidate × UInt64} {v : PeerInfo} {c : PeerCandidate}
    (h : c ∈ (aheadStep ctx um frameNumber acc v).1) :
    c ∈ acc.1 ∨ c = ⟨v.peerId, v.maxFrame⟩ ∧ frameNumber < v.maxFrame := by
  unfold aheadStep at h
  split_ifs at h with h₁ <;> simp_all

/-- What the loop appends comes from an entry ahead of `frameNumber`. -/
theorem mem_foldl_aheadStep {ctx : AheadCtx} {um : PeerMap} {frameNumber : UInt64}
    {c : PeerCandidate} : ∀ (l : List PeerInfo) (acc : List PeerCandidate × UInt64),
    c ∈ (l.foldl (aheadStep ctx um frameNumber) acc).1 →
      c ∈ acc.1 ∨ ∃ v ∈ l, c = ⟨v.peerId, v.maxFrame⟩ ∧ frameNumber < v.maxFrame
  | [], _, h => .inl h
  | v :: l, acc, h => by
    rcases mem_foldl_aheadStep l _ h with h | ⟨w, hw, rfl, hlt⟩
    · rcases mem_aheadStep h with h | ⟨rfl, hlt⟩
      · exact .inl h
      · exact .inr ⟨v, List.mem_cons_self v l, rfl, hlt⟩
    · exact .inr ⟨w, List.mem_cons_of_mem v hw, rfl, hlt⟩

/-- Every candidate `GetAheadPeers` returns is a peer of the map ahead of `frameNumber`. -/
theorem getAheadPeers_mem {ctx : AheadCtx} {pm um : PeerMap} {frameNumber : UInt64}
    {cs : List PeerCandidate} (h : getAheadPeers ctx pm um frameNumber = some cs)
    {c : PeerCandidate} (hc : c ∈ cs) :
    ∃ v ∈ pm.entries, v.peerId = c.peerID ∧ v.maxFrame = c.maxFrame ∧ frameNumber < v.maxFrame := by
  unfold getAheadPeers at h
  split at h
  · cases h
  split at h
  · cases h; cases hc
  split at h
  split at h
  · cases h; cases hc
  cases h
  rename_i heq _
  obtain ⟨w, hw, rfl⟩ := List.mem_map.mp hc
  obtain ⟨c', hc', rfl⟩ := List.mem_map.mp ((ctx.sampler.perm _).subset hw)
  have hc'' : c' ∈ (pm.entries.foldl (aheadStep ctx um frameNumber) ([], 0)).1 := by
    rw [heq]; exact hc'
  rcases mem_foldl_aheadStep _ _ hc'' with h | ⟨v, hv, rfl, hlt⟩
  · cases h
  · exact ⟨v, hv, rfl, rfl, hlt⟩

end DataClock
