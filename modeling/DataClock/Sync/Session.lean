import DataClock.Model.Collect

/-!
# Sync — one session

What a call of `sync` hands to the time reel.  `inserts` reads the frames off a trace segment;
`Successive a fs` says that `fs` continue `a` frame by frame, numbered one above the frame before
as natural numbers (so no `uint64` wrap) and stamped no earlier.  `PulledSeg ctx a Δ b` bundles
this with what each insert was checked against: the verifier, and the `maxFrame` of its source.

* `pollOnce_pulled`: one turn of the polling loop appends a pulled segment.
* `pollLoop_pulled`, `sync_pulled`: so does a whole session, by `pollLoop.induct`, as long as the
  session starts below its `maxFrame`, which is what `collect` checks before calling `sync`.
-/

namespace DataClock

/-- The frames a trace segment hands to `dataTimeReel.Insert`, in order. -/
def inserts : List SyncEvent → List ClockFrame
  | [] => []
  | .insert f _ :: evs => f :: inserts evs
  | .exchange .. :: evs => inserts evs

@[simp] theorem inserts_append (Δ₁ Δ₂ : List SyncEvent) :
    inserts (Δ₁ ++ Δ₂) = inserts Δ₁ ++ inserts Δ₂ := by
  induction Δ₁ with
  | nil => rfl
  | cons ev Δ ih => cases ev <;> simp [inserts, ih]

/-- `fs` continue `a` frame by frame: numbered one above the frame before, as a natural number,
and stamped no earlier. -/
def Successive : ClockFrame → List ClockFrame → Prop
  | _, [] => True
  | a, f :: fs =>
    f.frameNumber.toNat = a.frameNumber.toNat + 1 ∧ a.timestamp ≤ f.timestamp ∧ Successive f fs

theorem getLast?_cons_getD {α : Type} (f a : α) (fs : List α) :
    (f :: fs).getLast?.getD a = fs.getLast?.getD f := by
  cases fs <;> rfl

theorem successive_append {a : ClockFrame} {fs gs : List ClockFrame} :
    Successive a (fs ++ gs) ↔ Successive a fs ∧ Successive (fs.getLast?.getD a) gs := by
  induction fs generalizing a with
  | nil => simp [Successive]
  | cons f fs ih =>
    rw [List.cons_append]
    simp only [Successive]
    rw [ih, getLast?_cons_getD, and_assoc, and_assoc]

/-- The numbers of a successive run are the next ones, as natural numbers. -/
theorem Successive.numbers {a : ClockFrame} {fs : List ClockFrame} (h : Successive a fs) :
    fs.map (·.frameNumber.toNat) = List.range' (a.frameNumber.toNat + 1) fs.length := by
  induction fs generalizing a with
  | nil => rfl
  | cons f fs ih =>
    obtain ⟨hn, -, hs⟩ := h
    rw [List.map_cons, List.length_cons, List.range'_succ, ih hs, hn]

theorem Successive.chain {a : ClockFrame} {fs : List ClockFrame} (h : Successive a fs) :
    List.Chain (fun x y => x.timestamp ≤ y.timestamp) a fs := by
  induction fs generalizing a with
  | nil => exact .nil
  | cons f fs ih => exact .cons h.2.1 (ih h.2.2)

/-- A successive run never goes below where it started. -/
theorem Successive.le_last {a : ClockFrame} {fs : List ClockFrame} (h : Successive a fs) :
    a.frameNumber.toNat ≤ (fs.getLast?.getD a).frameNumber.toNat := by
  induction fs generalizing a with
  | nil => exact le_rfl
  | cons f fs ih =>
    obtain ⟨hn, -, hs⟩ := h
    have := ih hs
    rw [getLast?_cons_getD]; omega

theorem getLast?_getD_append {α : Type} (l₁ l₂ : List α) (a : α) :
    (l₁ ++ l₂).getLast?.getD a = l₂.getLast?.getD (l₁.getLast?.getD a) := by
  rw [List.getLast?_append]; cases l₂.getLast? <;> rfl

/-- A trace segment pulled from `start` up to `last`. -/
structure PulledSeg (ctx : SyncCtx) (start : ClockFrame) (Δ : List SyncEvent)
    (last : ClockFrame) : Prop where
  successive : Successive start (inserts Δ)
  last_eq : (inserts Δ).getLast?.getD start = last
  sound : ∀ f src, .insert f src ∈ Δ →
    ctx.verifyDataClockFrame f = none ∧ f.frameNumber ≤ src.maxFrame

namespace PulledSeg

variable {ctx : SyncCtx}

theorem nil (a : ClockFrame) : PulledSeg ctx a [] a :=
  ⟨trivial, rfl, fun _ _ h => by cases h⟩

theorem trans {a b c : ClockFrame} {Δ₁ Δ₂ : List SyncEvent} (h₁ : PulledSeg ctx a Δ₁ b)
    (h₂ : PulledSeg ctx b Δ₂ c) : PulledSeg ctx a (Δ₁ ++ Δ₂) c where
  successive := by
    rw [inserts_append, successive_append, h₁.last_eq]; exact ⟨h₁.successive, h₂.successive⟩
  last_eq := by rw [inserts_append, getLast?_getD_append, h₁.last_eq, h₂.last_eq]
  sound f src h := (List.mem_append.mp h).elim (h₁.sound f src) (h₂.sound f src)

theorem exchange (a : ClockFrame) (p : Bytes) (l : ClockFrame) (r : Reply) :
    PulledSeg ctx a [.exchange p l r] a :=
  ⟨trivial, rfl, fun _ _ h => by simp at h⟩

theorem insert {a f : ClockFrame} {src : PeerCandidate}
    (hn : f.frameNumber.toNat = a.frameNumber.toNat + 1) (ht : a.timestamp ≤ f.timestamp)
    (hv : ctx.verifyDataClockFrame f = none) (hm : f.frameNumber ≤ src.maxFrame) :
    PulledSeg ctx a [.insert f src] f :=
  ⟨⟨hn, ht, trivial⟩, rfl, fun _ _ h => by simp at h; obtain ⟨rfl, rfl⟩ := h; exact ⟨hv, hm⟩⟩

/-- A pulled segment never lowers the frame number. -/
theorem le {a b : ClockFrame} {Δ : List SyncEvent} (h : PulledSeg ctx a Δ b) :
    a.frameNumber.toNat ≤ b.frameNumber.toNat :=
  h.last_eq ▸ h.successive.le_last

end PulledSeg

/-- Where a turn leaves `latest` and the engine. -/
def PollStep.latest? : PollStep → Option ClockFrame
  | .next f _ _ | .out (.exit (some f) _ _ _) => some f
  | .out (.exit none _ _ _) | .out (.panic _) => none

/-- The engine a `sync` body ends with, before the deferred calls. -/
def SyncExit.engine : SyncExit → Engine
  | .exit _ _ _ e | .panic e => e

def PollStep.engine : PollStep → Engine
  | .next _ _ e => e
  | .out x => x.engine

/-- The frame a `sync` body returns. -/
def SyncExit.latest? : SyncExit → Option ClockFrame
  | .exit l _ _ _ => l
  | .panic _ => none

/-- One turn appends a pulled segment, if `latest` is below `maxFrame`. -/
theorem pollOnce_pulled (ctx : SyncCtx) (maxFrame : UInt64) (peerId : Bytes)
    (latest : ClockFrame) (c : Bool) (reply : Reply) (e : Engine)
    (hlt : latest.frameNumber < maxFrame) :
    ∃ Δ last, (pollOnce ctx maxFrame peerId latest c reply e).engine.trace = e.trace ++ Δ ∧
      PulledSeg ctx latest Δ last ∧
      ∀ l, (pollOnce ctx maxFrame peerId latest c reply e).latest? = some l → l = last := by
  have hx : PulledSeg ctx latest [.exchange peerId latest reply] latest := .exchange ..
  rcases pollOnce_cases (r := pollOnce ctx maxFrame peerId latest c reply e) rfl with
    ⟨_, _, h⟩ | ⟨_, h⟩ | ⟨_, _, _, h⟩ | ⟨_, _, _, _, h⟩ | ⟨_, _, _, _, _, _, _, h⟩ |
    ⟨f, _, _, ⟨hf, ht⟩, _, hv, hexit⟩
  all_goals try (rw [h]; exact ⟨_, latest, rfl, hx, by simp [PollStep.latest?]⟩)
  have hn : f.frameNumber.toNat = latest.frameNumber.toNat + 1 := by
    rw [hf, toNat_succ_of_lt hlt]
  have hm : f.frameNumber ≤ maxFrame := by
    rw [toNat_le_toNat, hn]; exact hlt
  have hp := hx.trans
    (PulledSeg.insert hn ht hv hm : PulledSeg ctx latest [.insert f ⟨peerId, maxFrame⟩] f)
  rcases hexit with ⟨-, h⟩ | ⟨-, h⟩ <;> rw [h] <;>
    exact ⟨_, f, by simp [PollStep.engine, SyncExit.engine], hp, by simp [PollStep.latest?]⟩

/-- A whole polling loop appends a pulled segment, if it starts below `maxFrame`. -/
theorem pollLoop_pulled (ctx : SyncCtx) (maxFrame : UInt64) (peerId : Bytes)
    (polls : Nat → Poll) (i : Nat) (latest : ClockFrame) (c : Bool) (e : Engine)
    (hlt : latest.frameNumber < maxFrame) :
    ∃ Δ last, (pollLoop ctx maxFrame peerId polls i latest c e).engine.trace = e.trace ++ Δ ∧
      PulledSeg ctx latest Δ last ∧
      ∀ l, (pollLoop ctx maxFrame peerId polls i latest c e).latest? = some l → l = last := by
  induction i, latest, c, e using pollLoop.induct ctx maxFrame peerId polls with
  | case1 i latest c e hs f c' e' h ih =>
    obtain ⟨Δ₁, l₁, ht₁, hp₁, hl₁⟩ :=
      pollOnce_pulled ctx maxFrame peerId latest c (polls i).reply e hlt
    rw [h] at ht₁ hl₁
    obtain rfl := hl₁ f rfl
    obtain ⟨Δ₂, l₂, ht₂, hp₂, hl₂⟩ := ih (pollOnce_next h).2
    rw [pollLoop_next hs h]
    exact ⟨Δ₁ ++ Δ₂, l₂, by rw [ht₂]; simp [PollStep.engine] at ht₁; simp [ht₁], hp₁.trans hp₂,
      hl₂⟩
  | case2 i latest c e hs x h =>
    obtain ⟨Δ, l, ht, hp, hl⟩ :=
      pollOnce_pulled ctx maxFrame peerId latest c (polls i).reply e hlt
    rw [h] at ht hl
    rw [pollLoop_out hs h]
    exact ⟨Δ, l, ht, hp, fun l' h' => hl l' (by cases x <;> simp_all [PollStep.latest?,
      SyncExit.latest?])⟩
  | case3 i latest c e hs =>
    rw [pollLoop_stop hs]
    exact ⟨[], latest, by simp [SyncExit.engine], .nil latest, by simp [SyncExit.latest?]⟩

theorem SyncExit.finish_trace (x : SyncExit) (peerId : Bytes) (now : Int) :
    (x.finish peerId now).2.trace = x.engine.trace := by
  cases x <;> simp [SyncExit.finish, SyncExit.engine]

theorem SyncExit.finish_ret {x : SyncExit} {peerId : Bytes} {now : Int} {l : Option ClockFrame}
    {err : Option Error} (h : (x.finish peerId now).1 = .ret l err) : x.latest? = l := by
  cases x <;> simp_all [SyncExit.finish, SyncExit.latest?]

/-- A session started below `maxFrame` appends a pulled segment, and returns its last frame. -/
theorem sync_pulled (ctx : SyncCtx) (s : Session) (currentLatest : ClockFrame)
    (maxFrame : UInt64) (peerId : Bytes) (e : Engine)
    (hlt : currentLatest.frameNumber < maxFrame) :
    ∃ Δ last, (sync ctx s currentLatest maxFrame peerId e).2.trace = e.trace ++ Δ ∧
      PulledSeg ctx currentLatest Δ last ∧
      ∀ l err, (sync ctx s currentLatest maxFrame peerId e).1 = .ret (some l) err → l = last := by
  obtain ⟨Δ, l, ht, hp, hl⟩ : ∃ Δ last,
      (syncBody ctx s currentLatest maxFrame peerId e).engine.trace = e.trace ++ Δ ∧
      PulledSeg ctx currentLatest Δ last ∧
      ∀ l, (syncBody ctx s currentLatest maxFrame peerId e).latest? = some l → l = last := by
    unfold syncBody
    cases s.channel with
    | some err => exact ⟨[], _, by simp [SyncExit.engine], .nil _, by simp [SyncExit.latest?]⟩
    | none => exact pollLoop_pulled ctx maxFrame peerId s.polls 0 currentLatest true _ hlt
  exact ⟨Δ, l, by rw [sync, SyncExit.finish_trace, ht], hp,
    fun l' err h => hl l' (SyncExit.finish_ret h)⟩

/-! ### What a session does to the peer map -/

/-- A turn changes nothing but the trace. -/
theorem pollOnce_frame (ctx : SyncCtx) (maxFrame : UInt64) (peerId : Bytes) (latest : ClockFrame)
    (c : Bool) (reply : Reply) (e : Engine) :
    (pollOnce ctx maxFrame peerId latest c reply e).engine =
      { e with trace := (pollOnce ctx maxFrame peerId latest c reply e).engine.trace } := by
  rcases pollOnce_cases (r := pollOnce ctx maxFrame peerId latest c reply e) rfl with
    ⟨_, _, h⟩ | ⟨_, h⟩ | ⟨_, _, _, h⟩ | ⟨_, _, _, _, h⟩ | ⟨_, _, _, _, _, _, _, h⟩ |
    ⟨_, _, _, _, _, _, ⟨-, h⟩ | ⟨-, h⟩⟩ <;> rw [h] <;> rfl

/-- So does the loop. -/
theorem pollLoop_frame (ctx : SyncCtx) (maxFrame : UInt64) (peerId : Bytes) (polls : Nat → Poll)
    (i : Nat) (latest : ClockFrame) (c : Bool) (e : Engine) :
    (pollLoop ctx maxFrame peerId polls i latest c e).engine =
      { e with trace := (pollLoop ctx maxFrame peerId polls i latest c e).engine.trace } := by
  induction i, latest, c, e using pollLoop.induct ctx maxFrame peerId polls with
  | case1 i latest c e hs f c' e' h ih =>
    have hf := pollOnce_frame ctx maxFrame peerId latest c (polls i).reply e
    rw [h] at hf
    rw [pollLoop_next hs h, ih]
    simp only [PollStep.engine] at hf
    rw [hf]
  | case2 i latest c e hs x h =>
    have hf := pollOnce_frame ctx maxFrame peerId latest c (polls i).reply e
    rw [h] at hf
    rw [pollLoop_out hs h]; exact hf
  | case3 i latest c e hs => rw [pollLoop_stop hs]; rfl

/-- While the engine runs and the peer answers every request, a session returns a frame only
after a protocol violation or at `maxFrame`. -/
theorem pollLoop_exit_some (ctx : SyncCtx) (maxFrame : UInt64) (peerId : Bytes)
    (polls : Nat → Poll)
    (hsteady : ∀ i, (polls i).state < ctx.engineStateStopping ∧ (polls i).reply ≠ .nilResponse)
    (i : Nat) (latest : ClockFrame) (c : Bool) (e : Engine) {l : ClockFrame} {err : Option Error}
    {c' : Bool} {e' : Engine}
    (h : pollLoop ctx maxFrame peerId polls i latest c e = .exit (some l) err c' e') :
    c' = false ∨ maxFrame ≤ l.frameNumber := by
  induction i, latest, c, e using pollLoop.induct ctx maxFrame peerId polls with
  | case1 i latest c e hs f c₁ e₁ hn ih => rw [pollLoop_next hs hn] at h; exact ih h
  | case2 i latest c e hs x hx =>
    rw [pollLoop_out hs hx] at h
    subst h
    rcases pollOnce_cases hx with ⟨_, _, h⟩ | ⟨hr, -⟩ | ⟨_, _, _, h⟩ | ⟨_, _, _, _, h⟩ |
      ⟨_, _, _, _, _, _, _, h⟩ | ⟨f, _, _, _, _, _, ⟨hm, h⟩ | ⟨-, h⟩⟩
    · cases h; exact .inl rfl
    · exact absurd hr (hsteady i).2
    · cases h; exact .inl rfl
    · cases h
    · cases h
    · cases h; exact .inr hm
    · cases h
  | case3 i latest c e hs => exact absurd (hsteady i).1 hs

/-- `sync`'s body changes the status and the trace, nothing else. -/
theorem syncBody_frame (ctx : SyncCtx) (s : Session) (l : ClockFrame) (maxFrame : UInt64)
    (peerId : Bytes) (e : Engine) :
    (syncBody ctx s l maxFrame peerId e).engine = { e with
      syncingStatus := .synchronizing,
      trace := (syncBody ctx s l maxFrame peerId e).engine.trace } := by
  unfold syncBody
  cases s.channel with
  | some err => rfl
  | none => exact pollLoop_frame ..

/-- The peer map after a session: untouched, or `peerId` deleted. -/
theorem sync_peerMap (ctx : SyncCtx) (s : Session) (l : ClockFrame) (maxFrame : UInt64)
    (peerId : Bytes) (e : Engine) :
    (sync ctx s l maxFrame peerId e).2.peerMap = e.peerMap ∨
      (sync ctx s l maxFrame peerId e).2.peerMap = e.peerMap.erase peerId := by
  have hf := syncBody_frame ctx s l maxFrame peerId e
  rw [sync]
  generalize syncBody ctx s l maxFrame peerId e = x at hf ⊢
  cases x with
  | exit lo err c e' =>
    simp only [SyncExit.engine] at hf
    simp only [SyncExit.finish, Engine.leave_peerMap]
    rw [hf]; cases c <;> simp
  | panic e' => simp only [SyncExit.engine] at hf; simp only [SyncExit.finish]; rw [hf]; simp

theorem sync_latestFrameReceived (ctx : SyncCtx) (s : Session) (l : ClockFrame)
    (maxFrame : UInt64) (peerId : Bytes) (e : Engine) :
    (sync ctx s l maxFrame peerId e).2.latestFrameReceived = e.latestFrameReceived := by
  have hf := syncBody_frame ctx s l maxFrame peerId e
  rw [sync]
  generalize syncBody ctx s l maxFrame peerId e = x at hf ⊢
  cases x with
  | exit lo err c e' =>
    simp only [SyncExit.engine] at hf
    simp only [SyncExit.finish, Engine.leave_latestFrameReceived]; rw [hf]
  | panic e' => simp only [SyncExit.engine] at hf; simp only [SyncExit.finish]; rw [hf]

/-- While the engine runs and the peer answers every request, a session body returns a frame
only after a protocol violation or at `maxFrame`. -/
theorem syncBody_exit_some (ctx : SyncCtx) (s : Session) (l : ClockFrame) (maxFrame : UInt64)
    (peerId : Bytes) (e : Engine)
    (hsteady : ∀ i, (s.polls i).state < ctx.engineStateStopping ∧
      (s.polls i).reply ≠ .nilResponse)
    {l' : ClockFrame} {err : Option Error} {c : Bool} {e' : Engine}
    (h : syncBody ctx s l maxFrame peerId e = .exit (some l') err c e') :
    c = false ∨ maxFrame ≤ l'.frameNumber := by
  unfold syncBody at h
  cases hch : s.channel with
  | some err => rw [hch] at h; cases h; exact .inl rfl
  | none => rw [hch] at h; exact pollLoop_exit_some ctx maxFrame peerId s.polls hsteady _ _ _ _ h

/-- While the engine runs and the peer answers every request, a session that returns a frame has
deleted the peer from `peerMap` or reached `maxFrame`. -/
theorem sync_progress (ctx : SyncCtx) (s : Session) (l : ClockFrame) (maxFrame : UInt64)
    (peerId : Bytes) (e : Engine)
    (hsteady : ∀ i, (s.polls i).state < ctx.engineStateStopping ∧
      (s.polls i).reply ≠ .nilResponse)
    {l' : ClockFrame} {err : Option Error}
    (h : (sync ctx s l maxFrame peerId e).1 = .ret (some l') err) :
    (sync ctx s l maxFrame peerId e).2.peerMap = e.peerMap.erase peerId ∨
      maxFrame ≤ l'.frameNumber := by
  have hf := syncBody_frame ctx s l maxFrame peerId e
  have hx : ∀ l₁ err₁ c₁ e₁, syncBody ctx s l maxFrame peerId e = .exit (some l₁) err₁ c₁ e₁ →
      c₁ = false ∨ maxFrame ≤ l₁.frameNumber :=
    fun _ _ _ _ h => syncBody_exit_some ctx s l maxFrame peerId e hsteady h
  rw [sync] at h ⊢
  generalize syncBody ctx s l maxFrame peerId e = x at hf hx h ⊢
  cases x with
  | exit lo err' c e' =>
    simp only [SyncExit.finish, SyncResult.ret.injEq] at h
    obtain ⟨rfl, rfl⟩ := h
    simp only [SyncExit.engine] at hf
    rcases hx _ _ _ _ rfl with rfl | hm
    · exact .inl (by simp only [SyncExit.finish, Engine.leave_peerMap]; rw [hf]; simp)
    · exact .inr hm
  | panic e' => cases h

/-- Once the engine is at or above `EngineStateStopping`, a session whose channel opens returns
`latest` at once and demotes no one. -/
theorem sync_stopping (ctx : SyncCtx) (s : Session) (l : ClockFrame) (maxFrame : UInt64)
    (peerId : Bytes) (e : Engine) (hch : s.channel = none)
    (hstop : ctx.engineStateStopping ≤ (s.polls 0).state) :
    sync ctx s l maxFrame peerId e = (.ret (some l) none, { e with syncingStatus := .notSyncing }) := by
  unfold sync syncBody
  rw [hch]
  simp only
  rw [pollLoop_stop (by omega)]
  rfl

end DataClock
