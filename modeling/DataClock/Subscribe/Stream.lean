import DataClock.Model.Subscribe
import Mathlib.Data.List.Forall2

/-!
# Subscribe — the streaming loop

`streamLoop_eq` says what a streaming goroutine does over any answers of `sub.Next`: it panics at
the first answer whose message is nil, and until then hands `handler` the messages whose `Bitmask`
is the subscribed bitmask, in the order they came.  An error of `sub.Next` (a cancelled context,
a closed subscription) comes with a nil message, and the loop logs it without `continue`: the
next line, `bytes.Equal(m.Bitmask, copiedBitmask)`, dereferences the nil message.

* `stream_panics_on_error`: over any answers that all carry a message, the handler gets exactly
  the messages on the subscribed bitmask, in order; an error answer panics, whatever came before
  or comes after.
* `subscribe_spec`: a `Subscribe` that fails returns an error wrapped with `"subscribe"` and starts
  no goroutine; one that succeeds starts one per bit of the join, the i-th reading the i-th bit's
  own subscription (the loop's `sub := sub`) and comparing against the whole `bitmask`, and
  records every bit in `bitmaskMap`.  Neither removes a key of `bitmaskMap`.
-/

namespace DataClock

/-- The messages among `results` whose `Bitmask` is `copiedBitmask`, in order. -/
def matching (copiedBitmask : Bytes) (results : List NextResult) : List PbMessage :=
  (results.filterMap (·.m)).filter (·.bitmask == copiedBitmask)

@[simp] theorem matching_nil (copiedBitmask : Bytes) : matching copiedBitmask [] = [] := rfl

theorem matching_cons_some (copiedBitmask : Bytes) {r : NextResult} {m : PbMessage}
    (hr : r.m = some m) (results : List NextResult) :
    matching copiedBitmask (r :: results) =
      (if m.bitmask == copiedBitmask then [m] else []) ++ matching copiedBitmask results := by
  by_cases hb : m.bitmask == copiedBitmask <;> simp [matching, hr, hb, List.filter_cons]

/-- A streaming goroutine panics at the first nil message; until then it hands `handler` the
messages on the subscribed bitmask, in order. -/
theorem streamLoop_eq (copiedBitmask : Bytes) :
    ∀ (results : List NextResult) (handled : List PbMessage),
      streamLoop copiedBitmask results handled =
        if results.all (·.m.isSome) then some (handled ++ matching copiedBitmask results)
        else none
  | [], handled => by simp [streamLoop]
  | r :: results, handled => by
    rcases hr : r.m with _ | m
    · simp [streamLoop, hr]
    · rw [streamLoop, hr]
      simp only
      rw [streamLoop_eq, matching_cons_some copiedBitmask hr]
      by_cases hb : m.bitmask == copiedBitmask <;> simp [hr, hb]

theorem stream_panics_on_error (copiedBitmask : Bytes) (results post : List NextResult)
    (err : Error) :
    ((∀ r ∈ results, r.m.isSome) →
      streamLoop copiedBitmask results [] = some (matching copiedBitmask results)) ∧
    streamLoop copiedBitmask (results ++ ⟨none, some err⟩ :: post) [] = none := by
  refine ⟨fun h => ?_, ?_⟩ <;> rw [streamLoop_eq]
  · simp [List.all_eq_true.mpr h]
  · simp

/-- The subscription has delivered `[1]`, a message on another bitmask, and then `sub.Next`
reports the cancelled context. -/
theorem stream_panics_on_cancel :
    streamLoop [1] [⟨some ⟨[1], [7]⟩, none⟩, ⟨some ⟨[2], [8]⟩, none⟩,
      ⟨none, some (.new "context canceled")⟩] [] = none :=
  (stream_panics_on_error [1] [⟨some ⟨[1], [7]⟩, none⟩, ⟨some ⟨[2], [8]⟩, none⟩] []
    (.new "context canceled")).2

/-! ### Setting up the subscriptions -/

variable {Sub : Type}

theorem subscribeBits_spec (w : PubSubWorld Sub) :
    ∀ (bits bitmaskMap : List Bytes),
      (∀ k ∈ bitmaskMap, k ∈ (subscribeBits w bits bitmaskMap).2) ∧
      (∀ subs, (subscribeBits w bits bitmaskMap).1 = .ok subs →
        List.Forall₂ (fun bit sub => w.subscribeBit bit = .ok sub) bits subs ∧
          ∀ bit ∈ bits, bit ∈ (subscribeBits w bits bitmaskMap).2) ∧
      ∀ err, (subscribeBits w bits bitmaskMap).1 = .error err →
        ∃ cause : Error, err = cause.wrap "subscribe"
  | [], bitmaskMap => ⟨fun _ => id, fun subs h => by cases h; simp, fun _ h => by cases h⟩
  | bit :: bits, bitmaskMap => by
    simp only [subscribeBits]
    cases hs : w.subscribeBit bit with
    | error cause =>
      refine ⟨fun _ => id, fun _ h => ?_, fun _ h => ⟨cause, (Except.error.inj h).symm⟩⟩
      cases h
    | ok sub =>
      simp only
      obtain ⟨hkeep, hok, herr⟩ := subscribeBits_spec w bits
        (if bitmaskMap.contains bit then bitmaskMap else bitmaskMap ++ [bit])
      have hbit : bit ∈ (if bitmaskMap.contains bit then bitmaskMap else bitmaskMap ++ [bit]) := by
        split <;> simp_all
      refine ⟨fun k hk => hkeep k (by split <;> simp [hk]), fun subs h => ?_, fun err h => ?_⟩
      · rcases hr : (subscribeBits w bits _).1 with err | subs' <;> rw [hr] at h <;> cases h
        obtain ⟨hsubs, hbits⟩ := hok subs' hr
        exact ⟨.cons hs hsubs, List.forall_mem_cons.mpr ⟨hkeep bit hbit, hbits⟩⟩
      · rcases hr : (subscribeBits w bits _).1 with err' | subs' <;> rw [hr] at h <;> cases h
        exact herr _ hr

/-- What `Subscribe` returns and starts. -/
theorem subscribe_spec (w : PubSubWorld Sub) (bitmaskMap : List Bytes) (bitmask : Bytes) :
    (∀ k ∈ bitmaskMap, k ∈ (subscribe w bitmaskMap bitmask).2) ∧
    (∀ loops, (subscribe w bitmaskMap bitmask).1 = .ok loops →
      ∃ bm, w.join bitmask = .ok bm ∧
        List.Forall₂ (fun bit l => w.subscribeBit bit = .ok l.1 ∧ l.2 = bitmask) bm loops ∧
        ∀ bit ∈ bm, bit ∈ (subscribe w bitmaskMap bitmask).2) ∧
    ∀ err, (subscribe w bitmaskMap bitmask).1 = .error err →
      ∃ cause : Error, err = cause.wrap "subscribe" := by
  unfold subscribe
  cases hj : w.join bitmask with
  | error cause =>
    refine ⟨fun _ => id, fun _ h => ?_, fun _ h => ⟨cause, (Except.error.inj h).symm⟩⟩
    cases h
  | ok bm =>
    simp only
    obtain ⟨hkeep, hok, herr⟩ := subscribeBits_spec w bm bitmaskMap
    refine ⟨hkeep, fun loops h => ?_, fun err h => ?_⟩
    · rcases hr : (subscribeBits w bm bitmaskMap).1 with err | subs <;> rw [hr] at h <;> cases h
      obtain ⟨hsubs, hbits⟩ := hok subs hr
      exact ⟨bm, rfl, List.forall₂_map_right_iff.mpr (hsubs.imp fun _ _ h => ⟨h, rfl⟩), hbits⟩
    · rcases hr : (subscribeBits w bm bitmaskMap).1 with err' | subs <;> rw [hr] at h <;> cases h
      exact herr _ hr

end DataClock
