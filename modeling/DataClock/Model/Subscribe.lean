import DataClock.Model.Protobufs

/-!
# Model — Subscribe

`BlossomSub.Subscribe` (`blossomsub.go`, lines 598–653): join the bitmask, subscribe to each bit
the join returns, record each bit in `bitmaskMap` when it is not there yet, and start one
streaming goroutine per subscription, each with its own copy of `bitmask`.

A streaming goroutine's `for` has no exit.  `streamLoop` runs it over the answers of its calls to
`sub.Next(b.ctx)` so far, a finite prefix of an unbounded run, and keeps the messages handed to
`handler`, in order.  `sub.Next` answers a message pointer, nil as `none`, and an error.  The loop
only logs the error and then reads `m.Bitmask`, so a nil message is a nil dereference: the
goroutine panics, which `streamLoop` returns as `none`.  The handler's error is only logged.
-/

namespace DataClock

/-- A `*pb.Message` as the streaming loop sees it: the `Bitmask` it compares, and the rest of what
`handler` gets. -/
structure PbMessage where
  bitmask : Bytes
  data : Bytes
  deriving DecidableEq, Repr

/-- What `sub.Next(b.ctx)` returns: the message, nil as `none`, and the error. -/
structure NextResult where
  m : Option PbMessage
  err : Option Error
  deriving DecidableEq, Repr

/-- The streaming goroutine of one subscription (lines 634–650), over the answers of `sub.Next`,
with the messages handed to `handler` so far; `none` is the nil dereference of `m.Bitmask`. -/
def streamLoop (copiedBitmask : Bytes) : List NextResult → List PbMessage → Option (List PbMessage)
  | [], handled => some handled
  | r :: results, handled =>
    match r.m with
    | none => none
    | some m =>
      streamLoop copiedBitmask results
        (if m.bitmask == copiedBitmask then handled ++ [m] else handled)

/-- What `Subscribe` asks of the BlossomSub router: `b.ps.Join(bitmask)`, each bit it returns as
that bit's `Bitmask()`, and `bit.Subscribe()`. -/
structure PubSubWorld (Sub : Type) where
  join : Bytes → Except Error (List Bytes)
  subscribeBit : Bytes → Except Error Sub

variable {Sub : Type}

/-- Lines 611–622: subscribe to each bit in turn, and record its bitmask in `bitmaskMap` when it is
not there yet.  The first failure returns at once, with the bits before it recorded. -/
def subscribeBits (w : PubSubWorld Sub) :
    List Bytes → List Bytes → Except Error (List Sub) × List Bytes
  | [], bitmaskMap => (.ok [], bitmaskMap)
  | bit :: bits, bitmaskMap =>
    match w.subscribeBit bit with
    | .error err => (.error (err.wrap "subscribe"), bitmaskMap)
    | .ok sub =>
      let r := subscribeBits w bits
        (if bitmaskMap.contains bit then bitmaskMap else bitmaskMap ++ [bit])
      (r.1.map (sub :: ·), r.2)

/-- `Subscribe(bitmask, handler)`: the subscriptions whose streaming goroutines it starts, each with
its `copiedBitmask`, or the error it returns; and `bitmaskMap`'s keys after it. -/
def subscribe (w : PubSubWorld Sub) (bitmaskMap : List Bytes) (bitmask : Bytes) :
    Except Error (List (Sub × Bytes)) × List Bytes :=
  match w.join bitmask with
  | .error err => (.error (err.wrap "subscribe"), bitmaskMap)
  | .ok bm =>
    let r := subscribeBits w bm bitmaskMap
    (r.1.map fun subs => subs.map fun sub => (sub, bitmask), r.2)

end DataClock
