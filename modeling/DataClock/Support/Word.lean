import Mathlib.Data.List.Chain

/-!
# Support — Word

Frame numbers are Go `uint64`s, modelled as `UInt64`, whose `+` wraps at `2^64`.  The order on
`UInt64` is the order of `toNat`, and `a + 1` does not wrap below any `b > a`
(`toNat_succ_of_lt`): that is the fact behind every "no wrap" statement about `sync`, which only
asks for `latest.FrameNumber + 1` while `latest.FrameNumber < maxFrame`.
-/

namespace DataClock

theorem toNat_le_toNat {a b : UInt64} : a ≤ b ↔ a.toNat ≤ b.toNat := Iff.rfl

theorem toNat_lt_toNat {a b : UInt64} : a < b ↔ a.toNat < b.toNat := Iff.rfl

theorem toNat_inj {a b : UInt64} : a = b ↔ a.toNat = b.toNat :=
  ⟨congrArg _, UInt64.toNat.inj⟩

/-- Below a larger word, `+ 1` is the successor. -/
theorem toNat_succ_of_lt {a b : UInt64} (h : a < b) : (a + 1).toNat = a.toNat + 1 := by
  have hb : b.toNat < 2 ^ 64 := b.toNat_lt_size
  have hab : a.toNat < b.toNat := h
  show (a.toNat + 1) % 2 ^ 64 = _
  exact Nat.mod_eq_of_lt (by omega)

theorem word_lt_of_le_of_lt {a b c : UInt64} (h₁ : a ≤ b) (h₂ : b < c) : a < c :=
  toNat_lt_toNat.mpr (Nat.lt_of_le_of_lt (toNat_le_toNat.mp h₁) (toNat_lt_toNat.mp h₂))

theorem word_le_trans {a b c : UInt64} (h₁ : a ≤ b) (h₂ : b ≤ c) : a ≤ c :=
  toNat_le_toNat.mpr (Nat.le_trans (toNat_le_toNat.mp h₁) (toNat_le_toNat.mp h₂))

theorem word_max_of_le {a b : UInt64} (h : a ≤ b) : max a b = b := if_pos h

theorem word_max_of_not_le {a b : UInt64} (h : ¬ a ≤ b) : max a b = a := if_neg h

/-- Go's `max` on `uint64`. -/
theorem toNat_max (a b : UInt64) : (max a b).toNat = max a.toNat b.toNat := by
  show (if a ≤ b then b else a).toNat = _
  split
  · rename_i h; have : a.toNat ≤ b.toNat := h; omega
  · rename_i h; have : ¬ a.toNat ≤ b.toNat := h; omega

end DataClock
