import Sero.Core.Types

/-!
# True time and wrapping clocks

Devices count milliseconds modulo the range of their clock, each from a start of its
own.  As long as two moments lie within half that range of each other, a clock that
wraps orders them as they are.
-/

namespace Sero

/-- What a clock that started `offset` milliseconds before time zero shows. -/
def clock (offset timeMs : Nat) : UInt32 :=
  UInt32.ofNat (timeMs + offset)

theorem toNat_clock (offset timeMs : Nat) :
    (clock offset timeMs).toNat = (timeMs + offset) % UInt32.size :=
  UInt32.toNat_ofNat'

/-- Adding a delay to what the clock shows. -/
theorem clock_add (offset timeMs : Nat) (delay : UInt32) :
    clock offset timeMs + delay = clock offset (timeMs + delay.toNat) := by
  apply UInt32.toNat_inj.mp
  rw [UInt32.toNat_add, toNat_clock, toNat_clock, Nat.add_right_comm, Nat.mod_add_mod]

theorem timeAfter_clock (offset : Nat) {now target : Nat} (notFar : now < target + 0x80000000)
    (notAhead : target < now + 0x80000000) :
    timeAfter (clock offset now) (clock offset target) = true ↔ target < now := by
  rw [timeAfter_iff, UInt32.toNat_sub, toNat_clock, toNat_clock]
  simp only [UInt32.size]
  omega

theorem timeAfterOrEq_clock (offset : Nat) {now target : Nat}
    (notFar : now < target + 0x80000000) (notAhead : target < now + 0x80000000) :
    timeAfterOrEq (clock offset now) (clock offset target) = true ↔ target ≤ now := by
  rw [timeAfterOrEq_iff, UInt32.toNat_sub, toNat_clock, toNat_clock]
  simp only [UInt32.size]
  omega

/-! ## Clocks that differ by a constant -/

theorem sub_shift (now target offset : UInt32) :
    now + offset - (target + offset) = now - target := by
  apply UInt32.toBitVec_inj.mp
  rw [UInt32.toBitVec_sub, UInt32.toBitVec_add, UInt32.toBitVec_add, UInt32.toBitVec_sub]
  bv_omega

@[simp] theorem timeAfter_shift (now target offset : UInt32) :
    timeAfter (now + offset) (target + offset) = timeAfter now target := by
  rw [timeAfter, timeAfter, sub_shift]

@[simp] theorem timeAfterOrEq_shift (now target offset : UInt32) :
    timeAfterOrEq (now + offset) (target + offset) = timeAfterOrEq now target := by
  rw [timeAfterOrEq, timeAfterOrEq, sub_shift]

/-- A delay is added to a shifted clock as to the clock itself. -/
theorem add_shift (now offset delay : UInt32) : now + offset + delay = now + delay + offset := by
  rw [UInt32.add_assoc, UInt32.add_comm offset, UInt32.add_assoc]

/-- The longest time between two cycles of the sender and the longest time a frame is on
its way, and how much earlier than the run each clock has started, in milliseconds. -/
structure Timing where
  gapMs : Nat
  delayMs : Nat
  senderOffset : Nat
  receiverOffset : Nat

end Sero
