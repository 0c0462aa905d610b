import Mathlib.Data.List.Induction

/-!
# Shift registers with feedback

A register of any width is fed one bit at a time: it is shifted by one place, and the
feedback polynomial is added when the bit that leaves differs from the bit that is fed.
This is division by a polynomial with coefficients in the field of two elements, and what
the register holds in the end is the remainder.
-/

namespace Sero.Library.ShiftRegister

variable {width : Nat}

/-- Feed one bit. -/
def step (poly register : BitVec width) (bit : Bool) : BitVec width :=
  if register.msb ^^ bit then register <<< 1 ^^^ poly else register <<< 1

/-- Feed a message, first bit first. -/
def feed (poly register : BitVec width) (message : List Bool) : BitVec width :=
  message.foldl (step poly) register

variable {poly : BitVec width}

theorem feed_append (register : BitVec width) (front back : List Bool) :
    feed poly register (front ++ back) = feed poly (feed poly register front) back :=
  List.foldl_append

/-! ## Linearity -/

theorem xor_cancel (left right shared : BitVec width) :
    left ^^^ shared ^^^ (right ^^^ shared) = left ^^^ right := by
  rw [BitVec.xor_assoc, BitVec.xor_comm right, ← BitVec.xor_assoc shared, BitVec.xor_self,
    BitVec.zero_xor]

theorem msb_xor (left right : BitVec width) :
    (left ^^^ right).msb = (left.msb ^^ right.msb) := by
  rw [BitVec.msb_eq_getLsbD_last, BitVec.msb_eq_getLsbD_last, BitVec.msb_eq_getLsbD_last,
    BitVec.getLsbD_xor]

theorem step_xor (left right : BitVec width) (leftBit rightBit : Bool) :
    step poly (left ^^^ right) (leftBit ^^ rightBit) =
      step poly left leftBit ^^^ step poly right rightBit := by
  have feedback : ((left ^^^ right).msb ^^ (leftBit ^^ rightBit)) =
      ((left.msb ^^ leftBit) ^^ (right.msb ^^ rightBit)) := by
    rw [msb_xor]
    cases left.msb <;> cases right.msb <;> cases leftBit <;> cases rightBit <;> rfl
  rw [step, step, step, feedback, BitVec.shiftLeft_xor_distrib]
  cases left.msb ^^ leftBit with
  | false =>
      cases right.msb ^^ rightBit with
      | false => rfl
      | true => exact BitVec.xor_assoc ..
  | true =>
      cases right.msb ^^ rightBit with
      | false =>
          simp only [Bool.xor_false, if_true, Bool.false_eq_true, if_false]
          rw [BitVec.xor_assoc, BitVec.xor_comm (right <<< 1), ← BitVec.xor_assoc]
      | true => exact (xor_cancel _ _ _).symm

/-- Adding messages adds what they leave. -/
theorem feed_xor (left right : BitVec width) {leftMessage rightMessage : List Bool}
    (sized : leftMessage.length = rightMessage.length) :
    feed poly (left ^^^ right) (List.zipWith xor leftMessage rightMessage) =
      feed poly left leftMessage ^^^ feed poly right rightMessage := by
  induction leftMessage generalizing left right rightMessage with
  | nil =>
      rw [List.eq_nil_of_length_eq_zero sized.symm]
      rfl
  | cons leftBit leftRest ih =>
      cases rightMessage with
      | nil => cases sized
      | cons rightBit rightRest =>
          have rest := ih (step poly left leftBit) (step poly right rightBit)
            (Nat.succ.inj sized)
          rw [← step_xor] at rest
          exact rest

theorem feed_zeros_xor (left right : BitVec width) (count : Nat) :
    feed poly (left ^^^ right) (List.replicate count false) =
      feed poly left (List.replicate count false) ^^^
        feed poly right (List.replicate count false) := by
  have sum := @feed_xor _ poly left right (List.replicate count false)
    (List.replicate count false) rfl
  rw [List.zipWith_replicate, Nat.min_self] at sum
  exact sum

theorem step_zero : step poly 0 false = 0 := by
  have zero : (0 : BitVec width).msb = false := BitVec.msb_zero
  rw [step, zero]
  exact BitVec.zero_shiftLeft 1

theorem feed_zeros (count : Nat) : feed poly 0 (List.replicate count false) = 0 := by
  induction count with
  | zero => rfl
  | succ count ih =>
      rw [List.replicate_succ, feed, List.foldl_cons, step_zero]
      exact ih

/-- A message is fed as if the register had been left alone and the message fed to an empty
one. -/
theorem feed_eq (register : BitVec width) (message : List Bool) :
    feed poly register message =
      feed poly register (List.replicate message.length false) ^^^ feed poly 0 message := by
  have sum := @feed_xor _ poly register 0 (List.replicate message.length false) message
    List.length_replicate
  have unchanged : List.zipWith xor (List.replicate message.length false) message = message := by
    induction message with
    | nil => rfl
    | cons bit rest ih =>
        rw [List.length_cons, List.replicate_succ, List.zipWith_cons_cons, Bool.false_xor,
          ih (feed_xor _ _ List.length_replicate)]
  have same : register ^^^ 0 = register := BitVec.xor_zero
  rw [unchanged, same] at sum
  exact sum

/-- A register that is fed its own bits only moves. -/
theorem feed_own (register : BitVec width) (count : Nat) :
    feed poly register ((List.range count).map register.getMsbD) = register <<< count := by
  induction count generalizing register with
  | zero => exact (BitVec.shiftLeft_zero register).symm
  | succ count ih =>
      have moved : step poly register (register.getMsbD 0) = register <<< 1 := by
        have top : register.msb = register.getMsbD 0 := rfl
        rw [step, top, Bool.xor_self]
        rfl
      have shifted : register.getMsbD ∘ Nat.succ = (register <<< 1).getMsbD := by
        funext place
        exact (BitVec.getMsbD_shiftLeft register 1).symm
      rw [List.range_succ_eq_map, List.map_cons, List.map_map, shifted, feed, List.foldl_cons,
        moved]
      have rest := ih (register <<< 1)
      rw [← BitVec.shiftLeft_add, Nat.add_comm] at rest
      exact rest

/-- A register whose topmost places are clear only moves while it is fed nothing. -/
theorem feed_zeros_eq_shiftLeft {register : BitVec width} {count : Nat}
    (clear : ∀ place < count, register.getMsbD place = false) :
    feed poly register (List.replicate count false) = register <<< count := by
  have zeros : (List.range count).map register.getMsbD = List.replicate count false := by
    apply List.eq_replicate_iff.mpr
    refine ⟨by simp, ?_⟩
    intro bit member
    obtain ⟨place, inRange, rfl⟩ := List.mem_map.mp member
    exact clear place (List.mem_range.mp inRange)
  rw [← zeros, feed_own]

/-! ## Bursts -/

/-- The bits below the topmost `count` places are clear. -/
def ClearBelow (count : Nat) (register : BitVec width) : Prop :=
  ∀ place, place + count < width → register.getLsbD place = false

/-- A step that leaves the lowest bits clear has added nothing. -/
theorem step_clear (odd : poly.getLsbD 0 = true) {register : BitVec width} {bit : Bool}
    {count : Nat} (room : count < width) (clear : ClearBelow count (step poly register bit)) :
    (register.msb ^^ bit) = false ∧ ClearBelow (count + 1) register := by
  have lowest := clear 0 (by omega)
  have shifted : (register <<< 1).getLsbD 0 = false := by simp
  cases feedback : register.msb ^^ bit with
  | true =>
      rw [step, feedback, if_pos rfl, BitVec.getLsbD_xor, shifted, odd] at lowest
      cases lowest
  | false =>
      refine ⟨rfl, ?_⟩
      intro place below
      have moved := clear (place + 1) (by omega)
      rw [step, feedback, if_neg Bool.false_ne_true, BitVec.getLsbD_shiftLeft] at moved
      simpa [show place + 1 < width by omega] using moved

/-- No burst that fits the register leaves it clear, unless there is nothing in it. -/
theorem feed_burst (odd : poly.getLsbD 0 = true) {burst : List Bool} {count : Nat}
    (room : count + burst.length ≤ width) (clear : ClearBelow count (feed poly 0 burst)) :
    burst = List.replicate burst.length false := by
  induction burst using List.reverseRecOn generalizing count with
  | nil => rfl
  | append_singleton front bit ih =>
      rw [List.length_append, List.length_singleton] at room ⊢
      rw [feed_append] at clear
      obtain ⟨feedback, earlier⟩ := step_clear odd (by omega) clear
      have zeros := ih (by omega) earlier
      rw [zeros, feed_zeros] at feedback
      have bitFalse : bit = false := by simpa using feedback
      rw [List.replicate_succ', ← zeros, bitFalse]

/-- A register that is not clear stays so. -/
theorem step_false_eq_zero (odd : poly.getLsbD 0 = true) {register : BitVec width}
    (zero : step poly register false = 0) : register = 0 := by
  have clear : ClearBelow 0 (step poly register false) := by
    intro place _
    rw [zero]
    exact BitVec.getLsbD_zero
  by_cases empty : width = 0
  · subst empty
    exact BitVec.of_length_zero
  · obtain ⟨feedback, earlier⟩ := step_clear odd (Nat.pos_of_ne_zero empty) clear
    have top : register.msb = false := by simpa using feedback
    apply BitVec.eq_of_getLsbD_eq
    intro place inside
    refine Eq.trans ?_ BitVec.getLsbD_zero.symm
    by_cases last : place + 1 < width
    · exact earlier place last
    · rw [BitVec.msb_eq_getLsbD_last] at top
      rw [show place = width - 1 by omega]
      exact top

theorem feed_zeros_eq_zero (odd : poly.getLsbD 0 = true) {register : BitVec width}
    {count : Nat} (zero : feed poly register (List.replicate count false) = 0) :
    register = 0 := by
  induction count generalizing register with
  | zero => exact zero
  | succ count ih =>
      rw [List.replicate_succ, feed, List.foldl_cons] at zero
      exact step_false_eq_zero odd (ih zero)

/-- A message that differs from nothing by one burst leaves something. -/
theorem feed_burst_ne_zero (odd : poly.getLsbD 0 = true) (before after : Nat)
    {burst : List Bool} (short : burst.length ≤ width) (bitSet : true ∈ burst) :
    feed poly 0 (List.replicate before false ++ burst ++ List.replicate after false) ≠ 0 := by
  intro zero
  rw [feed_append, feed_append, feed_zeros] at zero
  have clear : ClearBelow 0 (feed poly 0 burst) := by
    intro place _
    rw [feed_zeros_eq_zero odd zero]
    exact BitVec.getLsbD_zero
  have zeros := feed_burst odd (by omega) clear
  rw [zeros] at bitSet
  cases List.eq_of_mem_replicate bitSet

/-! ## Parity -/

/-- Is the number of bits set odd? -/
def parity (message : List Bool) : Bool :=
  message.foldr xor false

theorem parity_iff (message : List Bool) :
    parity message = true ↔ message.count true % 2 = 1 := by
  induction message with
  | nil => simp [parity]
  | cons bit rest ih =>
      rw [parity] at ih
      rw [parity, List.foldr_cons]
      cases bit with
      | false => simpa using ih
      | true =>
          rw [List.count_cons_self, Bool.true_xor, Bool.not_eq_true']
          cases odd : rest.foldr xor false with
          | true =>
              have counted := ih.mp odd
              simp only [Bool.true_eq_false, false_iff]
              omega
          | false =>
              have even : ¬rest.count true % 2 = 1 := fun counted => by
                rw [ih.mpr counted] at odd
                cases odd
              simp only [true_iff]
              omega

/-- The bits of a register below a place. -/
def bitsBelow (count : Nat) (register : BitVec width) : List Bool :=
  (List.range count).map register.getLsbD

/-- The parity of a register. -/
def weight (register : BitVec width) : Bool :=
  parity (bitsBelow width register)

theorem parity_append (front back : List Bool) :
    parity (front ++ back) = (parity front ^^ parity back) := by
  induction front with
  | nil => exact (Bool.false_xor _).symm
  | cons bit rest ih =>
      rw [parity, parity] at *
      rw [List.cons_append, List.foldr_cons, List.foldr_cons, ih]
      cases bit <;> cases rest.foldr xor false <;> simp [parity]

theorem weight_xor (left right : BitVec width) :
    weight (left ^^^ right) = (weight left ^^ weight right) := by
  have below : ∀ count, parity (bitsBelow count (left ^^^ right)) =
      (parity (bitsBelow count left) ^^ parity (bitsBelow count right)) := by
    intro count
    induction count with
    | zero => rfl
    | succ count ih =>
        simp only [bitsBelow, List.range_succ, List.map_append, List.map_singleton,
          parity_append] at ih ⊢
        rw [ih, BitVec.getLsbD_xor]
        generalize parity _ = first
        generalize parity _ = second
        cases first <;> cases second <;> cases left.getLsbD count <;>
          cases right.getLsbD count <;> rfl
  exact below width

/-- What leaves the register is missing from its parity. -/
theorem weight_shiftLeft (register : BitVec width) :
    weight (register <<< 1) = (weight register ^^ register.msb) := by
  have below : ∀ count, count < width → parity (bitsBelow (count + 1) (register <<< 1)) =
      parity (bitsBelow count register) := by
    intro count inside
    induction count with
    | zero => simp [bitsBelow, parity]
    | succ count ih =>
        have earlier := ih (by omega)
        rw [bitsBelow, List.range_succ, List.map_append, parity_append]
        rw [bitsBelow] at earlier
        have moved : (register <<< 1).getLsbD (count + 1) = register.getLsbD count := by
          rw [BitVec.getLsbD_shiftLeft, Nat.add_sub_cancel, decide_eq_true inside]
          simp
        rw [earlier, bitsBelow, bitsBelow, List.range_succ, List.map_append, parity_append,
          List.map_singleton, List.map_singleton, moved]
  cases width with
  | zero => rfl
  | succ last =>
      have top : register.msb = register.getLsbD last := BitVec.msb_eq_getLsbD_last register
      rw [weight, below last (Nat.lt_succ_self last), weight, bitsBelow, bitsBelow,
        List.range_succ, List.map_append, parity_append, top]
      simp [parity]

theorem weight_step (oddWeight : weight poly = true) (register : BitVec width) (bit : Bool) :
    weight (step poly register bit) = (weight register ^^ bit) := by
  rw [step]
  split
  · next feedback =>
      rw [weight_xor, weight_shiftLeft, oddWeight]
      revert feedback
      cases weight register <;> cases register.msb <;> cases bit <;> decide
  · next feedback =>
      rw [weight_shiftLeft]
      revert feedback
      cases weight register <;> cases register.msb <;> cases bit <;> decide

/-- The register keeps the parity of the message. -/
theorem weight_feed (oddWeight : weight poly = true) (register : BitVec width)
    (message : List Bool) :
    weight (feed poly register message) = (weight register ^^ parity message) := by
  induction message generalizing register with
  | nil => exact (Bool.xor_false _).symm
  | cons bit rest ih =>
      have rest := ih (step poly register bit)
      rw [weight_step oddWeight, Bool.xor_assoc] at rest
      exact rest

/-- A message that differs from nothing in an odd number of places leaves something. -/
theorem feed_odd_ne_zero (oddWeight : weight poly = true) {message : List Bool}
    (odd : message.count true % 2 = 1) : feed poly 0 message ≠ 0 := by
  intro zero
  have kept := weight_feed oddWeight 0 message
  rw [zero, (parity_iff message).mpr odd, Bool.xor_true] at kept
  revert kept
  generalize weight (0 : BitVec width) = before
  cases before <;> decide

end Sero.Library.ShiftRegister
