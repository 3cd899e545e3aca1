import EngineBridge.Guard.Word
import Mathlib.Data.Nat.Bitwise

/-!
The word of a guard as a flag and a count. As long as the count stays below its bound, entering and
leaving change the count alone and a disposal changes the flag alone, so neither is ever disturbed
by a carry or a borrow.
-/

namespace EngineBridge.Guard.Word

def count (w : Word) : ℕ := w.inFlight.toNat

theorem count_eq_mod (w : Word) : w.count = w.bits.toNat % 2 ^ 63 := by
  have hm : countMask.toNat = 2 ^ 63 - 1 := by decide
  rw [count, inFlight, UInt64.toNat_and, hm, Nat.and_two_pow_sub_one_eq_mod]

theorem isDisposed_iff_le (w : Word) : w.isDisposed = true ↔ 2 ^ 63 ≤ w.bits.toNat := by
  have hf : disposedFlag.toNat = 2 ^ 63 := by decide
  have hw := w.bits.toNat_lt
  rw [isDisposed, bne_iff_ne, ne_eq, ← UInt64.toNat_inj, UInt64.toNat_and, hf, Nat.and_two_pow,
    Nat.testBit_eq_decide_div_mod_eq]
  simp
  omega

theorem count_lt (w : Word) : w.count < 2 ^ 63 := by
  rw [count_eq_mod]
  exact Nat.mod_lt _ (by decide)

theorem inFlight_eq_zero_iff (w : Word) : w.inFlight = 0 ↔ w.count = 0 := by
  rw [count, ← UInt64.toNat_inj, UInt64.toNat_zero]

theorem bits_toNat (w : Word) :
    w.bits.toNat = (if w.isDisposed then 2 ^ 63 else 0) + w.count := by
  have hw := w.bits.toNat_lt
  have hd := isDisposed_iff_le w
  rw [count_eq_mod]
  split_ifs with h
  · have := hd.mp h
    omega
  · have : ¬ 2 ^ 63 ≤ w.bits.toNat := fun hle => h (hd.mpr hle)
    omega

theorem eq_of_bits {w : Word} {d : Bool} {n : ℕ} (hn : n < 2 ^ 63)
    (h : w.bits.toNat = (if d then 2 ^ 63 else 0) + n) : w.isDisposed = d ∧ w.count = n := by
  have hd := isDisposed_iff_le w
  have hc := count_eq_mod w
  cases d with
  | true =>
    simp only [if_true] at h
    exact ⟨hd.mpr (by omega), by omega⟩
  | false =>
    simp only [Bool.false_eq_true, if_false] at h
    refine ⟨Bool.eq_false_iff.mpr fun ht => ?_, by omega⟩
    have := hd.mp ht
    omega

@[simp] theorem isDisposed_fresh : fresh.isDisposed = false := by decide

@[simp] theorem count_fresh : fresh.count = 0 := by decide

theorem entered_of_live {w : Word} (live : w.isDisposed = false) (room : w.count + 1 < 2 ^ 63) :
    w.entered.isDisposed = false ∧ w.entered.count = w.count + 1 := by
  have hw := bits_toNat w
  rw [live] at hw
  apply eq_of_bits room
  rw [entered, UInt64.toNat_add, hw]
  simp
  omega

theorem left_of_counted {w : Word} (counted : 0 < w.count) :
    w.left.isDisposed = w.isDisposed ∧ w.left.count = w.count - 1 := by
  have hw := bits_toNat w
  have hc := count_lt w
  have hle : (1 : UInt64) ≤ w.bits := by
    rw [UInt64.le_iff_toNat_le, hw, UInt64.toNat_one]
    omega
  apply eq_of_bits (by omega)
  rw [left, UInt64.toNat_sub_of_le _ _ hle, UInt64.toNat_one, hw]
  omega

theorem disposed_or (w : Word) : w.disposed.bits.toNat = 2 ^ 63 + w.count := by
  have hf : disposedFlag.toNat = 2 ^ 63 := by decide
  have hw := bits_toNat w
  have hc := count_lt w
  rw [disposed, UInt64.toNat_or, hf, hw]
  cases w.isDisposed with
  | true =>
    rw [if_pos rfl, Nat.add_comm (2 ^ 63), ← Nat.or_two_pow_eq_add_of_lt hc, Nat.or_assoc,
      Nat.or_self, Nat.or_two_pow_eq_add_of_lt hc]
  | false =>
    rw [if_neg (by decide), Nat.zero_add, Nat.or_two_pow_eq_add_of_lt hc, Nat.add_comm]

@[simp] theorem isDisposed_disposed (w : Word) : w.disposed.isDisposed = true :=
  (eq_of_bits w.count_lt (by rw [disposed_or, if_pos rfl])).1

@[simp] theorem count_disposed (w : Word) : w.disposed.count = w.count :=
  (eq_of_bits (d := true) w.count_lt (by rw [disposed_or, if_pos rfl])).2

theorem isLastOut_iff (w : Word) :
    w.isLastOut = true ↔ w.isDisposed = true ∧ w.count = 1 := by
  have hl : (disposedFlag ||| 1).toNat = 2 ^ 63 + 1 := by decide
  have hw := bits_toNat w
  have hc := count_lt w
  rw [isLastOut, beq_iff_eq, ← UInt64.toNat_inj, hl, hw]
  cases w.isDisposed <;> simp <;> omega

theorem left_entered (w : Word) : w.entered.left = w :=
  congrArg Word.mk (UInt64.add_sub_cancel w.bits 1)

/-- Whoever has just been let in is not the last one out of a disposed resource. -/
theorem isLastOut_entered {w : Word} (live : w.isDisposed = false) :
    w.entered.isLastOut = false := by
  by_contra h
  rw [Bool.not_eq_false, isLastOut, beq_iff_eq] at h
  have hw : w = fresh.disposed := by
    rw [← left_entered w, left, h]
    decide
  rw [hw, isDisposed_disposed] at live
  cases live

theorem compareExchange_eq_ok_iff {w expected desired : Word} :
    w.compareExchange expected desired = .ok desired ↔ w = expected := by
  unfold compareExchange
  split_ifs with h <;> simp [h]

theorem compareExchange_eq_ok_current {w expected desired found : Word}
    (h : w.compareExchange expected desired = .ok found) : w = expected := by
  unfold compareExchange at h
  split_ifs at h with he
  exact he

end EngineBridge.Guard.Word
