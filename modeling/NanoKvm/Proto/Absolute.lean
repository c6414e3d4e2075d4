import Mathlib.Algebra.Order.Floor.Div
import NanoKvm.Lib.Checked
import NanoKvm.Proto.Report

/-!
# Absolute coordinates

`abs_coord` of `proto/report.rs` against the measured device law.  The encoder
rounds up where the device rounds down, so that the pixel comes back exactly
while the extent has no more than 4096 pixels.
-/

set_option autoImplicit false

namespace NanoKvm.Proto

open NanoKvm.Lib (checkedSub checkedBelow checkedSub_le checkedBelow_lt)

def absDivisor : BitVec 32 := 4096#32

/-- `u64::div_ceil`. -/
def divCeil (a b : BitVec 64) : BitVec 64 :=
  let d := a / b
  let r := a % b
  if 0#64 < r then d + 1#64 else d

def absCoord (px extent : BitVec 32) : U16 :=
  if extent = 0#32 then 0#16
  else
    let px := (if px ≤ extent - 1#32 then px else extent - 1#32).setWidth 64
    let v := divCeil (px * absDivisor.setWidth 64) (extent.setWidth 64)
    (if v ≤ absMax.setWidth 64 then v else absMax.setWidth 64).setWidth 16

/-- The measured device law: where the pointer lands for a coordinate. -/
def devicePixel (v : U16) (extent : BitVec 32) : Nat := v.toNat * extent.toNat / 4096

/-- Pixels outside the screen count as its last one. -/
def onScreen (px extent : BitVec 32) : Nat := min px.toNat (extent.toNat - 1)

/-- The computation on unbounded numbers, with a stop where one leaves its type. -/
def checkedAbsCoord (px extent : BitVec 32) : Option Nat :=
  if extent = 0#32 then some 0
  else do
    let last ← checkedSub extent.toNat 1
    let scaled ← checkedBelow 18446744073709551616 (min px.toNat last * 4096)
    let v ← checkedBelow 18446744073709551616 (scaled ⌈/⌉ extent.toNat)
    checkedBelow 65536 (min v 4095)

/-! ## Rounding up -/

section Ceil
variable {a b : Nat}

theorem le_ceilDiv_mul_self (positive : 0 < b) : a ≤ a ⌈/⌉ b * b := by
  rw [Nat.mul_comm]
  exact le_smul_ceilDiv positive

theorem ceilDiv_mul_lt_add (positive : 0 < b) : a ⌈/⌉ b * b < a + b := by
  rw [Nat.ceilDiv_eq_add_pred_div]
  have floor := Nat.div_mul_le_self (a + b - 1) b
  omega

theorem ceilDiv_by_remainder (positive : 0 < b) :
    a ⌈/⌉ b = if 0 < a % b then a / b + 1 else a / b := by
  have split := Nat.div_add_mod a b
  have small := Nat.mod_lt a positive
  have lower := le_ceilDiv_mul_self (a := a) positive
  have upper := ceilDiv_mul_lt_add (a := a) positive
  generalize a ⌈/⌉ b = c at lower upper
  by_cases rest : 0 < a % b
  · rw [if_pos rest]
    have above : a / b < c := by
      apply Nat.lt_of_mul_lt_mul_right (a := b)
      rw [Nat.mul_comm (a / b)]
      omega
    have below : c < a / b + 2 := by
      apply Nat.lt_of_mul_lt_mul_right (a := b)
      rw [Nat.add_mul, Nat.mul_comm (a / b)]
      omega
    omega
  · rw [if_neg rest]
    have above : a / b ≤ c := by
      apply Nat.le_of_mul_le_mul_right (c := b) _ positive
      rw [Nat.mul_comm (a / b)]
      omega
    have below : c < a / b + 1 := by
      apply Nat.lt_of_mul_lt_mul_right (a := b)
      rw [Nat.add_mul, Nat.mul_comm (a / b)]
      omega
    omega

theorem ceilDiv_le_self (positive : 0 < b) : a ⌈/⌉ b ≤ a := by
  rw [ceilDiv_le_iff_le_smul positive]
  exact Nat.le_mul_of_pos_left a positive

end Ceil

theorem divCeil_toNat (a : BitVec 64) {b : BitVec 64} (positive : 0 < b.toNat) :
    (divCeil a b).toNat = a.toNat ⌈/⌉ b.toNat := by
  have bound := ceilDiv_le_self (a := a.toNat) positive
  have wide := a.isLt
  rw [ceilDiv_by_remainder positive] at bound ⊢
  unfold divCeil
  dsimp only
  have rest : 0#64 < a % b ↔ 0 < a.toNat % b.toNat := by
    rw [BitVec.lt_def, BitVec.toNat_umod]
    rfl
  by_cases more : 0 < a.toNat % b.toNat
  · rw [if_pos more] at bound ⊢
    rw [if_pos (rest.mpr more), BitVec.toNat_add, BitVec.toNat_udiv]
    exact Nat.mod_eq_of_lt (lt_of_le_of_lt bound wide)
  · rw [if_neg more, if_neg (fun above => more (rest.mp above)), BitVec.toNat_udiv]

/-! ## The encoder in exact arithmetic -/

section Exact
variable (px extent : BitVec 32)

theorem onScreen_lt (screen : 0 < extent.toNat) : onScreen px extent < extent.toNat := by
  unfold onScreen
  omega

theorem onScreen_toNat (screen : extent ≠ 0#32) :
    (if px ≤ extent - 1#32 then px else extent - 1#32).toNat = onScreen px extent := by
  have last : (extent - 1#32).toNat = extent.toNat - 1 := by
    have : extent.toNat ≠ 0 := fun none => screen (BitVec.eq_of_toNat_eq none)
    rw [BitVec.toNat_sub_of_le (by rw [BitVec.le_def]; exact Nat.pos_of_ne_zero this)]
    rfl
  unfold onScreen
  by_cases inside : px ≤ extent - 1#32
  · rw [if_pos inside]
    rw [BitVec.le_def, last] at inside
    omega
  · rw [if_neg inside, last]
    rw [BitVec.le_def, last] at inside
    omega

theorem absCoord_exact (screen : extent ≠ 0#32) :
    (absCoord px extent).toNat = min ((onScreen px extent * 4096) ⌈/⌉ extent.toNat) 4095 := by
  have clamped := onScreen_toNat px extent screen
  have positive : 0 < extent.toNat :=
    Nat.pos_of_ne_zero fun none => screen (BitVec.eq_of_toNat_eq none)
  have wide : onScreen px extent < 4294967296 :=
    lt_trans (onScreen_lt px extent positive) extent.isLt
  unfold absCoord
  rw [if_neg screen]
  dsimp only
  generalize (if px ≤ extent - 1#32 then px else extent - 1#32) = inside at clamped
  have scaled : (inside.setWidth 64 * absDivisor.setWidth 64).toNat =
      onScreen px extent * 4096 := by
    have divisor : (absDivisor.setWidth 64).toNat = 4096 := rfl
    rw [BitVec.toNat_mul, divisor, BitVec.toNat_setWidth, clamped]
    omega
  have size : (extent.setWidth 64).toNat = extent.toNat := by
    rw [BitVec.toNat_setWidth]
    exact Nat.mod_eq_of_lt (lt_trans extent.isLt (by decide))
  have exact := divCeil_toNat (inside.setWidth 64 * absDivisor.setWidth 64)
    (b := extent.setWidth 64) (by rw [size]; exact positive)
  rw [scaled, size] at exact
  have top : (absMax.setWidth 64).toNat = 4095 := rfl
  rw [BitVec.toNat_setWidth]
  by_cases fits : divCeil (inside.setWidth 64 * absDivisor.setWidth 64) (extent.setWidth 64) ≤
      absMax.setWidth 64
  · rw [if_pos fits, exact]
    rw [BitVec.le_def, exact, top] at fits
    omega
  · rw [if_neg fits, top]
    rw [BitVec.le_def, exact, top] at fits
    omega

theorem absCoord_le_max : (absCoord px extent).toNat ≤ 4095 := by
  by_cases screen : extent = 0#32
  · unfold absCoord
    rw [if_pos screen]
    exact Nat.zero_le _
  · rw [absCoord_exact px extent screen]
    exact Nat.min_le_right _ _

theorem checkedAbsCoord_eq : checkedAbsCoord px extent = some (absCoord px extent).toNat := by
  unfold checkedAbsCoord
  by_cases screen : extent = 0#32
  · rw [if_pos screen]
    unfold absCoord
    rw [if_pos screen]
    rfl
  · have positive : 0 < extent.toNat :=
      Nat.pos_of_ne_zero fun none => screen (BitVec.eq_of_toNat_eq none)
    have inside := onScreen_lt px extent positive
    have wide := extent.isLt
    have scaled : onScreen px extent * 4096 < 18446744073709551616 := by omega
    have ceil := ceilDiv_le_self (a := onScreen px extent * 4096) positive
    rw [if_neg screen, checkedSub_le positive, absCoord_exact px extent screen]
    simp only [Option.bind_eq_bind, Option.bind_some]
    change (checkedBelow _ (onScreen px extent * 4096)).bind _ = _
    rw [checkedBelow_lt scaled, Option.bind_some, checkedBelow_lt (lt_of_le_of_lt ceil scaled),
      Option.bind_some, checkedBelow_lt (by omega)]

end Exact

theorem absCoord_mono {px further : BitVec 32} (extent : BitVec 32) (ordered : px ≤ further) :
    (absCoord px extent).toNat ≤ (absCoord further extent).toNat := by
  by_cases screen : extent = 0#32
  · simp [absCoord, screen]
  · have positive : 0 < extent.toNat :=
      Nat.pos_of_ne_zero fun none => screen (BitVec.eq_of_toNat_eq none)
    have inside : onScreen px extent ≤ onScreen further extent :=
      min_le_min_right _ (BitVec.le_def.mp ordered)
    rw [absCoord_exact px extent screen, absCoord_exact further extent screen]
    refine min_le_min_right 4095 ?_
    rw [ceilDiv_le_iff_le_smul positive]
    exact le_trans (Nat.mul_le_mul_right 4096 inside) (le_smul_ceilDiv positive)

/-! ## There and back -/

section Inverse
variable (px extent : BitVec 32)

/-- While the extent is within the divisor the clamp is idle and the pixel comes back. -/
theorem devicePixel_exact (screen : 0 < extent.toNat) (small : extent.toNat ≤ 4096)
    (inside : px.toNat < extent.toNat) : devicePixel (absCoord px extent) extent = px.toNat := by
  have nonzero : extent ≠ 0#32 := by
    intro none
    simp [none] at screen
  have same : onScreen px extent = px.toNat := by
    unfold onScreen
    omega
  have lower := le_ceilDiv_mul_self (a := px.toNat * 4096) screen
  have upper := ceilDiv_mul_lt_add (a := px.toNat * 4096) screen
  have idle : (px.toNat * 4096) ⌈/⌉ extent.toNat ≤ 4095 := by
    rw [ceilDiv_le_iff_le_smul screen, smul_eq_mul]
    omega
  unfold devicePixel
  rw [absCoord_exact px extent nonzero, same, min_eq_left idle]
  omega

/-- Rounding up never lands before the pixel, and no further than one unit behind it. -/
theorem devicePixel_near (large : 4096 < extent.toNat) :
    onScreen px extent ≤ devicePixel (absCoord px extent) extent + extent.toNat ⌈/⌉ 4096 ∧
    devicePixel (absCoord px extent) extent ≤ onScreen px extent + extent.toNat ⌈/⌉ 4096 := by
  have screen : 0 < extent.toNat := by omega
  have nonzero : extent ≠ 0#32 := by
    intro none
    simp [none] at screen
  have inside := onScreen_lt px extent screen
  have unit := le_ceilDiv_mul_self (a := extent.toNat) (b := 4096) (by decide)
  have lower := le_ceilDiv_mul_self (a := onScreen px extent * 4096) screen
  have upper := ceilDiv_mul_lt_add (a := onScreen px extent * 4096) screen
  unfold devicePixel
  rw [absCoord_exact px extent nonzero]
  generalize onScreen px extent = p at inside lower upper
  generalize extent.toNat ⌈/⌉ 4096 = step at unit
  generalize (p * 4096) ⌈/⌉ extent.toNat = v at lower upper
  by_cases idle : v ≤ 4095
  · rw [min_eq_left idle]
    omega
  · rw [min_eq_right (by omega)]
    have past : 4095 * extent.toNat < p * 4096 := by
      have : 4096 * extent.toNat ≤ v * extent.toNat := Nat.mul_le_mul_right _ (by omega)
      omega
    omega

end Inverse

/-- The encoder stays within its types and within 4095, is monotone, is an exact right
inverse of the device law up to 4096 pixels, and beyond them misses by no more than one
coordinate's share of the screen. -/
theorem absCoord_device (px further extent : BitVec 32) :
    checkedAbsCoord px extent = some (absCoord px extent).toNat ∧
    (absCoord px extent).toNat ≤ 4095 ∧
    (px ≤ further → absCoord px extent ≤ absCoord further extent) ∧
    (1 ≤ extent.toNat → extent.toNat ≤ 4096 → px.toNat < extent.toNat →
      devicePixel (absCoord px extent) extent = px.toNat) ∧
    (4096 < extent.toNat →
      onScreen px extent ≤ devicePixel (absCoord px extent) extent + extent.toNat ⌈/⌉ 4096 ∧
      devicePixel (absCoord px extent) extent ≤ onScreen px extent + extent.toNat ⌈/⌉ 4096) := by
  refine ⟨checkedAbsCoord_eq px extent, absCoord_le_max px extent, ?_, ?_, ?_⟩
  · intro ordered
    exact absCoord_mono extent ordered
  · exact devicePixel_exact px extent
  · exact devicePixel_near px extent

/-- The last column of a full HD screen, and of one wider than the divisor. -/
theorem absCoord_device_edges :
    devicePixel (absCoord 1919#32 1920#32) 1920#32 = 1919 ∧
    7679 ≤ devicePixel (absCoord 7679#32 7680#32) 7680#32 + 2 :=
  ⟨(absCoord_device 1919#32 1919#32 1920#32).2.2.2.1 (by decide) (by decide) (by decide),
    ((absCoord_device 7679#32 7679#32 7680#32).2.2.2.2 (by decide)).1⟩

end NanoKvm.Proto
