import Mathlib.Algebra.Order.Ring.Nat
import Mathlib.Data.List.Basic
import Mathlib.Tactic.Common

/-!
# Decimal fields of a fixed width

A number padded with zeros to a width, and texts made of several such fields with
fixed text between them.  Fields that fit their widths sort as their numbers do.
-/

set_option autoImplicit false

namespace NanoKvm.Lib

/-- The decimal digits, after zeros up to the width. -/
def padded (width n : Nat) : List Char :=
  List.replicate (width - (Nat.toDigits 10 n).length) '0' ++ Nat.toDigits 10 n

theorem padded_value (width n : Nat) : Nat.ofDigitChars 10 (padded width n) 0 = n := by
  rw [padded, Nat.ofDigitChars_append, Nat.ofDigitChars_replicate_zero, Nat.mul_zero]
  exact Nat.ofDigitChars_ten_toDigits

theorem padded_injective {width n m : Nat} (same : padded width n = padded width m) : n = m := by
  rw [← padded_value width n, same, padded_value]

theorem padded_length {width n : Nat} (pos : 0 < width) (fits : n < 10 ^ width) :
    (padded width n).length = width := by
  have short : (Nat.toDigits 10 n).length ≤ width :=
    (Nat.length_toDigits_le_iff (by decide) pos).mpr fits
  rw [padded, List.length_append, List.length_replicate]
  omega

def Digits (text : List Char) : Prop := ∀ c ∈ text, c.isDigit = true

theorem padded_digits (width n : Nat) : Digits (padded width n) := by
  intro c inside
  rcases List.mem_append.mp inside with zero | digit
  · rw [List.eq_of_mem_replicate zero]
    rfl
  · exact Nat.isDigit_of_mem_toDigits (by decide) (by decide) digit

theorem isDigit_bounds {c : Char} (digit : c.isDigit = true) : 48 ≤ c.toNat ∧ c.toNat ≤ 57 := by
  simpa [Char.isDigit, UInt32.le_iff_toNat_le] using digit

theorem ofDigitChars_lt {text : List Char} (digits : Digits text) :
    Nat.ofDigitChars 10 text 0 < 10 ^ text.length := by
  induction text with
  | nil => decide
  | cons c text ih =>
      have bound := isDigit_bounds (digits c List.mem_cons_self)
      have rest := ih fun d inside => digits d (List.mem_cons_of_mem c inside)
      rw [Nat.ofDigitChars_cons, Nat.ofDigitChars_eq_ofDigitChars_zero, List.length_cons,
        Nat.pow_succ]
      change 10 ^ text.length * (10 * 0 + (c.toNat - 48)) + _ < _
      have : 10 ^ text.length * (10 * 0 + (c.toNat - 48)) ≤ 10 ^ text.length * 9 :=
        Nat.mul_le_mul_left _ (by omega)
      omega

/-- Digits of one length sort as their values. -/
theorem lt_of_value_lt {text other : List Char} (digits : Digits text) (there : Digits other)
    (long : text.length = other.length)
    (lt : Nat.ofDigitChars 10 text 0 < Nat.ofDigitChars 10 other 0) : text < other := by
  induction text generalizing other with
  | nil =>
      obtain rfl := List.length_eq_zero_iff.mp long.symm
      exact absurd lt (Nat.lt_irrefl _)
  | cons c text ih =>
      cases other with
      | nil => cases long
      | cons d other =>
          have same : text.length = other.length := Nat.succ.inj long
          have here := isDigit_bounds (digits c List.mem_cons_self)
          have upper := isDigit_bounds (there d List.mem_cons_self)
          have small := ofDigitChars_lt fun e inside => there e (List.mem_cons_of_mem d inside)
          rw [Nat.ofDigitChars_cons, Nat.ofDigitChars_eq_ofDigitChars_zero, Nat.ofDigitChars_cons,
            Nat.ofDigitChars_eq_ofDigitChars_zero (l := other), same] at lt
          change 10 ^ other.length * (10 * 0 + (c.toNat - 48)) + _ <
            10 ^ other.length * (10 * 0 + (d.toNat - 48)) + _ at lt
          rw [List.cons_lt_cons_iff]
          rcases Nat.lt_trichotomy c.toNat d.toNat with before | eq | after
          · exact Or.inl (Char.lt_def.mpr (UInt32.lt_iff_toNat_lt.mpr before))
          · refine Or.inr ⟨Char.toNat_inj.mp eq, ih ?_ ?_ same ?_⟩
            · exact fun e inside => digits e (List.mem_cons_of_mem c inside)
            · exact fun e inside => there e (List.mem_cons_of_mem d inside)
            · rw [eq] at lt
              omega
          · have : 10 ^ other.length * (10 * 0 + (d.toNat - 48) + 1) ≤
                10 ^ other.length * (10 * 0 + (c.toNat - 48)) :=
              Nat.mul_le_mul_left _ (by omega)
            rw [Nat.mul_add] at this
            omega

theorem padded_lt {width n m : Nat} (pos : 0 < width) (lt : n < m) (fits : m < 10 ^ width) :
    padded width n < padded width m := by
  refine lt_of_value_lt (padded_digits width n) (padded_digits width m) ?_ ?_
  · rw [padded_length pos (lt.trans fits), padded_length pos fits]
  · rw [padded_value, padded_value]
    exact lt

section Append
variable {α : Type} [LT α]

theorem append_lt_append {text other : List α} (lt : text < other)
    (long : text.length = other.length) (after rest : List α) : text ++ after < other ++ rest := by
  induction text generalizing other with
  | nil =>
      obtain rfl := List.length_eq_zero_iff.mp long.symm
      exact absurd lt (List.not_lt_nil [])
  | cons c text ih =>
      cases other with
      | nil => cases long
      | cons d other =>
          rw [List.cons_append, List.cons_append, List.cons_lt_cons_iff]
          rcases List.cons_lt_cons_iff.mp lt with before | ⟨rfl, below⟩
          · exact Or.inl before
          · exact Or.inr ⟨rfl, ih below (Nat.succ.inj long)⟩

theorem append_lt_append_left (text : List α) {after rest : List α} (lt : after < rest) :
    text ++ after < text ++ rest := by
  induction text with
  | nil => exact lt
  | cons c text ih => exact List.cons_lt_cons_iff.mpr (Or.inr ⟨rfl, ih⟩)

end Append

/-- Each field has a width and the text that follows it. -/
def fieldsText : List (Nat × List Char) → List Nat → List Char
  | (width, after) :: shape, n :: fields => padded width n ++ after ++ fieldsText shape fields
  | _, _ => []

def Fits : List (Nat × List Char) → List Nat → Prop
  | (width, _) :: shape, n :: fields => 0 < width ∧ n < 10 ^ width ∧ Fits shape fields
  | [], [] => True
  | _, _ => False

theorem fieldsText_lt (shape : List (Nat × List Char)) {fields others : List Nat}
    (fits : Fits shape fields) (there : Fits shape others) (lt : fields < others) :
    fieldsText shape fields < fieldsText shape others := by
  induction shape generalizing fields others with
  | nil =>
      cases fields with
      | nil =>
          cases others with
          | nil => exact absurd lt (List.lt_irrefl [])
          | cons m others => exact there.elim
      | cons n fields => exact fits.elim
  | cons piece shape ih =>
      cases fields with
      | nil => exact fits.elim
      | cons n fields =>
          cases others with
          | nil => exact there.elim
          | cons m others =>
              obtain ⟨pos, small, fits⟩ := fits
              obtain ⟨-, bound, there⟩ := there
              unfold fieldsText
              rw [List.append_assoc, List.append_assoc]
              rcases List.cons_lt_cons_iff.mp lt with before | ⟨rfl, below⟩
              · refine append_lt_append (padded_lt pos before bound) ?_ _ _
                rw [padded_length pos small, padded_length pos bound]
              · exact append_lt_append_left _ (append_lt_append_left _ (ih fits there below))

theorem fieldsText_length {shape : List (Nat × List Char)} {fields : List Nat}
    (fits : Fits shape fields) :
    (fieldsText shape fields).length = (shape.map fun piece => piece.1 + piece.2.length).sum := by
  induction shape generalizing fields with
  | nil =>
      cases fields with
      | nil => rfl
      | cons n fields => exact fits.elim
  | cons piece shape ih =>
      cases fields with
      | nil => exact fits.elim
      | cons n fields =>
          obtain ⟨pos, small, fits⟩ := fits
          simp only [fieldsText, List.length_append, padded_length pos small, ih fits,
            List.map_cons, List.sum_cons]

/-- Fields that fit are known from their text. -/
theorem fieldsText_injective {shape : List (Nat × List Char)} {fields others : List Nat}
    (fits : Fits shape fields) (there : Fits shape others)
    (same : fieldsText shape fields = fieldsText shape others) : fields = others := by
  refine List.le_antisymm (List.not_lt.mp fun lt => ?_) (List.not_lt.mp fun lt => ?_)
  · have := fieldsText_lt shape there fits lt
    rw [same] at this
    exact List.lt_irrefl _ this
  · have := fieldsText_lt shape fits there lt
    rw [same] at this
    exact List.lt_irrefl _ this

end NanoKvm.Lib
