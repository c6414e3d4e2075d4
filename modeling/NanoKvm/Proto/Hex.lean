import NanoKvm.Proto.Report

/-!
# Bytes in hexadecimal

The formats `{:02X}` and `{:#04x}` of one byte, a frame written as such bytes with
blanks between them, and the reading of it.
-/

set_option autoImplicit false

namespace NanoKvm.Proto

def lowerDigits : List Char := "0123456789abcdef".toList
def upperDigits : List Char := "0123456789ABCDEF".toList

/-- Two digits, the high half first. -/
def hexPair (digits : List Char) (byte : U8) : List Char :=
  [digits.getD (byte.toNat / 16) '0', digits.getD (byte.toNat % 16) '0']

/-- `{:#04x}`. -/
def showByte (byte : U8) : String := "0x" ++ String.ofList (hexPair lowerDigits byte)

/-- `{:02X}` of each byte, joined with blanks. -/
def hex : List U8 → List Char
  | [] => []
  | [byte] => hexPair upperDigits byte
  | byte :: rest => hexPair upperDigits byte ++ ' ' :: hex rest

def upperValue (c : Char) : Option Nat :=
  if upperDigits.idxOf c < 16 then some (upperDigits.idxOf c) else none

/-- The bytes a line of hexadecimal pairs names. -/
def readHex : List Char → Option (List U8)
  | [] => some []
  | [high, low] => do
      let high ← upperValue high
      let low ← upperValue low
      some [BitVec.ofNat 8 (high * 16 + low)]
  | high :: low :: ' ' :: rest => do
      let high ← upperValue high
      let low ← upperValue low
      let rest ← readHex rest
      some (BitVec.ofNat 8 (high * 16 + low) :: rest)
  | _ => none

theorem upperValue_getD {n : Nat} (small : n < 16) :
    upperValue (upperDigits.getD n '0') = some n := by
  have every : ∀ digit : Fin 16, upperValue (upperDigits.getD digit '0') = some digit.val := by
    decide
  exact every ⟨n, small⟩

theorem ofNat_halves (byte : U8) :
    BitVec.ofNat 8 (byte.toNat / 16 * 16 + byte.toNat % 16) = byte := by
  have whole : byte.toNat / 16 * 16 + byte.toNat % 16 = byte.toNat := by omega
  rw [whole, BitVec.ofNat_toNat, BitVec.setWidth_eq]

/-- What is written is read back. -/
theorem readHex_hex (bytes : List U8) : readHex (hex bytes) = some bytes := by
  induction bytes with
  | nil => rfl
  | cons byte rest ih =>
      have high : byte.toNat / 16 < 16 := by have := byte.isLt; omega
      have low : byte.toNat % 16 < 16 := by omega
      cases rest with
      | nil =>
          simp only [hex, hexPair, readHex, upperValue_getD high, upperValue_getD low,
            Option.bind_eq_bind, Option.bind_some, ofNat_halves]
      | cons next rest =>
          simp only [hex, hexPair, List.cons_append, List.nil_append, readHex,
            upperValue_getD high, upperValue_getD low, Option.bind_eq_bind, Option.bind_some, ih,
            ofNat_halves]

end NanoKvm.Proto
