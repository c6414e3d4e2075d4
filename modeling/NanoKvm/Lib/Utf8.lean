import Mathlib.Data.List.Basic
import Mathlib.Tactic.Common

/-!
# Reading UTF-8 that may be broken

A reader that takes one byte at a time and puts a replacement character where a
sequence breaks off, one for as many bytes as still began a character; the byte that
broke it is read afresh.  What was encoded is read back.
-/

set_option autoImplicit false

namespace NanoKvm.Lib.Utf8

abbrev Byte := BitVec 8

/-- A character begun: the bytes it still needs, where the next may lie, and its code so far. -/
structure Begun where
  need : Nat
  low : Nat
  high : Nat
  code : Nat
  deriving DecidableEq, Repr

inductive Lead where
  | char (c : Char)
  | more (begun : Begun)
  | broken
  deriving DecidableEq, Repr

def replacement : Char := '\uFFFD'

/-- A first byte.  The bounds of the second rule out long forms, surrogates and what is
past the last code point. -/
def lead (b : Nat) : Lead :=
  if b < 0x80 then .char (Char.ofNat b)
  else if b < 0xC2 then .broken
  else if b < 0xE0 then .more ⟨1, 0x80, 0xBF, b - 0xC0⟩
  else if b < 0xF0 then
    .more ⟨2, if b = 0xE0 then 0xA0 else 0x80, if b = 0xED then 0x9F else 0xBF, b - 0xE0⟩
  else if b < 0xF5 then
    .more ⟨3, if b = 0xF0 then 0x90 else 0x80, if b = 0xF4 then 0x8F else 0xBF, b - 0xF0⟩
  else .broken

def fresh (b : Nat) : List Char × Option Begun :=
  match lead b with
  | .char c => ([c], none)
  | .more begun => ([], some begun)
  | .broken => ([replacement], none)

/-- One byte: the characters it completes, and the one it leaves begun. -/
def read (begun : Option Begun) (b : Nat) : List Char × Option Begun :=
  match begun with
  | none => fresh b
  | some ⟨need, low, high, code⟩ =>
      if low ≤ b ∧ b ≤ high then
        if need = 1 then ([Char.ofNat (code * 64 + b % 64)], none)
        else ([], some ⟨need - 1, 0x80, 0xBF, code * 64 + b % 64⟩)
      else (replacement :: (fresh b).1, (fresh b).2)

def lossyFrom : Option Begun → List Byte → List Char
  | begun, [] => if begun.isSome then [replacement] else []
  | begun, b :: rest => (read begun b.toNat).1 ++ lossyFrom (read begun b.toNat).2 rest

def lossy (bytes : List Byte) : List Char := lossyFrom none bytes

def encodeChar (c : Char) : List Byte := (String.utf8EncodeChar c).map (·.toBitVec)

def encode (text : List Char) : List Byte := text.flatMap encodeChar

/-! ## The round trip -/

theorem lossyFrom_done {begun : Option Begun} {b : Byte} {c : Char} {rest : List Byte}
    (done : read begun b.toNat = ([c], none)) :
    lossyFrom begun (b :: rest) = c :: lossyFrom none rest := by
  rw [lossyFrom, done]
  rfl

theorem lossyFrom_more {begun : Option Begun} {b : Byte} {next : Begun} {rest : List Byte}
    (more : read begun b.toNat = ([], some next)) :
    lossyFrom begun (b :: rest) = lossyFrom (some next) rest := by
  rw [lossyFrom, more]
  rfl

/-- The last byte of a character. -/
theorem read_last {code n : Nat} {low high : Nat} (lower : low ≤ n % 64 + 0x80)
    (upper : n % 64 + 0x80 ≤ high) (whole : code = n / 64) :
    read (some ⟨1, low, high, code⟩) (n % 64 + 0x80) = ([Char.ofNat n], none) := by
  have sum : code * 64 + (n % 64 + 0x80) % 64 = n := by omega
  simp only [read, lower, upper, and_self, if_true, sum]

/-- A byte in the middle of a character. -/
theorem read_middle {need code n : Nat} {low high : Nat} (more : 1 < need)
    (lower : low ≤ n % 64 + 0x80) (upper : n % 64 + 0x80 ≤ high) (whole : code = n / 64) :
    read (some ⟨need, low, high, code⟩) (n % 64 + 0x80) =
      ([], some ⟨need - 1, 0x80, 0xBF, n⟩) := by
  have sum : code * 64 + (n % 64 + 0x80) % 64 = n := by omega
  have notLast : need ≠ 1 := by omega
  simp only [read, lower, upper, and_self, if_true, notLast, if_false, sum]

theorem toNat_byte {k : Nat} (small : k < 256) : (UInt8.ofNat k).toBitVec.toNat = k := by
  simp [Nat.mod_eq_of_lt small]

theorem read_two {n : Nat} (lower : 0x80 ≤ n) (upper : n < 0x800) :
    read none (n / 64 % 0x20 + 0xC0) = ([], some ⟨1, 0x80, 0xBF, n / 64⟩) := by
  have first : n / 64 % 0x20 + 0xC0 = n / 64 + 0xC0 := by omega
  have notAscii : ¬ n / 64 + 0xC0 < 0x80 := by omega
  have notShort : ¬ n / 64 + 0xC0 < 0xC2 := by omega
  have two : n / 64 + 0xC0 < 0xE0 := by omega
  simp only [read, fresh, lead, first, notAscii, notShort, two, if_false, if_true,
    Nat.add_sub_cancel]

theorem read_three {n : Nat} (upper : n < 0x10000) :
    read none (n / 4096 % 0x10 + 0xE0) = ([], some ⟨2, if n / 4096 = 0 then 0xA0 else 0x80,
      if n / 4096 = 13 then 0x9F else 0xBF, n / 4096⟩) := by
  have first : n / 4096 % 0x10 + 0xE0 = n / 4096 + 0xE0 := by omega
  have notAscii : ¬ n / 4096 + 0xE0 < 0x80 := by omega
  have notShort : ¬ n / 4096 + 0xE0 < 0xC2 := by omega
  have notTwo : ¬ n / 4096 + 0xE0 < 0xE0 := by omega
  have three : n / 4096 + 0xE0 < 0xF0 := by omega
  have long : n / 4096 + 0xE0 = 0xE0 ↔ n / 4096 = 0 := by omega
  have surrogate : n / 4096 + 0xE0 = 0xED ↔ n / 4096 = 13 := by omega
  simp only [read, fresh, lead, first, notAscii, notShort, notTwo, three, if_false, if_true, long,
    surrogate, Nat.add_sub_cancel]

theorem read_four {n : Nat} (upper : n < 0x110000) :
    read none (n / 262144 % 0x08 + 0xF0) = ([], some ⟨3, if n / 262144 = 0 then 0x90 else 0x80,
      if n / 262144 = 4 then 0x8F else 0xBF, n / 262144⟩) := by
  have first : n / 262144 % 0x08 + 0xF0 = n / 262144 + 0xF0 := by omega
  have notAscii : ¬ n / 262144 + 0xF0 < 0x80 := by omega
  have notShort : ¬ n / 262144 + 0xF0 < 0xC2 := by omega
  have notTwo : ¬ n / 262144 + 0xF0 < 0xE0 := by omega
  have notThree : ¬ n / 262144 + 0xF0 < 0xF0 := by omega
  have four : n / 262144 + 0xF0 < 0xF5 := by omega
  have long : n / 262144 + 0xF0 = 0xF0 ↔ n / 262144 = 0 := by omega
  have past : n / 262144 + 0xF0 = 0xF4 ↔ n / 262144 = 4 := by omega
  simp only [read, fresh, lead, first, notAscii, notShort, notTwo, notThree, four, if_false,
    if_true, long, past, Nat.add_sub_cancel]

theorem lossyFrom_encodeChar (c : Char) (rest : List Byte) :
    lossyFrom none (encodeChar c ++ rest) = c :: lossyFrom none rest := by
  have whole : Char.ofNat c.toNat = c := Char.ofNat_toNat c
  have code : c.val.toNat = c.toNat := rfl
  have range : c.toNat < 0xD800 ∨ 0xDFFF < c.toNat ∧ c.toNat < 0x110000 := c.valid
  unfold encodeChar String.utf8EncodeChar
  dsimp only
  rw [code]
  generalize c.toNat = n at whole range
  subst whole
  split
  next one =>
    refine lossyFrom_done ?_
    rw [toNat_byte (by omega)]
    simp [read, fresh, lead, Nat.lt_succ_of_le one]
  next notOne =>
  have quarter : n / 4096 = n / 64 / 64 := by omega
  have eighth : n / 262144 = n / 4096 / 64 := by omega
  have last : read (some ⟨1, 0x80, 0xBF, n / 64⟩)
      (UInt8.ofNat (n % 0x40 + 0x80)).toBitVec.toNat = ([Char.ofNat n], none) := by
    rw [toNat_byte (by omega)]
    exact read_last (by omega) (by omega) rfl
  split
  next two =>
    have first : read none (UInt8.ofNat (n / 64 % 0x20 + 0xC0)).toBitVec.toNat =
        ([], some ⟨1, 0x80, 0xBF, n / 64⟩) := by
      rw [toNat_byte (by omega)]
      exact read_two (by omega) (by omega)
    exact (lossyFrom_more first).trans (lossyFrom_done last)
  next notTwo =>
  split
  next three =>
    have first : read none (UInt8.ofNat (n / 4096 % 0x10 + 0xE0)).toBitVec.toNat =
        ([], some ⟨2, if n / 4096 = 0 then 0xA0 else 0x80, if n / 4096 = 13 then 0x9F else 0xBF,
          n / 4096⟩) := by
      rw [toNat_byte (by omega)]
      exact read_three (by omega)
    have second : read (some ⟨2, if n / 4096 = 0 then 0xA0 else 0x80,
          if n / 4096 = 13 then 0x9F else 0xBF, n / 4096⟩)
        (UInt8.ofNat (n / 64 % 0x40 + 0x80)).toBitVec.toNat =
          ([], some ⟨1, 0x80, 0xBF, n / 64⟩) := by
      rw [toNat_byte (by omega)]
      exact read_middle (by omega) (by split <;> omega) (by split <;> omega) quarter
    exact (lossyFrom_more first).trans ((lossyFrom_more second).trans (lossyFrom_done last))
  next notThree =>
    have first : read none (UInt8.ofNat (n / 262144 % 0x08 + 0xF0)).toBitVec.toNat =
        ([], some ⟨3, if n / 262144 = 0 then 0x90 else 0x80, if n / 262144 = 4 then 0x8F else 0xBF,
          n / 262144⟩) := by
      rw [toNat_byte (by omega)]
      exact read_four (by omega)
    have second : read (some ⟨3, if n / 262144 = 0 then 0x90 else 0x80,
          if n / 262144 = 4 then 0x8F else 0xBF, n / 262144⟩)
        (UInt8.ofNat (n / 4096 % 0x40 + 0x80)).toBitVec.toNat =
          ([], some ⟨2, 0x80, 0xBF, n / 4096⟩) := by
      rw [toNat_byte (by omega)]
      exact read_middle (by omega) (by split <;> omega) (by split <;> omega) eighth
    have third : read (some ⟨2, 0x80, 0xBF, n / 4096⟩)
        (UInt8.ofNat (n / 64 % 0x40 + 0x80)).toBitVec.toNat =
          ([], some ⟨1, 0x80, 0xBF, n / 64⟩) := by
      rw [toNat_byte (by omega)]
      exact read_middle (by omega) (by omega) (by omega) quarter
    exact (lossyFrom_more first).trans ((lossyFrom_more second).trans
      ((lossyFrom_more third).trans (lossyFrom_done last)))

theorem lossy_encode (text : List Char) : lossy (encode text) = text := by
  unfold lossy encode
  induction text with
  | nil => rfl
  | cons c text ih => rw [List.flatMap_cons, lossyFrom_encodeChar, ih]

theorem encode_append (text after : List Char) :
    encode (text ++ after) = encode text ++ encode after := List.flatMap_append

theorem encodeChar_ascii {c : Char} (small : c.toNat < 0x80) :
    encodeChar c = [BitVec.ofNat 8 c.toNat] := by
  have code : c.val.toNat = c.toNat := rfl
  unfold encodeChar String.utf8EncodeChar
  dsimp only
  rw [code, if_pos (by omega)]
  rfl

/-- The bytes of text in ASCII are its codes. -/
theorem mem_encode_ascii {text : List Char} (small : ∀ c ∈ text, c.toNat < 0x80) {b : Byte}
    (inside : b ∈ encode text) : ∃ c ∈ text, b = BitVec.ofNat 8 c.toNat := by
  obtain ⟨c, member, byte⟩ := List.mem_flatMap.mp inside
  rw [encodeChar_ascii (small c member)] at byte
  exact ⟨c, member, List.mem_singleton.mp byte⟩

/-! ## A sequence without its first byte -/

/-- Each byte that can only go on is replaced by itself where nothing was begun. -/
theorem lossyFrom_orphans {orphans : List Byte} (rest : List Byte)
    (orphan : ∀ b ∈ orphans, 0x80 ≤ b.toNat ∧ b.toNat < 0xC0) :
    lossyFrom none (orphans ++ rest) =
      List.replicate orphans.length replacement ++ lossyFrom none rest := by
  induction orphans with
  | nil => rfl
  | cons b orphans ih =>
      obtain ⟨lower, upper⟩ := orphan b List.mem_cons_self
      have broken : read none b.toNat = ([replacement], none) := by
        have notAscii : ¬ b.toNat < 0x80 := by omega
        have short : b.toNat < 0xC2 := by omega
        simp only [read, fresh, lead, notAscii, short, if_false, if_true]
      rw [List.cons_append, lossyFrom_done broken,
        ih fun b member => orphan b (List.mem_cons_of_mem _ member)]
      rfl

/-- What follows the first byte of a character, and that the replacement character is not
of two bytes. -/
theorem encodeChar_shape (c : Char) : ∃ first orphans, encodeChar c = first :: orphans ∧
    (∀ b ∈ orphans, 0x80 ≤ b.toNat ∧ b.toNat < 0xC0) ∧
    (orphans.length = 1 → c ≠ replacement) := by
  have tail (k : Nat) : 0x80 ≤ (UInt8.ofNat (k % 0x40 + 0x80)).toBitVec.toNat ∧
      (UInt8.ofNat (k % 0x40 + 0x80)).toBitVec.toNat < 0xC0 := by
    rw [toNat_byte (by omega)]
    omega
  unfold encodeChar String.utf8EncodeChar
  dsimp only
  split
  · exact ⟨_, [], rfl, by simp, by simp⟩
  split
  next two =>
    refine ⟨_, [_], rfl, by simpa using tail _, fun _ same => ?_⟩
    subst same
    exact absurd two (by decide)
  split
  · exact ⟨_, [_, _], rfl, by simpa using ⟨tail _, tail _⟩, by simp⟩
  · exact ⟨_, [_, _, _], rfl, by simpa using ⟨tail _, tail _, tail _⟩, by simp⟩

/-- An encoding less its first byte is not read as the text it was made from. -/
theorem lossy_decapitated {text : List Char} {first : Byte} {rest : List Byte}
    (encoded : encode text = first :: rest) :
    ∃ c tail orphans, text = c :: tail ∧ lossy rest = List.replicate orphans replacement ++ tail ∧
      lossy rest ≠ text := by
  cases text with
  | nil => cases encoded
  | cons c tail =>
      obtain ⟨lead, orphans, shape, orphan, wide⟩ := encodeChar_shape c
      rw [encode, List.flatMap_cons, shape, List.cons_append, ← encode, List.cons.injEq] at encoded
      obtain ⟨-, rfl⟩ := encoded
      have read : lossy (orphans ++ encode tail) =
          List.replicate orphans.length replacement ++ tail := by
        rw [lossy, lossyFrom_orphans _ orphan, ← lossy, lossy_encode]
      refine ⟨c, tail, orphans.length, rfl, read, fun same => ?_⟩
      rw [read] at same
      have one : orphans.length = 1 := by
        have lengths := congrArg List.length same
        simp only [List.length_append, List.length_replicate, List.length_cons] at lengths
        omega
      rw [one] at same
      exact wide one (List.cons.inj same).1.symm

end NanoKvm.Lib.Utf8
