import Mathlib.Data.List.Nodup
import Mathlib.Tactic.Common

/-!
# Bit masks as sets

`Within a b` says every bit set in `a` is set in `b`.  `setBits a` lists the bits
of `a` as masks of their own, and an `IsBit` is such a mask.
-/

set_option autoImplicit false

namespace NanoKvm.Lib

variable {w : Nat}

def Within (a b : BitVec w) : Prop := a &&& ~~~b = 0#w

instance (a b : BitVec w) : Decidable (Within a b) :=
  inferInstanceAs (Decidable (a &&& ~~~b = 0#w))

theorem within_iff (a b : BitVec w) :
    Within a b ↔ ∀ i, a.getLsbD i = true → b.getLsbD i = true := by
  constructor
  · intro within i bit
    have cleared := congrArg (fun v => BitVec.getLsbD v i) within
    have small : i < w := BitVec.lt_of_getLsbD bit
    simpa [bit, small] using cleared
  · intro covers
    apply BitVec.eq_of_getLsbD_eq
    intro i small
    have := covers i
    cases bit : a.getLsbD i <;> simp_all

theorem and_eq_zero_iff (a b : BitVec w) :
    a &&& b = 0#w ↔ ∀ i, a.getLsbD i = true → b.getLsbD i = false := by
  constructor
  · intro disjoint i bit
    have cleared := congrArg (fun v => BitVec.getLsbD v i) disjoint
    simpa [bit] using cleared
  · intro apart
    apply BitVec.eq_of_getLsbD_eq
    intro i small
    have := apart i
    cases bit : a.getLsbD i <;> simp_all

theorem within_self (a : BitVec w) : Within a a := by
  rw [within_iff]
  exact fun _ bit => bit

theorem within_zero_left (b : BitVec w) : Within 0#w b := by
  rw [within_iff]
  simp

theorem within_or {a b : BitVec w} (c : BitVec w) (within : Within a b) : Within a (b ||| c) := by
  rw [within_iff] at within ⊢
  intro i bit
  simp [within i bit]

/-- Clearing `c` in `b` keeps `a` inside exactly when it clears nothing of `a`. -/
theorem within_clear_iff {a b : BitVec w} (c : BitVec w) (within : Within a b) :
    Within a (b &&& ~~~c) ↔ a &&& c = 0#w := by
  rw [within_iff] at within ⊢
  rw [and_eq_zero_iff]
  constructor
  · intro cleared i bit
    have := cleared i bit
    simp only [BitVec.getLsbD_and, BitVec.getLsbD_not, Bool.and_eq_true, Bool.not_eq_true',
      decide_eq_true_eq] at this
    exact this.2.2
  · intro apart i bit
    have small : i < w := BitVec.lt_of_getLsbD bit
    have clear := apart i bit
    rw [BitVec.getLsbD_and, BitVec.getLsbD_not, within i bit, clear]
    simp [small]

/-! ## Single bits -/

def IsBit (bit : BitVec w) : Prop := bit ∈ (List.range w).map (BitVec.twoPow w)

instance (bit : BitVec w) : Decidable (IsBit bit) :=
  inferInstanceAs (Decidable (bit ∈ (List.range w).map (BitVec.twoPow w)))

/-- The set bits of a mask, lowest first. -/
def setBits (a : BitVec w) : List (BitVec w) :=
  ((List.range w).map (BitVec.twoPow w)).filter fun bit => a &&& bit ≠ 0#w

theorem isBit_iff {bit : BitVec w} : IsBit bit ↔ ∃ i < w, bit = BitVec.twoPow w i := by
  simp [IsBit, eq_comm]

theorem IsBit.ne_zero {bit : BitVec w} (single : IsBit bit) : bit ≠ 0#w := by
  obtain ⟨i, small, rfl⟩ := isBit_iff.mp single
  intro none
  have set := congrArg (fun v => BitVec.getLsbD v i) none
  simp [small] at set

theorem mem_setBits {a bit : BitVec w} : bit ∈ setBits a ↔ IsBit bit ∧ a &&& bit ≠ 0#w := by
  simp [setBits, IsBit]

/-- A single bit is in a mask exactly when the two share it. -/
theorem and_twoPow_ne_zero (a : BitVec w) {i : Nat} (small : i < w) :
    a &&& BitVec.twoPow w i ≠ 0#w ↔ a.getLsbD i = true := by
  rw [Ne, BitVec.and_comm, and_eq_zero_iff]
  constructor
  · intro shared
    by_contra clear
    apply shared
    intro j bit
    rw [BitVec.getLsbD_twoPow] at bit
    obtain ⟨_, rfl⟩ : i < w ∧ i = j := by simpa using bit
    simpa using clear
  · intro set clear
    have := clear i (by simp [small])
    rw [set] at this
    cases this

/-- Setting or clearing one bit is seen by that bit. -/
theorem and_ne_zero_same {a bit : BitVec w} (single : IsBit bit) (down : Bool) :
    (if down then a ||| bit else a &&& ~~~bit) &&& bit ≠ 0#w ↔ down = true := by
  obtain ⟨i, small, rfl⟩ := isBit_iff.mp single
  rw [and_twoPow_ne_zero _ small]
  cases down <;> simp [small]

/-- It is seen by no other. -/
theorem and_ne_zero_other {a bit other : BitVec w} (single : IsBit bit) (single' : IsBit other)
    (apart : bit ≠ other) (down : Bool) :
    (if down then a ||| bit else a &&& ~~~bit) &&& other ≠ 0#w ↔ a &&& other ≠ 0#w := by
  obtain ⟨i, small, rfl⟩ := isBit_iff.mp single
  obtain ⟨j, small', rfl⟩ := isBit_iff.mp single'
  have distinct : j ≠ i := by
    rintro rfl
    exact apart rfl
  rw [and_twoPow_ne_zero _ small', and_twoPow_ne_zero _ small']
  cases down <;> simp [small', distinct]

/-- A mask without single bits is empty. -/
theorem eq_zero_of_no_bit {a : BitVec w} (clear : ∀ bit, IsBit bit → a &&& bit = 0#w) :
    a = 0#w := by
  apply BitVec.eq_of_getLsbD_eq
  intro i small
  have := clear (BitVec.twoPow w i) (isBit_iff.mpr ⟨i, small, rfl⟩)
  have := (not_congr (and_twoPow_ne_zero a small)).mp (not_not_intro this)
  simpa using this

/-! ## Bits one by one -/

theorem setBits_nodup (a : BitVec w) : (setBits a).Nodup := by
  have apart : ((List.range w).map (BitVec.twoPow w)).Nodup := by
    refine List.Nodup.map_on ?_ List.nodup_range
    intro i small j _ same
    have small : i < w := List.mem_range.mp small
    have bit := congrArg (fun v => BitVec.getLsbD v i) same
    simp only [BitVec.getLsbD_twoPow, small, decide_true, Bool.true_and] at bit
    exact (by simpa using bit.symm : j < w ∧ j = i).2.symm
  exact apart.filter _

theorem or_ne_self {a bit : BitVec w} (single : IsBit bit) (absent : a &&& bit = 0#w) :
    a ||| bit ≠ a := by
  intro same
  have set := (and_ne_zero_same (a := a) single true).mpr rfl
  rw [if_pos rfl, same] at set
  exact set absent

theorem clear_ne_self {a bit : BitVec w} (single : IsBit bit) (present : a &&& bit ≠ 0#w) :
    a &&& ~~~bit ≠ a := by
  intro same
  have clear := mt (and_ne_zero_same (a := a) single false).mp (by decide)
  rw [if_neg (by decide), same] at clear
  exact clear present

theorem foldl_or_getLsbD (bits : List (BitVec w)) (a : BitVec w) (i : Nat) :
    (bits.foldl (· ||| ·) a).getLsbD i = (a.getLsbD i || bits.any fun bit => bit.getLsbD i) := by
  induction bits generalizing a with
  | nil => simp
  | cons bit rest ih => rw [List.foldl_cons, ih, BitVec.getLsbD_or, List.any_cons, Bool.or_assoc]

/-- Neither the order of the masks gathered nor a mask twice matters. -/
theorem foldl_or_set {first second : List (BitVec w)} (same : ∀ bit, bit ∈ first ↔ bit ∈ second)
    (a : BitVec w) : first.foldl (· ||| ·) a = second.foldl (· ||| ·) a := by
  apply BitVec.eq_of_getLsbD_eq
  intro i _
  rw [foldl_or_getLsbD, foldl_or_getLsbD, Bool.eq_iff_iff]
  simp only [Bool.or_eq_true, List.any_eq_true, same]

theorem foldl_clear_getLsbD (bits : List (BitVec w)) (a : BitVec w) {i : Nat} (small : i < w) :
    (bits.foldl (fun mask bit => mask &&& ~~~bit) a).getLsbD i =
      (a.getLsbD i && !bits.any fun bit => bit.getLsbD i) := by
  induction bits generalizing a with
  | nil => simp
  | cons bit rest ih =>
      rw [List.foldl_cons, ih, BitVec.getLsbD_and, BitVec.getLsbD_not, List.any_cons, Bool.not_or,
        Bool.and_assoc]
      simp [small]

theorem any_setBits (a : BitVec w) {i : Nat} (small : i < w) :
    ((setBits a).any fun bit => bit.getLsbD i) = a.getLsbD i := by
  rw [Bool.eq_iff_iff, List.any_eq_true]
  constructor
  · rintro ⟨bit, member, set⟩
    obtain ⟨single, shared⟩ := mem_setBits.mp member
    obtain ⟨j, within, rfl⟩ := isBit_iff.mp single
    have same : j = i := by simpa [within] using set
    exact same ▸ (and_twoPow_ne_zero a within).mp shared
  · intro set
    have single : IsBit (BitVec.twoPow w i) := isBit_iff.mpr ⟨i, small, rfl⟩
    have shared := (and_twoPow_ne_zero a small).mpr set
    exact ⟨BitVec.twoPow w i, mem_setBits.mpr ⟨single, shared⟩, by simp [small]⟩

theorem gather_setBits (a : BitVec w) : (setBits a).foldl (· ||| ·) 0#w = a := by
  apply BitVec.eq_of_getLsbD_eq
  intro i small
  rw [foldl_or_getLsbD, any_setBits a small, BitVec.getLsbD_zero, Bool.false_or]

theorem clear_setBits (a : BitVec w) :
    (setBits a).foldl (fun mask bit => mask &&& ~~~bit) a = 0#w := by
  apply BitVec.eq_of_getLsbD_eq
  intro i small
  rw [foldl_clear_getLsbD _ _ small, any_setBits a small, Bool.and_not_self, BitVec.getLsbD_zero]

/-! ## Distinct numbers

The numbers met so far are the bits of one number, so that a long list is decided
in one pass. -/

def freshFrom (seen : Nat) : List Nat → Bool
  | [] => true
  | n :: rest => !seen.testBit n && freshFrom (seen ||| 1 <<< n) rest

theorem fresh_of_freshFrom {seen : Nat} {numbers : List Nat}
    (fresh : freshFrom seen numbers = true) :
    numbers.Nodup ∧ ∀ n ∈ numbers, seen.testBit n = false := by
  induction numbers generalizing seen with
  | nil => exact ⟨List.nodup_nil, by simp⟩
  | cons n rest ih =>
      simp only [freshFrom, Bool.and_eq_true, Bool.not_eq_true'] at fresh
      obtain ⟨distinct, apart⟩ := ih fresh.2
      have both : ∀ m ∈ rest, seen.testBit m = false ∧ n ≠ m := by
        intro m member
        simpa [Nat.testBit_or, Nat.one_shiftLeft, Nat.testBit_two_pow] using apart m member
      refine ⟨List.nodup_cons.mpr ⟨fun member => (both n member).2 rfl, distinct⟩, ?_⟩
      rw [List.forall_mem_cons]
      exact ⟨fresh.1, fun m member => (both m member).1⟩

theorem nodup_of_freshFrom {numbers : List Nat} (fresh : freshFrom 0 numbers = true) :
    numbers.Nodup :=
  (fresh_of_freshFrom fresh).1

end NanoKvm.Lib
