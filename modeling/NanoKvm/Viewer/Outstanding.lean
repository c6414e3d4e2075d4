import NanoKvm.Lib.Mask
import NanoKvm.Proto.Keymap

/-!
# The presses the target owns

`Outstanding` of `viewer/chrome/route.rs`: what the viewer has forwarded and not
yet sent an up for.  The source's four words of usages are one mask here; usage
`u` is bit `u % 64` of word `u / 64`, which is bit `u`.
-/

set_option autoImplicit false

namespace NanoKvm.Viewer

open NanoKvm.Proto
open NanoKvm.Lib

structure Outstanding where
  modifiers : U8
  usages : BitVec 256
  buttons : U8
  deriving DecidableEq, Repr

def Outstanding.none : Outstanding := ⟨0#8, 0#256, 0#8⟩

def usageBit (usage : U8) : BitVec 256 := BitVec.twoPow 256 usage.toNat

/-- Record a key transition that was forwarded to the target. -/
def Outstanding.setKey (outstanding : Outstanding) (key : HidKey) (down : Bool) : Outstanding :=
  match key with
  | .modifier bit =>
      { outstanding with
        modifiers :=
          if down then outstanding.modifiers ||| bit else outstanding.modifiers &&& ~~~bit }
  | .usage usage =>
      { outstanding with
        usages :=
          if down then outstanding.usages ||| usageBit usage
          else outstanding.usages &&& ~~~usageBit usage }

def Outstanding.holdsKey (outstanding : Outstanding) : HidKey → Bool
  | .modifier bit => outstanding.modifiers &&& bit ≠ 0#8
  | .usage usage => outstanding.usages &&& usageBit usage ≠ 0#256

def Outstanding.setButton (outstanding : Outstanding) (mask : U8) (down : Bool) : Outstanding :=
  { outstanding with
    buttons := if down then outstanding.buttons ||| mask else outstanding.buttons &&& ~~~mask }

/-- A zero mask, an unmapped button, is never held. -/
def Outstanding.holdsButton (outstanding : Outstanding) (mask : U8) : Bool :=
  mask ≠ 0#8 && outstanding.buttons &&& mask ≠ 0#8

/-- Every held key: usages in ascending order, then the modifiers. -/
def Outstanding.heldKeys (outstanding : Outstanding) : List HidKey :=
  (((List.range 256).map (BitVec.ofNat 8)).filter
      fun usage => outstanding.holdsKey (.usage usage)).map .usage ++
    (setBits outstanding.modifiers).map .modifier

def Outstanding.heldButtons (outstanding : Outstanding) : List U8 := setBits outstanding.buttons

def Outstanding.clear (_outstanding : Outstanding) : Outstanding := .none

def Outstanding.isEmpty (outstanding : Outstanding) : Bool := outstanding = .none

/-! ## Keys and buttons alike -/

/-- What a press is of. -/
inductive Input where
  | key (key : HidKey)
  | button (mask : U8)
  deriving DecidableEq, Repr

/-- One usage, or one bit of a mask. -/
def Input.Single : Input → Prop
  | .key (.usage _) => True
  | .key (.modifier bit) => IsBit bit
  | .button mask => IsBit mask

instance (input : Input) : Decidable input.Single :=
  match input with
  | .key (.usage _) => isTrue trivial
  | .key (.modifier bit) => inferInstanceAs (Decidable (IsBit bit))
  | .button mask => inferInstanceAs (Decidable (IsBit mask))

def Outstanding.set (outstanding : Outstanding) (input : Input) (down : Bool) : Outstanding :=
  match input with
  | .key key => outstanding.setKey key down
  | .button mask => outstanding.setButton mask down

def Outstanding.holds (outstanding : Outstanding) : Input → Bool
  | .key key => outstanding.holdsKey key
  | .button mask => outstanding.holdsButton mask

theorem usageBit_isBit (usage : U8) : IsBit (usageBit usage) :=
  isBit_iff.mpr ⟨usage.toNat, usage.isLt, rfl⟩

theorem usageBit_injective {usage other : U8} (same : usageBit usage = usageBit other) :
    usage = other := by
  have bit := congrArg (fun mask => BitVec.getLsbD mask usage.toNat) same
  have small : usage.toNat < 256 := usage.isLt
  simp only [usageBit, BitVec.getLsbD_twoPow, small, decide_true, Bool.true_and] at bit
  apply BitVec.eq_of_toNat_eq
  simpa [other.isLt, eq_comm] using bit

theorem none_holds (input : Input) : Outstanding.none.holds input = false := by
  cases input with
  | button mask => simp [Outstanding.holds, Outstanding.holdsButton, Outstanding.none]
  | key key => cases key <;> simp [Outstanding.holds, Outstanding.holdsKey, Outstanding.none]

theorem holds_modifier (outstanding : Outstanding) (bit : U8) :
    outstanding.holds (.key (.modifier bit)) = true ↔ outstanding.modifiers &&& bit ≠ 0#8 := by
  simp [Outstanding.holds, Outstanding.holdsKey]

theorem holds_usage (outstanding : Outstanding) (usage : U8) :
    outstanding.holds (.key (.usage usage)) = true ↔
      outstanding.usages &&& usageBit usage ≠ 0#256 := by
  simp [Outstanding.holds, Outstanding.holdsKey]

theorem holds_button (outstanding : Outstanding) {mask : U8} (single : IsBit mask) :
    outstanding.holds (.button mask) = true ↔ outstanding.buttons &&& mask ≠ 0#8 := by
  simp [Outstanding.holds, Outstanding.holdsButton, single.ne_zero]

theorem holds_set_same (outstanding : Outstanding) {input : Input} (single : input.Single)
    (down : Bool) : (outstanding.set input down).holds input = down := by
  rw [Bool.eq_iff_iff]
  cases input with
  | button mask =>
      rw [holds_button _ single]
      exact and_ne_zero_same single down
  | key key =>
      cases key with
      | modifier bit =>
          rw [holds_modifier]
          exact and_ne_zero_same single down
      | usage usage =>
          rw [holds_usage]
          exact and_ne_zero_same (usageBit_isBit usage) down

theorem holds_set_other (outstanding : Outstanding) {input other : Input}
    (single : input.Single) (single' : other.Single) (apart : input ≠ other) (down : Bool) :
    (outstanding.set input down).holds other = outstanding.holds other := by
  rw [Bool.eq_iff_iff]
  cases input with
  | button mask =>
      cases other with
      | key key => cases key <;> rfl
      | button mask' =>
          have distinct : mask ≠ mask' := by
            rintro rfl
            exact apart rfl
          rw [holds_button _ single', holds_button _ single']
          exact and_ne_zero_other single single' distinct down
  | key key =>
      cases other with
      | button mask' => cases key <;> rfl
      | key key' =>
          cases key with
          | modifier bit =>
              cases key' with
              | usage usage' => rfl
              | modifier bit' =>
                  have distinct : bit ≠ bit' := by
                    rintro rfl
                    exact apart rfl
                  rw [holds_modifier, holds_modifier]
                  exact and_ne_zero_other single single' distinct down
          | usage usage =>
              cases key' with
              | modifier bit' => rfl
              | usage usage' =>
                  have distinct : usageBit usage ≠ usageBit usage' := by
                    intro same
                    exact apart (by rw [usageBit_injective same])
                  rw [holds_usage, holds_usage]
                  exact and_ne_zero_other (usageBit_isBit usage) (usageBit_isBit usage')
                    distinct down

/-- Nothing is held exactly when no single input is. -/
theorem eq_none_iff (outstanding : Outstanding) :
    outstanding = .none ↔ ∀ input, input.Single → outstanding.holds input = false := by
  constructor
  · rintro rfl input _
    exact none_holds input
  · intro clear
    have modifiers : outstanding.modifiers = 0#8 := by
      apply eq_zero_of_no_bit
      intro bit single
      simpa [Outstanding.holds, Outstanding.holdsKey] using clear (.key (.modifier bit)) single
    have usages : outstanding.usages = 0#256 := by
      apply eq_zero_of_no_bit
      intro bit single
      obtain ⟨i, small, rfl⟩ := isBit_iff.mp single
      have := clear (.key (.usage (BitVec.ofNat 8 i))) trivial
      simpa [Outstanding.holds, Outstanding.holdsKey, usageBit, Nat.mod_eq_of_lt small] using this
    have buttons : outstanding.buttons = 0#8 := by
      apply eq_zero_of_no_bit
      intro bit single
      have := clear (.button bit) single
      simpa [Outstanding.holds, Outstanding.holdsButton, single.ne_zero] using this
    cases outstanding
    simp only at modifiers usages buttons
    subst modifiers usages buttons
    rfl

theorem mem_heldKeys {outstanding : Outstanding} {key : HidKey} :
    key ∈ outstanding.heldKeys ↔ (Input.key key).Single ∧ outstanding.holdsKey key = true := by
  cases key with
  | modifier bit =>
      simp [Outstanding.heldKeys, mem_setBits, Input.Single, Outstanding.holdsKey]
  | usage usage =>
      simp only [Outstanding.heldKeys, List.mem_append, List.mem_map, List.mem_filter,
        List.mem_range, Input.Single, true_and]
      constructor
      · rintro (⟨other, ⟨⟨_, _, _⟩, held⟩, same⟩ | ⟨_, _, same⟩)
        · cases same
          exact held
        · cases same
      · intro held
        exact Or.inl ⟨usage, ⟨⟨usage.toNat, usage.isLt, by simp⟩, held⟩, rfl⟩

theorem mem_heldButtons {outstanding : Outstanding} {mask : U8} :
    mask ∈ outstanding.heldButtons ↔
      (Input.button mask).Single ∧ outstanding.holdsButton mask = true := by
  rw [Outstanding.heldButtons, mem_setBits]
  constructor
  · rintro ⟨single, shared⟩
    exact ⟨single, by simp [Outstanding.holdsButton, single.ne_zero, shared]⟩
  · rintro ⟨single, held⟩
    exact ⟨single, by simpa [Outstanding.holdsButton, single.ne_zero] using held⟩

/-- Every key of the keymap is one usage or one modifier bit. -/
theorem hidKey_single {code : KeyCode} {key : HidKey} (mapped : hidKey code = some key) :
    (Input.key key).Single := by
  have all : ((hidKey code).all fun key => decide (Input.key key).Single) = true := by
    cases code <;> rfl
  rw [mapped] at all
  exact of_decide_eq_true all

end NanoKvm.Viewer
