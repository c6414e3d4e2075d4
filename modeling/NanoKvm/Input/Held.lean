import NanoKvm.Proto.Report

/-!
# Held keys and buttons

`input/held.rs`.  The physical set is unbounded and in press order; a key is
admitted as reported or suppressed when it is pressed and keeps that status
until it is released.  No usage is held twice and at most six are reported:
both facts travel with the state.
-/

set_option autoImplicit false

namespace NanoKvm.Input

open NanoKvm.Proto

/-- Non-modifier keys the 8-byte report can carry. -/
def slots : Nat := 6

inductive Status where
  | reported
  | suppressed
  deriving DecidableEq, Repr

structure HeldKey where
  usage : U8
  status : Status
  deriving DecidableEq, Repr

def HeldKey.isReported (key : HeldKey) : Bool := key.status = .reported

def reportedCount (keys : List HeldKey) : Nat := keys.countP HeldKey.isReported

@[ext]
structure HeldState where
  keys : List HeldKey
  modifiers : U8
  buttons : U8
  distinct : (keys.map HeldKey.usage).Nodup
  fits : reportedCount keys ≤ slots
  deriving DecidableEq

def HeldState.new : HeldState := ⟨[], 0#8, 0#8, by simp, by simp [reportedCount]⟩

def HeldState.holds (held : HeldState) (usage : U8) : Prop := usage ∈ held.keys.map HeldKey.usage

instance (held : HeldState) (usage : U8) : Decidable (held.holds usage) :=
  inferInstanceAs (Decidable (usage ∈ held.keys.map HeldKey.usage))

/-- The reported usages in press order. -/
def HeldState.reported (held : HeldState) : List U8 :=
  (held.keys.filter HeldKey.isReported).map HeldKey.usage

/-- Project the physical set into the report, remaining slots zero. -/
def HeldState.report (held : HeldState) : KeyboardReport :=
  { modifiers := held.modifiers
    keys := Vector.ofFn fun slot : Fin 6 => held.reported.getD slot 0#8 }

private theorem push_distinct {keys : List HeldKey} {usage : U8} (status : Status)
    (distinct : (keys.map HeldKey.usage).Nodup) (fresh : usage ∉ keys.map HeldKey.usage) :
    ((keys ++ [(⟨usage, status⟩ : HeldKey)]).map HeldKey.usage).Nodup := by
  rw [List.map_append, List.nodup_append]
  refine ⟨distinct, by simp, ?_⟩
  intro other member last single same
  simp only [List.map_cons, List.map_nil, List.mem_singleton] at single
  exact fresh (single ▸ same ▸ member)

private theorem push_fits {keys : List HeldKey} {usage : U8} (status : Status)
    (fits : reportedCount keys ≤ slots)
    (room : status = .reported → reportedCount keys < slots) :
    reportedCount (keys ++ [(⟨usage, status⟩ : HeldKey)]) ≤ slots := by
  have appended : reportedCount (keys ++ [(⟨usage, status⟩ : HeldKey)]) =
      reportedCount keys + if status = .reported then 1 else 0 := by
    simp [reportedCount, HeldKey.isReported, List.countP_cons]
  rw [appended]
  by_cases reported : status = .reported
  · have := room reported
    rw [if_pos reported]
    omega
  · rw [if_neg reported]
    exact fits

/-- Admit a key that is not held. -/
def HeldState.push (held : HeldState) (usage : U8) (status : Status)
    (fresh : ¬ held.holds usage)
    (room : status = .reported → reportedCount held.keys < slots) : HeldState :=
  { held with
    keys := held.keys ++ [⟨usage, status⟩]
    distinct := push_distinct status held.distinct fresh
    fits := push_fits status held.fits room }

/-- `keys.remove(pos)` at the first entry of that usage. -/
def HeldState.remove (held : HeldState) (usage : U8) : HeldState :=
  { held with
    keys := held.keys.eraseP fun key => key.usage = usage
    distinct := held.distinct.sublist (List.eraseP_sublist.map HeldKey.usage)
    fits := Nat.le_trans List.eraseP_sublist.countP_le held.fits }

/-- Apply one key transition; the report to send, if the projection changed. -/
def HeldState.applyKey (held : HeldState) (key : HidKey) (down : Bool) :
    HeldState × Option KeyboardReport :=
  match key with
  | .modifier bit =>
      let next := if down then held.modifiers ||| bit else held.modifiers &&& ~~~bit
      if next = held.modifiers then (held, none)
      else
        let after := { held with modifiers := next }
        (after, some after.report)
  | .usage usage =>
      if down then
        if fresh : held.holds usage then (held, none)
        else if room : reportedCount held.keys < slots then
          let after := held.push usage .reported fresh fun _ => room
          (after, some after.report)
        else (held.push usage .suppressed fresh (by intro; contradiction), none)
      else
        match held.keys.find? fun key => key.usage = usage with
        | none => (held, none)
        | some removed =>
            let after := held.remove usage
            match removed.status with
            | .reported => (after, some after.report)
            | .suppressed => (after, none)

/-- Apply one button transition; the new mask, if it changed. -/
def HeldState.applyButton (held : HeldState) (mask : U8) (down : Bool) : HeldState × Option U8 :=
  let next := if down then held.buttons ||| mask else held.buttons &&& ~~~mask
  if next = held.buttons then (held, none) else ({ held with buttons := next }, some next)

def HeldState.clear (_held : HeldState) : HeldState := HeldState.new

/-! ## What a transition leaves alone -/

@[simp] theorem new_buttons : HeldState.new.buttons = 0#8 := rfl

@[simp] theorem clear_eq (held : HeldState) : held.clear = HeldState.new := rfl

@[simp] theorem push_buttons (held : HeldState) (usage : U8) (status : Status)
    (fresh : ¬ held.holds usage)
    (room : status = .reported → reportedCount held.keys < slots) :
    (held.push usage status fresh room).buttons = held.buttons := rfl

@[simp] theorem remove_buttons (held : HeldState) (usage : U8) :
    (held.remove usage).buttons = held.buttons := rfl

/-- Keys never touch the button mask. -/
@[simp] theorem applyKey_buttons (held : HeldState) (key : HidKey) (down : Bool) :
    (held.applyKey key down).1.buttons = held.buttons := by
  cases key with
  | modifier bit =>
      dsimp only [HeldState.applyKey]
      by_cases same : (if down then held.modifiers ||| bit else held.modifiers &&& ~~~bit) =
          held.modifiers
      · rw [if_pos same]
      · rw [if_neg same]
  | usage usage =>
      cases down with
      | true =>
          simp only [HeldState.applyKey, if_true]
          split
          · rfl
          · split <;> rfl
      | false =>
          simp only [HeldState.applyKey, Bool.false_eq_true, if_false]
          split
          · rfl
          · split <;> rfl

/-- The button mask after one transition, whether or not it changed. -/
theorem applyButton_buttons (held : HeldState) (mask : U8) (down : Bool) :
    (held.applyButton mask down).1.buttons =
      if down then held.buttons ||| mask else held.buttons &&& ~~~mask := by
  dsimp only [HeldState.applyButton]
  by_cases same : (if down then held.buttons ||| mask else held.buttons &&& ~~~mask) =
      held.buttons
  · rw [if_pos same]
    exact same.symm
  · rw [if_neg same]

theorem applyButton_some {held : HeldState} {mask buttons : U8} {down : Bool}
    (changed : (held.applyButton mask down).2 = some buttons) :
    (held.applyButton mask down).1.buttons = buttons := by
  dsimp only [HeldState.applyButton] at changed ⊢
  by_cases equal : (if down then held.buttons ||| mask else held.buttons &&& ~~~mask) =
      held.buttons
  · rw [if_pos equal] at changed
    cases changed
  · rw [if_neg equal] at changed ⊢
    exact Option.some.inj changed

theorem applyButton_none {held : HeldState} {mask : U8} {down : Bool}
    (same : (held.applyButton mask down).2 = none) :
    (held.applyButton mask down).1 = held := by
  dsimp only [HeldState.applyButton] at same ⊢
  by_cases equal : (if down then held.buttons ||| mask else held.buttons &&& ~~~mask) =
      held.buttons
  · rw [if_pos equal]
  · rw [if_neg equal] at same
    cases same

/-! ## What a transition reports -/

@[simp] theorem applyKey_modifier_keys (held : HeldState) (bit : U8) (down : Bool) :
    (held.applyKey (.modifier bit) down).1.keys = held.keys := by
  cases down <;> simp only [HeldState.applyKey, if_true, Bool.false_eq_true, if_false] <;>
    split <;> rfl

theorem applyKey_modifier_modifiers (held : HeldState) (bit : U8) (down : Bool) :
    (held.applyKey (.modifier bit) down).1.modifiers =
      if down then held.modifiers ||| bit else held.modifiers &&& ~~~bit := by
  dsimp only [HeldState.applyKey]
  by_cases same : (if down then held.modifiers ||| bit else held.modifiers &&& ~~~bit) =
      held.modifiers
  · rw [if_pos same]
    exact same.symm
  · rw [if_neg same]

@[simp] theorem applyKey_usage_modifiers (held : HeldState) (usage : U8) (down : Bool) :
    (held.applyKey (.usage usage) down).1.modifiers = held.modifiers := by
  cases down with
  | true =>
      simp only [HeldState.applyKey, if_true]
      split
      · rfl
      · split <;> rfl
  | false =>
      simp only [HeldState.applyKey, Bool.false_eq_true, if_false]
      split
      · rfl
      · split <;> rfl

@[simp] theorem applyButton_keys (held : HeldState) (mask : U8) (down : Bool) :
    (held.applyButton mask down).1.keys = held.keys := by
  cases down <;> simp only [HeldState.applyButton, if_true, Bool.false_eq_true, if_false] <;>
    split <;> rfl

@[simp] theorem applyButton_modifiers (held : HeldState) (mask : U8) (down : Bool) :
    (held.applyButton mask down).1.modifiers = held.modifiers := by
  cases down <;> simp only [HeldState.applyButton, if_true, Bool.false_eq_true, if_false] <;>
    split <;> rfl

/-- Releasing a usage removes its one entry. -/
theorem applyKey_up_keys (held : HeldState) (usage : U8) :
    (held.applyKey (.usage usage) false).1.keys =
      held.keys.eraseP fun key => key.usage = usage := by
  simp only [HeldState.applyKey, Bool.false_eq_true, if_false]
  cases found : held.keys.find? fun key => key.usage = usage with
  | none =>
      rw [List.find?_eq_none] at found
      exact (List.eraseP_of_forall_not found).symm
  | some removed =>
      cases status : removed.status <;> simp only [status] <;> rfl

theorem applyKey_up_holds (held : HeldState) (usage other : U8) :
    (held.applyKey (.usage usage) false).1.holds other ↔ held.holds other ∧ other ≠ usage := by
  have erased : (held.keys.eraseP fun key => key.usage = usage).map HeldKey.usage =
      (held.keys.map HeldKey.usage).erase usage := by
    induction held.keys with
    | nil => rfl
    | cons key rest ih =>
        by_cases here : key.usage = usage
        · simp [here]
        · simp [here, ih]
  rw [HeldState.holds, applyKey_up_keys, erased, held.distinct.mem_erase_iff, and_comm]
  rfl

/-- A suppressed key is in no report, so erasing it changes none. -/
theorem eraseP_suppressed {keys : List HeldKey} {p : HeldKey → Bool} {removed : HeldKey}
    (found : keys.find? p = some removed) (suppressed : removed.isReported = false) :
    (keys.eraseP p).filter HeldKey.isReported = keys.filter HeldKey.isReported := by
  induction keys with
  | nil => simp
  | cons key rest ih =>
      by_cases here : p key = true
      · rw [List.find?_cons_of_pos here] at found
        cases found
        rw [List.eraseP_cons_of_pos here, List.filter_cons_of_neg (by simp [suppressed])]
      · rw [List.find?_cons_of_neg here] at found
        rw [List.eraseP_cons_of_neg here, List.filter_cons, List.filter_cons, ih found]

/-- The report to send is the new projection, and where nothing is sent the
projection has not changed. -/
theorem applyKey_report (held : HeldState) (key : HidKey) (down : Bool) :
    (held.applyKey key down).2.getD held.report = (held.applyKey key down).1.report := by
  cases key with
  | modifier bit =>
      cases down <;> simp only [HeldState.applyKey, if_true, Bool.false_eq_true, if_false] <;>
        split <;> rfl
  | usage usage =>
      cases down with
      | true =>
          simp only [HeldState.applyKey, if_true]
          by_cases fresh : held.holds usage
          · rw [dif_pos fresh]
            rfl
          · rw [dif_neg fresh]
            by_cases room : reportedCount held.keys < slots
            · rw [dif_pos room]
              rfl
            · rw [dif_neg room]
              simp [HeldState.report, HeldState.reported, HeldState.push, HeldKey.isReported]
      | false =>
          simp only [HeldState.applyKey, Bool.false_eq_true, if_false]
          cases found : held.keys.find? fun key => key.usage = usage with
          | none => rfl
          | some removed =>
              cases status : removed.status with
              | reported => simp [status]
              | suppressed =>
                  have unchanged := eraseP_suppressed found (by simp [HeldKey.isReported, status])
                  simp only [status, Option.getD_none, HeldState.report, HeldState.reported,
                    HeldState.remove, unchanged]

theorem mem_report (held : HeldState) {usage : U8} (real : usage ≠ 0#8) :
    usage ∈ held.report.keys.toList ↔ usage ∈ held.reported := by
  have fits : held.reported.length ≤ 6 := by
    have := held.fits
    rw [reportedCount, List.countP_eq_length_filter] at this
    simpa [HeldState.reported, slots] using this
  simp only [HeldState.report, Vector.toList_ofFn, List.mem_ofFn]
  constructor
  · rintro ⟨slot, same⟩
    by_cases used : slot.val < held.reported.length
    · rw [List.getD_eq_getElem?_getD, List.getElem?_eq_getElem used, Option.getD_some] at same
      exact same ▸ List.getElem_mem used
    · rw [List.getD_eq_getElem?_getD, List.getElem?_eq_none (by omega), Option.getD_none] at same
      exact absurd same.symm real
  · intro member
    obtain ⟨slot, used, same⟩ := List.getElem_of_mem member
    exact ⟨⟨slot, by omega⟩, by simp [List.getElem?_eq_getElem used, same]⟩

/-- Releasing a key reports nothing that was not reported before. -/
theorem applyKey_up_reported (held : HeldState) (key : HidKey) :
    (held.applyKey key false).1.reported ⊆ held.reported := by
  intro usage member
  cases key with
  | modifier bit => simpa [HeldState.reported] using member
  | usage released =>
      rw [HeldState.reported, applyKey_up_keys] at member
      exact (((List.eraseP_sublist.filter _).map _).subset) member

end NanoKvm.Input
