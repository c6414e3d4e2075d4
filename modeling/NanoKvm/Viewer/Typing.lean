import NanoKvm.Viewer.App
import NanoKvm.Viewer.Strokes

/-!
# A paste reaches the target as its text

The steps of a paste through the writer's held state: the prelude lifts what was
held without pressing anything, and each keystroke of the body starts and ends
with nothing down.
-/

set_option autoImplicit false

namespace NanoKvm.Viewer

open NanoKvm.Proto
open NanoKvm.Lib
open NanoKvm.Script
open NanoKvm.Input (Event HeldState HeldKey)

/-! ## Submitting transitions -/

/-- One transition through the writer's held state, and the keyboard report it sends. -/
def submitOne (held : HeldState) : Event → HeldState × Option KeyboardReport
  | .key key down => held.applyKey key down
  | .button button down => ((held.applyButton button down).1, none)
  | _ => (held, none)

def submitAll (held : HeldState) : List Event → HeldState × List KeyboardReport
  | [] => (held, [])
  | event :: rest =>
      let first := submitOne held event
      let later := submitAll first.1 rest
      (later.1, first.2.toList ++ later.2)

theorem submitAll_append (held : HeldState) (first second : List Event) :
    submitAll held (first ++ second) =
      ((submitAll (submitAll held first).1 second).1,
        (submitAll held first).2 ++ (submitAll (submitAll held first).1 second).2) := by
  induction first generalizing held with
  | nil => rfl
  | cons event rest ih => simp [submitAll, ih]

/-! ## What the writer holds -/

/-- Whether a key or button is down in the writer's held state. -/
def has (held : HeldState) : Input → Prop
  | .key (.usage usage) => held.holds usage
  | .key (.modifier bit) => held.modifiers &&& bit ≠ 0#8
  | .button mask => held.buttons &&& mask ≠ 0#8

/-- The set is what the writer's held state holds. -/
def Agrees (outstanding : Outstanding) (held : HeldState) : Prop :=
  ∀ input : Input, input.Single → (outstanding.holds input = true ↔ has held input)

theorem eq_new_of_has_nothing {held : HeldState}
    (nothing : ∀ input : Input, input.Single → ¬ has held input) : held = HeldState.new := by
  apply HeldState.ext
  · cases found : held.keys with
    | nil => rfl
    | cons key rest =>
        have : has held (.key (.usage key.usage)) := by
          simp [has, HeldState.holds, found]
        exact absurd this (nothing _ trivial)
  · apply eq_zero_of_no_bit
    intro bit single
    simpa [has] using nothing (.key (.modifier bit)) single
  · apply eq_zero_of_no_bit
    intro bit single
    simpa [has] using nothing (.button bit) single

theorem clear_bit_has {mask bit other : U8} (single : IsBit bit) (single' : IsBit other) :
    (mask &&& ~~~bit) &&& other ≠ 0#8 ↔ mask &&& other ≠ 0#8 ∧ other ≠ bit := by
  by_cases same : bit = other
  · subst same
    have := and_ne_zero_same (a := mask) single false
    simpa using this
  · have := and_ne_zero_other (a := mask) single single' same false
    simpa [Ne.symm same] using this

/-- An up lifts its own input and no other. -/
theorem submit_up_has (held : HeldState) {input other : Input} (single : input.Single)
    (single' : other.Single) :
    has (submitOne held input.up).1 other ↔ has held other ∧ other ≠ input := by
  cases input with
  | button mask =>
      change has (held.applyButton mask false).1 other ↔ _
      cases other with
      | button mask' =>
          simp only [has, Input.applyButton_buttons, Bool.false_eq_true, if_false,
            clear_bit_has single single', ne_eq, Input.button.injEq]
      | key key' => cases key' <;> simp [has, HeldState.holds]
  | key key =>
      change has (held.applyKey key false).1 other ↔ _
      cases key with
      | modifier bit =>
          cases other with
          | button mask' => simp [has]
          | key key' =>
              cases key' with
              | usage usage' => simp [has, HeldState.holds]
              | modifier bit' =>
                  simp only [has, Input.applyKey_modifier_modifiers, Bool.false_eq_true, if_false,
                    clear_bit_has single single', ne_eq, Input.key.injEq, HidKey.modifier.injEq]
      | usage usage =>
          cases other with
          | button mask' => simp [has]
          | key key' =>
              cases key' with
              | modifier bit' => simp [has]
              | usage usage' => simp [has, Input.applyKey_up_holds]

/-- An up presses nothing. -/
theorem submit_up_quiet (held : HeldState) (input : Input) {report : KeyboardReport}
    (sent : (submitOne held input.up).2 = some report) : pressEdges held.report report = [] := by
  cases input with
  | button mask => cases sent
  | key key =>
      have projected := Input.applyKey_report held key false
      change (held.applyKey key false).2 = some report at sent
      rw [sent, Option.getD_some] at projected
      rw [pressEdges, List.filter_eq_nil_iff]
      intro usage member pressed
      simp only [Bool.and_eq_true, decide_eq_true_eq, Bool.not_eq_true', List.contains_eq_mem,
        decide_eq_false_iff_not] at pressed
      obtain ⟨real, fresh⟩ := pressed
      rw [projected, Input.mem_report _ real] at member
      exact fresh ((Input.mem_report _ real).mpr (Input.applyKey_up_reported held key member))

/-! ## The prelude -/

/-- Submitting keeps the target's last report the writer's projection. -/
theorem submitOne_report (caps : Bool) {target : Target} {held : HeldState} (event : Event)
    (same : target.report = held.report) :
    (target.receiveAll caps (submitOne held event).2.toList).report =
      (submitOne held event).1.report := by
  cases event with
  | key key down =>
      have projected := Input.applyKey_report held key down
      change (target.receiveAll caps (held.applyKey key down).2.toList).report = _
      cases sent : (held.applyKey key down).2 with
      | none =>
          rw [sent, Option.getD_none] at projected
          exact same.trans projected
      | some report =>
          rw [sent, Option.getD_some] at projected
          exact projected
  | button button down =>
      exact same.trans (by simp [submitOne, HeldState.report, HeldState.reported])
  | pointerAbs x y => exact same
  | pointerRel dx dy => exact same
  | wheel delta => exact same

/-- Lifting inputs types nothing and leaves what was not lifted. -/
theorem submit_ups (caps : Bool) (target : Target) (inputs : List Input)
    (single : ∀ input ∈ inputs, input.Single) {held : HeldState}
    (same : target.report = held.report) :
    (target.receiveAll caps (submitAll held (inputs.map Input.up)).2).typed = target.typed ∧
      (target.receiveAll caps (submitAll held (inputs.map Input.up)).2).report =
        (submitAll held (inputs.map Input.up)).1.report ∧
      ∀ other : Input, other.Single →
        (has (submitAll held (inputs.map Input.up)).1 other ↔ has held other ∧ other ∉ inputs) := by
  induction inputs generalizing target held with
  | nil => exact ⟨rfl, same, by simp [submitAll]⟩
  | cons input rest ih =>
      have quiet : (target.receiveAll caps (submitOne held input.up).2.toList).typed =
          target.typed := by
        cases sent : (submitOne held input.up).2 with
        | none => rfl
        | some report =>
            rw [Option.toList_some, read_cons, read_nil,
              receive_quiet (same ▸ submit_up_quiet held input sent)]
      obtain ⟨typed, reported, kept⟩ := ih
        (target.receiveAll caps (submitOne held input.up).2.toList)
        (fun other member => single other (by simp [member]))
        (submitOne_report caps input.up same)
      simp only [List.map_cons, submitAll, read_append]
      refine ⟨typed.trans quiet, reported, ?_⟩
      intro other one
      rw [kept other one, submit_up_has held (single input (by simp)) one, List.mem_cons]
      tauto

/-- The prelude lifts everything the writer holds, and types nothing. -/
theorem submit_prelude (caps : Bool) {outstanding : Outstanding} {held : HeldState}
    (agrees : Agrees outstanding held) :
    (submitAll held (releasePrelude outstanding)).1 = HeldState.new ∧
      Target.receiveAll caps ⟨held.report, []⟩
        (submitAll held (releasePrelude outstanding)).2 = ⟨HeldState.new.report, []⟩ := by
  rw [releasePrelude_eq]
  obtain ⟨typed, reported, kept⟩ := submit_ups caps ⟨held.report, []⟩
    (heldInputs outstanding) (fun input member => (mem_heldInputs.mp member).1) rfl
  have lifted : (submitAll held ((heldInputs outstanding).map Input.up)).1 = HeldState.new := by
    apply eq_new_of_has_nothing
    intro input single still
    obtain ⟨was, absent⟩ := (kept input single).mp still
    exact absent (mem_heldInputs.mpr ⟨single, (agrees input single).mpr was⟩)
  refine ⟨lifted, ?_⟩
  rw [lifted] at reported
  cases result : Target.receiveAll caps ⟨held.report, []⟩
      (submitAll held ((heldInputs outstanding).map Input.up)).2 with
  | mk report text =>
      rw [result] at typed reported
      simp only at typed reported
      rw [typed, reported]

/-! ## The body -/

/-- At most one reported key down. -/
def lone (usage : Option U8) (modifiers : U8) : HeldState where
  keys := (usage.map fun usage => ⟨usage, .reported⟩).toList
  modifiers
  buttons := 0#8
  distinct := by cases usage <;> simp
  fits := by cases usage <;> simp [Input.reportedCount, Input.slots, HeldKey.isReported]

theorem lone_none : lone none 0#8 = HeldState.new := rfl

theorem lone_press (usage modifiers : U8) :
    (lone none modifiers).applyKey (.usage usage) true =
      (lone (some usage) modifiers, some (tapReport usage modifiers)) := rfl

theorem lone_release (usage modifiers : U8) :
    (lone (some usage) modifiers).applyKey (.usage usage) false =
      (lone none modifiers, some (tapReport 0#8 modifiers)) := by
  have removed : (lone (some usage) modifiers).remove usage = lone none modifiers := by
    apply HeldState.ext
    · simp [HeldState.remove, lone]
    · rfl
    · rfl
  have found : (lone (some usage) modifiers).keys.find? (fun key => key.usage = usage) =
      some ⟨usage, .reported⟩ := by simp [lone]
  simp only [HeldState.applyKey, Bool.false_eq_true, if_false, found, removed]
  rfl

/-- A keystroke from nothing down: the reports it sends, back to nothing down. -/
theorem submit_stroke (usage : U8) (shift : Bool) :
    submitAll HeldState.new (strokeEvents usage shift) =
      (HeldState.new,
        if shift then
          [tapReport 0#8 Modifier.leftShift, tapReport usage Modifier.leftShift,
            tapReport 0#8 Modifier.leftShift, tapReport 0#8 0#8]
        else [tapReport usage 0#8, tapReport 0#8 0#8]) := by
  have shiftDown : (lone none 0#8).applyKey (.modifier Modifier.leftShift) true =
      (lone none Modifier.leftShift, some (tapReport 0#8 Modifier.leftShift)) := rfl
  have shiftUp : (lone none Modifier.leftShift).applyKey (.modifier Modifier.leftShift) false =
      (lone none 0#8, some (tapReport 0#8 0#8)) := rfl
  rw [← lone_none]
  cases shift <;>
    simp [strokeEvents, submitAll, submitOne, shiftDown, shiftUp, lone_press, lone_release]

theorem allUp_tap (modifiers : U8) : AllUp (tapReport 0#8 modifiers) := by
  intro usage member
  simpa [tapReport] using member

/-- A keystroke reads as its character. -/
theorem stroke_typed {caps : Bool} {layout : Layout} {c : Char} {usage : U8} {shift : Bool}
    (found : layout.stroke c = some (usage, shift)) (plain : caps = true → c.isAlpha = false)
    (text : List Char) :
    Target.receiveAll caps ⟨HeldState.new.report, text⟩
        (submitAll HeldState.new (strokeEvents usage shift)).2 =
      ⟨HeldState.new.report, text ++ [c]⟩ := by
  have real := (stroke_reads found).1
  have reads := pressed_stroke found plain
  have quiet : ∀ (last : KeyboardReport) (modifiers : U8) (text : List Char),
      Target.receive caps ⟨last, text⟩ (tapReport 0#8 modifiers) =
        ⟨tapReport 0#8 modifiers, text⟩ := by
    intro last modifiers text
    exact receive_quiet (pressEdges_up (allUp_tap modifiers))
  rw [submit_stroke]
  cases shift with
  | true =>
      have press : Target.receive caps ⟨tapReport 0#8 Modifier.leftShift, text⟩
          (tapReport usage Modifier.leftShift) =
            ⟨tapReport usage Modifier.leftShift, text ++ [c]⟩ :=
        receive_tap real (allUp_tap _) reads
      rw [if_pos rfl, read_cons, quiet, read_cons, press, read_cons, quiet, read_cons, quiet]
      rfl
  | false =>
      have press : Target.receive caps ⟨HeldState.new.report, text⟩ (tapReport usage 0#8) =
          ⟨tapReport usage 0#8, text ++ [c]⟩ :=
        receive_tap real (allUp_tap 0#8) reads
      rw [if_neg (by simp), read_cons, press, read_cons, quiet]
      rfl

/-- The body types its text, from nothing down to nothing down. -/
theorem body_typed {caps : Bool} {layout : Layout} (text : List Char)
    (reached : ∀ c ∈ text, (layout.stroke c).isSome = true)
    (plain : caps = true → ∀ c ∈ text, c.isAlpha = false) (before : List Char) :
    (submitAll HeldState.new (text.flatMap (keystrokes layout .off))).1 = HeldState.new ∧
      Target.receiveAll caps ⟨HeldState.new.report, before⟩
          (submitAll HeldState.new (text.flatMap (keystrokes layout .off))).2 =
        ⟨HeldState.new.report, before ++ text⟩ := by
  induction text generalizing before with
  | nil => simp [submitAll]
  | cons c rest ih =>
      obtain ⟨⟨usage, shift⟩, found⟩ := Option.isSome_iff_exists.mp (reached c (by simp))
      have keyed : keystrokes layout .off c = strokeEvents usage shift := by
        simp only [keystrokes, found]
        rfl
      have lifted : (submitAll HeldState.new (strokeEvents usage shift)).1 = HeldState.new := by
        rw [submit_stroke]
      obtain ⟨rested, typed⟩ := ih (fun other member => reached other (by simp [member]))
        (fun on other member => plain on other (by simp [member])) (before ++ [c])
      rw [List.flatMap_cons, keyed, submitAll_append, lifted, read_append,
        stroke_typed found (fun on => plain on c (by simp)), typed]
      exact ⟨rested, by simp⟩

/-! ## The whole paste -/

/-- No CR survives, and text without one is unchanged. -/
theorem cr_not_mem_normalise (text : List Char) : '\r' ∉ normalise text := by
  induction text using normalise.induct with
  | case1 => simp [normalise]
  | case2 rest ih => simpa [normalise] using ih
  | case3 rest other ih => simpa [normalise, other] using ih
  | case4 c rest _ single ih =>
      rw [normalise]
      · simpa [Ne.symm single] using ih
      all_goals assumption

theorem normalise_of_no_cr {text : List Char} (plain : '\r' ∉ text) : normalise text = text := by
  induction text with
  | nil => rfl
  | cons c rest ih =>
      obtain ⟨single, later⟩ : '\r' ≠ c ∧ '\r' ∉ rest := by simpa using plain
      rw [normalise, ih later]
      · rintro rest' rfl
        exact (single rfl).elim
      · rintro rfl
        exact (single rfl).elim

/-- Started over a writer that holds what the viewer thinks the target holds, an
accepted paste reads as its normalised text under the CapsLock the device
reported, as the command line's reports would without it, and leaves nothing
down.  A refused one starts nothing. -/
theorem paste_types_text (app : App) (text : List Char) (capsLock : Option Bool) (caps : Bool)
    (told : ∀ on, capsLock = some on → caps = on) (held : HeldState)
    (agrees : Agrees app.outstanding held) :
    match compile text app.layout capsLock with
    | .ok body =>
        let job := PasteJob.new app.outstanding body
        let submitted := submitAll held job.steps
        let target := Target.receiveAll caps ⟨held.report, []⟩ submitted.2
        (app.compileAndStart text capsLock).paste = .running job ∧
          target.typed = normalise text ∧
          (∃ script, compileType (normalise text) app.layout .off = .ok script ∧
            (Target.receiveAll false ⟨KeyboardReport.releaseAll, []⟩ script.reports).typed =
              target.typed) ∧
          submitted.1 = HeldState.new ∧ target.report = KeyboardReport.releaseAll
    | .error refusal => app.compileAndStart text capsLock = app.refusePaste refusal ∧
        (app.refusePaste refusal).paste = .idle ∧ (app.refusePaste refusal).log = app.log := by
  cases accepted : compile text app.layout capsLock with
  | error refusal => exact ⟨by simp [App.compileAndStart, accepted], rfl, rfl⟩
  | ok body =>
      obtain ⟨script, compiled, rfl, compensated⟩ := compile_ok accepted
      have plain : caps = true → ∀ c ∈ normalise text, c.isAlpha = false := by
        intro on
        apply no_letters compiled
        apply compensated
        intro off
        exact Bool.false_ne_true ((told false off).symm.trans on)
      obtain ⟨reached, _⟩ := compileType_ok compiled
      obtain ⟨lifted, silent⟩ := submit_prelude caps agrees
      obtain ⟨rested, typed⟩ := body_typed (normalise text) reached plain []
      have whole : submitAll held (PasteJob.new app.outstanding (transitions script)).steps =
          (HeldState.new, (submitAll held (releasePrelude app.outstanding)).2 ++
            (submitAll HeldState.new
              ((normalise text).flatMap (keystrokes app.layout .off))).2) := by
        change submitAll held (releasePrelude app.outstanding ++ transitions script) = _
        rw [transitions_ok compiled, submitAll_append, lifted, rested]
      have reads : Target.receiveAll caps ⟨held.report, []⟩
          (submitAll held (PasteJob.new app.outstanding (transitions script)).steps).2 =
            ⟨HeldState.new.report, normalise text⟩ := by
        rw [whole, read_append, silent, typed, List.nil_append]
      refine ⟨by simp [App.compileAndStart, accepted], ?_, ⟨script, compiled, ?_⟩, ?_, ?_⟩
      · rw [reads]
      · rw [reads]
        exact script_reads compiled allUp_releaseAll
      · rw [whole]
      · rw [reads]
        rfl

/-- A capital, a letter and a CRLF pasted while Shift is held. -/
theorem paste_types_text_shift_held :
    let app := { App.new .absolute .us with outstanding := ⟨Modifier.leftShift, 0#256, 0#8⟩ }
    let held := lone none Modifier.leftShift
    ∃ body, compile ['H', 'i', '\r', '\n'] .us (some false) = .ok body ∧
      (Target.receiveAll false ⟨held.report, []⟩
        (submitAll held (PasteJob.new app.outstanding body).steps).2).typed = ['H', 'i', '\n'] := by
  intro app held
  have agrees : Agrees app.outstanding held := by
    intro input single
    cases input with
    | button mask => simp [app, held, lone, has, Outstanding.holds, Outstanding.holdsButton]
    | key key =>
        cases key with
        | modifier bit => exact holds_modifier _ bit
        | usage usage =>
            simp [app, held, lone, has, HeldState.holds, Outstanding.holds, Outstanding.holdsKey]
  have typed := paste_types_text app ['H', 'i', '\r', '\n'] (some false) false (by simp) held
    agrees
  have layout : app.layout = .us := rfl
  rw [layout] at typed
  cases accepted : compile ['H', 'i', '\r', '\n'] .us (some false) with
  | error refusal =>
      have : (compile ['H', 'i', '\r', '\n'] .us (some false)).isOk = true := rfl
      rw [accepted] at this
      cases this
  | ok body =>
      rw [accepted] at typed
      exact ⟨body, rfl, typed.2.1⟩

end NanoKvm.Viewer
