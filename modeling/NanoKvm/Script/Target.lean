import NanoKvm.Script.Compile

/-!
# What a US QWERTY target reads

The keyboard driver of the target: a usage that was up in the last report and is
down in this one types its character, with the shift bits of this report; a
CapsLock that is on inverts the case of letters.  The table is the board's own,
not the one the compiler types from.
-/

set_option autoImplicit false
set_option linter.dupNamespace false

namespace NanoKvm.Script

open NanoKvm.Proto

/-- Usage, unshifted, shifted. -/
def usBoard : List (U8 × Char × Char) :=
  [(0x04#8, 'a', 'A'), (0x05#8, 'b', 'B'), (0x06#8, 'c', 'C'), (0x07#8, 'd', 'D'),
    (0x08#8, 'e', 'E'), (0x09#8, 'f', 'F'), (0x0a#8, 'g', 'G'), (0x0b#8, 'h', 'H'),
    (0x0c#8, 'i', 'I'), (0x0d#8, 'j', 'J'), (0x0e#8, 'k', 'K'), (0x0f#8, 'l', 'L'),
    (0x10#8, 'm', 'M'), (0x11#8, 'n', 'N'), (0x12#8, 'o', 'O'), (0x13#8, 'p', 'P'),
    (0x14#8, 'q', 'Q'), (0x15#8, 'r', 'R'), (0x16#8, 's', 'S'), (0x17#8, 't', 'T'),
    (0x18#8, 'u', 'U'), (0x19#8, 'v', 'V'), (0x1a#8, 'w', 'W'), (0x1b#8, 'x', 'X'),
    (0x1c#8, 'y', 'Y'), (0x1d#8, 'z', 'Z'), (0x1e#8, '1', '!'), (0x1f#8, '2', '@'),
    (0x20#8, '3', '#'), (0x21#8, '4', '$'), (0x22#8, '5', '%'), (0x23#8, '6', '^'),
    (0x24#8, '7', '&'), (0x25#8, '8', '*'), (0x26#8, '9', '('), (0x27#8, '0', ')'),
    (0x28#8, '\n', '\n'), (0x2b#8, '\t', '\t'), (0x2c#8, ' ', ' '), (0x2d#8, '-', '_'),
    (0x2e#8, '=', '+'), (0x2f#8, '[', Char.ofNat 0x7B), (0x30#8, ']', Char.ofNat 0x7D),
    (0x31#8, Char.ofNat 0x5C, '|'), (0x33#8, ';', ':'),
    (0x34#8, Char.ofNat 0x27, Char.ofNat 0x22), (0x35#8, Char.ofNat 0x60, '~'),
    (0x36#8, ',', '<'), (0x37#8, '.', '>'), (0x38#8, '/', '?')]

def usChar (usage : U8) (shift : Bool) : Option Char :=
  (usBoard.find? fun key => key.1 == usage).map fun key => if shift then key.2.2 else key.2.1

def invertCase (c : Char) : Char :=
  if c.isLower then c.toUpper else if c.isUpper then c.toLower else c

/-- The character a press types. -/
def pressed (caps shift : Bool) (usage : U8) : Option Char :=
  (usChar usage shift).map fun c => if caps then invertCase c else c

def shiftBits : U8 := Modifier.leftShift ||| Modifier.rightShift

/-- The target: the last report it was sent, and what it has typed since. -/
structure Target where
  report : KeyboardReport
  typed : List Char

/-- The usages down in `next` that were up in `last`, in slot order. -/
def pressEdges (last next : KeyboardReport) : List U8 :=
  next.keys.toList.filter fun usage => usage ≠ 0#8 && !last.keys.toList.contains usage

def Target.receive (caps : Bool) (target : Target) (report : KeyboardReport) : Target where
  report := report
  typed := target.typed ++
    (pressEdges target.report report).filterMap
      (pressed caps (report.modifiers &&& shiftBits ≠ 0#8))

def Target.receiveAll (caps : Bool) (target : Target) (reports : List KeyboardReport) : Target :=
  reports.foldl (Target.receive caps) target

/-! ## The stroke of a character types it -/

/-- Whether the stroke the layout gives a character, if any, is a key that types it. -/
def strokeTypes (c : Char) : Bool :=
  match usKeyForChar c with
  | some (key, shift) =>
      match hidKey key with
      | some (.usage usage) => usage != 0#8 && usChar usage shift == some c
      | _ => false
  | none => true

/-- Whether the stroke of a letter types its other case with the other shift. -/
def strokeInverts (c : Char) : Bool :=
  match usKeyForChar c with
  | some (key, shift) =>
      match hidKey key with
      | some (.usage usage) => !c.isAlpha || (usChar usage !shift).map invertCase == some c
      | _ => false
  | none => true

theorem ascii_checked : ∀ n : Fin 128,
    strokeTypes (Char.ofNat n) = true ∧ strokeInverts (Char.ofNat n) = true := by
  decide +kernel

private theorem ascii_of_le {c top : Char} (below : c.val ≤ top.val) (ascii : top.toNat < 128) :
    c.toNat < 128 :=
  Nat.lt_of_le_of_lt (UInt32.le_iff_toNat_le.mp below) ascii

private theorem isLower_ascii {c : Char} (lower : c.isLower = true) : c.toNat < 128 := by
  have range : c.val ≤ 'z'.val := of_decide_eq_true (Bool.and_eq_true_iff.mp lower).2
  exact ascii_of_le range (by decide)

private theorem isUpper_ascii {c : Char} (upper : c.isUpper = true) : c.toNat < 128 := by
  have range : 'A'.val ≤ c.val ∧ c.val ≤ 'Z'.val := of_decide_eq_true upper
  exact ascii_of_le range.2 (by decide)

private theorem isDigit_ascii {c : Char} (digit : c.isDigit = true) : c.toNat < 128 := by
  have range : c.val ≤ '9'.val := of_decide_eq_true (Bool.and_eq_true_iff.mp digit).2
  exact ascii_of_le range (by decide)

private theorem shiftedDigits_ascii : ∀ c ∈ shiftedDigits, c.toNat < 128 := by
  simp [shiftedDigits]

private theorem punctuation_ascii :
    ∀ key ∈ punctuation, key.1.toNat < 128 ∧ key.2.1.toNat < 128 := by
  simp [punctuation]

/-- Every character the layout reaches is in ASCII. -/
theorem reachable_ascii {c : Char} {stroke : KeyCode × Bool}
    (found : usKeyForChar c = some stroke) : c.toNat < 128 := by
  unfold usKeyForChar at found
  by_cases lower : c.isLower = true
  · exact isLower_ascii lower
  by_cases upper : c.isUpper = true
  · exact isUpper_ascii upper
  by_cases digit : c.isDigit = true
  · exact isDigit_ascii digit
  rw [if_neg lower, if_neg upper, if_neg digit] at found
  cases shifted : shiftedDigits.findIdx? (· == c) with
  | some index =>
      have member : c ∈ shiftedDigits := by
        obtain ⟨here, same, _⟩ := List.findIdx?_eq_some_iff_getElem.mp shifted
        exact (beq_iff_eq.mp same) ▸ List.getElem_mem here
      exact shiftedDigits_ascii c member
  | none =>
      simp only [shifted] at found
      by_cases blank : c = ' ' ∨ c = '\n' ∨ c = '\t'
      · rcases blank with rfl | rfl | rfl <;> decide
      · obtain ⟨space, newline, tab⟩ : c ≠ ' ' ∧ c ≠ '\n' ∧ c ≠ '\t' := by
          simpa only [not_or] using blank
        rw [if_neg space, if_neg newline, if_neg tab] at found
        obtain ⟨key, member, typed⟩ := List.exists_of_findSome?_eq_some found
        obtain ⟨plainAscii, shiftedAscii⟩ := punctuation_ascii key member
        by_cases plain : c = key.1
        · rw [plain]
          exact plainAscii
        · by_cases upper : c = key.2.1
          · rw [upper]
            exact shiftedAscii
          · simp [plain, upper] at typed

/-- The key and shift the layout gives a character type that character. -/
theorem stroke_types {c : Char} {key : KeyCode} {shift : Bool}
    (found : usKeyForChar c = some (key, shift)) :
    ∃ usage, hidKey key = some (.usage usage) ∧ usage ≠ 0#8 ∧
      usChar usage shift = some c := by
  have types := (ascii_checked ⟨c.toNat, reachable_ascii found⟩).1
  rw [Char.ofNat_toNat] at types
  simp only [strokeTypes, found] at types
  cases mapped : hidKey key with
  | none => simp [mapped] at types
  | some hid =>
      cases hid with
      | modifier bit => simp [mapped] at types
      | usage usage =>
          simp only [mapped, Bool.and_eq_true, bne_iff_ne, beq_iff_eq] at types
          exact ⟨usage, rfl, types⟩

/-- A stroke of the layout is that of the key the layout gives the character. -/
theorem stroke_key {layout : Layout} {c : Char} {usage : U8} {shift : Bool}
    (found : layout.stroke c = some (usage, shift)) :
    ∃ key, usKeyForChar c = some (key, shift) ∧ hidKey key = some (.usage usage) ∧
      usage ≠ 0#8 ∧ usChar usage shift = some c := by
  cases layout with
  | us =>
      unfold Layout.stroke Layout.keyForChar at found
      cases typed : usKeyForChar c with
      | none => simp [typed] at found
      | some stroke =>
          obtain ⟨key, plain⟩ := stroke
          obtain ⟨code, mapped, real, reads⟩ := stroke_types typed
          have usageFound : usageOf key = .ok code := by simp [usageOf, mapped]
          simp only [typed, usageFound, Except.toOption, Option.map_some, Option.some.injEq,
            Prod.mk.injEq] at found
          obtain ⟨rfl, rfl⟩ := found
          exact ⟨key, rfl, mapped, real, reads⟩

/-- It is a real key, and its press types the character. -/
theorem stroke_reads {layout : Layout} {c : Char} {usage : U8} {shift : Bool}
    (found : layout.stroke c = some (usage, shift)) :
    usage ≠ 0#8 ∧ usChar usage shift = some c := by
  obtain ⟨key, -, -, real, reads⟩ := stroke_key found
  exact ⟨real, reads⟩

/-- With the other shift it types the letter's other case. -/
theorem stroke_other {layout : Layout} {c : Char} {usage : U8} {shift : Bool}
    (found : layout.stroke c = some (usage, shift)) (letter : c.isAlpha = true) :
    (usChar usage !shift).map invertCase = some c := by
  obtain ⟨key, typed, mapped, -, -⟩ := stroke_key found
  have inverts := (ascii_checked ⟨c.toNat, reachable_ascii typed⟩).2
  rw [Char.ofNat_toNat] at inverts
  simpa [strokeInverts, typed, mapped, letter] using inverts

/-! ## Reading a script report by report -/

/-- The reports the command line delivers, in order. -/
def stepReports (steps : List Step) : List KeyboardReport :=
  steps.filterMap fun step =>
    match step with
    | .send outgoing => some outgoing.report
    | .wait _ => none

def Script.reports (script : Script) : List KeyboardReport := stepReports script.steps

@[simp] theorem read_nil (caps : Bool) (target : Target) :
    target.receiveAll caps [] = target := rfl

@[simp] theorem read_cons (caps : Bool) (target : Target) (report : KeyboardReport)
    (rest : List KeyboardReport) :
    target.receiveAll caps (report :: rest) =
      (target.receive caps report).receiveAll caps rest := rfl

@[simp] theorem read_append (caps : Bool) (target : Target)
    (first second : List KeyboardReport) :
    target.receiveAll caps (first ++ second) =
      (target.receiveAll caps first).receiveAll caps second := by
  simp [Target.receiveAll]

/-- A report that presses nothing new types nothing. -/
theorem receive_quiet {caps : Bool} {target : Target} {report : KeyboardReport}
    (quiet : pressEdges target.report report = []) :
    target.receive caps report = ⟨report, target.typed⟩ := by
  simp [Target.receive, quiet]

/-- No usage is down. -/
def AllUp (report : KeyboardReport) : Prop := ∀ usage ∈ report.keys.toList, usage = 0#8

theorem pressEdges_tap {last : KeyboardReport} {usage modifiers : U8} (real : usage ≠ 0#8)
    (up : AllUp last) : pressEdges last (tapReport usage modifiers) = [usage] := by
  have fresh : usage ∉ last.keys := by
    intro member
    exact real (up usage (Vector.mem_toList_iff.mpr member))
  have slots : (tapReport usage modifiers).keys.toList = [usage, 0#8, 0#8, 0#8, 0#8, 0#8] := rfl
  rw [pressEdges, slots]
  simp [fresh, real]

theorem pressEdges_up {last next : KeyboardReport} (up : AllUp next) :
    pressEdges last next = [] := by
  rw [pressEdges, List.filter_eq_nil_iff]
  intro usage member
  simp [up usage member]

/-- The press of a character's key reads as that character. -/
theorem receive_tap {caps : Bool} {target : Target} {usage modifiers : U8} {c : Char}
    (real : usage ≠ 0#8) (up : AllUp target.report)
    (reads : pressed caps (modifiers &&& shiftBits ≠ 0#8) usage = some c) :
    target.receive caps (tapReport usage modifiers) =
      ⟨tapReport usage modifiers, target.typed ++ [c]⟩ := by
  unfold Target.receive
  rw [pressEdges_tap real up]
  change Target.mk _ (target.typed ++ List.filterMap (pressed caps (modifiers &&& shiftBits ≠ 0#8))
    [usage]) = _
  rw [List.filterMap_cons_some reads, List.filterMap_nil]

theorem allUp_releaseAll : AllUp KeyboardReport.releaseAll := by
  unfold AllUp
  decide

@[simp] theorem stepReports_append (first second : List Step) :
    stepReports (first ++ second) = stepReports first ++ stepReports second := by
  simp [stepReports]

@[simp] theorem stepReports_tap (usage modifiers : U8) (label : StepLabel) :
    stepReports (tapSteps usage modifiers label) =
      [tapReport usage modifiers, KeyboardReport.releaseAll] := rfl

theorem invertCase_other {c : Char} (other : c.isAlpha = false) : invertCase c = c := by
  obtain ⟨upper, lower⟩ := Bool.or_eq_false_iff.mp other
  simp [invertCase, upper, lower]

/-- A stroke reads as its character: any character without CapsLock, and any but a
letter with it. -/
theorem pressed_stroke {layout : Layout} {c : Char} {usage : U8} {shift caps : Bool}
    (found : layout.stroke c = some (usage, shift)) (plain : caps = true → c.isAlpha = false) :
    pressed caps ((if shift then Modifier.leftShift else 0#8) &&& shiftBits ≠ 0#8) usage =
      some c := by
  have reads := (stroke_reads found).2
  have bit : decide ((if shift then Modifier.leftShift else 0#8) &&& shiftBits ≠ 0#8) = shift := by
    cases shift <;> decide
  rw [bit, pressed, reads]
  cases caps with
  | false => rfl
  | true => simp [invertCase_other (plain rfl)]

/-- Whether a script is meant for a target whose CapsLock is on. -/
def CapsLock.meantFor : CapsLock → Bool
  | .off | .ignore => false
  | .compensate => true

/-- The stroke a mode sends reads as its character on the target it is meant for. -/
theorem pressed_shiftFor {layout : Layout} {caps : CapsLock} {c : Char} {usage : U8}
    {shift : Bool} (found : layout.stroke c = some (usage, shift)) :
    pressed caps.meantFor
      ((if caps.shiftFor c shift then Modifier.leftShift else 0#8) &&& shiftBits ≠ 0#8) usage =
        some c := by
  by_cases inverted : caps = .compensate ∧ c.isAlpha = true
  · obtain ⟨rfl, letter⟩ := inverted
    have bit : decide ((if !shift then Modifier.leftShift else 0#8) &&& shiftBits ≠ 0#8) =
        !shift := by
      cases shift <;> decide
    simp only [CapsLock.shiftFor, letter, if_true, bit]
    exact stroke_other found letter
  · have plain : caps.meantFor = true → c.isAlpha = false := by
      intro on
      cases caps with
      | off => cases on
      | ignore => cases on
      | compensate => simpa using inverted
    have same : caps.shiftFor c shift = shift := by
      cases caps with
      | off => rfl
      | ignore => rfl
      | compensate => simp [CapsLock.shiftFor, plain rfl]
    rw [same]
    exact pressed_stroke found plain

/-- Delivered report by report to the target it is meant for, a compiled text reads
as that text. -/
theorem script_reads {text : List Char} {layout : Layout} {caps : CapsLock} {script : Script}
    (compiled : compileType text layout caps = .ok script) {target : Target}
    (up : AllUp target.report) :
    (target.receiveAll caps.meantFor script.reports).typed = target.typed ++ text := by
  obtain ⟨reached, steps⟩ := compileType_ok compiled
  rw [Script.reports, steps]
  clear compiled steps
  induction text generalizing target with
  | nil => simp [stepReports]
  | cons c rest ih =>
      obtain ⟨⟨usage, shift⟩, found⟩ := Option.isSome_iff_exists.mp (reached c (by simp))
      have tapped : layout.tap caps c = tapSteps usage
          (if caps.shiftFor c shift then Modifier.leftShift else 0#8) (.typed c) := by
        simp only [Layout.tap, found]
      rw [List.flatMap_cons, stepReports_append, read_append, tapped, stepReports_tap,
        read_cons, read_cons, read_nil,
        receive_tap (stroke_reads found).1 up (pressed_shiftFor found),
        receive_quiet (pressEdges_up allUp_releaseAll),
        ih allUp_releaseAll fun other member => reached other (by simp [member])]
      simp

end NanoKvm.Script
