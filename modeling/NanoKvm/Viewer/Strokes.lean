import NanoKvm.Script.Target
import NanoKvm.Viewer.Paste

/-!
# The transitions of a compiled text

A compiled text is one tap after another, and a tap's two report differences are
the edges of one keystroke: shift down, key down, key up, shift up.
-/

set_option autoImplicit false

namespace NanoKvm.Viewer

open NanoKvm.Proto
open NanoKvm.Lib
open NanoKvm.Script
open NanoKvm.Input (Event)

/-- One keystroke. -/
def strokeEvents (usage : U8) (shift : Bool) : List Event :=
  (if shift then [.key (.modifier Modifier.leftShift) true] else []) ++
    [.key (.usage usage) true, .key (.usage usage) false] ++
    (if shift then [.key (.modifier Modifier.leftShift) false] else [])

def keystrokes (layout : Layout) (caps : CapsLock) (c : Char) : List Event :=
  match layout.stroke c with
  | some (usage, shift) => strokeEvents usage (caps.shiftFor c shift)
  | none => []

@[simp] theorem setBits_zero : setBits (0#8) = [] := by decide

/-- From nothing down to a tap: its modifiers, then its keys.  And back: the keys,
then its modifiers. -/
theorem reportDifference_presses {usage modifiers : U8} {usages : List U8}
    (down : usagesNotIn (tapReport usage modifiers) KeyboardReport.releaseAll = usages) :
    reportDifference KeyboardReport.releaseAll (tapReport usage modifiers) =
        (setBits modifiers).map (fun bit => .key (.modifier bit) true) ++
          usages.map (fun usage => .key (.usage usage) true) ∧
      reportDifference (tapReport usage modifiers) KeyboardReport.releaseAll =
        usages.map (fun usage => .key (.usage usage) false) ++
          (setBits modifiers).map fun bit => .key (.modifier bit) false := by
  have up : usagesNotIn KeyboardReport.releaseAll (tapReport usage modifiers) = [] :=
    pressEdges_up allUp_releaseAll
  have upBits : KeyboardReport.releaseAll.modifiers &&& ~~~(tapReport usage modifiers).modifiers =
      0#8 := by simp [KeyboardReport.releaseAll]
  have downBits : (tapReport usage modifiers).modifiers &&&
      ~~~KeyboardReport.releaseAll.modifiers = modifiers := by
    change modifiers &&& ~~~(0#8) = modifiers
    rw [BitVec.not_zero, BitVec.and_allOnes]
  constructor
  · rw [reportDifference, up, down, upBits, downBits]
    simp
  · rw [reportDifference, up, down, upBits, downBits]
    simp

theorem reportDifference_tap {usage : U8} (real : usage ≠ 0#8) (modifiers : U8) :
    reportDifference KeyboardReport.releaseAll (tapReport usage modifiers) =
        (setBits modifiers).map (fun bit => .key (.modifier bit) true) ++
          [.key (.usage usage) true] ∧
      reportDifference (tapReport usage modifiers) KeyboardReport.releaseAll =
        .key (.usage usage) false ::
          (setBits modifiers).map fun bit => .key (.modifier bit) false :=
  reportDifference_presses (pressEdges_tap real allUp_releaseAll)

theorem transitionsFrom_tap {usage : U8} (real : usage ≠ 0#8) (shift : Bool) (label : StepLabel)
    (rest : List Step) :
    transitionsFrom KeyboardReport.releaseAll
        (tapSteps usage (if shift then Modifier.leftShift else 0#8) label ++ rest) =
      strokeEvents usage shift ++ transitionsFrom KeyboardReport.releaseAll rest := by
  have shiftBit : setBits Modifier.leftShift = [Modifier.leftShift] := by decide
  change reportDifference _ (tapReport usage _) ++
    (reportDifference (tapReport usage _) KeyboardReport.releaseAll ++ _) = _
  rw [(reportDifference_tap real _).1, (reportDifference_tap real _).2]
  cases shift <;> simp [shiftBit, strokeEvents]

/-- The transitions of a compiled text are its characters' keystrokes. -/
theorem transitions_ok {text : List Char} {layout : Layout} {caps : CapsLock} {script : Script}
    (compiled : compileType text layout caps = .ok script) :
    transitions script = text.flatMap (keystrokes layout caps) := by
  obtain ⟨reached, steps⟩ := compileType_ok compiled
  rw [transitions, steps]
  clear compiled steps
  induction text with
  | nil => rfl
  | cons c rest ih =>
      obtain ⟨⟨usage, shift⟩, found⟩ := Option.isSome_iff_exists.mp (reached c (by simp))
      have tapped : layout.tap caps c = tapSteps usage
          (if caps.shiftFor c shift then Modifier.leftShift else 0#8) (.typed c) := by
        simp only [Layout.tap, found]
      have keyed : keystrokes layout caps c = strokeEvents usage (caps.shiftFor c shift) := by
        simp only [keystrokes, found]
      rw [List.flatMap_cons, List.flatMap_cons, tapped, keyed,
        transitionsFrom_tap (stroke_reads found).1,
        ih fun other member => reached other (by simp [member])]

/-- Where compensating for CapsLock changes nothing, the text has no letter. -/
theorem no_letters {text : List Char} {layout : Layout} {script : Script}
    (compiled : compileType text layout .off = .ok script)
    (compensated : compileType text layout .compensate = .ok script) :
    ∀ c ∈ text, c.isAlpha = false := by
  obtain ⟨reached, steps⟩ := compileType_ok compiled
  have steps' := (compileType_ok compensated).2
  have same : text.flatMap (layout.tap .off) = text.flatMap (layout.tap .compensate) :=
    steps.symm.trans steps'
  clear compiled compensated steps steps'
  induction text with
  | nil => simp
  | cons c rest ih =>
      obtain ⟨⟨usage, shift⟩, found⟩ := Option.isSome_iff_exists.mp (reached c (by simp))
      rw [List.flatMap_cons, List.flatMap_cons] at same
      obtain ⟨here, later⟩ := List.append_inj same (by simp [Layout.tap, found, tapSteps])
      intro other member
      rcases List.mem_cons.mp member with rfl | member
      · by_contra letter
        have inverted : CapsLock.compensate.shiftFor other shift = !shift := by
          simp [CapsLock.shiftFor, letter]
        simp only [Layout.tap, found, inverted] at here
        cases shift <;> simp [CapsLock.shiftFor, tapSteps, Modifier.leftShift] at here
      · exact ih (fun next member => reached next (by simp [member])) later other member

theorem compileType_ne_nil {text : List Char} {layout : Layout} {caps : CapsLock}
    {script : Script} (compiled : compileType text layout caps = .ok script) : text ≠ [] := by
  rintro rfl
  cases compiled

/-- What an accepted paste is. -/
theorem compile_ok {text : List Char} {layout : Layout} {capsLock : Option Bool}
    {body : List Event} (accepted : compile text layout capsLock = .ok body) :
    ∃ script, compileType (normalise text) layout .off = .ok script ∧ body = transitions script ∧
      (capsLock ≠ some false → compileType (normalise text) layout .compensate = .ok script) := by
  unfold compile at accepted
  by_cases empty : normalise text = []
  · simp [empty] at accepted
  simp only [empty, if_false] at accepted
  cases compiled : compileType (normalise text) layout .off with
  | error e => cases e <;> simp [compiled] at accepted
  | ok script =>
      cases compensated : compileType (normalise text) layout .compensate with
      | error e => simp [compiled, compensated] at accepted
      | ok other =>
          simp only [compiled, compensated] at accepted
          by_cases same : other = script
          · subst same
            refine ⟨other, rfl, ?_, fun _ => rfl⟩
            cases capsLock with
            | none => simpa using accepted.symm
            | some on => cases on <;> simpa using accepted.symm
          · cases capsLock with
            | none => simp [same] at accepted
            | some on =>
                cases on with
                | true => simp [same] at accepted
                | false => exact ⟨script, rfl, by simpa using accepted.symm, by simp⟩

end NanoKvm.Viewer
