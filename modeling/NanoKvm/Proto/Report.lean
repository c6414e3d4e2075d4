import Mathlib.Data.List.Basic
import Mathlib.Tactic.Common

/-!
# Keyboard and mouse HID payloads

The report encoders of `proto/report.rs` and the command bytes of
`proto/mod.rs`.  A byte is a `BitVec 8`; the signed report fields are the same
eight bits read through `toInt`.
-/

set_option autoImplicit false

namespace NanoKvm.Proto

abbrev U8 := BitVec 8
abbrev I8 := BitVec 8
abbrev U16 := BitVec 16

namespace Modifier

def leftCtrl : U8 := 0x01#8
def leftShift : U8 := 0x02#8
def leftAlt : U8 := 0x04#8
def leftMeta : U8 := 0x08#8
def rightCtrl : U8 := 0x10#8
def rightShift : U8 := 0x20#8
def rightAlt : U8 := 0x40#8
def rightMeta : U8 := 0x80#8

end Modifier

namespace Button

def left : U8 := 0x01#8
def right : U8 := 0x02#8
def middle : U8 := 0x04#8
def back : U8 := 0x08#8
def forward : U8 := 0x10#8

end Button

namespace Cmd

def getInfo : U8 := 0x01#8
def sendKbGeneralData : U8 := 0x02#8
def sendMsAbsData : U8 := 0x04#8
def sendMsRelData : U8 := 0x05#8

end Cmd

/-- A physical key as the keyboard report carries it. -/
inductive HidKey where
  | modifier (bit : U8)
  | usage (usage : U8)
  deriving DecidableEq, Repr

/-- Absolute coordinates saturate here; the device wraps past 8191. -/
def absMax : U16 := 4095#16

def clampAbs (v : U16) : U16 := if absMax < v then absMax else v

/-- `to_le_bytes`. -/
def leBytes (v : U16) : List U8 := [v.setWidth 8, (v >>> 8).setWidth 8]

structure KeyboardReport where
  modifiers : U8
  keys : Vector U8 6
  deriving DecidableEq, Repr

def KeyboardReport.releaseAll : KeyboardReport := ⟨0#8, #v[0#8, 0#8, 0#8, 0#8, 0#8, 0#8]⟩

def KeyboardReport.payload (report : KeyboardReport) : List U8 :=
  report.modifiers :: 0#8 :: report.keys.toList

structure MouseRelReport where
  buttons : U8
  dx : I8
  dy : I8
  wheel : I8
  deriving DecidableEq, Repr

/-- Reports saturate at this magnitude; larger deltas are split. -/
def MouseRelReport.deltaMax : Int := 127

def MouseRelReport.payload (report : MouseRelReport) : List U8 :=
  [0x01#8, report.buttons, report.dx, report.dy, report.wheel]

structure MouseAbsReport where
  buttons : U8
  x : U16
  y : U16
  wheel : I8
  deriving DecidableEq, Repr

def MouseAbsReport.payload (report : MouseAbsReport) : List U8 :=
  [0x02#8, report.buttons] ++ leBytes (clampAbs report.x) ++ leBytes (clampAbs report.y) ++
    [report.wheel]

def mouseReleaseAll : MouseRelReport := ⟨0#8, 0#8, 0#8, 0#8⟩

/-- One command and its payload, as `Link::transact` is handed them. -/
structure HidFrame where
  cmd : U8
  payload : List U8
  deriving DecidableEq, Repr

def KeyboardReport.frame (report : KeyboardReport) : HidFrame :=
  ⟨Cmd.sendKbGeneralData, report.payload⟩

def MouseRelReport.frame (report : MouseRelReport) : HidFrame :=
  ⟨Cmd.sendMsRelData, report.payload⟩

def MouseAbsReport.frame (report : MouseAbsReport) : HidFrame :=
  ⟨Cmd.sendMsAbsData, report.payload⟩

/-! ## The bridge's three HID devices -/

/-- The last report each device of the bridge was sent. -/
structure Devices where
  keyboard : Option (List U8)
  abs : Option (List U8)
  rel : Option (List U8)
  deriving DecidableEq, Repr

def Devices.untouched : Devices := ⟨none, none, none⟩

def Devices.receive (devices : Devices) (frame : HidFrame) : Devices :=
  if frame.cmd = Cmd.sendKbGeneralData then { devices with keyboard := some frame.payload }
  else if frame.cmd = Cmd.sendMsAbsData then { devices with abs := some frame.payload }
  else if frame.cmd = Cmd.sendMsRelData then { devices with rel := some frame.payload }
  else devices

def Devices.receiveAll (devices : Devices) (frames : List HidFrame) : Devices :=
  frames.foldl Devices.receive devices

/-- The button byte of a mouse payload; it follows the mode byte in both formats. -/
def buttonByte : Option (List U8) → U8
  | some payload => payload.getD 1 0#8
  | none => 0#8

def keyboardIdle : Option (List U8) → Prop
  | some payload => ∀ byte ∈ payload, byte = 0#8
  | none => True

instance (payload : Option (List U8)) : Decidable (keyboardIdle payload) := by
  cases payload <;> unfold keyboardIdle <;> infer_instance

/-- No device's last report carries a pressed key, modifier or button. -/
structure Devices.Released (devices : Devices) : Prop where
  keyboard : keyboardIdle devices.keyboard
  abs : buttonByte devices.abs = 0#8
  rel : buttonByte devices.rel = 0#8

/-- Neither presses nor moves anything; an absolute report always moves. -/
def HidFrame.Inert (frame : HidFrame) : Prop :=
  if frame.cmd = Cmd.sendKbGeneralData then ∀ byte ∈ frame.payload, byte = 0#8
  else if frame.cmd = Cmd.sendMsRelData then ∀ byte ∈ frame.payload.drop 1, byte = 0#8
  else frame.cmd = Cmd.getInfo

instance (frame : HidFrame) : Decidable frame.Inert := by
  unfold HidFrame.Inert
  infer_instance

@[simp] theorem receiveAll_nil (devices : Devices) : devices.receiveAll [] = devices := rfl

@[simp] theorem receiveAll_append (devices : Devices) (first second : List HidFrame) :
    devices.receiveAll (first ++ second) = (devices.receiveAll first).receiveAll second := by
  simp [Devices.receiveAll]

@[simp] theorem receiveAll_cons (devices : Devices) (frame : HidFrame) (rest : List HidFrame) :
    devices.receiveAll (frame :: rest) = (devices.receive frame).receiveAll rest := rfl

@[simp] theorem receive_keyboard (devices : Devices) (report : KeyboardReport) :
    devices.receive report.frame = { devices with keyboard := some report.payload } := by
  simp [Devices.receive, KeyboardReport.frame]

@[simp] theorem receive_abs (devices : Devices) (report : MouseAbsReport) :
    devices.receive report.frame = { devices with abs := some report.payload } := by
  simp [Devices.receive, MouseAbsReport.frame, Cmd.sendMsAbsData, Cmd.sendKbGeneralData]

@[simp] theorem receive_rel (devices : Devices) (report : MouseRelReport) :
    devices.receive report.frame = { devices with rel := some report.payload } := by
  simp [Devices.receive, MouseRelReport.frame, Cmd.sendMsRelData, Cmd.sendMsAbsData,
    Cmd.sendKbGeneralData]

@[simp] theorem buttonByte_abs (report : MouseAbsReport) :
    buttonByte (some report.payload) = report.buttons := rfl

@[simp] theorem buttonByte_rel (report : MouseRelReport) :
    buttonByte (some report.payload) = report.buttons := rfl

@[simp] theorem buttonByte_none : buttonByte none = 0#8 := rfl

theorem keyboardIdle_releaseAll : keyboardIdle (some KeyboardReport.releaseAll.payload) := by
  decide

end NanoKvm.Proto
