import Mathlib.Data.Nat.Find
import NanoKvm.Discovery.Path

/-!
# Evidence from USB topology

The sysfs walks and the three evidence rules of `discovery/mod.rs`, and the
rules as what they look for: the strongest that holds is the evidence.
-/

set_option autoImplicit false

namespace NanoKvm.Discovery

/-- A tree of directories, attributes and links, as the `Sysfs` trait shows it. -/
structure Sysfs where
  readAttr : Path → Text → Option Text
  readLink : Path → Option Path
  listDir : Path → List Path
  exists_ : Path → Bool
  /-- A directory has every entry once, under a name of its own. -/
  distinct : ∀ dir, (listDir dir).Nodup
  entries : ∀ dir, ∀ entry ∈ listDir dir, ∃ name : OsStr, entry = .normal name :: dir

structure UsbDevice where
  sysfs : Path
  name : Text
  vid : Nat
  pid : Nat
  product : Option Text
  serial : Option Text
  speed : Option Text
  busnum : Nat
  devnum : Nat
  deriving DecidableEq, Repr

def UsbDevice.id (device : UsbDevice) : Nat × Nat := (device.vid, device.pid)

def UsbDevice.parent (device : UsbDevice) : Option Path := device.sysfs.parent

def videoId : Nat × Nat := (0x345f, 0x2133)
def serialId : Nat × Nat := (0x1a86, 0x55d3)
def internalHubId : Nat × Nat := (0x1a40, 0x0101)

inductive Evidence where
  | sameDevice
  | portPeer (videoPort peerPort : Text)
  | internalHub (hub : UsbDevice)
  deriving DecidableEq, Repr

/-! ## The walks -/

namespace Sysfs
variable (sysfs : Sysfs)

/-- Whether a directory is a USB device. -/
def isUsb (dir : Path) : Bool := sysfs.exists_ (dir.join "idVendor".toList)

/-- The loop of both upward walks: the nearest USB device from here up. -/
def usbAbove : Path → Option Path
  | [] => if sysfs.isUsb [] then some [] else none
  | component :: up =>
      if sysfs.isUsb (component :: up) then some (component :: up)
      else
        match component with
        | .rootDir => none
        | _ => if up = [] then none else usbAbove up

def readUsbDevice (dir : Path) : Option UsbDevice := do
  let vid ← hex16 (← sysfs.readAttr dir "idVendor".toList)
  let pid ← hex16 (← sysfs.readAttr dir "idProduct".toList)
  let name ← dir.fileStr
  some {
    sysfs := dir
    name := name
    vid := vid
    pid := pid
    product := sysfs.readAttr dir "product".toList
    serial := sysfs.readAttr dir "serial".toList
    speed := sysfs.readAttr dir "speed".toList
    busnum := ((sysfs.readAttr dir "busnum".toList).bind parseU32).getD 0
    devnum := ((sysfs.readAttr dir "devnum".toList).bind parseU32).getD 0 }

def usbDeviceOf (classDir : Path) : Option UsbDevice := do
  let dir ← sysfs.readLink (classDir.join "device".toList)
  sysfs.readUsbDevice (← sysfs.usbAbove dir)

def nearestCommonUsbAncestor (a b : Path) : Option Path := sysfs.usbAbove (Path.common a b)

end Sysfs

def portDirOf (device : Path) : Option Path := do
  let name ← device.fileStr
  let parent ← device.parent
  let hub ← parent.fileStr
  let (bus, path) ← splitOnce '-' name
  let port := lastPart '.' path
  if "usb".toList.isPrefixOf hub then
    some ((parent.join (bus ++ "-0:1.0".toList)).join
      ("usb".toList ++ bus ++ "-port".toList ++ port))
  else
    some ((parent.join (hub ++ ":1.0".toList)).join (hub ++ "-port".toList ++ port))

/-! ## The evidence rules -/

def sameDevice (video serial : UsbDevice) : Bool :=
  video.sysfs = serial.sysfs ||
    (video.busnum = serial.busnum && video.devnum = serial.devnum && video.devnum ≠ 0)

section Rules
variable (sysfs : Sysfs)

def portPeer (video serial : UsbDevice) : Option Evidence := do
  let videoPort ← portDirOf video.sysfs
  let peer ← sysfs.readLink (videoPort.join "peer".toList)
  let peerDevice ← sysfs.readLink (peer.join "device".toList)
  if serial.sysfs ≠ peerDevice ∧ !serial.sysfs.startsWith peerDevice then none
  else some (.portPeer (← videoPort.fileStr) (← peer.fileStr))

def internalHub (video serial : UsbDevice) : Option Evidence :=
  if video.id ≠ videoId ∨ serial.id ≠ serialId then none
  else do
    let hubDir ← sysfs.nearestCommonUsbAncestor video.sysfs serial.sysfs
    if video.parent ≠ some hubDir ∨ serial.parent ≠ some hubDir then none
    else
      let hub ← sysfs.readUsbDevice hubDir
      if hub.id ≠ internalHubId then none else some (.internalHub hub)

def evidenceFor (video serial : UsbDevice) : Option Evidence :=
  if sameDevice video serial then some .sameDevice
  else
    match portPeer sysfs video serial with
    | some evidence => some evidence
    | none => internalHub sysfs video serial

/-! ## The rules as what they look for -/

/-- The rule `evidence` belongs to holds, and shows just that. -/
def Joined (video serial : UsbDevice) : Evidence → Prop
  | .sameDevice =>
      video.sysfs = serial.sysfs ∨
        video.busnum = serial.busnum ∧ video.devnum = serial.devnum ∧ video.devnum ≠ 0
  | .portPeer videoPort peerPort =>
      ∃ port peer device : Path, portDirOf video.sysfs = some port ∧
        sysfs.readLink (port.join "peer".toList) = some peer ∧
        sysfs.readLink (peer.join "device".toList) = some device ∧ device <:+ serial.sysfs ∧
        port.fileStr = some videoPort ∧ peer.fileStr = some peerPort
  | .internalHub hub =>
      video.id = videoId ∧ serial.id = serialId ∧ hub.id = internalHubId ∧
        ∃ dir : Path, video.parent = some dir ∧ serial.parent = some dir ∧
          sysfs.isUsb dir = true ∧ sysfs.readUsbDevice dir = some hub

end Rules

def Evidence.rank : Evidence → Nat
  | .sameDevice => 0
  | .portPeer _ _ => 1
  | .internalHub _ => 2

def Strongest (sysfs : Sysfs) (video serial : UsbDevice) (evidence : Evidence) : Prop :=
  Joined sysfs video serial evidence ∧
    ∀ other : Evidence, Joined sysfs video serial other → evidence.rank ≤ other.rank

section Facts
variable {sysfs : Sysfs} {video serial : UsbDevice} {evidence : Evidence}

theorem sameDevice_iff :
    sameDevice video serial = true ↔ Joined sysfs video serial .sameDevice := by
  simp [sameDevice, Joined, and_assoc]

theorem portPeer_iff :
    portPeer sysfs video serial = some evidence ↔
      ∃ videoPort peerPort : Text, evidence = .portPeer videoPort peerPort ∧
        Joined sysfs video serial (.portPeer videoPort peerPort) := by
  have elsewhere (device : Path) : (serial.sysfs ≠ device ∧ (!serial.sysfs.startsWith device) = true) ↔
      ¬ device <:+ serial.sysfs := by
    rw [Bool.not_eq_true', ← Bool.not_eq_true, Path.startsWith_iff]
    refine ⟨fun h => h.2, fun h => ⟨?_, h⟩⟩
    rintro rfl
    exact h (List.suffix_refl _)
  simp only [portPeer, Option.bind_eq_bind, Option.bind_eq_some_iff]
  constructor
  · rintro ⟨port, atPort, peer, linked, device, found, chosen⟩
    split at chosen
    · cases chosen
    · rename_i below
      rw [elsewhere, not_not] at below
      obtain ⟨videoPort, named, peerPort, peerNamed, rfl⟩ := by
        simpa only [Option.bind_eq_some_iff, Option.some.injEq] using chosen
      exact ⟨videoPort, peerPort, rfl, port, peer, device, atPort, linked, found, below, named,
        peerNamed⟩
  · rintro ⟨videoPort, peerPort, rfl, port, peer, device, atPort, linked, found, below, named,
      peerNamed⟩
    refine ⟨port, atPort, peer, linked, device, found, ?_⟩
    rw [if_neg (by rw [elsewhere, not_not]; exact below), named, peerNamed]
    rfl

theorem portPeer_joined {videoPort peerPort : Text}
    (joined : Joined sysfs video serial (.portPeer videoPort peerPort)) :
    portPeer sysfs video serial = some (.portPeer videoPort peerPort) := by
  rw [portPeer_iff]
  exact ⟨videoPort, peerPort, rfl, joined⟩

theorem usbAbove_isUsb {path dir : Path} (found : sysfs.usbAbove path = some dir) :
    sysfs.isUsb dir = true := by
  induction path with
  | nil =>
      simp only [Sysfs.usbAbove, Option.ite_none_right_eq_some] at found
      obtain ⟨usb, same⟩ := found
      cases same
      exact usb
  | cons component up ih =>
      simp only [Sysfs.usbAbove] at found
      split at found
      · rename_i usb
        cases found
        exact usb
      · split at found
        · cases found
        · split at found
          · cases found
          · exact ih found

theorem usbAbove_self {dir : Path} (usb : sysfs.isUsb dir = true) :
    sysfs.usbAbove dir = some dir := by
  cases dir with
  | nil => exact if_pos usb
  | cons component up => exact if_pos usb

/-- Two devices plugged into one directory meet there. -/
theorem common_parent {dir : Path} (differ : video.sysfs ≠ serial.sysfs)
    (above : video.parent = some dir) (beside : serial.parent = some dir) :
    Path.common video.sysfs serial.sysfs = dir := by
  obtain ⟨x, atVideo⟩ := Path.parent_eq_some above
  obtain ⟨y, atSerial⟩ := Path.parent_eq_some beside
  rw [atVideo, atSerial]
  apply Path.common_siblings
  rintro rfl
  exact differ (atVideo.trans atSerial.symm)

theorem internalHub_iff (differ : video.sysfs ≠ serial.sysfs) :
    internalHub sysfs video serial = some evidence ↔
      ∃ hub : UsbDevice, evidence = .internalHub hub ∧
        Joined sysfs video serial (.internalHub hub) := by
  constructor
  · intro found
    unfold internalHub at found
    split at found
    · cases found
    rename_i known
    rw [not_or, not_not, not_not] at known
    obtain ⟨dir, nearest, found⟩ := Option.bind_eq_some_iff.mp found
    split at found
    · cases found
    rename_i direct
    rw [not_or, not_not, not_not] at direct
    obtain ⟨hub, read, found⟩ := Option.bind_eq_some_iff.mp found
    split at found
    · cases found
    rename_i hubKnown
    rw [not_not] at hubKnown
    cases found
    exact ⟨hub, rfl, known.1, known.2, hubKnown, dir, direct.1, direct.2,
      usbAbove_isUsb nearest, read⟩
  · rintro ⟨hub, rfl, videoKnown, serialKnown, hubKnown, dir, above, beside, usb, read⟩
    have nearest : sysfs.nearestCommonUsbAncestor video.sysfs serial.sysfs = some dir := by
      rw [Sysfs.nearestCommonUsbAncestor, common_parent differ above beside]
      exact usbAbove_self usb
    unfold internalHub
    rw [if_neg (by rw [not_or, not_not, not_not]; exact ⟨videoKnown, serialKnown⟩), nearest]
    dsimp only [Option.bind_eq_bind, Option.bind_some]
    rw [if_neg (by rw [not_or, not_not, not_not]; exact ⟨above, beside⟩), read, Option.bind_some,
      if_neg (not_not.mpr hubKnown)]

/-! ## The strongest rule -/

theorem strongest_same (joined : Joined sysfs video serial .sameDevice) :
    Strongest sysfs video serial evidence ↔ evidence = .sameDevice := by
  constructor
  · rintro ⟨-, least⟩
    cases evidence with
    | sameDevice => rfl
    | portPeer _ _ => exact absurd (least _ joined) (Nat.not_succ_le_zero 0)
    | internalHub _ => exact absurd (least _ joined) (Nat.not_succ_le_zero 1)
  · rintro rfl
    exact ⟨joined, fun _ _ => Nat.zero_le _⟩

theorem strongest_peer {found : Evidence} (apart : ¬ Joined sysfs video serial .sameDevice)
    (peer : portPeer sysfs video serial = some found) :
    Strongest sysfs video serial evidence ↔ evidence = found := by
  have held := peer
  rw [portPeer_iff] at held
  obtain ⟨videoPort, peerPort, rfl, joined⟩ := held
  constructor
  · rintro ⟨holds, least⟩
    cases evidence with
    | sameDevice => exact absurd holds apart
    | portPeer _ _ =>
        have also := portPeer_joined holds
        exact Option.some.inj (also.symm.trans peer)
    | internalHub _ => exact absurd (least _ joined) (Nat.not_succ_le_self 1)
  · rintro rfl
    refine ⟨joined, fun other holds => ?_⟩
    cases other with
    | sameDevice => exact absurd holds apart
    | portPeer _ _ => exact Nat.le_refl _
    | internalHub _ => exact Nat.le_succ _

theorem strongest_hub (apart : ¬ Joined sysfs video serial .sameDevice)
    (peerless : portPeer sysfs video serial = none) :
    Strongest sysfs video serial evidence ↔
      ∃ hub : UsbDevice, evidence = .internalHub hub ∧
        Joined sysfs video serial (.internalHub hub) := by
  have unpeered (videoPort peerPort : Text) :
      ¬ Joined sysfs video serial (.portPeer videoPort peerPort) := by
    intro holds
    have also := portPeer_joined holds
    rw [peerless] at also
    cases also
  constructor
  · rintro ⟨holds, -⟩
    cases evidence with
    | sameDevice => exact absurd holds apart
    | portPeer videoPort peerPort => exact absurd holds (unpeered videoPort peerPort)
    | internalHub hub => exact ⟨hub, rfl, holds⟩
  · rintro ⟨hub, rfl, joined⟩
    refine ⟨joined, fun other holds => ?_⟩
    cases other with
    | sameDevice => exact absurd holds apart
    | portPeer videoPort peerPort => exact absurd holds (unpeered videoPort peerPort)
    | internalHub _ => exact Nat.le_refl _

/-- The evidence is the strongest rule that holds. -/
theorem evidenceFor_iff :
    evidenceFor sysfs video serial = some evidence ↔ Strongest sysfs video serial evidence := by
  unfold evidenceFor
  cases same : sameDevice video serial with
  | true =>
      rw [strongest_same (sameDevice_iff.mp same), if_pos rfl, Option.some.injEq]
      exact eq_comm
  | false =>
      have apart : ¬ Joined sysfs video serial .sameDevice := by
        rw [← sameDevice_iff, same]
        exact Bool.false_ne_true
      rw [if_neg Bool.false_ne_true]
      cases peer : portPeer sysfs video serial with
      | some found =>
          rw [strongest_peer apart peer, Option.some.injEq]
          exact eq_comm
      | none =>
          rw [strongest_hub apart peer]
          exact internalHub_iff fun one => apart (Or.inl one)

/-- Where any rule holds, one is the strongest. -/
theorem joined_strongest (joined : Joined sysfs video serial evidence) :
    ∃ strongest : Evidence, Strongest sysfs video serial strongest := by
  classical
  have ranks : ∃ rank, ∃ other : Evidence, Joined sysfs video serial other ∧ other.rank = rank :=
    ⟨_, evidence, joined, rfl⟩
  obtain ⟨strongest, holds, least⟩ := Nat.find_spec ranks
  refine ⟨strongest, holds, fun other also => ?_⟩
  rw [least]
  exact Nat.find_min' ranks ⟨other, also, rfl⟩

end Facts

end NanoKvm.Discovery
