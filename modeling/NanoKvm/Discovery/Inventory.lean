import NanoKvm.Discovery.Topology

/-!
# The inventory and the choice

`inventory` and `discover` of `discovery/mod.rs`.  Both also say which nodes the
probe was asked about, in the order it was.
-/

set_option autoImplicit false

namespace NanoKvm.Discovery

def videoClass : Path := .absolute ["class", "video4linux"]
def ttyClass : Path := .absolute ["class", "tty"]
def soundClass : Path := .absolute ["class", "sound"]
def ttyPrefix : Text := "ttyACM".toList
def videoPrefix : Text := "video".toList
def cardPrefix : Text := "card".toList

structure ProbeFailure where
  message : String
  errno : Option Int
  deriving DecidableEq, Repr

structure VideoNode where
  dev : Path
  usb : Option UsbDevice
  isCapture : Option Bool
  probeError : Option ProbeFailure
  probed : Bool
  deriving DecidableEq, Repr

structure SerialNode where
  dev : Path
  usb : Option UsbDevice
  deriving DecidableEq, Repr

/-- Whether both are known and on the same USB device. -/
def sameUsb : Option UsbDevice → Option UsbDevice → Bool
  | some a, some b => a.sysfs = b.sysfs
  | _, _ => false

def VideoNode.eligible (node : VideoNode) (siblings : List VideoNode) : Bool :=
  match node.isCapture with
  | some verdict => verdict
  | none => !siblings.any fun s => s.isCapture = some true && sameUsb s.usb node.usb

structure SoundCard where
  sysfs : Path
  name : Text
  id : Option Text
  usb : Option UsbDevice
  deriving DecidableEq, Repr

def SoundCard.number (card : SoundCard) : Option Nat :=
  if cardPrefix.isPrefixOf card.name then parseU32 (card.name.drop cardPrefix.length) else none

inductive AudioPairing where
  | paired (card : SoundCard)
  | noCard
  | ambiguous (cards : List SoundCard)
  | unknown
  deriving DecidableEq, Repr

def audioFor (video : Option UsbDevice) (cards : List SoundCard) : AudioPairing :=
  match video with
  | none => .unknown
  | some video =>
      match cards.filter fun card => card.usb.any (sameDevice video) with
      | [] => .noCard
      | [card] => .paired card
      | cards => .ambiguous cards

structure Pair where
  video : VideoNode
  serial : SerialNode
  evidence : Option Evidence
  audio : AudioPairing
  deriving DecidableEq, Repr

structure Inventory where
  videos : List VideoNode
  serials : List SerialNode
  cards : List SoundCard
  pairs : List Pair
  deriving DecidableEq, Repr

structure Constraints where
  video : Option Path
  serial : Option Path
  deriving DecidableEq, Repr

inductive NodeKind where
  | video
  | serial
  deriving DecidableEq, Repr

inductive DiscoveryError where
  | noVideoNodes
  | noSerialNodes
  | noPair (inventory : Inventory)
  | ambiguous (inventory : Inventory)
  | probesDenied (inventory : Inventory)
  | constraintNotFound (kind : NodeKind) (path : Path) (available : List Path)
  | constraintUnpaired (kind : NodeKind) (path : Path) (inventory : Inventory)
  deriving DecidableEq, Repr

/-- What a capability query answers, by device path. -/
abbrev NodeProbe := Path → Except ProbeFailure Bool

/-! ## Node collection -/

section Collect
variable (sysfs : Sysfs)

def classNode (start : Text) (entry : Path) : Option (Path × UsbDevice) := do
  let name ← entry.fileStr
  if start.isPrefixOf name then
    let usb ← sysfs.usbDeviceOf entry
    some ((Path.absolute ["dev"]).join name, usb)
  else none

def classNodes (dir : Path) (start : Text) : List (Path × UsbDevice) :=
  (sysfs.listDir dir).filterMap (classNode sysfs start)

def collectVideoNodes : List VideoNode :=
  (classNodes sysfs videoClass videoPrefix).map fun (dev, usb) =>
    ⟨dev, some usb, none, none, false⟩

def collectSerialNodes : List SerialNode :=
  (classNodes sysfs ttyClass ttyPrefix).map fun (dev, usb) => ⟨dev, some usb⟩

def collectSoundCards : List SoundCard :=
  (sysfs.listDir soundClass).filterMap fun entry => do
    let name ← entry.fileStr
    let card : SoundCard := {
      sysfs := (sysfs.readLink entry).getD entry
      name := name
      id := sysfs.readAttr entry "id".toList
      usb := sysfs.usbDeviceOf entry }
    card.number.map fun _ => card

end Collect

/-! ## The inventory -/

def evidenceBetween (sysfs : Sysfs) : Option UsbDevice → Option UsbDevice → Option Evidence
  | some video, some serial => evidenceFor sysfs video serial
  | _, _ => none

/-- Topology first: the joined nodes by their positions. -/
def candidates (sysfs : Sysfs) (videos : List VideoNode) (serials : List SerialNode) :
    List (Nat × Nat × Evidence) :=
  videos.zipIdx.flatMap fun (v, vi) => serials.zipIdx.filterMap fun (s, si) =>
    (evidenceBetween sysfs v.usb s.usb).map fun evidence => (vi, si, evidence)

def interestingDevices (videos : List VideoNode) (joined : List (Nat × Nat × Evidence)) :
    List Path :=
  joined.filterMap fun (vi, _, _) => videos[vi]?.bind fun v => v.usb.map fun usb => usb.sysfs

def VideoNode.probe (probe : NodeProbe) (node : VideoNode) : VideoNode :=
  match probe node.dev with
  | .ok isCapture => { node with probed := true, isCapture := some isCapture }
  | .error failure => { node with probed := true, probeError := some failure }

def VideoNode.isOn (interesting : List Path) (node : VideoNode) : Bool :=
  node.usb.any fun usb => interesting.contains usb.sysfs

/-- Only nodes on an interesting device are opened. -/
def probeNodes (probe : NodeProbe) (interesting : List Path) :
    List VideoNode → List VideoNode × List Path
  | [] => ([], [])
  | node :: rest =>
      let (videos, asked) := probeNodes probe interesting rest
      if node.isOn interesting then
        (node.probe probe :: videos, node.dev :: asked)
      else (node :: videos, asked)

def pairsOf (videos : List VideoNode) (serials : List SerialNode) (cards : List SoundCard)
    (joined : List (Nat × Nat × Evidence)) : List Pair :=
  joined.filterMap fun (vi, si, evidence) =>
    match videos[vi]?, serials[si]? with
    | some video, some serial =>
        if video.eligible videos then
          some ⟨video, serial, some evidence, audioFor video.usb cards⟩
        else none
    | _, _ => none

def inventory (sysfs : Sysfs) (probe : NodeProbe) : Inventory × List Path :=
  let unprobed := collectVideoNodes sysfs
  let serials := collectSerialNodes sysfs
  let cards := collectSoundCards sysfs
  let joined := candidates sysfs unprobed serials
  let (videos, asked) := probeNodes probe (interestingDevices unprobed joined) unprobed
  (⟨videos, serials, cards, pairsOf videos serials cards joined⟩, asked)

/-! ## The choice -/

namespace Inventory

def video (inv : Inventory) (dev : Path) : Option VideoNode :=
  inv.videos.find? fun v => v.dev = dev

def serial (inv : Inventory) (dev : Path) : Option SerialNode :=
  inv.serials.find? fun s => s.dev = dev

def retainingPairs (inv : Inventory) (keep : Pair → Bool) : Inventory :=
  { inv with pairs := inv.pairs.filter keep }

/-- `libc::EACCES` is 13. -/
def everyProbeDenied (inv : Inventory) : Bool :=
  let probed := inv.videos.filter (·.probed)
  !probed.isEmpty && probed.all fun v => v.probeError.bind (·.errno) = some 13

def ambiguous (inv : Inventory) : DiscoveryError :=
  if inv.everyProbeDenied then .probesDenied inv else .ambiguous inv

def onePair (inv : Inventory) (kind : NodeKind) (path : Path) : Except DiscoveryError Pair :=
  match inv.pairs with
  | [pair] => .ok pair
  | [] => .error (.constraintUnpaired kind path inv)
  | _ => .error inv.ambiguous

def findVideo (inv : Inventory) (path : Path) : Except DiscoveryError VideoNode :=
  match inv.video path with
  | some v => .ok v
  | none => .error (.constraintNotFound .video path (inv.videos.map (·.dev)))

def findSerial (inv : Inventory) (path : Path) : Except DiscoveryError SerialNode :=
  match inv.serial path with
  | some s => .ok s
  | none => .error (.constraintNotFound .serial path (inv.serials.map (·.dev)))

end Inventory

def explicitPair (sysfs : Sysfs) (inv : Inventory) (video serial : Path) : Pair :=
  let video := (inv.video video).getD ⟨video, none, none, none, false⟩
  let serial := (inv.serial serial).getD ⟨serial, none⟩
  ⟨video, serial, evidenceBetween sysfs video.usb serial.usb, audioFor video.usb inv.cards⟩

/-- The verdict on an inventory. -/
def choose (sysfs : Sysfs) (inv : Inventory) (constraints : Constraints) :
    Except DiscoveryError Pair :=
  match constraints.video, constraints.serial with
  | some video, some serial => .ok (explicitPair sysfs inv video serial)
  | video, serial =>
      if inv.videos.isEmpty then .error .noVideoNodes
      else if inv.serials.isEmpty then .error .noSerialNodes
      else
        match video, serial with
        | some path, _ => do
            let v ← inv.findVideo path
            (inv.retainingPairs fun p => p.video.dev = v.dev).onePair .video v.dev
        | none, some path => do
            let s ← inv.findSerial path
            (inv.retainingPairs fun p => p.serial.dev = s.dev).onePair .serial s.dev
        | none, none =>
            match inv.pairs with
            | [pair] => .ok pair
            | [] => .error (.noPair inv)
            | _ => .error inv.ambiguous

def discover (sysfs : Sysfs) (probe : NodeProbe) (constraints : Constraints) :
    Except DiscoveryError Pair × List Path :=
  let (inv, asked) := inventory sysfs probe
  (choose sysfs inv constraints, asked)

end NanoKvm.Discovery
