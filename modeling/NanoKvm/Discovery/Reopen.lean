import NanoKvm.Audio.Stats
import NanoKvm.Discovery.Choice

/-!
# Reopening

The resolvers and openers of `discovery/reopen.rs`.  A resolver keeps the user's
constraints and not its first answer; the machine it reads may be another one at every
call.  Logging is kept as the move it would warn of, descriptions are left out, and the
pumps of the serial source are in `Serial.Forward`.
-/

set_option autoImplicit false

namespace NanoKvm.Discovery

open NanoKvm.Audio (AudioError)

inductive Mode where
  | explicit (path : Path)
  | discover
  deriving DecidableEq, Repr

structure Resolved where
  path : Path
  evidence : Option Evidence
  discovered : Bool
  deriving DecidableEq, Repr

structure NodeResolver where
  kind : NodeKind
  constraints : Constraints
  deriving DecidableEq, Repr

/-- What a resolver can see of the host at one moment. -/
structure Machine where
  sysfs : Sysfs
  probe : NodeProbe

namespace NodeResolver

def mode (resolver : NodeResolver) : Mode :=
  let explicit :=
    match resolver.kind with
    | .video => resolver.constraints.video
    | .serial => resolver.constraints.serial
  match explicit with
  | some path => .explicit path
  | none => .discover

def node (resolver : NodeResolver) (pair : Pair) : Path :=
  match resolver.kind with
  | .video => pair.video.dev
  | .serial => pair.serial.dev

def resolve (resolver : NodeResolver) (machine : Machine) : Except DiscoveryError Resolved :=
  match resolver.mode with
  | .explicit path => .ok ⟨path, none, false⟩
  | .discover =>
      match (discover machine.sysfs machine.probe resolver.constraints).1 with
      | .ok pair => .ok ⟨resolver.node pair, pair.evidence, true⟩
      | .error e => .error e

end NodeResolver

/-! ## Video -/

structure Format where
  width : Nat
  height : Nat
  fps : Nat
  deriving DecidableEq, Repr

/-- `last` is the path the log last named. -/
structure DiscoveringOpener (Source : Type) where
  resolver : NodeResolver
  format : Format
  first : Option Source
  last : Option Path

/-- What one `open` comes to: `moved` is the path it warns of, and the answer is what
`V4l2Opener` makes of the path and the format. -/
inductive Opening (Source Failure : Type) where
  | handedOver (source : Source)
  | unresolved (e : DiscoveryError)
  | tried (path : Path) (format : Format) (moved : Option Path) (answer : Except Failure Source)

section Openers
variable {Source Failure : Type}

namespace DiscoveringOpener

def withOpenSource (resolver : NodeResolver) (first : Source) (path : Path) (format : Format) :
    DiscoveringOpener Source :=
  ⟨resolver, format, some first, some path⟩

def open_ (opener : DiscoveringOpener Source) (machine : Machine)
    (device : Path → Format → Except Failure Source) :
    Opening Source Failure × DiscoveringOpener Source :=
  match opener.first with
  | some source => (.handedOver source, { opener with first := none })
  | none =>
      match opener.resolver.resolve machine with
      | .error e => (.unresolved e, opener)
      | .ok resolved =>
          (.tried resolved.path opener.format (opener.last.filter (· ≠ resolved.path))
              (device resolved.path opener.format),
            { opener with last := some resolved.path })

/-- The source handed over streams at the old format, so it goes too. -/
def setFormat (opener : DiscoveringOpener Source) (format : Format) : DiscoveringOpener Source :=
  { opener with format, first := none }

end DiscoveringOpener

/-- What the capture thread asks of its opener, on the machine as it is then. -/
inductive Call (Source Failure : Type) where
  | reopen (machine : Machine) (device : Path → Format → Except Failure Source)
  | setFormat (format : Format)

def DiscoveringOpener.call (opener : DiscoveringOpener Source) :
    Call Source Failure → Option (Opening Source Failure) × DiscoveringOpener Source
  | .reopen machine device =>
      (some (opener.open_ machine device).1, (opener.open_ machine device).2)
  | .setFormat format => (none, opener.setFormat format)

/-- What each call of a run comes to, and the opener after them. -/
def DiscoveringOpener.calls (opener : DiscoveringOpener Source) :
    List (Call Source Failure) → List (Option (Opening Source Failure)) × DiscoveringOpener Source
  | [] => ([], opener)
  | call :: rest =>
      let (opening, next) := opener.call call
      let (openings, last) := next.calls rest
      (opening :: openings, last)

end Openers

/-! ## The sound card -/

/-- `alsa_device`. -/
def SoundCard.alsaDevice (card : SoundCard) : Option String :=
  card.number.map fun number => "hw:" ++ toString number

structure ResolvedCard where
  device : String
  card : SoundCard
  deriving DecidableEq, Repr

/-- The USB device directory of the capture node. -/
structure CardResolver where
  usb : Path
  deriving DecidableEq, Repr

/-- What a failed resolution says: the texts of the listings are left out. -/
inductive NoCard where
  | absent (usb : Path)
  | unnamed (name : Text)
  | pairing (found : AudioPairing) (usb : UsbDevice)
  deriving DecidableEq, Repr

def CardResolver.resolve (resolver : CardResolver) (sysfs : Sysfs) : Except NoCard ResolvedCard :=
  match sysfs.readUsbDevice resolver.usb with
  | none => .error (.absent resolver.usb)
  | some usb =>
      match audioFor (some usb) (collectSoundCards sysfs) with
      | .paired card =>
          match card.alsaDevice with
          | some device => .ok ⟨device, card⟩
          | none => .error (.unnamed card.name)
      | other => .error (.pairing other usb)

/-- `last` is the name most recently opened, with success. -/
structure DiscoveringCardOpener where
  resolver : CardResolver
  last : Option String
  deriving DecidableEq, Repr

inductive CardOpening where
  | noCard (why : NoCard)
  | failed (device : String) (moved : Option String) (e : AudioError)
  | opened (device : String) (moved : Option String)
  deriving DecidableEq, Repr

def DiscoveringCardOpener.open_ (opener : DiscoveringCardOpener) (sysfs : Sysfs)
    (device : String → Except AudioError Unit) : CardOpening × DiscoveringCardOpener :=
  match opener.resolver.resolve sysfs with
  | .error why => (.noCard why, opener)
  | .ok resolved =>
      let moved := opener.last.filter (· ≠ resolved.device)
      match device resolved.device with
      | .error e => (.failed resolved.device moved e, opener)
      | .ok () => (.opened resolved.device moved, { opener with last := some resolved.device })

/-- One attempt of the audio thread, on the tree as it is then. -/
structure CardAttempt where
  sysfs : Sysfs
  device : String → Except AudioError Unit

def DiscoveringCardOpener.attempts (opener : DiscoveringCardOpener) :
    List CardAttempt → List CardOpening × DiscoveringCardOpener
  | [] => ([], opener)
  | attempt :: rest =>
      let (opening, next) := opener.open_ attempt.sysfs attempt.device
      let (openings, last) := next.attempts rest
      (opening :: openings, last)

/-! ## Both nodes are of one dongle -/

theorem discover_names {sysfs : Sysfs} {probe : NodeProbe} {constraints : Constraints} {pair : Pair}
    (one : constraints.video = none ∨ constraints.serial = none)
    (found : (discover sysfs probe constraints).1 = .ok pair) :
    ∃ both : Node × Node, Qualifies sysfs probe constraints both ∧
      (∀ other, Qualifies sysfs probe constraints other → other = both) ∧
      pair.video.dev = both.1.1 ∧ pair.serial.dev = both.2.1 := by
  obtain ⟨both, qualifies, only, evidence, -, rfl⟩ := (discover_ok_iff one).mp found
  exact ⟨both, qualifies, only, probe_dev, rfl⟩

theorem resolve_explicit {resolver : NodeResolver} {machine : Machine} {path : Path}
    (explicit : resolver.mode = .explicit path) :
    resolver.resolve machine = .ok ⟨path, none, false⟩ := by
  rw [NodeResolver.resolve, explicit]

theorem resolve_discover {resolver : NodeResolver} {machine : Machine} {resolved : Resolved}
    (mode : resolver.mode = .discover) (ok : resolver.resolve machine = .ok resolved) :
    ∃ pair, (discover machine.sysfs machine.probe resolver.constraints).1 = .ok pair ∧
      resolved.path = resolver.node pair := by
  rw [NodeResolver.resolve, mode] at ok
  dsimp only at ok
  split at ok
  next pair found =>
    cases ok
    exact ⟨pair, found, rfl⟩
  · cases ok

/-- The two resolvers of one client, asked on one machine, name the nodes of the one
combination that qualifies there, a node the user typed included: never one node of one
dongle and one of another, whatever either was asked before. -/
theorem both_nodes_of_one_dongle {machine : Machine} {constraints : Constraints}
    (one : constraints.video = none ∨ constraints.serial = none) {video serial : Resolved}
    (videoNode : NodeResolver.resolve ⟨.video, constraints⟩ machine = .ok video)
    (serialNode : NodeResolver.resolve ⟨.serial, constraints⟩ machine = .ok serial) :
    ∃ both : Node × Node, Qualifies machine.sysfs machine.probe constraints both ∧
      (∀ other, Qualifies machine.sysfs machine.probe constraints other → other = both) ∧
      video.path = both.1.1 ∧ serial.path = both.2.1 := by
  obtain ⟨wantVideo, wantSerial⟩ := constraints
  cases wantVideo with
  | none =>
      obtain ⟨pair, found, videoPath⟩ := resolve_discover rfl videoNode
      obtain ⟨both, qualifies, only, videoDev, serialDev⟩ := discover_names one found
      refine ⟨both, qualifies, only, videoPath.trans videoDev, ?_⟩
      cases wantSerial with
      | none =>
          obtain ⟨again, same, serialPath⟩ := resolve_discover rfl serialNode
          cases found.symm.trans same
          exact serialPath.trans serialDev
      | some path =>
          cases (resolve_explicit rfl).symm.trans serialNode
          exact (qualifies.serialNamed path rfl).symm
  | some path =>
      cases wantSerial with
      | some other => simp at one
      | none =>
          obtain ⟨pair, found, serialPath⟩ := resolve_discover rfl serialNode
          obtain ⟨both, qualifies, only, videoDev, serialDev⟩ := discover_names one found
          cases (resolve_explicit rfl).symm.trans videoNode
          exact ⟨both, qualifies, only, (qualifies.videoNamed path rfl).symm,
            serialPath.trans serialDev⟩

def deskVideo : Path := (Path.absolute ["dev"]).join "video0".toList

def deskSerial : Path := (Path.absolute ["dev"]).join "ttyACM0".toList

theorem desk_resolves :
    (∃ resolved, NodeResolver.resolve ⟨.video, ⟨none, none⟩⟩ ⟨desk, deskProbe⟩ = .ok resolved ∧
      resolved.path = deskVideo) ∧
    ∃ resolved, NodeResolver.resolve ⟨.serial, ⟨none, none⟩⟩ ⟨desk, deskProbe⟩ = .ok resolved ∧
      resolved.path = deskSerial := by
  have opened {answer : Except DiscoveryError Resolved} {path : Path}
      (seen : answer.toOption.map Resolved.path = some path) :
      ∃ resolved, answer = .ok resolved ∧ resolved.path = path := by
    cases answer with
    | error e => cases seen
    | ok resolved => exact ⟨resolved, rfl, Option.some.inj seen⟩
  exact ⟨opened (by decide +kernel), opened (by decide +kernel)⟩

theorem both_nodes_of_one_dongle_desk :
    ∃ both : Node × Node, Qualifies desk deskProbe ⟨none, none⟩ both ∧
      both.1.1 = deskVideo ∧ both.2.1 = deskSerial := by
  obtain ⟨⟨video, videoNode, videoPath⟩, serial, serialNode, serialPath⟩ := desk_resolves
  obtain ⟨both, qualifies, -, atVideo, atSerial⟩ :=
    both_nodes_of_one_dongle (.inl rfl) videoNode serialNode
  exact ⟨both, qualifies, atVideo.symm.trans videoPath, atSerial.symm.trans serialPath⟩

/-! ## What an opener opens -/

section History
variable {Source Failure : Type}

/-- The format last asked for. -/
def formatAfter : Format → List (Call Source Failure) → Format
  | format, [] => format
  | _, .setFormat format :: rest => formatAfter format rest
  | format, .reopen _ _ :: rest => formatAfter format rest

/-- The path last tried. -/
def pathAfter : Option Path → List (Option (Opening Source Failure)) → Option Path
  | last, [] => last
  | _, some (.tried path _ _ _) :: rest => pathAfter (some path) rest
  | last, _ :: rest => pathAfter last rest

/-- What an attempt comes to that finds nothing handed over. -/
def attempt (resolver : NodeResolver) (format : Format) (last : Option Path) (machine : Machine)
    (device : Path → Format → Except Failure Source) : Opening Source Failure :=
  match resolver.resolve machine with
  | .error e => .unresolved e
  | .ok resolved =>
      .tried resolved.path format (last.filter (· ≠ resolved.path)) (device resolved.path format)

/-- With nothing handed over, each opening is of its machine, the format last asked for
and the path last tried. -/
theorem calls_attempt {opener : DiscoveringOpener Source} (empty : opener.first = none)
    {calls : List (Call Source Failure)} {i : Nat} {machine : Machine}
    {device : Path → Format → Except Failure Source}
    (reopened : calls[i]? = some (.reopen machine device)) :
    (opener.calls calls).1[i]? = some (some (attempt opener.resolver
      (formatAfter opener.format (calls.take i))
      (pathAfter opener.last ((opener.calls calls).1.take i)) machine device)) := by
  induction calls generalizing opener i with
  | nil => cases reopened
  | cons call calls ih =>
      cases i with
      | zero =>
          cases Option.some.inj reopened
          simp only [DiscoveringOpener.calls, DiscoveringOpener.call, DiscoveringOpener.open_,
            empty, List.getElem?_cons_zero, List.take_zero, formatAfter, pathAfter, attempt]
          cases opener.resolver.resolve machine <;> rfl
      | succ i =>
          rw [List.getElem?_cons_succ] at reopened
          cases call with
          | setFormat format => exact @ih (opener.setFormat format) rfl i reopened
          | reopen before answered =>
              simp only [DiscoveringOpener.calls, DiscoveringOpener.call, DiscoveringOpener.open_,
                empty, List.getElem?_cons_succ, List.take_succ_cons, formatAfter]
              cases opener.resolver.resolve before with
              | error e => exact ih empty reopened
              | ok resolved =>
                  exact @ih { opener with first := none, last := some resolved.path } rfl i reopened

/-- The source `main` opened is handed over by the very first call or not at all.  Every
other opening tries the node the resolver names on the machine as it is at that moment, in
the format last asked for, and warns of a move exactly when that is not the path it last
tried; where nothing resolves it tries nothing. -/
theorem reopens_by_history (opener : DiscoveringOpener Source) (calls : List (Call Source Failure))
    {i : Nat} {machine : Machine} {device : Path → Format → Except Failure Source}
    (reopened : calls[i]? = some (.reopen machine device)) :
    (opener.calls calls).1[i]? = some (some (
      match (if i = 0 then opener.first else none) with
      | some source => .handedOver source
      | none => attempt opener.resolver (formatAfter opener.format (calls.take i))
          (pathAfter opener.last ((opener.calls calls).1.take i)) machine device)) := by
  cases first : opener.first with
  | none =>
      rw [ite_self]
      exact calls_attempt first reopened
  | some source =>
      cases calls with
      | nil => cases reopened
      | cons call calls =>
          cases i with
          | zero =>
              cases Option.some.inj reopened
              simp [DiscoveringOpener.calls, DiscoveringOpener.call, DiscoveringOpener.open_, first]
          | succ i =>
              rw [List.getElem?_cons_succ] at reopened
              cases call with
              | setFormat format =>
                  exact @calls_attempt _ _ (opener.setFormat format) rfl calls i machine device
                    reopened
              | reopen before answered =>
                  have later := @calls_attempt _ _ { opener with first := none } rfl calls i machine
                    device reopened
                  simpa [DiscoveringOpener.calls, DiscoveringOpener.call, DiscoveringOpener.open_,
                    first, formatAfter, pathAfter] using later

end History

/-- A format change before the first open, on the desk. -/
def deskCalls : List (Call Unit Unit) :=
  [.setFormat ⟨1280, 720, 60⟩, .reopen ⟨desk, deskProbe⟩ fun _ _ => .ok ()]

def deskOpener : DiscoveringOpener Unit :=
  .withOpenSource ⟨.video, ⟨none, none⟩⟩ () deskVideo ⟨1920, 1080, 60⟩

theorem reopens_by_history_desk : (deskOpener.calls deskCalls).1[1]? =
    some (some (.tried deskVideo ⟨1280, 720, 60⟩ none (.ok ()))) := by
  obtain ⟨⟨resolved, resolves, path⟩, -⟩ := desk_resolves
  have reopened : deskCalls[1]? = some (.reopen ⟨desk, deskProbe⟩ fun _ _ => .ok ()) := rfl
  rw [reopens_by_history deskOpener deskCalls reopened]
  simp [attempt, deskOpener, deskCalls, DiscoveringOpener.withOpenSource, resolves, path,
    formatAfter, pathAfter, DiscoveringOpener.calls, DiscoveringOpener.call]

/-! ## Which card is opened -/

/-- Two trees that differ in the node classes they list, and in nothing else that an audio
retry could read. -/
structure SameCards (a b : Sysfs) : Prop where
  attrs : b.readAttr = a.readAttr
  links : b.readLink = a.readLink
  exist : b.exists_ = a.exists_
  cards : b.listDir soundClass = a.listDir soundClass

section Cards
variable {sysfs other : Sysfs}

theorem SameCards.usbAbove (same : SameCards sysfs other) (path : Path) :
    other.usbAbove path = sysfs.usbAbove path := by
  have usb (dir : Path) : other.isUsb dir = sysfs.isUsb dir := by
    rw [Sysfs.isUsb, Sysfs.isUsb, same.exist]
  induction path with
  | nil => simp only [Sysfs.usbAbove, usb]
  | cons component up ih => simp only [Sysfs.usbAbove, usb, ih]

theorem SameCards.resolve (same : SameCards sysfs other) (resolver : CardResolver) :
    resolver.resolve other = resolver.resolve sysfs := by
  have device (dir : Path) : other.readUsbDevice dir = sysfs.readUsbDevice dir := by
    simp only [Sysfs.readUsbDevice, same.attrs]
  have above (entry : Path) : other.usbDeviceOf entry = sysfs.usbDeviceOf entry := by
    simp only [Sysfs.usbDeviceOf, same.links, same.usbAbove, device]
  have cards : collectSoundCards other = collectSoundCards sysfs := by
    simp only [collectSoundCards, same.cards, same.links, same.attrs, above]
  simp only [CardResolver.resolve, device, cards]

theorem audioFor_paired {usb : UsbDevice} {cards : List SoundCard} {card : SoundCard} :
    audioFor (some usb) cards = .paired card ↔
      cards.filter (fun card => card.usb.any (sameDevice usb)) = [card] := by
  unfold audioFor
  dsimp only
  split
  next none => simp [none]
  next other one => simp [one]
  next many notNone notOne =>
    simp only [reduceCtorEq, false_iff]
    exact notOne card

theorem card_resolve_ok {resolver : CardResolver} {resolved : ResolvedCard} :
    resolver.resolve sysfs = .ok resolved ↔ ∃ usb, sysfs.readUsbDevice resolver.usb = some usb ∧
      (collectSoundCards sysfs).filter (fun card => card.usb.any (sameDevice usb)) =
        [resolved.card] ∧ resolved.card.alsaDevice = some resolved.device := by
  unfold CardResolver.resolve
  cases sysfs.readUsbDevice resolver.usb with
  | none => simp
  | some usb =>
      simp only [Option.some.injEq, exists_eq_left', ← audioFor_paired]
      cases audioFor (some usb) (collectSoundCards sysfs) with
      | paired card =>
          simp only [AudioPairing.paired.injEq]
          cases named : card.alsaDevice with
          | none =>
              simp only [reduceCtorEq, false_iff]
              rintro ⟨rfl, name⟩
              rw [named] at name
              cases name
          | some device =>
              constructor
              · rintro ⟨⟩
                exact ⟨rfl, named⟩
              · rintro ⟨rfl, name⟩
                cases named.symm.trans name
                rfl
      | noCard | ambiguous | unknown => simp

/-- The name last opened. -/
def deviceAfter : Option String → List CardOpening → Option String
  | last, [] => last
  | _, .opened device _ :: rest => deviceAfter (some device) rest
  | last, _ :: rest => deviceAfter last rest

/-- What one attempt comes to. -/
def cardAttempt (resolver : CardResolver) (last : Option String) (attempt : CardAttempt) :
    CardOpening :=
  match resolver.resolve attempt.sysfs with
  | .error why => .noCard why
  | .ok resolved =>
      match attempt.device resolved.device with
      | .error e => .failed resolved.device (last.filter (· ≠ resolved.device)) e
      | .ok () => .opened resolved.device (last.filter (· ≠ resolved.device))

theorem attempts_history (opener : DiscoveringCardOpener) {attempts : List CardAttempt} {i : Nat}
    {attempt : CardAttempt} (made : attempts[i]? = some attempt) :
    (opener.attempts attempts).1[i]? = some (cardAttempt opener.resolver
      (deviceAfter opener.last ((opener.attempts attempts).1.take i)) attempt) := by
  induction attempts generalizing opener i with
  | nil => cases made
  | cons head attempts ih =>
      simp only [DiscoveringCardOpener.attempts, DiscoveringCardOpener.open_]
      cases i with
      | zero =>
          cases Option.some.inj made
          simp only [List.getElem?_cons_zero, List.take_zero, deviceAfter, cardAttempt]
          cases opener.resolver.resolve attempt.sysfs with
          | error why => rfl
          | ok resolved =>
              dsimp only
              cases attempt.device resolved.device <;> rfl
      | succ i =>
          rw [List.getElem?_cons_succ] at made
          cases opener.resolver.resolve head.sysfs with
          | error why => exact ih opener made
          | ok resolved =>
              dsimp only
              cases head.device resolved.device with
              | error e => exact ih opener made
              | ok done => exact ih { opener with last := some resolved.device } made

/-- Every name the audio thread opens is that of the one card which at that moment belongs
to the capture node's USB device, under the number it has then; it warns of a move exactly
when that is not the name it last opened with success; and nothing of the node classes has a
say in it. -/
theorem card_of_the_capture_device (opener : DiscoveringCardOpener) {attempts : List CardAttempt}
    {i : Nat} {attempt : CardAttempt} (made : attempts[i]? = some attempt) :
    ∃ opening, (opener.attempts attempts).1[i]? = some opening ∧
      (∀ device moved, (opening = .opened device moved ∨ ∃ e, opening = .failed device moved e) →
        (∃ usb card, attempt.sysfs.readUsbDevice opener.resolver.usb = some usb ∧
          (collectSoundCards attempt.sysfs).filter (fun card => card.usb.any (sameDevice usb)) =
            [card] ∧ card.alsaDevice = some device) ∧
        moved = (deviceAfter opener.last ((opener.attempts attempts).1.take i)).filter
          (· ≠ device)) ∧
      ∀ other, SameCards attempt.sysfs other →
        opening = cardAttempt opener.resolver
          (deviceAfter opener.last ((opener.attempts attempts).1.take i))
          { attempt with sysfs := other } := by
  refine ⟨_, attempts_history opener made, ?_, ?_⟩
  · intro device moved opens
    unfold cardAttempt at opens
    split at opens
    · simp at opens
    next resolved found =>
      obtain ⟨usb, read, one, name⟩ := card_resolve_ok.mp found
      have same : device = resolved.device ∧ moved =
          (deviceAfter opener.last ((opener.attempts attempts).1.take i)).filter
            (· ≠ resolved.device) := by
        split at opens
        · rcases opens with opened | ⟨e, failed⟩
          · cases opened
          · cases failed
            exact ⟨rfl, rfl⟩
        · rcases opens with opened | ⟨e, failed⟩
          · cases opened
            exact ⟨rfl, rfl⟩
          · cases failed
      obtain ⟨rfl, rfl⟩ := same
      exact ⟨⟨usb, resolved.card, read, one, name⟩, rfl⟩
  · intro other same
    simp only [cardAttempt, same.resolve]

end Cards

def card8 : Path := soundClass.join "card8".toList

/-- The desk, with the dongle's sound card. -/
def audioDesk : Sysfs where
  readAttr := deskAttr
  readLink path :=
    if path = card8.join "device".toList then
      some ((deskDevice "3-2.1").join "3-2.1:1.2".toList)
    else desk.readLink path
  listDir dir := if dir = soundClass then [card8] else desk.listDir dir
  exists_ := desk.exists_
  distinct dir := by
    split
    · exact List.nodup_singleton _
    · exact desk.distinct dir
  entries dir entry member := by
    split at member
    next sound =>
      rw [List.mem_singleton.mp member, sound]
      exact ⟨_, rfl⟩
    · exact desk.entries dir entry member

theorem card_of_the_capture_device_desk :
    ∃ usb card, audioDesk.readUsbDevice (deskDevice "3-2.1") = some usb ∧
      (collectSoundCards audioDesk).filter (fun card => card.usb.any (sameDevice usb)) = [card] ∧
      card.alsaDevice = some "hw:8" := by
  have made : [CardAttempt.mk audioDesk fun _ => .ok ()][0]? = some ⟨audioDesk, fun _ => .ok ()⟩ :=
    rfl
  obtain ⟨opening, came, which, -⟩ :=
    card_of_the_capture_device ⟨⟨deskDevice "3-2.1"⟩, none⟩ made
  have seen : (DiscoveringCardOpener.attempts ⟨⟨deskDevice "3-2.1"⟩, none⟩
      [CardAttempt.mk audioDesk fun _ => .ok ()]).1[0]? = some (.opened "hw:8" none) := by
    decide
  cases came.symm.trans seen
  exact (which "hw:8" none (.inl rfl)).1

end NanoKvm.Discovery
