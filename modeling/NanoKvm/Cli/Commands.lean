import NanoKvm.Discovery.Reopen

/-!
# Which nodes a command opens

The dispatch of `main.rs` with `select_devices`, and `probe_targets` of
`cli/devices.rs`.  A command that writes frames goes to the node discovery selects
or the user named, through two pieces of code that must agree on it.
-/

set_option autoImplicit false

namespace NanoKvm.Cli

open NanoKvm.Discovery

/-- No command is the viewer. `key`, `type` and the scripts choose their node alike. -/
inductive Command where
  | devices (probe : Bool)
  | shot
  | keyboard (dryRun : Bool)
  deriving DecidableEq, Repr

inductive Needed where
  | both
  | one (kind : NodeKind)
  deriving DecidableEq, Repr

structure Selection where
  video : Option Path
  serial : Option Path
  videoUsb : Option Path
  deriving DecidableEq, Repr

def Selection.just (kind : NodeKind) (path : Path) : Selection :=
  match kind with
  | .video => ⟨some path, none, none⟩
  | .serial => ⟨none, some path, none⟩

/-- `none` is the `unreachable!`. -/
def Selection.node (selection : Selection) : NodeKind → Option Path
  | .video => selection.video
  | .serial => selection.serial

def explicit (constraints : Constraints) : NodeKind → Option Path
  | .video => constraints.video
  | .serial => constraints.serial

/-- An error is printed, and ends the process. -/
def selectDevices (machine : Machine) (constraints : Constraints) (need : Needed) :
    Except DiscoveryError Selection :=
  match (discover machine.sysfs machine.probe constraints).1, need with
  | .ok pair, _ =>
      .ok ⟨some pair.video.dev, some pair.serial.dev, pair.video.usb.map fun usb => usb.sysfs⟩
  | .error e, .one kind =>
      match explicit constraints kind with
      | some path => .ok (Selection.just kind path)
      | none => .error e
  | .error e, .both => .error e

def probeTargets (selected : Except DiscoveryError Pair) (constraints : Constraints) : List Path :=
  match constraints.serial, selected with
  | some path, _ => [path]
  | none, .ok pair => [pair.serial.dev]
  | none, .error _ => []

inductive Refusal where
  | viewerOnly (flag : String)
  | discovery (error : DiscoveryError)
  | probe (error : DiscoveryError)
  /-- The `unreachable!`, and the `expect_err` of a selection that is an error. -/
  | panicked
  deriving DecidableEq, Repr

/-- The nodes a command goes on to open. -/
structure Nodes where
  video : Option Path
  serial : Option Path
  deriving DecidableEq, Repr

def viewerOnlyFlags : List String :=
  ["--pointer", "--no-audio", "--stats-interval", "--exit-after", "--chrome-popover",
    "--capture-on-start", "--paste-on-capture", "--paste-cancel-after-ms"]

def oneNode (machine : Machine) (constraints : Constraints) (kind : NodeKind) :
    Except Refusal Path :=
  match selectDevices machine constraints (.one kind) with
  | .error e => .error (.discovery e)
  | .ok selection =>
      match selection.node kind with
      | some path => .ok path
      | none => .error .panicked

def devicesRun (machine : Machine) (constraints : Constraints) (probe : Bool) :
    Except Refusal Nodes :=
  if probe = false then .ok ⟨none, none⟩
  else
    let selected := (discover machine.sysfs machine.probe constraints).1
    match probeTargets selected constraints, selected with
    | [], .error why => .error (.probe why)
    | [], .ok _ => .error .panicked
    | target :: _, _ => .ok ⟨none, some target⟩

def dispatch (machine : Machine) (constraints : Constraints) (given : String → Bool)
    (command : Option Command) : Except Refusal Nodes :=
  match command, viewerOnlyFlags.find? given with
  | some _, some flag => .error (.viewerOnly flag)
  | some (.devices probe), none => devicesRun machine constraints probe
  | some .shot, none => (oneNode machine constraints .video).map fun video => ⟨some video, none⟩
  | some (.keyboard true), none => .ok ⟨none, none⟩
  | some (.keyboard false), none =>
      (oneNode machine constraints .serial).map fun serial => ⟨none, some serial⟩
  | none, _ =>
      match selectDevices machine constraints .both with
      | .error e => .error (.discovery e)
      | .ok selection => .ok ⟨selection.video, selection.serial⟩

section Commands
variable {machine : Machine} {constraints : Constraints}

/-- Discovery keeps to the paths it was given. -/
theorem discover_keeps {pair : Pair}
    (found : (discover machine.sysfs machine.probe constraints).1 = .ok pair) :
    (∀ path, constraints.video = some path → pair.video.dev = path) ∧
      ∀ path, constraints.serial = some path → pair.serial.dev = path := by
  obtain ⟨wantVideo, wantSerial⟩ := constraints
  by_cases one : wantVideo = none ∨ wantSerial = none
  · obtain ⟨both, qualifies, -, video, serial⟩ := discover_names one found
    exact ⟨fun path named => video.trans (qualifies.videoNamed path named),
      fun path named => serial.trans (qualifies.serialNamed path named)⟩
  · cases wantVideo with
    | none => exact absurd (Or.inl rfl) one
    | some video =>
        cases wantSerial with
        | none => exact absurd (Or.inr rfl) one
        | some serial =>
            cases found
            constructor
            · rintro path ⟨⟩
              change (Option.getD (Inventory.video _ video) _).dev = video
              cases held : Inventory.video _ video with
              | none => rfl
              | some node => simpa using List.find?_some held
            · rintro path ⟨⟩
              change (Option.getD (Inventory.serial _ serial) _).dev = serial
              cases held : Inventory.serial _ serial with
              | none => rfl
              | some node => simpa using List.find?_some held

/-- What a command opens of one kind, if anything. -/
def Nodes.get (nodes : Nodes) : NodeKind → Option Path
  | .video => nodes.video
  | .serial => nodes.serial

def pairNode (pair : Pair) : NodeKind → Path
  | .video => pair.video.dev
  | .serial => pair.serial.dev

/-- The node of a kind that any command comes to: the pair's, or the path given where there
is no pair. -/
def Named (machine : Machine) (constraints : Constraints) (kind : NodeKind) (path : Path) : Prop :=
  (∃ pair, (discover machine.sysfs machine.probe constraints).1 = .ok pair ∧
    pairNode pair kind = path) ∨
  (∃ e, (discover machine.sysfs machine.probe constraints).1 = .error e) ∧
    explicit constraints kind = some path

theorem oneNode_named {kind : NodeKind} {path : Path}
    (chosen : oneNode machine constraints kind = .ok path) :
    Named machine constraints kind path := by
  unfold oneNode selectDevices at chosen
  cases found : (discover machine.sysfs machine.probe constraints).1 with
  | ok pair =>
      rw [found] at chosen
      refine Or.inl ⟨pair, found, ?_⟩
      cases kind <;> exact Except.ok.inj chosen
  | error e =>
      rw [found] at chosen
      dsimp only at chosen
      cases given : explicit constraints kind with
      | none =>
          rw [given] at chosen
          cases chosen
      | some other =>
          rw [given] at chosen
          refine Or.inr ⟨⟨e, found⟩, given.trans ?_⟩
          cases kind <;> exact congrArg some (Except.ok.inj chosen)

theorem devicesRun_named {probe : Bool} {nodes : Nodes} {kind : NodeKind} {path : Path}
    (ran : devicesRun machine constraints probe = .ok nodes) (opens : nodes.get kind = some path) :
    Named machine constraints kind path := by
  unfold devicesRun probeTargets at ran
  split_ifs at ran with probe
  · cases ran
    cases kind <;> cases opens
  · cases given : constraints.serial with
    | some target =>
        rw [given] at ran
        cases ran
        cases kind <;> cases opens
        cases found : (discover machine.sysfs machine.probe constraints).1 with
        | ok pair => exact Or.inl ⟨pair, found, (discover_keeps found).2 _ given⟩
        | error e => exact Or.inr ⟨⟨e, found⟩, given⟩
    | none =>
        rw [given] at ran
        cases found : (discover machine.sysfs machine.probe constraints).1 with
        | ok pair =>
            rw [found] at ran
            cases ran
            cases kind <;> cases opens
            exact Or.inl ⟨pair, found, rfl⟩
        | error e =>
            rw [found] at ran
            cases ran

theorem dispatch_named {given : String → Bool} {command : Option Command} {nodes : Nodes}
    {kind : NodeKind} {path : Path}
    (chosen : dispatch machine constraints given command = .ok nodes)
    (opens : nodes.get kind = some path) : Named machine constraints kind path := by
  unfold dispatch at chosen
  split at chosen
  · cases chosen
  · exact devicesRun_named chosen opens
  · cases node : oneNode machine constraints .video with
    | error e =>
        rw [node] at chosen
        cases chosen
    | ok video =>
        rw [node] at chosen
        cases chosen
        cases kind <;> cases opens
        exact oneNode_named node
  · cases chosen
    cases kind <;> cases opens
  · cases node : oneNode machine constraints .serial with
    | error e =>
        rw [node] at chosen
        cases chosen
    | ok serial =>
        rw [node] at chosen
        cases chosen
        cases kind <;> cases opens
        exact oneNode_named node
  · unfold selectDevices at chosen
    cases found : (discover machine.sysfs machine.probe constraints).1 with
    | ok pair =>
        rw [found] at chosen
        cases chosen
        refine Or.inl ⟨pair, found, ?_⟩
        cases kind <;> exact Option.some.inj opens
    | error e =>
        rw [found] at chosen
        cases chosen

theorem Named.unique {kind : NodeKind} {path other : Path}
    (here : Named machine constraints kind path) (there : Named machine constraints kind other) :
    path = other := by
  rcases here with ⟨pair, found, rfl⟩ | ⟨⟨e, found⟩, given⟩
  · rcases there with ⟨again, same, rfl⟩ | ⟨⟨e, refused⟩, -⟩
    · cases found.symm.trans same
      rfl
    · cases found.symm.trans refused
  · rcases there with ⟨pair, same, -⟩ | ⟨-, also⟩
    · cases found.symm.trans same
    · exact Option.some.inj (given.symm.trans also)

theorem oneNode_tells {kind : NodeKind} : oneNode machine constraints kind ≠ .error .panicked := by
  unfold oneNode selectDevices
  cases (discover machine.sysfs machine.probe constraints).1 with
  | ok pair => cases kind <;> nofun
  | error e =>
      dsimp only
      cases explicit constraints kind with
      | none => nofun
      | some path => cases kind <;> nofun

theorem devicesRun_tells {probe : Bool} :
    devicesRun machine constraints probe ≠ .error .panicked := by
  unfold devicesRun probeTargets
  split_ifs
  · nofun
  · cases constraints.serial with
    | some path => nofun
    | none => cases (discover machine.sysfs machine.probe constraints).1 <;> nofun

theorem dispatch_tells {given : String → Bool} {command : Option Command} :
    dispatch machine constraints given command ≠ .error .panicked := by
  intro panicked
  unfold dispatch at panicked
  split at panicked
  · cases panicked
  · exact devicesRun_tells panicked
  · cases node : oneNode machine constraints .video with
    | ok video =>
        rw [node] at panicked
        cases panicked
    | error e =>
        rw [node] at panicked
        cases panicked
        exact oneNode_tells node
  · cases panicked
  · cases node : oneNode machine constraints .serial with
    | ok serial =>
        rw [node] at panicked
        cases panicked
    | error e =>
        rw [node] at panicked
        cases panicked
        exact oneNode_tells node
  · cases selected : selectDevices machine constraints .both with
    | ok selection =>
        rw [selected] at panicked
        cases panicked
    | error e =>
        rw [selected] at panicked
        cases panicked

/-- Any two commands on one machine that open a node of one kind open the same one, the
node a probe writes to included.  The kind not given by path is from the one combination
that qualifies, so that with at most one path given a video node and a serial node are of
one dongle; and no command comes to a node it cannot tell. -/
theorem commands_open_one_dongle (machine : Machine) (constraints : Constraints)
    (given also : String → Bool) (first second : Option Command) :
    (∀ a b kind path other, dispatch machine constraints given first = .ok a →
      dispatch machine constraints also second = .ok b → a.get kind = some path →
        b.get kind = some other → path = other) ∧
    (∀ a b video serial, dispatch machine constraints given first = .ok a →
      dispatch machine constraints also second = .ok b → a.video = some video →
        b.serial = some serial → (constraints.video = none ∨ constraints.serial = none) →
          ∃ both : Node × Node, Qualifies machine.sysfs machine.probe constraints both ∧
            (∀ rival, Qualifies machine.sysfs machine.probe constraints rival → rival = both) ∧
            both.1.1 = video ∧ both.2.1 = serial) ∧
    (∀ a kind path, dispatch machine constraints given first = .ok a → a.get kind = some path →
      explicit constraints kind = some path ∨
        ∃! both : Node × Node, Qualifies machine.sysfs machine.probe constraints both) ∧
    dispatch machine constraints given first ≠ .error .panicked := by
  refine ⟨fun a b kind path other here there opens does =>
    (dispatch_named here opens).unique (dispatch_named there does), ?_, ?_, ?_⟩
  · intro a b video serial here there opens does one
    have left : Named machine constraints .video video := dispatch_named here opens
    have right : Named machine constraints .serial serial := dispatch_named there does
    rcases left with ⟨pair, found, atVideo⟩ | ⟨⟨e, refused⟩, givenVideo⟩
    · rcases right with ⟨again, same, atSerial⟩ | ⟨⟨e, refused⟩, -⟩
      · cases found.symm.trans same
        obtain ⟨both, qualifies, only, videoDev, serialDev⟩ := discover_names one found
        exact ⟨both, qualifies, only, videoDev.symm.trans atVideo, serialDev.symm.trans atSerial⟩
      · cases found.symm.trans refused
    · rcases right with ⟨pair, found, -⟩ | ⟨-, givenSerial⟩
      · cases found.symm.trans refused
      · rcases one with none | none
        · cases none.symm.trans givenVideo
        · cases none.symm.trans givenSerial
  · intro a kind path here opens
    cases typed : explicit constraints kind with
    | some other =>
        refine Or.inl (congrArg some ?_)
        rcases dispatch_named here opens with ⟨pair, found, rfl⟩ | ⟨-, same⟩
        · cases kind
          · exact ((discover_keeps found).1 other typed).symm
          · exact ((discover_keeps found).2 other typed).symm
        · exact Option.some.inj (typed.symm.trans same)
    | none =>
        refine Or.inr ?_
        rcases dispatch_named here opens with ⟨pair, found, -⟩ | ⟨-, same⟩
        · have one : constraints.video = none ∨ constraints.serial = none := by
            cases kind
            · exact Or.inl typed
            · exact Or.inr typed
          obtain ⟨both, qualifies, only, -⟩ := discover_names one found
          exact ⟨both, qualifies, only⟩
        · cases typed.symm.trans same
  · exact dispatch_tells

end Commands

theorem commands_open_one_dongle_desk :
    ∃ both : Node × Node, Qualifies desk deskProbe ⟨none, none⟩ both ∧
      both.1.1 = deskVideo ∧ both.2.1 = deskSerial := by
  have shot : dispatch ⟨desk, deskProbe⟩ ⟨none, none⟩ (fun _ => false) (some .shot) =
      .ok ⟨some deskVideo, none⟩ := by decide +kernel
  have probed : dispatch ⟨desk, deskProbe⟩ ⟨none, none⟩ (fun _ => false) (some (.devices true)) =
      .ok ⟨none, some deskSerial⟩ := by decide +kernel
  obtain ⟨both, qualifies, -, video, serial⟩ :=
    (commands_open_one_dongle ⟨desk, deskProbe⟩ ⟨none, none⟩ (fun _ => false) (fun _ => false)
      (some .shot) (some (.devices true))).2.1 _ _ deskVideo deskSerial shot probed rfl rfl
        (Or.inl rfl)
  exact ⟨both, qualifies, video, serial⟩

end NanoKvm.Cli
