import NanoKvm.Capture.Decoder
import NanoKvm.Capture.Ladder
import NanoKvm.Lib.Transition

/-!
# The capture worker's recovery

`Capture` and `capture_loop` of `capture/pipeline.rs`: opening, reopening, the
stall restart, the format watchdog and the user's format requests.  What becomes
of a frame besides its dimensions is in `Stages`.  Clocks, the source and the
opener answer through the label.
-/

set_option autoImplicit false

namespace NanoKvm.Capture

open NanoKvm.Lib

abbrev Dims := U32 × U32

def showDims (dims : Dims) : String := showSize dims.1 dims.2

/-- The text of a duration or of the system's error is the caller's. -/
inductive CaptureError where
  | disconnected
  | timeout (waited : String)
  | badFrame (text : String)
  | io (code : Option Int) (text : String)
  | config (text : String)
  deriving DecidableEq, Repr

def CaptureError.display : CaptureError → String
  | .disconnected => "capture device disconnected"
  | .timeout waited => "no frame within " ++ waited
  | .badFrame text => "unusable frame: " ++ text
  | .io _ text => "capture I/O error: " ++ text
  | .config text => "capture configuration: " ++ text

def errorKind : CaptureError → Nat × Int
  | .disconnected => (0, 0)
  | .timeout _ => (1, 0)
  | .badFrame _ => (2, 0)
  | .io code _ => (3, code.getD 0)
  | .config _ => (4, 0)

inductive PipelineState where
  | running
  | disconnected
  | reconnecting
  | stopped
  deriving DecidableEq, Repr

structure FrameSource where
  negotiatedDimensions : Option Dims
  deriving DecidableEq, Repr

/-- What `Capture::new` takes over for good.  Durations are in nanoseconds. -/
structure Setup where
  recover : Bool
  restartAfter : Option Nat
  formatGrace : Option Nat
  formatMinFrames : Nat
  formatRestartLimit : Nat
  deriving DecidableEq, Repr

/-- The recovery counters of `Inner`. -/
structure Inner where
  captureErrors : Nat
  lastError : Option String
  disconnects : Nat
  reopens : Nat
  reopenAttempts : Nat
  streamRestarts : Nat
  formatMismatchRestarts : Nat
  formatMismatchReopens : Nat
  formatMismatchAccepted : Nat
  formatChanges : Nat
  negotiatedDimensions : Option Dims
  state : PipelineState
  deriving DecidableEq, Repr

/-- Where the thread is in `capture_loop`. -/
inductive LoopPc where
  | openFirst
  | top
  /-- The two checks of `reconnect`, around the wait, and the open after them. -/
  | reconnect
  | waited
  | attempt
  | applyFormat
  | step
  | finished
  deriving DecidableEq, Repr

structure Worker where
  source : Option FrameSource
  negotiated : Option Dims
  mismatchSince : Option Nat
  mismatchFrames : Nat
  formatRestarts : Nat
  formatReopened : Bool
  escalating : Bool
  formatAccepted : Bool
  consecutiveErrors : Nat
  lastKind : Option (Nat × Int)
  restartBase : Nat
  inner : Inner
  stopping : Bool
  /-- The compressed slot's. -/
  closed : Bool
  formatRequest : Option (U32 × U32 × U32)
  pc : LoopPc
  log : List Event
  deriving DecidableEq, Repr

inductive Step where
  | proceed
  | lost (message : String)
  | reopen (message : String)
  deriving DecidableEq, Repr

inductive RestartAnswer where
  | restarted
  | failed (error : CaptureError)
  | panicked (message : String)
  deriving DecidableEq, Repr

inductive FrameAnswer where
  | frame (dims : Dims)
  | failed (error : CaptureError)
  | panicked (message : String)
  deriving DecidableEq, Repr

/-- Two readings of the clock in one pass. -/
structure Clock where
  now : Nat
  later : Nat
  deriving DecidableEq, Repr

/-- Of a `u32`. -/
def saturatingSucc (n : Nat) : Nat := min (n + 1) 0xFFFFFFFF

/-- The nanoseconds of `Duration::MAX`. -/
def durationMax : Nat := 0xFFFFFFFFFFFFFFFF * 1000000000 + 999999999

/-- `1u32.checked_shl(restarts).unwrap_or(u32::MAX)`. -/
def backoffFactor (restarts : Nat) : Nat := if restarts < 32 then 1 <<< restarts else 0xFFFFFFFF

namespace Worker

def new : Worker where
  source := none
  negotiated := none
  mismatchSince := none
  mismatchFrames := 0
  formatRestarts := 0
  formatReopened := false
  escalating := false
  formatAccepted := false
  consecutiveErrors := 0
  lastKind := none
  restartBase := 0
  inner := ⟨0, none, 0, 0, 0, 0, 0, 0, 0, 0, none, .running⟩
  stopping := false
  closed := false
  formatRequest := none
  pc := .openFirst
  log := []

def note (w : Worker) (event : Event) : Worker := { w with log := w.log ++ [event] }

def go (w : Worker) (pc : LoopPc) : Worker := { w with pc := pc }

def ending (w : Worker) : Bool := w.stopping || w.closed

/-! ## The format watchdog -/

def armFormatWatch (w : Worker) : Worker :=
  let negotiated := w.source.bind (·.negotiatedDimensions)
  { w with
    negotiated := negotiated
    inner.negotiatedDimensions := negotiated
    mismatchSince := none
    mismatchFrames := 0
    formatRestarts := 0
    formatAccepted := false
    formatReopened := w.escalating && w.formatReopened
    escalating := false }

def clearFormatRun (w : Worker) : Worker :=
  { w with
    mismatchSince := none
    mismatchFrames := 0
    formatRestarts := 0
    formatReopened := false
    formatAccepted := false }

def failedRestart (w : Worker) (text : String) : Worker :=
  { w with
    inner.captureErrors := w.inner.captureErrors + 1
    inner.lastError := some text }

/-- No outcome touches the watchdog's state. -/
def invokeRestart (w : Worker) (answer : RestartAnswer) : Step × Worker :=
  match w.source with
  | none => (.proceed, w)
  | some _ =>
      match answer with
      | .restarted => (.proceed, w)
      | .failed .disconnected => (.lost CaptureError.disconnected.display, w)
      | .failed error => (.proceed, w.failedRestart ("stream restart failed: " ++ error.display))
      | .panicked message => (.proceed, w.failedRestart ("stream restart panicked: " ++ message))

def restartStream (w : Worker) (clock : Clock) (answer : RestartAnswer) : Step × Worker :=
  let w := { w with restartBase := clock.now }
  if w.source.isNone then (.proceed, w)
  else
    let w := { w with inner.streamRestarts := w.inner.streamRestarts + 1 }
    w.invokeRestart answer

/-- The run of mismatched frames, one longer, and how long it has lasted. -/
def countMismatch (w : Worker) (clock : Clock) : Nat × Worker :=
  let since := w.mismatchSince.getD clock.now
  (clock.later - since,
    { w with mismatchFrames := saturatingSucc w.mismatchFrames, mismatchSince := some since })

def escalate (w : Worker) (dims negotiated : Dims) : Step × Worker :=
  let n := w.inner.formatMismatchReopens + 1
  let w := { w with
    formatReopened := true
    escalating := true
    inner.formatMismatchReopens := n }
  (.reopen ("frames have been " ++ showDims dims ++ " through " ++ toString w.formatRestarts ++
      " stream restart(s) but the negotiated format is " ++ showDims negotiated ++
      "; reopening the device to commit it again (format-mismatch reopen " ++ toString n ++ ")"),
    w.note .escalated)

def accept (w : Worker) : Step × Worker :=
  (.proceed,
    { w with
      formatAccepted := true
      inner.formatMismatchAccepted := w.inner.formatMismatchAccepted + 1 }.note .accepted)

def restartFormat (w : Worker) (clock : Clock) (answer : RestartAnswer) : Step × Worker :=
  let w := { w with
    inner.formatMismatchRestarts := w.inner.formatMismatchRestarts + 1
    formatRestarts := w.formatRestarts + 1
    mismatchSince := none
    mismatchFrames := 0
    restartBase := clock.now }
  (w.note .restarted).invokeRestart answer

def watchFormat (setup : Setup) (w : Worker) (dims : Dims) (clock : Clock)
    (answer : RestartAnswer) : Step × Worker :=
  match setup.formatGrace, w.negotiated with
  | some grace, some negotiated =>
      if dims = negotiated then (.proceed, w.clearFormatRun)
      else if w.formatAccepted then (.proceed, w)
      else
        let (waited, w) := w.countMismatch clock
        if w.mismatchFrames < setup.formatMinFrames ∨ waited < grace then (.proceed, w)
        else if setup.formatRestartLimit ≤ w.formatRestarts then
          if setup.recover && !w.formatReopened then w.escalate dims negotiated else w.accept
        else if waited < min (grace * backoffFactor w.formatRestarts) durationMax then
          (.proceed, w)
        else w.restartFormat clock answer
  | _, _ => (.proceed, w)

/-! ## One pass -/

/-- Whether the stall timer has run out. -/
def stalled (setup : Setup) (w : Worker) (clock : Clock) : Bool :=
  match setup.restartAfter with
  | some after => decide (after ≤ clock.now - w.restartBase)
  | none => false

/-- The frame as the log has it: a source that negotiated nothing leaves no trace. -/
def seen (w : Worker) (source : FrameSource) (dims : Dims) : Worker :=
  match source.negotiatedDimensions with
  | some negotiated => w.note (if dims = negotiated then .matched else .mismatched)
  | none => w

def survive (w : Worker) (error : CaptureError) : Worker :=
  let kind := errorKind error
  { w with
    consecutiveErrors := saturatingSucc w.consecutiveErrors
    inner.captureErrors := w.inner.captureErrors + 1
    inner.lastError := if w.lastKind ≠ some kind then some error.display else w.inner.lastError
    lastKind := some kind }

/-- `Capture::step`; an error is the panic the loop catches. -/
def step (setup : Setup) (w : Worker) (clock : Clock) (frame : FrameAnswer)
    (restart : RestartAnswer) : Except String Step × Worker :=
  if w.stalled setup clock then
    let (step, w) := w.restartStream clock restart
    (.ok step, w)
  else
    match w.source with
    | none => (.ok .proceed, w)
    | some source =>
        match frame with
        | .frame dims =>
            let w := { w with consecutiveErrors := 0, lastKind := none, restartBase := clock.now }
            let (step, w) := (w.seen source dims).watchFormat setup dims clock restart
            (.ok step, w)
        | .failed .disconnected => (.ok (.lost CaptureError.disconnected.display), w)
        | .failed error => (.ok .proceed, w.survive error)
        | .panicked message => (.error message, w)

/-! ## The loop -/

def releaseSource (w : Worker) : Worker := { w with source := none }

def loseDevice (w : Worker) (message : String) : Worker :=
  ({ w with
    inner.state := .disconnected
    inner.lastError := some message
    inner.disconnects := w.inner.disconnects + 1
    inner.negotiatedDimensions := none }.releaseSource).note .lost

def finish (w : Worker) : Worker := w.releaseSource.go .finished

/-- A device that is gone for good closes the slot behind it. -/
def lose (setup : Setup) (w : Worker) (message : String) : Worker :=
  let w := w.loseDevice message
  if setup.recover then w.go .top else { w with closed := true }.finish

def handle (setup : Setup) (outcome : Except String Step) (w : Worker) : Worker :=
  match outcome with
  | .ok .proceed => w.go .top
  | .ok (.lost message) => w.lose setup message
  | .ok (.reopen message) =>
      ({ w with
        inner.lastError := some message
        inner.negotiatedDimensions := none }.releaseSource).go .top
  | .error message => w.lose setup ("capture thread panicked: " ++ message)

/-- An open that succeeded. -/
def adopt (w : Worker) (source : FrameSource) (clock : Clock) : Worker :=
  ({ w with source := some source, restartBase := clock.now }.armFormatWatch).note .opened

def openFirst (setup : Setup) (w : Worker) (clock : Clock) :
    Option (Except CaptureError FrameSource) → Option Worker
  | none => if w.ending then some ({ w with closed := true }.finish) else none
  | some (.ok source) => some ((w.adopt source clock).go .top)
  | some (.error error) =>
      let w := { w with
        inner.lastError := some error.display
        inner.state := .disconnected }
      if setup.recover then some (w.go .top) else some ({ w with closed := true }.finish)

/-- One attempt of `reconnect`. -/
def attempt (w : Worker) (clock : Clock) :
    Option (Except CaptureError FrameSource) → Option Worker
  | none => if w.ending then some w.finish else none
  | some (.ok source) =>
      let w := { w with consecutiveErrors := 0, lastKind := none }.adopt source clock
      some ({ w with
        inner.reopens := w.inner.reopens + 1
        inner.state := .running
        inner.lastError := none }.go .applyFormat)
  | some (.error error) =>
      some ({ w with inner.lastError := some error.display }.go .reconnect)

def applyFormatRequest (w : Worker) (accepted : Bool) : Worker :=
  match w.formatRequest with
  | none => w
  | some _ =>
      let w := { w with formatRequest := none }
      if accepted then
        ({ w with
          inner.formatChanges := w.inner.formatChanges + 1
          inner.negotiatedDimensions := none }.releaseSource).note .reformatted
      else w

/-- The moves of the capture thread, with what it is answered, and of the others. -/
inductive Move where
  | requestFormat (width height fps : U32)
  | stop
  | close
  /-- No result: the open was abandoned. -/
  | openFirst (clock : Clock) (opened : Option (Except CaptureError FrameSource))
  | top
  | reconnect
  | waited
  | attempt (clock : Clock) (opened : Option (Except CaptureError FrameSource))
  /-- What `set_format` says, if it is asked. -/
  | applyFormat (accepted : Bool)
  | step (clock : Clock) (frame : FrameAnswer) (restart : RestartAnswer)

def move (setup : Setup) : Move → Worker → Option Worker
  | .requestFormat width height fps, w => some { w with formatRequest := some (width, height, fps) }
  | .stop, w => some { w with stopping := true }
  | .close, w => some { w with closed := true }
  | .openFirst clock opened, w => if w.pc = .openFirst then w.openFirst setup clock opened else none
  | .top, w =>
      if w.pc = .top then
        if w.ending then some w.finish
        else if w.source.isNone then some (w.go .reconnect)
        else some (w.go .applyFormat)
      else none
  | .reconnect, w =>
      if w.pc = .reconnect then
        if w.ending then some w.finish
        else some ({ w with inner.state := .reconnecting }.go .waited)
      else none
  | .waited, w =>
      if w.pc = .waited then
        if w.ending then some w.finish
        else some ({ w with inner.reopenAttempts := w.inner.reopenAttempts + 1 }.go .attempt)
      else none
  | .attempt clock opened, w => if w.pc = .attempt then w.attempt clock opened else none
  | .applyFormat accepted, w =>
      if w.pc = .applyFormat then some ((w.applyFormatRequest accepted).go .step) else none
  | .step clock frame restart, w =>
      if w.pc = .step then
        let (outcome, w) := w.step setup clock frame restart
        some (w.handle setup outcome)
      else none

end Worker

end NanoKvm.Capture
