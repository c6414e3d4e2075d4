import NanoKvm.Capture.Jpeg
import NanoKvm.Capture.Recovery
import NanoKvm.Lib.Driven

/-!
# The V4L2 source

`V4l2Source` of `capture/v4l2.rs`, with every call it makes to the kernel and to
the `v4l` crate noted in order.  The kernel answers through the label: what each
ioctl of a stream's start returns, each turn of the poll loop with its clock, and
the buffer a dequeue hands out.  A teardown that panics is the pipeline's affair
(`Recovery`).  Instants and durations are nanoseconds.
-/

set_option autoImplicit false

namespace NanoKvm.Capture

open NanoKvm.Proto NanoKvm.Lib

/-! ## Errors of the system -/

structure IoError where
  /-- `raw_os_error()`. -/
  code : Option Int
  /-- `kind()` is `TimedOut`. -/
  timedOut : Bool
  text : String
  deriving DecidableEq, Repr

namespace Errno

def enoent : Int := 2
def eintr : Int := 4
def eio : Int := 5
def enxio : Int := 6
def enodev : Int := 19
def einval : Int := 22

end Errno

/-- `from_raw_os_error(EIO)`. -/
def eioText : String := "Input/output error (os error 5)"

/-- `DEFAULT_TIMEOUT`. -/
def defaultTimeout : Nat := 250000000

def mapIo (error : IoError) : CaptureError :=
  if error.code = some Errno.enodev ∨ error.code = some Errno.enxio ∨
      error.code = some Errno.enoent then .disconnected
  else if error.code = some Errno.eio then .io error.code error.text
  else if error.timedOut then .timeout "250ms"
  else .io error.code error.text

/-! ## Waiting for a buffer -/

namespace Poll

def pollin : U16 := 0x001#16
def pollerr : U16 := 0x008#16
def pollhup : U16 := 0x010#16
def pollnval : U16 := 0x020#16

end Poll

inductive PollAnswer where
  | failed (error : IoError)
  /-- The time ran out. -/
  | nothing
  | ready (revents : U16)
  deriving DecidableEq, Repr

/-- One turn of the loop: the clock before `poll`, its answer, and the clock after. -/
structure PollTurn where
  now : Nat
  answer : PollAnswer
  later : Nat
  deriving DecidableEq, Repr

/-- The last instant `Instant::checked_add` reaches: `i64::MAX` whole seconds. -/
def instantMax : Nat := 0x7FFFFFFFFFFFFFFF * 1000000000 + 999999999

def checkedAdd (now timeout : Nat) : Option Nat :=
  if now + timeout ≤ instantMax then some (now + timeout) else none

def expired (deadline : Option Nat) (now : Nat) : Bool :=
  match deadline with
  | some instant => instant ≤ now
  | none => false

def remaining (deadline : Option Nat) (timeout now : Nat) : Nat :=
  match deadline with
  | some instant => instant - now
  | none => timeout

/-- Whole milliseconds, as an `i32`. -/
def pollMillis (remaining : Nat) : Nat := min (remaining / 1000000) 0x7FFFFFFF

section PollLoop
variable (deadline : Option Nat) (timeout : Nat)

def pollAnswered (later : Nat) : PollAnswer → Round Unit (Except CaptureError Bool)
  | .failed error =>
      if error.code = some Errno.eintr then
        if expired deadline later then .leave (.ok false) else .again ()
      else .leave (.error (mapIo error))
  | .nothing => .leave (.ok false)
  | .ready revents =>
      if revents &&& (Poll.pollnval ||| Poll.pollhup) ≠ 0#16 then .leave (.error .disconnected)
      else if revents &&& Poll.pollin ≠ 0#16 then .leave (.ok true)
      else if revents &&& Poll.pollerr ≠ 0#16 then
        .leave (.error (.io (some Errno.eio) eioText))
      else if expired deadline later then .leave (.ok false)
      else .again ()

/-- The state is the milliseconds asked for so far. -/
def pollTurn (asked : List Nat) (turn : PollTurn) :
    Round (List Nat) (Except CaptureError Bool × List Nat) :=
  let asked := asked ++ [pollMillis (remaining deadline timeout turn.now)]
  match pollAnswered deadline turn.later turn.answer with
  | .again () => .again asked
  | .leave verdict => .leave (verdict, asked)

end PollLoop

/-- `none` while the loop is still waiting. -/
def pollReadable (timeout start : Nat) (turns : List PollTurn) :
    Option ((Except CaptureError Bool × List Nat) × List PollTurn) :=
  drive (pollTurn (checkedAdd start timeout) timeout) [] turns

/-! ## Starting a stream -/

/-- A dequeued buffer while it is mapped. -/
structure Buffer where
  mapping : List U8
  bytesused : U32
  seconds : Int
  micros : Int
  sequence : U32
  flags : U32
  deriving DecidableEq, Repr

/-- What the source calls, with how it went where that matters to the ring. -/
inductive Call where
  /-- The old stream is dropped: `STREAMOFF`, `munmap`, `REQBUFS(0)`. -/
  | release
  | request (granted : Bool)
  | query (index : Nat) (allocated : Bool)
  | queue (index : Nat) (done : Bool)
  | start (done : Bool)
  /-- `poll` reported an error of the stream. -/
  | pollError
  /-- `CaptureStream::next`. -/
  | next (answer : Except CaptureError Buffer)
  deriving DecidableEq

/-- What a start of the stream is answered: `REQBUFS`, `QUERYBUF` and `QBUF` of
each index, `STREAMON`. -/
structure StartAnswers where
  request : Except IoError Unit
  query : Nat → Except IoError Unit
  queue : Nat → Except IoError Unit
  start : Except IoError Unit

def bufferCount : Nat := 4
def bufferProbeLimit : Nat := 64

/-- `granted_buffers`, from `count` on with `left` probes to go. -/
def grantedFrom (query : Nat → Except IoError Unit) :
    Nat → Nat → Except CaptureError Nat × List Call
  | 0, count => (.ok count, [])
  | left + 1, count =>
      match query count with
      | .ok () =>
          let (granted, calls) := grantedFrom query left (count + 1)
          (granted, .query count true :: calls)
      | .error error =>
          if error.code = some Errno.einval then (.ok count, [.query count false])
          else (.error (mapIo error), [.query count false])

def grantedBuffers (query : Nat → Except IoError Unit) : Except CaptureError Nat × List Call :=
  grantedFrom query bufferProbeLimit 0

/-- `queue` of `left` indices from `index` on. -/
def queueFrom (queue : Nat → Except IoError Unit) :
    Nat → Nat → Except CaptureError Unit × List Call
  | 0, _ => (.ok (), [])
  | left + 1, index =>
      match queue index with
      | .ok () =>
          let (done, calls) := queueFrom queue left (index + 1)
          (done, .queue index true :: calls)
      | .error error => (.error (mapIo error), [.queue index false])

def fewBuffers (granted : Nat) (path : String) : CaptureError :=
  .config ("REQBUFS granted " ++ toString granted ++ " buffer(s) on " ++ path ++ ", asked for " ++
    toString bufferCount ++ ";              streaming needs at least 2")

/-- A start that fails past the allocation drops the stream it has made. -/
def startStream (path : String) (answers : StartAnswers) : Except CaptureError Nat × List Call :=
  match answers.request with
  | .error error => (.error (mapIo error), [.request false])
  | .ok () =>
      match grantedBuffers answers.query with
      | (.error error, probes) => (.error error, .request true :: probes ++ [.release])
      | (.ok granted, probes) =>
          if granted < 2 then
            (.error (fewBuffers granted path), .request true :: probes ++ [.release])
          else
            match queueFrom answers.queue (granted - 1) 1 with
            | (.error error, primed) =>
                (.error error, .request true :: probes ++ primed ++ [.release])
            | (.ok (), primed) =>
                match answers.start with
                | .error error =>
                    (.error (mapIo error),
                      .request true :: probes ++ primed ++ [.start false, .release])
                | .ok () => (.ok granted, .request true :: probes ++ primed ++ [.start true])

/-! ## The source -/

structure BytesUsedStats where
  count : Nat
  min : U32
  max : U32
  total : Nat
  last : U32
  deriving DecidableEq, Repr

def BytesUsedStats.empty : BytesUsedStats := ⟨0, 0#32, 0#32, 0, 0#32⟩

def BytesUsedStats.record (stats : BytesUsedStats) (bytes : U32) : BytesUsedStats where
  count := stats.count + 1
  min := if stats.count = 0 ∨ bytes < stats.min then bytes else stats.min
  max := if stats.max < bytes then bytes else stats.max
  total := stats.total + bytes.toNat
  last := bytes

/-- Negative components are clamped, and so is a microsecond count past a second. -/
def timestampToDuration (seconds micros : Int) : Nat :=
  (max seconds 0).toNat * 1000000000 + (min (max micros 0) 999999).toNat * 1000

/-- Already copied out of the mapping. -/
structure Dequeued where
  jpeg : List U8
  capturedAt : Nat
  sequence : U32
  flags : U32
  bytesused : U32
  overLong : Option Nat
  deriving DecidableEq, Repr

def Buffer.copy (buffer : Buffer) : Dequeued where
  jpeg := buffer.mapping.take (min buffer.bytesused.toNat buffer.mapping.length)
  capturedAt := timestampToDuration buffer.seconds buffer.micros
  sequence := buffer.sequence
  flags := buffer.flags
  bytesused := buffer.bytesused
  overLong :=
    if buffer.mapping.length < buffer.bytesused.toNat then some buffer.mapping.length else none

structure V4l2Source where
  path : String
  /-- Whether there is a stream; the crate's state is told by the calls. -/
  stream : Bool
  /-- What `S_FMT` committed to. -/
  format : Dims
  fps : U32
  timeout : Nat
  bytes : BytesUsedStats
  lastFlags : U32
  frames : Nat
  buffers : Nat
  streamBroken : Bool
  streamRebuilds : Nat
  deriving DecidableEq, Repr

def V4l2Source.rebuildStream (source : V4l2Source) (answers : StartAnswers) :
    Except CaptureError Unit × V4l2Source × List Call :=
  let released := if source.stream then [.release] else []
  match startStream source.path answers with
  | (.error error, calls) => (.error error, { source with stream := false }, released ++ calls)
  | (.ok granted, calls) =>
      (.ok (),
        { source with
          stream := true
          buffers := granted
          streamBroken := false
          streamRebuilds := source.streamRebuilds + 1 },
        released ++ calls)

def V4l2Source.restart (source : V4l2Source) (answers : StartAnswers) :
    Except CaptureError Unit × V4l2Source × List Call :=
  { source with streamBroken := true }.rebuildStream answers

def V4l2Source.forceRebuildForTest (source : V4l2Source) : V4l2Source × List Call :=
  ({ source with stream := false, streamBroken := true },
    if source.stream then [.release] else [])

def V4l2Source.dequeue (source : V4l2Source) (answer : Except IoError Buffer) :
    Except CaptureError Dequeued × List Call :=
  if !source.stream then (.error (.io (some Errno.eio) eioText), [])
  else
    match answer with
    | .error error => (.error (mapIo error), [.next (.error (mapIo error))])
    | .ok buffer => (.ok buffer.copy, [.next (.ok buffer)])

/-- The checks a copied buffer passes, in their order. -/
def Dequeued.frame (dq : Dequeued) : Except CaptureError CompressedFrame :=
  match dq.overLong with
  | some mapped =>
      .error (.badFrame ("driver reported bytesused=" ++ toString dq.bytesused.toNat ++ " for a " ++
        toString mapped ++ "-byte buffer"))
  | none =>
      if dq.jpeg.isEmpty then .error (.badFrame "zero-length frame")
      else
        match dimensions dq.jpeg with
        | .error error =>
            .error (.badFrame ("sequence " ++ toString dq.sequence.toNat ++ ", " ++
              toString dq.bytesused.toNat ++ " bytes: " ++ error.display))
        | .ok (width, height) =>
            if !dimensionsInRange width height then
              .error (.badFrame ("sequence " ++ toString dq.sequence.toNat ++ ": header claims " ++
                showSize width height ++ ", over the                  " ++
                showSize maxWidth maxHeight ++ " ceiling"))
            else .ok ⟨dq.jpeg, width, height, dq.capturedAt, dq.sequence⟩

/-- `next_frame` once a buffer may be there. -/
def V4l2Source.take (source : V4l2Source) (answer : Except IoError Buffer) :
    Except CaptureError CompressedFrame × V4l2Source × List Call :=
  match source.dequeue answer with
  | (.error error, calls) =>
      (.error error,
        if error = .disconnected then source else { source with streamBroken := true }, calls)
  | (.ok dq, calls) =>
      (dq.frame,
        { source with
          bytes := source.bytes.record dq.bytesused
          lastFlags := dq.flags
          frames := source.frames + 1 },
        calls)

/-- What a `next_frame` is answered: a rebuild's ioctls, the clock and the turns of
the poll loop, and the dequeue. -/
structure NextAnswers where
  rebuild : StartAnswers
  start : Nat
  turns : List PollTurn
  next : Except IoError Buffer

/-- `next_frame` on a stream that is not broken; `none` while it waits in `poll`. -/
def V4l2Source.await (showDuration : Nat → String) (source : V4l2Source) (answers : NextAnswers) :
    Option (Except CaptureError CompressedFrame × V4l2Source × List Call) :=
  (pollReadable source.timeout answers.start answers.turns).map fun polled =>
    match polled.1.1 with
    | .ok true => source.take answers.next
    | .ok false => (.error (.timeout (showDuration source.timeout)), source, [])
    | .error (.io code text) =>
        (.error (.io code text), { source with streamBroken := true }, [.pollError])
    | .error error => (.error error, source, [])

def V4l2Source.nextFrame (showDuration : Nat → String) (source : V4l2Source)
    (answers : NextAnswers) :
    Option (Except CaptureError CompressedFrame × V4l2Source × List Call) :=
  if source.streamBroken then
    match source.rebuildStream answers.rebuild with
    | (.error error, source, calls) => some (.error error, source, calls)
    | (.ok (), source, calls) =>
        (source.await showDuration answers).map fun (result, source, more) =>
          (result, source, calls ++ more)
  else source.await showDuration answers

/-! ## Opening -/

structure Format where
  width : U32
  height : U32
  fourcc : String
  deriving DecidableEq, Repr

structure OpenAnswers where
  device : Except IoError Unit
  setFormat : Except IoError Format
  params : Except IoError (U32 × U32)
  setParams : Except IoError (U32 × U32)
  start : StartAnswers

def fourccMjpg : String := "MJPG"

/-- The interval is `fps` frames a second, however the driver writes the fraction. -/
def intervalOk (fps : U32) (interval : U32 × U32) : Bool :=
  interval.1 ≠ 0#32 && interval.2.toNat = fps.toNat * interval.1.toNat

/-- `showFps` prints a fraction as `{:.3}` frames a second. -/
def V4l2Source.open (showFps : U32 × U32 → String) (path : String) (width height fps : U32)
    (answers : OpenAnswers) : Except CaptureError V4l2Source × List Call :=
  if fps = 0#32 then (.error (.config "fps must be non-zero"), [])
  else
    match answers.device, answers.setFormat with
    | .error error, _ => (.error (mapIo error), [])
    | .ok (), .error error => (.error (mapIo error), [])
    | .ok (), .ok got =>
        if got.fourcc ≠ fourccMjpg ∨ got.width ≠ width ∨ got.height ≠ height then
          (.error (.config ("asked for MJPG " ++ showSize width height ++ ", driver returned " ++
            got.fourcc ++ " " ++ showSize got.width got.height ++ " on " ++ path)), [])
        else
          match answers.params, answers.setParams with
          | .error error, _ => (.error (mapIo error), [])
          | .ok _, .error error => (.error (mapIo error), [])
          | .ok _, .ok after =>
              if !intervalOk fps after then
                (.error (.config ("asked for " ++ toString fps.toNat ++
                  " fps, driver returned interval " ++ toString after.1.toNat ++ "/" ++
                  toString after.2.toNat ++ " (" ++ showFps after ++ " fps) on " ++ path)), [])
              else
                match startStream path answers.start with
                | (.error error, calls) => (.error error, calls)
                | (.ok granted, calls) =>
                    (.ok
                      { path, stream := true, format := (got.width, got.height), fps
                        timeout := defaultTimeout, bytes := .empty, lastFlags := 0#32
                        frames := 0, buffers := granted, streamBroken := false
                        streamRebuilds := 0 },
                      calls)

def V4l2Source.negotiatedDimensions (source : V4l2Source) : Option Dims := some source.format

end NanoKvm.Capture
