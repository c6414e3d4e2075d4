import NanoKvm.Capture.Handoff
import NanoKvm.Capture.Decoder
import NanoKvm.Lib.Transition
import NanoKvm.Lib.Lossy

/-!
# The capture, decode and render threads

`Capture::step` and `decode_loop` of `capture/pipeline.rs` around the two slots,
one access to shared data at a time.  A label says which thread moves, and what
the source or the clock answered it.
-/

set_option autoImplicit false

namespace NanoKvm.Capture

open NanoKvm.Proto NanoKvm.Lib

/-- What `Inner` counts of frames, and the last decode error. -/
structure Counters where
  framesCaptured : Nat
  framesDecoded : Nat
  droppedPreDecode : Nat
  droppedPostDecode : Nat
  decodeErrors : Nat
  lastError : Option String
  deriving DecidableEq, Repr

/-- Where the capture thread is in `step`. -/
inductive CapturePc where
  | polling
  /-- Counted; `compressed.put` is next. -/
  | captured (frame : CompressedFrame)
  /-- The put handed one back; `compressed.is_closed` is next. -/
  | displaced
  /-- It was open; the drop is to be counted. -/
  | dropping
  deriving DecidableEq, Repr

/-- Where the decode thread is in `decode_loop`. -/
inductive DecodePc where
  | waiting
  /-- `wait_take` came back empty-handed; `is_closed` is next. -/
  | empty
  /-- The slot was open; `stopping` is next. -/
  | opened
  | decoding (frame : CompressedFrame)
  /-- Counted; `scratch` is the picture, `output.put` is next. -/
  | decoded
  /-- The put handed this one back; `output.is_closed` is next. -/
  | displaced (frame : DecodedFrame)
  /-- It was open; the drop is to be counted. -/
  | dropping (frame : DecodedFrame)
  | finished
  deriving DecidableEq, Repr

structure Stages where
  compressed : Slot CompressedFrame
  output : Slot DecodedFrame
  counters : Counters
  stopping : Bool
  capture : CapturePc
  decode : DecodePc
  /-- The reused RGBA buffer. -/
  scratch : DecodedFrame
  /-- What the source delivered, in order. -/
  captured : List CompressedFrame
  /-- What the renderer took, in order. -/
  rendered : List DecodedFrame
  deriving DecidableEq, Repr

def Stages.initial : Stages :=
  ⟨.new, .new, ⟨0, 0, 0, 0, 0, none⟩, false, .polling, .waiting, .empty, [], []⟩

inductive StageLabel where
  /-- `next_frame` delivered. -/
  | frame (frame : CompressedFrame)
  | capture
  | decode
  /-- The renderer's take. -/
  | render
  /-- `compressed.close()` and `output.close()`, whoever calls them. -/
  | closeCompressed
  | closeOutput
  | stop
  deriving DecidableEq, Repr

def Stages.captureStep (s : Stages) : Option Stages :=
  match s.capture with
  | .polling => none
  | .captured frame =>
      match s.compressed.put frame with
      | (some _, slot) => some { s with compressed := slot, capture := .displaced }
      | (none, slot) => some { s with compressed := slot, capture := .polling }
  | .displaced =>
      some { s with capture := if s.compressed.closed then .polling else .dropping }
  | .dropping =>
      some { s with
        capture := .polling
        counters.droppedPreDecode := s.counters.droppedPreDecode + 1 }

def Stages.decodeStep (library : JpegLibrary) (s : Stages) : Option Stages :=
  match s.decode with
  | .waiting =>
      match s.compressed.take with
      | (some frame, slot) => some { s with compressed := slot, decode := .decoding frame }
      | (none, slot) => some { s with compressed := slot, decode := .empty }
  | .empty => some { s with decode := if s.compressed.closed then .finished else .opened }
  | .opened => some { s with decode := if s.stopping then .finished else .waiting }
  | .decoding frame =>
      match Capture.decode library frame s.scratch with
      | (.ok (), picture) =>
          some { s with
            scratch := picture
            decode := .decoded
            counters.framesDecoded := s.counters.framesDecoded + 1 }
      | (.error error, written) =>
          some { s with
            scratch := written
            decode := .waiting
            counters.decodeErrors := s.counters.decodeErrors + 1
            counters.lastError := some error.display }
  | .decoded =>
      -- `mem::take` leaves the empty frame behind.
      match s.output.put s.scratch with
      | (some frame, slot) =>
          some { s with output := slot, scratch := .empty, decode := .displaced frame }
      | (none, slot) => some { s with output := slot, scratch := .empty, decode := .waiting }
  | .displaced frame =>
      if s.output.closed then some { s with scratch := frame, decode := .waiting }
      else some { s with decode := .dropping frame }
  | .dropping frame =>
      some { s with
        scratch := frame
        decode := .waiting
        counters.droppedPostDecode := s.counters.droppedPostDecode + 1 }
  | .finished => none

def Stages.step (library : JpegLibrary) (label : StageLabel) (s : Stages) : Option Stages :=
  match label with
  | .frame frame =>
      match s.capture with
      | .polling =>
          some { s with
            capture := .captured frame
            captured := s.captured ++ [frame]
            counters.framesCaptured := s.counters.framesCaptured + 1 }
      | _ => none
  | .capture => s.captureStep
  | .decode => s.decodeStep library
  | .render =>
      match s.output.take with
      | (some frame, slot) => some { s with output := slot, rendered := s.rendered ++ [frame] }
      | (none, slot) => some { s with output := slot }
  | .closeCompressed => some { s with compressed := s.compressed.close }
  | .closeOutput => some { s with output := s.output.close }
  | .stop => some { s with stopping := true }

/-- No thread is inside an operation. -/
def Stages.Quiet (s : Stages) : Prop :=
  s.capture = .polling ∧ (s.decode = .waiting ∨ s.decode = .finished)

instance (s : Stages) : Decidable s.Quiet := inferInstanceAs (Decidable (_ ∧ _))

end NanoKvm.Capture
