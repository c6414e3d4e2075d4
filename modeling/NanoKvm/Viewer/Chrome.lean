import NanoKvm.Lib.Deferred
import NanoKvm.Lib.Transition

/-!
# The chrome's way to the screen

`viewer/chrome/frame.rs` and what `draw` and `render_pass` of `viewer/render.rs`
do with a chrome frame.  The event loop sends frames at any time; the render
thread drains the channel, keeps one frame, and draws.  What egui does with a
texture is a parameter.  Timings and the video's own pixels are left out.
-/

set_option autoImplicit false

namespace NanoKvm.Viewer

open NanoKvm.Lib

abbrev Extent := BitVec 32 × BitVec 32

/-- `upload` is `none` where `update_texture` panics. -/
structure Egui where
  TextureId : Type
  ImageDelta : Type
  Texture : Type
  Primitive : Type
  Scale : Type
  sameId : DecidableEq TextureId
  upload : Option Texture → ImageDelta → Option Texture
  append : Batch TextureId ImageDelta → Batch TextureId ImageDelta → Batch TextureId ImageDelta

instance (egui : Egui) : DecidableEq egui.TextureId := egui.sameId

section Egui
variable (egui : Egui)

abbrev TexturesDelta := Batch egui.TextureId egui.ImageDelta

abbrev Textures := Store egui.TextureId egui.Texture

structure ChromeFrame where
  primitives : List egui.Primitive
  texturesDelta : TexturesDelta egui
  pixelsPerPoint : egui.Scale
  sizeInPixels : Extent

structure ScreenDescriptor where
  sizeInPixels : Extent
  pixelsPerPoint : egui.Scale

/-- What a draw gave the renderer, the textures then and after the frees, all the deltas the
renderer has been given by then, and how many frames had been received. -/
structure Paint where
  primitives : List egui.Primitive
  screen : ScreenDescriptor egui
  shown : Textures egui
  left : Textures egui
  applied : TexturesDelta egui
  received : Nat

/-- The surface's size and the renderer, with what it has been given. -/
structure Gpu where
  config : Extent
  textures : Textures egui
  applied : TexturesDelta egui
  paints : List (Paint egui)

variable {egui}

/-- Deltas accumulate, pictures replace. -/
def ChromeFrame.absorb (older newer : ChromeFrame egui) : ChromeFrame egui where
  primitives := newer.primitives
  texturesDelta := egui.append older.texturesDelta newer.texturesDelta
  pixelsPerPoint := newer.pixelsPerPoint
  sizeInPixels := newer.sizeInPixels

def absorbInto (kept : Option (ChromeFrame egui)) (newer : ChromeFrame egui) : ChromeFrame egui :=
  match kept with
  | some existing => existing.absorb newer
  | none => newer

/-! ## One draw -/

/-- What asking for the surface's next image says; the text is the library's. -/
inductive Acquired where
  | frame
  | timeout
  | lost
  | outOfMemory (e : String)
  | failed (e : String)
  deriving DecidableEq, Repr

inductive DrawOutcome where
  | presented
  | skipped
  | fatal (message : String)
  deriving DecidableEq, Repr

/-- `u32::max` with 1. -/
def atLeastOne (n : BitVec 32) : BitVec 32 := if n = 0#32 then 1#32 else n

def Gpu.reconfigure (gpu : Gpu egui) : Option Extent → Gpu egui
  | some (w, h) => { gpu with config := (atLeastOne w, atLeastOne h) }
  | none => gpu

def chromeFitsSurface (frame surface : Extent) : Bool := frame = surface

/-- The sets before the picture, the frees after it; both lists are taken. -/
def Gpu.paint (gpu : Gpu egui) (c : ChromeFrame egui) (received : Nat) :
    Option (Gpu egui × ChromeFrame egui) :=
  match putAll egui.upload gpu.textures c.texturesDelta.set with
  | none => none
  | some shown =>
      let left := removeAll shown c.texturesDelta.free
      let applied := ⟨gpu.applied.set ++ c.texturesDelta.set,
        gpu.applied.free ++ c.texturesDelta.free⟩
      let paint :=
        { primitives := c.primitives, screen := ⟨gpu.config, c.pixelsPerPoint⟩
          shown, left, applied, received }
      some ({ gpu with textures := left, applied, paints := gpu.paints ++ [paint] },
        { c with texturesDelta := ⟨[], []⟩ })

def Gpu.draw (gpu : Gpu egui) (acquired : Acquired) (chrome : Option (ChromeFrame egui))
    (received : Nat) : Gpu egui × Option (ChromeFrame egui) × DrawOutcome :=
  match acquired with
  | .timeout => (gpu, chrome, .skipped)
  | .lost => (gpu.reconfigure none, chrome, .skipped)
  | .outOfMemory e =>
      (gpu, chrome, .fatal ("the GPU ran out of memory acquiring a frame (" ++ e ++
        "); the renderer cannot continue"))
  | .failed e => (gpu, chrome, .fatal ("acquiring a surface frame failed: " ++ e))
  | .frame =>
      match chrome with
      | none => (gpu, none, .presented)
      | some c =>
          if !chromeFitsSurface c.sizeInPixels gpu.config || c.primitives.isEmpty then
            (gpu, some c, .presented)
          else
            match gpu.paint c received with
            | some (gpu, c) => (gpu, some c, .presented)
            -- The thread ends here, and nothing looks at its state again.
            | none => (gpu, some c, .fatal "the render thread panicked")

end Egui

/-! ## Two threads -/

/-- Where the render thread is: in the drain with what it has so far, past it, or gone. -/
inductive RenderPc (egui : Egui) where
  | draining (out : Option (ChromeFrame egui))
  | drained
  | finished

/-- The channel with the frames taken from it, and what one pass carries into the next. -/
structure Rendering (egui : Egui) where
  queue : List (ChromeFrame egui)
  received : List (ChromeFrame egui)
  pc : RenderPc egui
  chrome : Option (ChromeFrame egui)
  pending : Bool
  gpu : Gpu egui
  fatal : Option String

/-- The frames the channel has taken. -/
def Rendering.sent {egui : Egui} (s : Rendering egui) : List (ChromeFrame egui) :=
  s.received ++ s.queue

def Rendering.start (egui : Egui) (config : Extent) : Rendering egui where
  queue := []
  received := []
  pc := .draining none
  chrome := none
  pending := true
  gpu := { config, textures := fun _ => none, applied := ⟨[], []⟩, paints := [] }
  fatal := none

/-- `present` is the rest of a pass: whether there is a video frame, the size of a resize, and
whether the surface is hidden. -/
inductive RenderLabel (egui : Egui) where
  | send (frame : ChromeFrame egui)
  | receive
  | present (video : Bool) (resize : Option Extent) (occluded : Bool) (acquired : Acquired)
  | stop
  | panic (text : String)

section Steps
variable {egui : Egui}

/-- One `try_recv` of the drain; the empty channel ends it. -/
def receiveOne (s : Rendering egui) (out : Option (ChromeFrame egui)) : Rendering egui :=
  match s.queue with
  | frame :: rest =>
      { s with
        queue := rest
        received := s.received ++ [frame]
        pc := .draining (some (absorbInto out frame)) }
  | [] =>
      match out with
      | some new =>
          { s with chrome := some (absorbInto s.chrome new), pending := true, pc := .drained }
      | none => { s with pc := .drained }

def presentPass (s : Rendering egui) (video : Bool) (resize : Option Extent) (occluded : Bool)
    (acquired : Acquired) : Rendering egui :=
  let pending := s.pending || video || resize.isSome
  let gpu := s.gpu.reconfigure resize
  if occluded || !pending then { s with gpu, pending, pc := .draining none }
  else
    match gpu.draw acquired s.chrome s.received.length with
    | (gpu, chrome, .presented) => { s with gpu, chrome, pending := false, pc := .draining none }
    | (gpu, chrome, .skipped) => { s with gpu, chrome, pending, pc := .draining none }
    | (gpu, chrome, .fatal message) =>
        { s with gpu, chrome, pending, pc := .finished, fatal := some message }

def renderStep : RenderLabel egui → Rendering egui → Option (Rendering egui)
  | .send frame, s =>
      match s.pc with
      | .finished => some s
      | .draining _ | .drained => some { s with queue := s.queue ++ [frame] }
  | .receive, s =>
      match s.pc with
      | .draining out => some (receiveOne s out)
      | .drained | .finished => none
  | .present video resize occluded acquired, s =>
      match s.pc with
      | .drained => some (presentPass s video resize occluded acquired)
      | .draining _ | .finished => none
  | .stop, s =>
      match s.pc with
      | .draining none => some { s with pc := .finished }
      | .draining (some _) | .drained | .finished => none
  | .panic text, s =>
      match s.pc with
      | .finished => none
      | .draining _ | .drained =>
          some { s with
            pc := .finished
            fatal := some ("the render thread panicked: " ++ text) }

end Steps

end NanoKvm.Viewer
