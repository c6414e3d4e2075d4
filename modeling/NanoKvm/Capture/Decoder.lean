import NanoKvm.Proto.Report

/-!
# Decoding one frame

`capture/decoder.rs`.  The JPEG library is a parameter: what it says of a header,
and what it leaves in the buffer it is given, whatever its verdict.
-/

set_option autoImplicit false

namespace NanoKvm.Capture

open NanoKvm.Proto

abbrev U32 := BitVec 32

structure CompressedFrame where
  jpeg : List U8
  width : U32
  height : U32
  capturedAt : Nat
  sequence : U32
  deriving DecidableEq, Repr

structure DecodedFrame where
  rgba : List U8
  width : U32
  height : U32
  capturedAt : Nat
  sequence : U32
  deriving DecidableEq, Repr

def DecodedFrame.empty : DecodedFrame := ⟨[], 0#32, 0#32, 0, 0#32⟩

def DecodedFrame.expectedLen (width height : U32) : Nat := width.toNat * height.toNat * 4

def maxWidth : U32 := 4096#32
def maxHeight : U32 := 2304#32
def maxRgbaBytes : Nat := maxWidth.toNat * maxHeight.toNat * 4

def dimensionsInRange (width height : U32) : Bool := width ≤ maxWidth && height ≤ maxHeight

inductive DecodeError where
  | jpeg (message : String)
  | dimensionMismatch (headerW headerH decoderW decoderH : U32)
  | unexpectedBufferSize (width height : U32) (wanted expected : Nat)
  | noDimensions
  | dimensionsTooLarge (width height maxWidth maxHeight : U32)
  deriving DecidableEq, Repr

def showSize (width height : U32) : String :=
  toString width.toNat ++ "x" ++ toString height.toNat

def DecodeError.display : DecodeError → String
  | .jpeg message => "jpeg decode failed: " ++ message
  | .dimensionMismatch headerW headerH decoderW decoderH =>
      "dimension disagreement: header says " ++ showSize headerW headerH ++ ", decoder says " ++
        showSize decoderW decoderH
  | .unexpectedBufferSize width height wanted expected =>
      "decoder wants " ++ toString wanted ++ " bytes for " ++ showSize width height ++
        " RGBA, expected " ++ toString expected
  | .noDimensions => "decoder reported no dimensions"
  | .dimensionsTooLarge width height maxWidth maxHeight =>
      "frame claims " ++ showSize width height ++ ", over the " ++ showSize maxWidth maxHeight ++
        " ceiling"

def tooLarge (width height : U32) : DecodeError :=
  .dimensionsTooLarge width height maxWidth maxHeight

/-- The strict RGBA decoder. -/
structure JpegLibrary where
  decodeHeaders : List U8 → Except String Unit
  dimensions : List U8 → Option (Nat × Nat)
  outputBufferSize : List U8 → Option Nat
  /-- The verdict, and what is in the buffer afterwards. -/
  decodeInto : List U8 → List U8 → Except String Unit × List U8

/-- Success overwrites the whole buffer with the picture. -/
def JpegLibrary.Overwrites (library : JpegLibrary) (pixels : List U8 → List U8) : Prop :=
  ∀ jpeg buffer, library.outputBufferSize jpeg = some buffer.length →
    (library.decodeInto jpeg buffer).1 = .ok () → (library.decodeInto jpeg buffer).2 = pixels jpeg

/-- `Vec::resize` with zeros. -/
def resize (buffer : List U8) (length : Nat) : List U8 :=
  buffer.take length ++ List.replicate (length - buffer.length) 0#8

theorem resize_length (buffer : List U8) (length : Nat) :
    (resize buffer length).length = length := by
  simp only [resize, List.length_append, List.length_take, List.length_replicate]
  omega

/-- Decode `frame` into `out`, which is left half written where it fails. -/
def decode (library : JpegLibrary) (frame : CompressedFrame) (out : DecodedFrame) :
    Except DecodeError Unit × DecodedFrame :=
  if !dimensionsInRange frame.width frame.height then
    (.error (tooLarge frame.width frame.height), out)
  else
    match library.decodeHeaders frame.jpeg with
    | .error message => (.error (.jpeg message), out)
    | .ok () =>
        match library.dimensions frame.jpeg with
        | none => (.error .noDimensions, out)
        | some (width, height) =>
            let dw := BitVec.ofNat 32 width
            let dh := BitVec.ofNat 32 height
            if !dimensionsInRange dw dh then (.error (tooLarge dw dh), out)
            else if dw ≠ frame.width ∨ dh ≠ frame.height then
              (.error (.dimensionMismatch frame.width frame.height dw dh), out)
            else
              let expected := DecodedFrame.expectedLen dw dh
              if expected > maxRgbaBytes then (.error (tooLarge dw dh), out)
              else
                match library.outputBufferSize frame.jpeg with
                | none => (.error .noDimensions, out)
                | some wanted =>
                    if wanted ≠ expected then
                      (.error (.unexpectedBufferSize dw dh wanted expected), out)
                    else
                      let rgba :=
                        if out.rgba.length ≠ expected then resize out.rgba expected else out.rgba
                      match library.decodeInto frame.jpeg rgba with
                      | (.error message, written) =>
                          (.error (.jpeg message), { out with rgba := written })
                      | (.ok (), written) =>
                          (.ok (), ⟨written, dw, dh, frame.capturedAt, frame.sequence⟩)

/-- The picture of one captured frame, with what was captured along with it. -/
def image (pixels : List U8 → List U8) (frame : CompressedFrame) : DecodedFrame :=
  ⟨pixels frame.jpeg, frame.width, frame.height, frame.capturedAt, frame.sequence⟩

/-- A decode that succeeds leaves nothing of what the buffer held. -/
theorem decode_image {library : JpegLibrary} {pixels : List U8 → List U8}
    (overwrites : library.Overwrites pixels) {frame : CompressedFrame} {out after : DecodedFrame}
    (decoded : decode library frame out = (.ok (), after)) : after = image pixels frame := by
  unfold decode at decoded
  split at decoded
  · cases decoded
  split at decoded
  · cases decoded
  split at decoded
  · cases decoded
  rename_i width height _
  dsimp only at decoded
  split at decoded
  · cases decoded
  split at decoded
  · cases decoded
  rename_i agree
  simp only [ne_eq, not_or, Decidable.not_not] at agree
  split at decoded
  · cases decoded
  split at decoded
  · cases decoded
  rename_i wanted size
  split at decoded
  · cases decoded
  rename_i fits
  simp only [ne_eq, Decidable.not_not] at fits
  split at decoded
  · cases decoded
  · rename_i written result
    cases decoded
    rw [agree.1, agree.2] at fits result ⊢
    have sized : (if out.rgba.length ≠ DecodedFrame.expectedLen frame.width frame.height then
        resize out.rgba (DecodedFrame.expectedLen frame.width frame.height)
        else out.rgba).length = wanted := by
      rw [fits]
      split
      · exact resize_length _ _
      · rename_i same
        simpa using same
    have whole := overwrites frame.jpeg _ (size.trans (congrArg some sized.symm))
      (by rw [result])
    rw [result] at whole
    change written = pixels frame.jpeg at whole
    rw [whole]
    rfl

end NanoKvm.Capture
