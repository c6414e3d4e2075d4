import NanoKvm.Capture.Decoder
import NanoKvm.Proto.Hex

/-!
# The JPEG header walk

`capture/jpeg.rs`: the dimensions in the first start-of-frame segment, found by
walking the markers before it.  The grammar of what the walk accepts is given
apart from it, over the markers that stand alone and those that are skipped with
their segment.
-/

set_option autoImplicit false

namespace NanoKvm.Capture

open NanoKvm.Proto

inductive JpegHeaderError where
  | notJpeg
  | truncated
  | notAMarker (offset : Nat) (found : U8)
  | badSegmentLength (marker : U8) (length : U16)
  | noStartOfFrame (stoppedAt : U8)
  | zeroDimension (width height : U32)
  deriving DecidableEq, Repr

def JpegHeaderError.display : JpegHeaderError → String
  | .notJpeg => "no SOI marker at the start of the frame"
  | .truncated => "truncated before the start-of-frame segment"
  | .notAMarker offset found =>
      "expected a marker at offset " ++ toString offset ++ ", found " ++ showByte found
  | .badSegmentLength marker length =>
      "segment for marker " ++ showByte marker ++ " declares an impossible length " ++
        toString length.toNat
  | .noStartOfFrame stoppedAt => "no start-of-frame segment before " ++ showByte stoppedAt
  | .zeroDimension width height => "start-of-frame declares " ++ showSize width height

namespace Marker

def soi : U8 := 0xD8#8
def eoi : U8 := 0xD9#8
def sos : U8 := 0xDA#8
def dht : U8 := 0xC4#8
def jpg : U8 := 0xC8#8
def dac : U8 := 0xCC#8
def tem : U8 := 0x01#8

end Marker

/-- Every marker code is preceded by this byte; more of them are fill. -/
def fill : U8 := 0xFF#8

/-- No length and no payload. -/
def standalone (marker : U8) : Bool :=
  marker = Marker.soi || marker = Marker.tem || (0xD0#8 ≤ marker && marker ≤ 0xD7#8)

/-- The scan begins, or the image ends. -/
def ending (marker : U8) : Bool := marker = Marker.sos || marker = Marker.eoi

/-- Among the codes of frame headers, but none. -/
def unframed (marker : U8) : Bool :=
  marker = Marker.dht || marker = Marker.jpg || marker = Marker.dac

def startsFrame (marker : U8) : Bool := 0xC0#8 ≤ marker && marker ≤ 0xCF#8 && !unframed marker

/-- How many fill bytes a list begins with. -/
def fillRun : List U8 → Nat
  | [] => 0
  | byte :: rest => if byte = fill then fillRun rest + 1 else 0

/-- One marker code after its fill, and the place just past it. -/
def readMarker (data : List U8) (cursor : Nat) : Except JpegHeaderError (U8 × Nat) :=
  match data[cursor]? with
  | none => .error .truncated
  | some found =>
      if found ≠ fill then .error (.notAMarker cursor found)
      else
        let p := cursor + fillRun (data.drop cursor)
        match data[p]? with
        | none => .error .truncated
        | some marker =>
            -- A stuffed byte, which only entropy-coded data has.
            if marker = 0#8 then .error (.notAMarker p 0#8) else .ok (marker, p + 1)

def be16 (hi lo : U8) : U16 := BitVec.ofNat 16 (hi.toNat * 256 + lo.toNat)

def readU16 (data : List U8) (off : Nat) : Option U16 :=
  match data[off]?, data[off + 1]? with
  | some hi, some lo => some (be16 hi lo)
  | _, _ => none

/-- The place just past the segment whose length is at `cursor`. -/
def skipSegment (data : List U8) (cursor : Nat) (marker : U8) : Except JpegHeaderError Nat :=
  match readU16 data cursor with
  | none => .error .truncated
  | some length =>
      if length < 2#16 then .error (.badSegmentLength marker length)
      else
        let next := cursor + length.toNat
        if next > data.length then .error .truncated else .ok next

/-- `Lf(2) P(1) Y(2) X(2)`: the height comes first. -/
def frameSize (data : List U8) (cursor : Nat) (marker : U8) :
    Except JpegHeaderError (U32 × U32) :=
  match readU16 data cursor with
  | none => .error .truncated
  | some length =>
      if length < 8#16 then .error (.badSegmentLength marker length)
      else
        match readU16 data (cursor + 3), readU16 data (cursor + 5) with
        | some height, some width =>
            if width = 0#16 ∨ height = 0#16 then
              .error (.zeroDimension (width.setWidth 32) (height.setWidth 32))
            else .ok (width.setWidth 32, height.setWidth 32)
        | _, _ => .error .truncated

/-- One turn of the loop: on from a cursor, or a result and where it was found. -/
inductive Walk where
  | onward (cursor : Nat)
  | ended (result : Except JpegHeaderError (U32 × U32)) (cursor : Nat)
  deriving DecidableEq

def pass (data : List U8) (cursor : Nat) (marker : U8) : Walk :=
  match skipSegment data cursor marker with
  | .error e => .ended (.error e) cursor
  | .ok next => .onward next

def walkTurn (data : List U8) (cursor : Nat) : Walk :=
  match readMarker data cursor with
  | .error e => .ended (.error e) cursor
  | .ok (marker, cursor) =>
      if standalone marker then .onward cursor
      else if ending marker then .ended (.error (.noStartOfFrame marker)) cursor
      else if unframed marker then pass data cursor marker
      else if startsFrame marker then .ended (frameSize data cursor marker) cursor
      else pass data cursor marker

/-- `none` when the turns run out, which they do not. -/
def walk (data : List U8) : Nat → Nat → Option (Except JpegHeaderError (U32 × U32) × Nat)
  | 0, _ => none
  | turns + 1, cursor =>
      match walkTurn data cursor with
      | .onward next => walk data turns next
      | .ended result cursor => some (result, cursor)

/-- The result, and where the cursor stands when it is returned. -/
def headerWalk (data : List U8) : Option (Except JpegHeaderError (U32 × U32) × Nat) :=
  match readMarker data 0 with
  | .error e => some (.error e, 0)
  | .ok (marker, cursor) =>
      if marker = Marker.soi then walk data (data.length + 1) cursor
      else some (.error .notJpeg, cursor)

def dimensions (data : List U8) : Except JpegHeaderError (U32 × U32) :=
  match headerWalk data with
  | some (result, _) => result
  | none => .error .truncated

/-! ## The grammar -/

/-- A marker code after one fill byte and `more` others. -/
def marked (more : Nat) (marker : U8) : List U8 := List.replicate (more + 1) fill ++ [marker]

/-- Neither fill nor a stuffed byte. -/
def IsCode (marker : U8) : Prop := marker ≠ fill ∧ marker ≠ 0#8

/-- Markers of two kinds one after another: alone, or before a whole segment whose
length counts itself. -/
inductive Chain (alone segment : U8 → Prop) : List U8 → Prop where
  | done : Chain alone segment []
  | alone {marker : U8} {rest : List U8} (more : Nat) (code : IsCode marker)
      (kind : alone marker) (chain : Chain alone segment rest) :
      Chain alone segment (marked more marker ++ rest)
  | segment {marker hi lo : U8} {body rest : List U8} (more : Nat) (code : IsCode marker)
      (kind : segment marker) (whole : (be16 hi lo).toNat = body.length + 2)
      (chain : Chain alone segment rest) :
      Chain alone segment (marked more marker ++ hi :: lo :: (body ++ rest))

/-- A frame header up to the width it stores. -/
structure FrameHeader (bytes : List U8) (width height : U32) : Prop where
  starts : ∃ more marker hi lo precision yHi yLo xHi xLo rest,
    bytes = marked more marker ++ [hi, lo, precision, yHi, yLo, xHi, xLo] ++ rest ∧
    IsCode marker ∧ startsFrame marker = true ∧ 8 ≤ (be16 hi lo).toNat ∧
    height = (be16 yHi yLo).setWidth 32 ∧ width = (be16 xHi xLo).setWidth 32
  high : height ≠ 0#32
  wide : width ≠ 0#32

/-- An image marker, a chain of markers, and a frame header. -/
def Header (alone segment : U8 → Prop) (bytes : List U8) (width height : U32) : Prop :=
  ∃ more skipped framed, Chain alone segment skipped ∧ FrameHeader framed width height ∧
    bytes = marked more Marker.soi ++ skipped ++ framed

/-- What the walk skips with its segment. -/
def Skipped (marker : U8) : Prop :=
  standalone marker = false ∧ ending marker = false ∧ startsFrame marker = false

end NanoKvm.Capture
