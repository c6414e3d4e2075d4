import NanoKvm.Capture.Jpeg
import NanoKvm.Capture.Recovery
import Mathlib.Data.List.DropRight

/-!
# Picking the frame of a screenshot

`pick_frame` of `cli/shot.rs`.  Each turn of its loop is given what the world
answers in it: the signal flag, the source, and the clock at the end.  The pause
after an error shows in the clock only.
-/

set_option autoImplicit false

namespace NanoKvm.Cli

open NanoKvm.Proto NanoKvm.Capture

structure ShotPolicy where
  skip : U32
  anySize : Bool
  restartAfter : U32
  giveUpAfter : U32
  deriving DecidableEq, Repr

def restartAfter : U32 := 30#32
def giveUpAfter : U32 := 90#32

/-- The two mismatch bounds are no flags. -/
def ShotPolicy.fromArgs (skip : U32) (anySize : Bool) : ShotPolicy :=
  { skip, anySize, restartAfter := Cli.restartAfter, giveUpAfter := Cli.giveUpAfter }

/-- The stream is restarted before the attempt is given up. -/
theorem fromArgs_bounds (skip : U32) (anySize : Bool) :
    1 ≤ (ShotPolicy.fromArgs skip anySize).restartAfter.toNat ∧
      (ShotPolicy.fromArgs skip anySize).restartAfter.toNat <
        (ShotPolicy.fromArgs skip anySize).giveUpAfter.toNat := by
  change 1 ≤ Cli.restartAfter.toNat ∧ Cli.restartAfter.toNat < Cli.giveUpAfter.toNat
  decide

structure Shot where
  jpeg : List U8
  width : U32
  height : U32
  skipped : Nat
  discarded : Nat
  mismatched : Nat
  restarted : Bool
  deriving DecidableEq, Repr

inductive ShotError where
  | timeout (waited skipped discarded mismatched : Nat)
  | disconnected (skipped : Nat)
  | wrongSize (want saw : Dims) (mismatched : Nat) (restarted : Bool)
  | config (what : String)
  | interrupted
  deriving DecidableEq, Repr

/-- The text of a duration is the caller's. -/
def ShotError.display (showDuration : Nat → String) : ShotError → String
  | .timeout waited skipped discarded mismatched =>
      "no usable frame within " ++ showDuration waited ++ " (" ++ toString skipped ++
        " frame(s) skipped, " ++ toString discarded ++ " refused by the source, " ++
        toString mismatched ++ " at another size)"
  | .disconnected skipped =>
      "the capture device disconnected after " ++ toString skipped ++ " frame(s)"
  | .wrongSize want saw mismatched restarted =>
      "the device is streaming " ++ showDims saw ++ " but " ++ showDims want ++
        " was negotiated; " ++ toString mismatched ++ " frames at the wrong size" ++
        (if restarted then ", and restarting the stream did not fix it" else "") ++
        ". Pass --any-size to save the received dimensions, or reconnect the dongle and retry"
  | .config what => "capture configuration: " ++ what
  | .interrupted => "interrupted"

/-- What is left when the zeros at the end are cut off ends in the marker. -/
def endsInEoi (jpeg : List U8) : Bool :=
  [fill, Marker.eoi].isSuffixOf (jpeg.rdropWhile (· = 0#8))

/-- What the loop makes of a frame past the skipped ones. -/
inductive Verdict where
  | unusable
  | mismatch (want saw : Dims)
  | good (dims : Dims)
  deriving DecidableEq, Repr

def sized (negotiated : Option Dims) (dims : Dims) : Verdict :=
  match negotiated with
  | some want => if dims ≠ want then .mismatch want dims else .good dims
  | none => .good dims

def judge (negotiated : Option Dims) (jpeg : List U8) : Verdict :=
  if !endsInEoi jpeg then .unusable
  else
    match dimensions jpeg with
    | .error _ => .unusable
    | .ok dims =>
        if !dimensionsInRange dims.1 dims.2 then .unusable
        else sized negotiated dims

inductive SourceCall where
  | nextFrame
  | restart
  deriving DecidableEq, Repr

/-- The counters, and the calls made to the source, in order. -/
structure Picking where
  skipped : Nat
  discarded : Nat
  mismatched : Nat
  consecutive : Nat
  restarted : Bool
  calls : List SourceCall
  deriving DecidableEq, Repr

def Picking.start : Picking := ⟨0, 0, 0, 0, false, []⟩

/-- `restart` is what the source would answer to a restart in this turn. -/
structure Turn where
  interrupted : Bool
  next : Except CaptureError CompressedFrame
  restart : Except CaptureError Unit
  now : Nat

/-- The frame is no good, or there is none: on to the deadline, or an end. -/
abbrev Judged := Picking × Option (Except ShotError Shot)

section Loop
variable (policy : ShotPolicy) (negotiated : Option Dims)

def refused (p : Picking) : CaptureError → Judged
  | .disconnected => (p, some (.error (.disconnected p.skipped)))
  | .config what => (p, some (.error (.config what)))
  | .badFrame _ => ({ p with discarded := saturatingSucc p.discarded }, none)
  | .timeout _ | .io _ _ => (p, none)

def restartSource (p : Picking) (answer : Except CaptureError Unit) : Judged :=
  let p := { p with restarted := true, consecutive := 0, calls := p.calls ++ [.restart] }
  match answer with
  | .error .disconnected => (p, some (.error (.disconnected p.skipped)))
  | _ => (p, none)

def wrongSized (p : Picking) (want saw : Dims) (restart : Except CaptureError Unit) : Judged :=
  let p := { p with
    mismatched := saturatingSucc p.mismatched
    consecutive := saturatingSucc p.consecutive }
  if policy.giveUpAfter.toNat ≤ p.mismatched then
    (p, some (.error (.wrongSize want saw p.mismatched p.restarted)))
  else if !p.restarted && policy.restartAfter.toNat ≤ p.consecutive then restartSource p restart
  else (p, none)

def kept (p : Picking) (jpeg : List U8) (dims : Dims) : Shot :=
  { jpeg, width := dims.1, height := dims.2
    skipped := p.skipped, discarded := p.discarded
    mismatched := p.mismatched, restarted := p.restarted }

def judgeFrame (p : Picking) (frame : CompressedFrame) (restart : Except CaptureError Unit) :
    Judged :=
  if p.skipped < policy.skip.toNat then ({ p with skipped := p.skipped + 1 }, none)
  else
    match judge negotiated frame.jpeg with
    | .unusable => ({ p with skipped := saturatingSucc p.skipped }, none)
    | .mismatch want saw => wrongSized policy p want saw restart
    | .good dims => (p, some (.ok (kept p frame.jpeg dims)))

/-- The source is asked, and what it says is judged. -/
def ask (p : Picking) (turn : Turn) : Judged :=
  let p := { p with calls := p.calls ++ [.nextFrame] }
  match turn.next with
  | .error e => refused p e
  | .ok frame => judgeFrame policy negotiated p frame turn.restart

variable (started deadline : Nat)

def pickTurn (p : Picking) (turn : Turn) : Judged :=
  if turn.interrupted then (p, some (.error .interrupted))
  else
    match ask policy negotiated p turn with
    | (p, some result) => (p, some result)
    | (p, none) =>
        -- Only now: the frame in hand has been judged.
        if deadline ≤ turn.now then
          (p, some (.error (.timeout (turn.now - started) p.skipped p.discarded p.mismatched)))
        else (p, none)

/-- The turns after the one that ends the loop are left over. -/
def pickLoop (p : Picking) : List Turn → Judged × List Turn
  | [] => ((p, none), [])
  | turn :: rest =>
      match pickTurn policy negotiated started deadline p turn with
      | (p, some result) => ((p, some result), rest)
      | (p, none) => pickLoop p rest

end Loop

def wantedSize (policy : ShotPolicy) (source : FrameSource) : Option Dims :=
  if policy.anySize then none else source.negotiatedDimensions

/-- No result while the loop is still waiting. -/
def pickFrame (source : FrameSource) (policy : ShotPolicy) (started deadline : Nat)
    (turns : List Turn) : Judged × List Turn :=
  pickLoop policy (wantedSize policy source) started deadline Picking.start turns

end NanoKvm.Cli
