import NanoKvm.Proto.Report

/-!
# Replies and transaction outcomes

`link.rs` and the `GET_INFO` payload of `proto/frame.rs`.  The message of a
`Down` or an `Io` error is left out: only log lines read it.  The firmware
version is kept as the tenths above 1.0 that the float is computed from.
-/

set_option autoImplicit false

namespace NanoKvm.Proto

structure Reply where
  cmd : U8
  data : List U8
  deriving DecidableEq, Repr

/-- Whether this reply answers `request`, in success or error form. -/
def Reply.answers (reply : Reply) (request : U8) : Bool :=
  reply.cmd = request ||| 0x80#8 || reply.cmd = request ||| 0xC0#8

def Reply.isError (reply : Reply) : Bool := reply.cmd &&& 0xC0#8 = 0xC0#8

def Reply.errorCode (reply : Reply) : Option U8 :=
  if reply.isError then reply.data.head? else none

inductive LinkError where
  | timeout (cmd : U8)
  | device (cmd code : U8)
  | down
  | io
  deriving DecidableEq, Repr

def LinkError.isTransportFailure : LinkError → Bool
  | .down | .io => true
  | .timeout _ | .device _ _ => false

abbrev TransactResult := Except LinkError Reply

/-- The bytes went out: everything but a transport failure. -/
def handed : TransactResult → Bool
  | .ok _ => true
  | .error failure => !failure.isTransportFailure

inductive ParseError where
  | shortPayload (need got : Nat)
  deriving DecidableEq, Repr

structure DeviceInfo where
  versionTenths : U8
  targetConnected : Bool
  numLock : Bool
  capsLock : Bool
  scrollLock : Bool
  deriving DecidableEq, Repr

def DeviceInfo.minPayload : Nat := 3

/-- `u8::saturating_sub`. -/
def saturatingSub (a b : U8) : U8 := if a < b then 0#8 else a - b

def DeviceInfo.parse (payload : List U8) : Except ParseError DeviceInfo :=
  match payload with
  | versionChar :: connected :: locks :: _ =>
      .ok
        { versionTenths := saturatingSub versionChar 0x30#8
          targetConnected := connected ≠ 0#8
          numLock := locks &&& 0b001#8 ≠ 0#8
          capsLock := locks &&& 0b010#8 ≠ 0#8
          scrollLock := locks &&& 0b100#8 ≠ 0#8 }
  | _ => .error (.shortPayload DeviceInfo.minPayload payload.length)

end NanoKvm.Proto
