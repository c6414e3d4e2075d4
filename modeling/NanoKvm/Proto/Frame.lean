import NanoKvm.Proto.Reply

/-!
# Frames and the streaming parser

`proto/frame.rs`.  Bytes accumulate in a reassembly buffer; `scan` pulls frames
out of it, and after a bad checksum resumes one byte past the failed header.
The byte sums are natural numbers: their low byte is that of the `u32` sum.
-/

set_option autoImplicit false

namespace NanoKvm.Proto

def head1 : U8 := 0x57#8
def head2 : U8 := 0xAB#8

/-- The only device address this client uses. -/
def addr : U8 := 0x00#8

def maxPayload : Nat := 255

/-- `HEAD1 HEAD2 ADDR CMD LEN … SUM`. -/
def overhead : Nat := 6

def maxFrame : Nat := overhead + maxPayload

def maxBuffer : Nat := 4096

inductive EncodeError where
  | payloadTooLong (len : Nat)
  deriving DecidableEq, Repr

def byteSum : List U8 → Nat
  | [] => 0
  | byte :: rest => byte.toNat + byteSum rest

/-- Of a payload too long to frame, only the low byte of its length counts. -/
def checksum (addr cmd : U8) (payload : List U8) : U8 :=
  BitVec.ofNat 8
    (head1.toNat + head2.toNat + addr.toNat + cmd.toNat + payload.length % 256 + byteSum payload)

def checksumOver (bytes : List U8) : U8 := BitVec.ofNat 8 (byteSum bytes)

/-- The bytes of one frame. -/
def wire (addr cmd : U8) (payload : List U8) : List U8 :=
  head1 :: head2 :: addr :: cmd :: BitVec.ofNat 8 payload.length ::
    (payload ++ [checksum addr cmd payload])

def encodeInto (buf : List U8) (cmd : U8) (payload : List U8) : Except EncodeError (List U8) :=
  if payload.length > maxPayload then .error (.payloadTooLong payload.length)
  else .ok (buf ++ wire addr cmd payload)

def encode (cmd : U8) (payload : List U8) : Except EncodeError (List U8) :=
  encodeInto [] cmd payload

structure Frame where
  addr : U8
  cmd : U8
  data : List U8
  deriving DecidableEq, Repr

def Frame.encode (frame : Frame) : Except EncodeError (List U8) :=
  if frame.data.length > maxPayload then .error (.payloadTooLong frame.data.length)
  else .ok (wire frame.addr frame.cmd frame.data)

def Frame.intoReply (frame : Frame) : Reply := ⟨frame.cmd, frame.data⟩

inductive StreamEvent where
  | frame (frame : Frame)
  | badChecksum (raw : List U8)
  | truncated (raw : List U8)
  | garbage (bytes : Nat)
  deriving DecidableEq, Repr

structure Parser where
  buf : List U8
  events : List StreamEvent
  pendingGarbage : Nat
  /-- Bytes still to be scanned again that a `badChecksum` already reported. -/
  suppressed : Nat
  deriving DecidableEq, Repr

def Parser.new : Parser := ⟨[], [], 0, 0⟩

def Parser.emit (parser : Parser) (event : StreamEvent) : Parser :=
  { parser with events := parser.events ++ [event] }

/-- Drop `n` leading bytes as garbage, but for those already reported. -/
def Parser.discard (parser : Parser) (n : Nat) : Parser :=
  if n = 0 then parser
  else
    let alreadyReported := min n parser.suppressed
    { parser with
      buf := parser.buf.drop n
      suppressed := parser.suppressed - alreadyReported
      pendingGarbage := parser.pendingGarbage + (n - alreadyReported) }

/-- Drop `n` leading bytes that an emitted event accounts for. -/
def Parser.consume (parser : Parser) (n : Nat) : Parser :=
  { parser with buf := parser.buf.drop n, suppressed := parser.suppressed - n }

def Parser.flushGarbage (parser : Parser) : Parser :=
  if parser.pendingGarbage > 0 then
    { parser.emit (.garbage parser.pendingGarbage) with pendingGarbage := 0 }
  else parser

/-- The index of the first header: `windows(2).position(|w| w == HEAD)`. -/
def headerAt : List U8 → Option Nat
  | first :: second :: rest =>
      if first = head1 ∧ second = head2 then some 0
      else (headerAt (second :: rest)).map (· + 1)
  | _ => none

/-- Discard leading bytes until the buffer starts with a header. -/
def Parser.align (parser : Parser) : Bool × Parser :=
  if parser.buf.take 2 = [head1, head2] then (true, parser)
  else
    match headerAt parser.buf with
    | some i => (true, parser.discard i)
    | none =>
        -- A header can only start at a 0x57, so a trailing one is kept.
        let keep := if parser.buf.getLast? = some head1 then 1 else 0
        (false, parser.discard (parser.buf.length - keep))

/-- One turn of the loop of `scan`, and whether the loop goes on. -/
def Parser.turn (parser : Parser) : Bool × Parser :=
  match parser.align with
  | (false, parser) => (false, parser)
  | (true, parser) =>
      if parser.buf.length < 5 then (false, parser)
      else
        let len := (parser.buf.getD 4 0#8).toNat
        let total := overhead + len
        if parser.buf.length < total then (false, parser)
        else if checksumOver (parser.buf.take (total - 1)) = parser.buf.getD (total - 1) 0#8 then
          let frame : Frame :=
            ⟨parser.buf.getD 2 0#8, parser.buf.getD 3 0#8, (parser.buf.drop 5).take len⟩
          (true, (parser.flushGarbage.emit (.frame frame)).consume total)
        else
          let raw := parser.buf.take total
          -- Every byte after the first header byte is scanned again.
          (true, { (parser.flushGarbage.emit (.badChecksum raw)).consume 1 with
            suppressed := total - 1 })

def Parser.scanLoop : Nat → Parser → Parser
  | 0, parser => parser
  | fuel + 1, parser =>
      match parser.turn with
      | (true, parser) => parser.scanLoop fuel
      | (false, parser) => parser

/-- A turn that goes on drops a byte, so the buffer bounds the number of turns. -/
def Parser.loop (parser : Parser) : Parser := parser.scanLoop (parser.buf.length + 1)

def Parser.scan (parser : Parser) : Parser := parser.loop.flushGarbage

def Parser.enforceBound (parser : Parser) : Parser :=
  if parser.buf.length > maxBuffer then
    let n := parser.buf.length
    let alreadyReported := min n parser.suppressed
    { parser with
      buf := []
      suppressed := 0
      pendingGarbage := parser.pendingGarbage + (n - alreadyReported) }.flushGarbage
  else parser

def Parser.pushChunk (parser : Parser) (chunk : List U8) : Parser :=
  { parser with buf := parser.buf ++ chunk }.scan.enforceBound

/-- `slice::chunks`; the fuel is the length. -/
def chunksOf (size : Nat) : Nat → List U8 → List (List U8)
  | 0, _ => []
  | fuel + 1, bytes =>
      if bytes = [] then [] else bytes.take size :: chunksOf size fuel (bytes.drop size)

def chunks (size : Nat) (bytes : List U8) : List (List U8) := chunksOf size bytes.length bytes

theorem chunks_flatten {size : Nat} (positive : 0 < size) (bytes : List U8) :
    (chunks size bytes).flatten = bytes := by
  have all : ∀ fuel (bytes : List U8), bytes.length ≤ fuel →
      (chunksOf size fuel bytes).flatten = bytes := by
    intro fuel
    induction fuel with
    | zero =>
        intro bytes short
        rw [List.length_eq_zero_iff.mp (Nat.le_zero.mp short)]
        rfl
    | succ fuel ih =>
        intro bytes short
        unfold chunksOf
        split
        · rename_i empty
          rw [empty]
          rfl
        · rw [List.flatten_cons, ih, List.take_append_drop]
          rw [List.length_drop]
          omega
  exact all _ bytes (Nat.le_refl _)

def Parser.push (parser : Parser) (bytes : List U8) : Parser :=
  (chunks maxBuffer bytes).foldl Parser.pushChunk parser

/-! ## The loop ends -/

section Termination
variable {parser next : Parser}

@[simp] theorem emit_buf (parser : Parser) (event : StreamEvent) :
    (parser.emit event).buf = parser.buf := rfl

@[simp] theorem flushGarbage_buf (parser : Parser) : parser.flushGarbage.buf = parser.buf := by
  unfold Parser.flushGarbage
  split <;> rfl

@[simp] theorem consume_buf (parser : Parser) (n : Nat) :
    (parser.consume n).buf = parser.buf.drop n := rfl

@[simp] theorem discard_buf (parser : Parser) (n : Nat) :
    (parser.discard n).buf = parser.buf.drop n := by
  unfold Parser.discard
  split
  · rename_i none
    rw [none, List.drop_zero]
  · rfl

theorem align_shrinks (parser : Parser) : parser.align.2.buf.length ≤ parser.buf.length := by
  unfold Parser.align
  split
  · exact Nat.le_refl _
  · split <;>
    · rw [discard_buf, List.length_drop]
      exact Nat.sub_le _ _

theorem turn_shrinks (stepped : parser.turn = (true, next)) :
    next.buf.length < parser.buf.length := by
  have aligned := align_shrinks parser
  unfold Parser.turn at stepped
  split at stepped
  · cases stepped
  rename_i after same
  rw [same] at aligned
  dsimp only at stepped aligned
  split at stepped
  · cases stepped
  split at stepped
  · cases stepped
  unfold overhead at stepped
  split at stepped <;>
  · cases stepped
    simp only [consume_buf, emit_buf, flushGarbage_buf, List.length_drop]
    omega

theorem scanLoop_enough {fuel more : Nat} (enough : parser.buf.length < fuel)
    (plenty : parser.buf.length < more) : parser.scanLoop fuel = parser.scanLoop more := by
  induction fuel generalizing parser more with
  | zero => cases enough
  | succ fuel ih =>
      cases more with
      | zero => cases plenty
      | succ more =>
          simp only [Parser.scanLoop]
          split
          · rename_i next stepped
            have shrunk := turn_shrinks stepped
            exact ih (by omega) (by omega)
          · rfl

theorem loop_next (stepped : parser.turn = (true, next)) : parser.loop = next.loop := by
  have shrunk := turn_shrinks stepped
  change (match parser.turn with
    | (true, parser) => parser.scanLoop _
    | (false, parser) => parser) = _
  rw [stepped]
  exact scanLoop_enough shrunk (Nat.lt_succ_self _)

theorem loop_stops (stepped : parser.turn = (false, next)) : parser.loop = next := by
  change (match parser.turn with
    | (true, parser) => parser.scanLoop _
    | (false, parser) => parser) = _
  rw [stepped]

theorem loop_congr {other : Parser} (same : parser.turn = other.turn) :
    parser.loop = other.loop := by
  cases stepped : other.turn with
  | mk again next =>
      cases again with
      | true => rw [loop_next stepped, loop_next (same.trans stepped)]
      | false => rw [loop_stops stepped, loop_stops (same.trans stepped)]

end Termination

/-! ## Silence -/

/-- The event is returned directly; older queued events stay queued. -/
def Parser.expirePartial (parser : Parser) : Option StreamEvent × Parser :=
  if parser.buf = [] then (none, parser)
  else (some (.truncated parser.buf), { parser with buf := [], suppressed := 0 })

def Parser.pendingLen (parser : Parser) : Nat := parser.buf.length

end NanoKvm.Proto
