import NanoKvm.Lib.Checked
import NanoKvm.Proto.Placed

/-!
# The parser stays in range

The scan once more, with every index, slice, drain and subtraction of the source
as a partial operation and with a loop that may run out of turns.  It always
succeeds and does what the scan does, whatever the buffer holds.  What a push
leaves is shorter than one frame, so that the backstop has nothing to discard.
-/

set_option autoImplicit false

namespace NanoKvm.Proto

open NanoKvm.Lib

/-! ## The scan with partial operations -/

def Parser.checkedDiscard (parser : Parser) (n : Nat) : Option Parser :=
  if n = 0 then some parser
  else do
    let alreadyReported := min n parser.suppressed
    let suppressed ← checkedSub parser.suppressed alreadyReported
    let unreported ← checkedSub n alreadyReported
    let buf ← drained parser.buf n
    return { parser with
      buf := buf
      suppressed := suppressed
      pendingGarbage := parser.pendingGarbage + unreported }

/-- `saturating_sub` is no partial operation. -/
def Parser.checkedConsume (parser : Parser) (n : Nat) : Option Parser := do
  let buf ← drained parser.buf n
  return { parser with buf := buf, suppressed := parser.suppressed - n }

/-- The two indices are read only after the length has been tested. -/
def Parser.checkedAligned (parser : Parser) : Option Bool :=
  if parser.buf.length ≥ 2 then do
    let first ← parser.buf[0]?
    if first = head1 then do
      let second ← parser.buf[1]?
      return decide (second = head2)
    else return false
  else some false

def Parser.checkedAlign (parser : Parser) : Option (Bool × Parser) := do
  let aligned ← parser.checkedAligned
  if aligned then return (true, parser)
  else
    match headerAt parser.buf with
    | some i => do
        let next ← parser.checkedDiscard i
        return (true, next)
    | none => do
        let keep := if parser.buf.getLast? = some head1 then 1 else 0
        let n ← checkedSub parser.buf.length keep
        let next ← parser.checkedDiscard n
        return (false, next)

def Parser.checkedTurn (parser : Parser) : Option (Bool × Parser) := do
  let (aligned, parser) ← parser.checkedAlign
  if aligned = false then return (false, parser)
  else if parser.buf.length < 5 then return (false, parser)
  else
    let size ← parser.buf[4]?
    let len := size.toNat
    let total := overhead + len
    if parser.buf.length < total then return (false, parser)
    else
      let last ← checkedSub total 1
      let covered ← sliceOf parser.buf 0 last
      let sum ← parser.buf[last]?
      if checksumOver covered = sum then
        let addr ← parser.buf[2]?
        let cmd ← parser.buf[3]?
        let data ← sliceOf parser.buf 5 (5 + len)
        let next ← (parser.flushGarbage.emit (.frame ⟨addr, cmd, data⟩)).checkedConsume total
        return (true, next)
      else
        let raw ← sliceOf parser.buf 0 total
        let next ← (parser.flushGarbage.emit (.badChecksum raw)).checkedConsume 1
        let suppressed ← checkedSub total 1
        return (true, { next with suppressed := suppressed })

/-- A loop that takes more turns than it is given is a stop too. -/
def Parser.checkedLoop : Nat → Parser → Option Parser
  | 0, _ => none
  | turns + 1, parser => do
      let (again, next) ← parser.checkedTurn
      if again then next.checkedLoop turns else return next

def Parser.checkedScan (parser : Parser) : Option Parser := do
  let stopped ← parser.checkedLoop (parser.buf.length + 1)
  return stopped.flushGarbage

def Parser.checkedEnforceBound (parser : Parser) : Option Parser :=
  if parser.buf.length > maxBuffer then do
    let n := parser.buf.length
    let unreported ← checkedSub n (min n parser.suppressed)
    return { parser with
      buf := []
      suppressed := 0
      pendingGarbage := parser.pendingGarbage + unreported }.flushGarbage
  else some parser

def Parser.checkedPushChunk (parser : Parser) (chunk : List U8) : Option Parser := do
  let scanned ← { parser with buf := parser.buf ++ chunk }.checkedScan
  scanned.checkedEnforceBound

def Parser.checkedPush (parser : Parser) (bytes : List U8) : Option Parser :=
  (chunks maxBuffer bytes).foldlM Parser.checkedPushChunk parser

/-! ## No operation is out of range -/

theorem checkedDiscard_within {parser : Parser} {n : Nat} (within : n ≤ parser.buf.length) :
    parser.checkedDiscard n = some (parser.discard n) := by
  unfold Parser.checkedDiscard Parser.discard
  by_cases none : n = 0
  · rw [if_pos none, if_pos none]
  · rw [if_neg none, if_neg none]
    dsimp only
    rw [checkedSub_le (Nat.min_le_right _ _), checkedSub_le (Nat.min_le_left _ _),
      drained_within within]
    rfl

theorem checkedConsume_within {parser : Parser} {n : Nat} (within : n ≤ parser.buf.length) :
    parser.checkedConsume n = some (parser.consume n) := by
  unfold Parser.checkedConsume
  rw [drained_within within]
  rfl

theorem checkedAligned_eq (parser : Parser) :
    parser.checkedAligned = some (decide (parser.buf.take 2 = [head1, head2])) := by
  unfold Parser.checkedAligned
  rcases parser.buf with _ | ⟨first, _ | ⟨second, rest⟩⟩
  · simp
  · simp
  · by_cases starts : first = head1
    · simp [starts]
    · simp [starts]

theorem checkedAlign_eq (parser : Parser) : parser.checkedAlign = some parser.align := by
  unfold Parser.checkedAlign Parser.align
  rw [checkedAligned_eq]
  by_cases aligned : parser.buf.take 2 = [head1, head2]
  · simp [aligned]
  · simp only [aligned, decide_false, Option.bind_eq_bind, Option.bind_some, if_false,
      Bool.false_eq_true]
    cases found : headerAt parser.buf with
    | some i =>
        have within : i ≤ parser.buf.length := by
          have := (headerAt_length found).1
          omega
        simp [checkedDiscard_within within]
    | none =>
        have keeps : (if parser.buf.getLast? = some head1 then 1 else 0) ≤ parser.buf.length := by
          split
          · rename_i last
            have : parser.buf ≠ [] := by
              intro empty
              simp [empty] at last
            exact List.length_pos_iff.mpr this
          · exact Nat.zero_le _
        simp [checkedSub_le keeps, checkedDiscard_within (Nat.sub_le _ _)]

theorem checkedTurn_eq (parser : Parser) : parser.checkedTurn = some parser.turn := by
  unfold Parser.checkedTurn Parser.turn
  rw [checkedAlign_eq]
  rcases parser.align with ⟨aligned, parser⟩
  cases aligned with
  | false => rfl
  | true =>
      dsimp only [Option.bind_eq_bind, Option.bind_some]
      rw [if_neg (by decide)]
      by_cases short : parser.buf.length < 5
      · rw [if_pos short, if_pos short]
        rfl
      rw [if_neg short, if_neg short, getElem?_within (by omega) 0#8, Option.bind_some]
      generalize (parser.buf.getD 4 0#8).toNat = len
      have more : 6 ≤ overhead + len := Nat.le_add_right 6 len
      by_cases waits : parser.buf.length < overhead + len
      · rw [if_pos waits, if_pos waits]
        rfl
      have last : overhead + len - 1 < parser.buf.length := by omega
      have data : 5 + len ≤ parser.buf.length := by
        have : overhead = 6 := rfl
        omega
      have whole : overhead + len ≤ parser.buf.length := by omega
      rw [if_neg waits, if_neg waits, checkedSub_le (by omega), Option.bind_some,
        sliceOf_prefix last.le, Option.bind_some, getElem?_within last 0#8, Option.bind_some]
      by_cases sound : checksumOver (parser.buf.take (overhead + len - 1)) =
          parser.buf.getD (overhead + len - 1) 0#8
      · rw [if_pos sound, if_pos sound, getElem?_within (by omega) 0#8, Option.bind_some,
          getElem?_within (by omega) 0#8, Option.bind_some,
          sliceOf_within (Nat.le_add_right 5 len) data, Option.bind_some,
          checkedConsume_within (by simpa using whole), Nat.add_sub_cancel_left]
        rfl
      · rw [if_neg sound, if_neg sound, sliceOf_prefix whole, Option.bind_some,
          checkedConsume_within (by simpa using (by omega : 1 ≤ parser.buf.length))]
        rfl

/-- A turn that goes on drops a byte: one turn more than there are bytes is enough. -/
theorem checkedLoop_enough {turns : Nat} {parser : Parser} (enough : parser.buf.length < turns) :
    parser.checkedLoop turns = some parser.loop := by
  induction turns generalizing parser with
  | zero => cases enough
  | succ turns ih =>
      unfold Parser.checkedLoop
      rw [checkedTurn_eq, Option.bind_eq_bind, Option.bind_some]
      rcases turned : parser.turn with ⟨again, next⟩
      cases again with
      | true =>
          have shrunk := turn_shrinks turned
          rw [loop_next turned]
          exact ih (by omega)
      | false =>
          rw [loop_stops turned]
          rfl

theorem checkedScan_eq (parser : Parser) : parser.checkedScan = some parser.scan := by
  unfold Parser.checkedScan
  rw [checkedLoop_enough (Nat.lt_succ_self _)]
  rfl

theorem checkedEnforceBound_eq (parser : Parser) :
    parser.checkedEnforceBound = some parser.enforceBound := by
  unfold Parser.checkedEnforceBound Parser.enforceBound
  by_cases full : parser.buf.length > maxBuffer
  · rw [if_pos full, if_pos full]
    dsimp only
    rw [checkedSub_le (Nat.min_le_left _ _)]
    rfl
  · rw [if_neg full, if_neg full]

theorem checkedPushChunk_eq (parser : Parser) (chunk : List U8) :
    parser.checkedPushChunk chunk = some (parser.pushChunk chunk) := by
  unfold Parser.checkedPushChunk
  rw [checkedScan_eq, Option.bind_eq_bind, Option.bind_some, checkedEnforceBound_eq]
  rfl

theorem checkedPush_eq (parser : Parser) (bytes : List U8) :
    parser.checkedPush bytes = some (parser.push bytes) := by
  unfold Parser.checkedPush Parser.push
  induction chunks maxBuffer bytes generalizing parser with
  | nil => rfl
  | cons chunk rest ih =>
      rw [List.foldlM_cons, checkedPushChunk_eq, Option.bind_eq_bind, Option.bind_some, ih,
        List.foldl_cons]

/-! ## What a scan leaves -/

theorem scan_short (parser : Parser) : parser.scan.buf.length < maxFrame := by
  unfold Parser.scan
  rw [flushGarbage_buf]
  exact loop_short parser

theorem scan_reported (parser : Parser) : parser.scan.pendingGarbage = 0 :=
  flushGarbage_reported _

theorem scan_unbounded (parser : Parser) : parser.scan.enforceBound = parser.scan :=
  enforceBound_short (scan_short parser)

theorem pushChunk_scan (parser : Parser) (chunk : List U8) :
    parser.pushChunk chunk = (parser.feed chunk).scan := scan_unbounded _

/-- Less than a frame is held, and nothing is left to report. -/
structure Parser.Settled (parser : Parser) : Prop where
  short : parser.buf.length < maxFrame
  reported : parser.pendingGarbage = 0

theorem pushChunk_settled (parser : Parser) (chunk : List U8) :
    (parser.pushChunk chunk).Settled := by
  rw [pushChunk_scan]
  exact ⟨scan_short _, scan_reported _⟩

theorem pushChunks_settled {parser : Parser} (settled : parser.Settled)
    (pieces : List (List U8)) : (pieces.foldl Parser.pushChunk parser).Settled := by
  induction pieces generalizing parser with
  | nil => exact settled
  | cons piece rest ih => exact ih (pushChunk_settled parser piece)

/-! ## Any use of a parser -/

/-- Everything a caller can do to a parser. -/
inductive ParserUse where
  | push (bytes : List U8)
  | nextEvent
  | drainEvents
  | expirePartial
  | reset
  deriving DecidableEq, Repr

def Parser.use (parser : Parser) : ParserUse → Parser
  | .push bytes => parser.push bytes
  | .nextEvent => { parser with events := parser.events.drop 1 }
  | .drainEvents => { parser with events := [] }
  | .expirePartial => parser.expirePartial.2
  | .reset => ⟨[], [], 0, 0⟩

def Parser.uses (history : List ParserUse) : Parser := history.foldl Parser.use Parser.new

theorem use_settled {parser : Parser} (settled : parser.Settled) (call : ParserUse) :
    (parser.use call).Settled := by
  cases call with
  | push bytes => exact pushChunks_settled settled _
  | nextEvent => exact ⟨settled.short, settled.reported⟩
  | drainEvents => exact ⟨settled.short, settled.reported⟩
  | expirePartial =>
      simp only [Parser.use, Parser.expirePartial]
      split
      · exact settled
      · exact ⟨Nat.zero_lt_succ _, settled.reported⟩
  | reset => exact ⟨Nat.zero_lt_succ _, rfl⟩

theorem uses_settled (history : List ParserUse) : (Parser.uses history).Settled := by
  have all : ∀ parser : Parser, parser.Settled → (history.foldl Parser.use parser).Settled := by
    induction history with
    | nil => exact fun _ settled => settled
    | cons call rest ih => exact fun parser settled => ih _ (use_settled settled call)
  exact all _ ⟨by decide, rfl⟩

theorem push_scans (parser : Parser) (bytes : List U8) :
    parser.push bytes =
      (chunks maxBuffer bytes).foldl (fun parser chunk => (parser.feed chunk).scan) parser := by
  unfold Parser.push
  congr 1
  funext parser chunk
  exact pushChunk_scan parser chunk

/-- After any use of the parser, a push runs through with every index, slice and
subtraction in range, leaves less than a frame and no garbage to report, and is the
same without the backstop.  So is every scan, whatever the buffer holds: its loop
ends within one turn more than there are bytes. -/
theorem push_in_range (history : List ParserUse) (bytes : List U8) :
    let parser := Parser.uses history
    parser.checkedPush bytes = some (parser.push bytes) ∧
    (parser.push bytes).buf.length < maxFrame ∧ (parser.push bytes).pendingGarbage = 0 ∧
    parser.push bytes =
      (chunks maxBuffer bytes).foldl (fun parser chunk => (parser.feed chunk).scan) parser ∧
    ∀ fed : Parser, fed.checkedLoop (fed.buf.length + 1) = some fed.loop ∧
      fed.checkedScan = some fed.scan ∧ fed.scan.buf.length < maxFrame ∧
      fed.scan.pendingGarbage = 0 ∧ fed.scan.enforceBound = fed.scan := by
  intro parser
  have settled : (parser.push bytes).Settled := pushChunks_settled (uses_settled history) _
  refine ⟨checkedPush_eq parser bytes, settled.short, settled.reported, push_scans parser bytes, ?_⟩
  intro fed
  exact ⟨checkedLoop_enough (Nat.lt_succ_self _), checkedScan_eq fed, scan_short fed,
    scan_reported fed, scan_unbounded fed⟩

end NanoKvm.Proto
