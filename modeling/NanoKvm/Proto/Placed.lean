import NanoKvm.Lib.Spans
import NanoKvm.Proto.FrameSplit
import NanoKvm.Proto.FrameStream

/-!
# Where events lie in the stream

A parser never says where in the stream an event was found.  The tracked parser
is the parser beside a record of the stream so far, of the span each frame,
rejected candidate and expired partial was read from, and of what each hunt for
a header passed over.  It takes the parser's own turns.
-/

set_option autoImplicit false

namespace NanoKvm.Proto

open NanoKvm.Lib (Span Covered reach uncovered reach_snoc covered_ahead uncovered_snoc
  uncovered_add)

/-! ## One turn -/

/-- The stream bytes an event was made from; garbage is only counted. -/
def StreamEvent.bytes : StreamEvent → List U8
  | .frame found => wire found.addr found.cmd found.data
  | .badChecksum raw => raw
  | .truncated raw => raw
  | .garbage _ => []

theorem wire_length (addr cmd : U8) (payload : List U8) :
    (wire addr cmd payload).length = overhead + payload.length := by
  unfold wire overhead
  simp only [List.length_cons, List.length_append, List.length_nil]
  omega

/-- What one turn does, `n` being the bytes the hunt for a header passes over. -/
inductive Parser.Turned (parser : Parser) (n : Nat) : Bool × Parser → Prop where
  | stopped : Turned parser n (false, parser.discard n)
  | framed (frame : Frame) (rest : List U8) (fits : frame.data.length ≤ maxPayload)
      (shape : parser.buf.drop n = wire frame.addr frame.cmd frame.data ++ rest) :
      Turned parser n
        (true, ((parser.discard n).flushGarbage.emit (.frame frame)).consume
          (wire frame.addr frame.cmd frame.data).length)
  | rejected (raw rest : List U8) (whole : 0 < raw.length)
      (shape : parser.buf.drop n = raw ++ rest) :
      Turned parser n
        (true, { ((parser.discard n).flushGarbage.emit (.badChecksum raw)).consume 1 with
          suppressed := raw.length - 1 })

/-- A candidate whose checksum verifies is the encoding of its frame. -/
theorem sound_candidate {buf rest : List U8} {len : Nat}
    (header : buf = head1 :: head2 :: rest) (claims : (buf.getD 4 0#8).toNat = len)
    (enough : overhead + len ≤ buf.length)
    (sound : checksumOver (buf.take (overhead + len - 1)) = buf.getD (overhead + len - 1) 0#8) :
    buf = wire (buf.getD 2 0#8) (buf.getD 3 0#8) ((buf.drop 5).take len) ++
      buf.drop (overhead + len) := by
  unfold overhead at *
  subst header
  simp only [List.length_cons] at enough
  match rest with
  | a :: c :: l :: rest =>
      simp only [List.length_cons] at enough
      have size : l.toNat = len := claims
      have within : len < rest.length := by omega
      have sum : checksumOver (head1 :: head2 :: a :: c :: l :: rest.take len) =
          rest.getD len 0#8 := by
        have before : 6 + len - 1 = len + 5 := by omega
        rw [before] at sound
        exact sound
      have length : (rest.take len).length = len := by
        rw [List.length_take]
        omega
      have low : BitVec.ofNat 8 (rest.take len).length = l := by
        rw [length, ← size, BitVec.ofNat_toNat]
        rfl
      rw [← low, checksumOver_wire] at sum
      have split : rest = rest.take len ++ rest.getD len 0#8 :: rest.drop (len + 1) := by
        conv_lhs => rw [← List.take_append_drop len rest]
        rw [List.drop_eq_getElem_cons within, List.getD_eq_getElem?_getD,
          List.getElem?_eq_getElem within, Option.getD_some]
      have tail : (head1 :: head2 :: a :: c :: l :: rest).drop (6 + len) =
          rest.drop (len + 1) := by
        have total : 6 + len = len + 1 + 5 := by omega
        rw [total]
        rfl
      rw [tail]
      change head1 :: head2 :: a :: c :: l :: rest = wire a c (rest.take len) ++ _
      unfold wire
      rw [sum, low]
      simp only [List.cons_append, List.append_assoc, List.nil_append, List.cons.injEq,
        true_and]
      exact split
  | [] => simp at enough; omega
  | [_] => simp at enough; omega
  | [_, _] => simp at enough; omega

theorem turn_turned (parser : Parser) :
    parser.Turned (seek parser.buf).2 parser.turn := by
  unfold Parser.turn
  rw [align_seek]
  rcases found : seek parser.buf with ⟨header, n⟩
  cases header with
  | false => exact .stopped
  | true =>
      obtain ⟨rest, starts⟩ := seek_header found
      have left : (parser.discard n).buf = parser.buf.drop n := discard_buf parser n
      dsimp only
      rw [left]
      split
      · exact .stopped
      split
      · exact .stopped
      rename_i enough
      generalize claimed : ((parser.buf.drop n).getD 4 0#8).toNat = len at enough ⊢
      split
      · rename_i sound
        have bound := ((parser.buf.drop n).getD 4 0#8).isLt
        have length : (((parser.buf.drop n).drop 5).take len).length = len := by
          unfold overhead at enough
          rw [List.length_take, List.length_drop]
          omega
        have shape := sound_candidate starts claimed (Nat.le_of_not_lt enough) sound
        have framed := @Parser.Turned.framed parser n ⟨_, _, _⟩ _
          (by rw [length]; unfold maxPayload; omega) shape
        rw [wire_length, length] at framed
        exact framed
      · have size : ((parser.buf.drop n).take (overhead + len)).length = overhead + len := by
          rw [List.length_take]
          omega
        have rejected := @Parser.Turned.rejected parser n _ _
          (by rw [size]; exact Nat.add_pos_left (by decide) _)
          (List.take_append_drop (overhead + len) (parser.buf.drop n)).symm
        rw [size] at rejected
        exact rejected

/-! ## The record -/

/-- An event and the stream position of its first byte. -/
structure Placed where
  start : Nat
  event : StreamEvent
  deriving DecidableEq, Repr

def Placed.span (placed : Placed) : Span :=
  ⟨placed.start, placed.start + placed.event.bytes.length⟩

/-- What a parser knew when a hunt for a header passed over `passed` bytes. -/
structure Hunt where
  passed : Nat
  suppressed : Nat
  /-- How many of the bytes ahead lie in a span already reported. -/
  reported : Nat
  deriving DecidableEq, Repr

structure Tracked where
  parser : Parser
  stream : List U8
  placed : List Placed
  hunts : List Hunt
  deriving DecidableEq, Repr

namespace Tracked

def new : Tracked := ⟨Parser.new, [], [], []⟩

def spans (tracked : Tracked) : List Span := tracked.placed.map Placed.span

/-- The stream position of the first byte in the buffer. -/
def here (tracked : Tracked) : Nat := tracked.stream.length - tracked.parser.buf.length

def note (tracked : Tracked) (start : Nat) (event : Option StreamEvent) : List Placed :=
  tracked.placed ++ event.toList.map (Placed.mk start)

/-- A turn that goes on has emitted the event of its candidate last. -/
def turn (tracked : Tracked) : Bool × Tracked :=
  let passed := (seek tracked.parser.buf).2
  let (again, next) := tracked.parser.turn
  (again, { tracked with
    parser := next
    placed := tracked.note (tracked.here + passed) (if again then next.events.getLast? else none)
    hunts := tracked.hunts ++
      [⟨passed, tracked.parser.suppressed, reach tracked.spans - tracked.here⟩] })

def scanLoop : Nat → Tracked → Tracked
  | 0, tracked => tracked
  | fuel + 1, tracked =>
      match tracked.turn with
      | (true, next) => next.scanLoop fuel
      | (false, next) => next

def feed (tracked : Tracked) (chunk : List U8) : Tracked :=
  { tracked with parser := tracked.parser.feed chunk, stream := tracked.stream ++ chunk }

def flush (tracked : Tracked) : Tracked :=
  { tracked with parser := tracked.parser.flushGarbage }

def pushChunk (tracked : Tracked) (chunk : List U8) : Tracked :=
  let fed := tracked.feed chunk
  let scanned := (fed.scanLoop (fed.parser.buf.length + 1)).flush
  { scanned with parser := scanned.parser.enforceBound }

def expirePartial (tracked : Tracked) : Tracked :=
  let (event, next) := tracked.parser.expirePartial
  { tracked with parser := next, placed := tracked.note tracked.here event }

end Tracked

/-- What a caller does to a parser while the connection lasts. -/
inductive ParserCall where
  | push (bytes : List U8)
  | expirePartial
  deriving DecidableEq, Repr

def Parser.call (parser : Parser) : ParserCall → Parser
  | .push bytes => parser.push bytes
  | .expirePartial => parser.expirePartial.2

def Parser.run (calls : List ParserCall) : Parser := calls.foldl Parser.call Parser.new

def ParserCall.bytes : ParserCall → List U8
  | .push bytes => bytes
  | .expirePartial => []

/-- The stream the calls push. -/
def pushed (calls : List ParserCall) : List U8 := calls.flatMap ParserCall.bytes

def Tracked.call (tracked : Tracked) : ParserCall → Tracked
  | .push bytes => (chunks maxBuffer bytes).foldl Tracked.pushChunk tracked
  | .expirePartial => tracked.expirePartial

def Tracked.run (calls : List ParserCall) : Tracked := calls.foldl Tracked.call Tracked.new

/-! ## The record follows the parser -/

section Follows
variable {tracked : Tracked}

theorem scanLoop_forgets (fuel : Nat) (tracked : Tracked) :
    (tracked.scanLoop fuel).parser = tracked.parser.scanLoop fuel := by
  induction fuel generalizing tracked with
  | zero => rfl
  | succ fuel ih =>
      unfold Tracked.scanLoop Parser.scanLoop Tracked.turn
      rcases tracked.parser.turn with ⟨again, next⟩
      cases again with
      | true => exact ih _
      | false => rfl

theorem scanLoop_stream (fuel : Nat) (tracked : Tracked) :
    (tracked.scanLoop fuel).stream = tracked.stream := by
  induction fuel generalizing tracked with
  | zero => rfl
  | succ fuel ih =>
      unfold Tracked.scanLoop Tracked.turn
      rcases tracked.parser.turn with ⟨again, next⟩
      cases again with
      | true => exact ih _
      | false => rfl

theorem pushChunk_forgets (tracked : Tracked) (chunk : List U8) :
    (tracked.pushChunk chunk).parser = tracked.parser.pushChunk chunk := by
  unfold Tracked.pushChunk Tracked.flush
  dsimp only
  rw [scanLoop_forgets]
  rfl

theorem pushChunk_stream (tracked : Tracked) (chunk : List U8) :
    (tracked.pushChunk chunk).stream = tracked.stream ++ chunk := by
  unfold Tracked.pushChunk Tracked.flush
  dsimp only
  rw [scanLoop_stream]
  rfl

theorem pushChunks_forgets (chunks : List (List U8)) (tracked : Tracked) :
    (chunks.foldl Tracked.pushChunk tracked).parser =
      chunks.foldl Parser.pushChunk tracked.parser := by
  induction chunks generalizing tracked with
  | nil => rfl
  | cons chunk rest ih => rw [List.foldl_cons, ih, pushChunk_forgets, List.foldl_cons]

theorem pushChunks_stream (chunks : List (List U8)) (tracked : Tracked) :
    (chunks.foldl Tracked.pushChunk tracked).stream = tracked.stream ++ chunks.flatten := by
  induction chunks generalizing tracked with
  | nil => simp
  | cons chunk rest ih =>
      rw [List.foldl_cons, ih, pushChunk_stream, List.flatten_cons, List.append_assoc]

/-- Tracking changes nothing the parser does. -/
theorem run_forgets (calls : List ParserCall) : (Tracked.run calls).parser = Parser.run calls := by
  have all : ∀ tracked : Tracked, (calls.foldl Tracked.call tracked).parser =
      calls.foldl Parser.call tracked.parser := by
    induction calls with
    | nil => exact fun _ => rfl
    | cons call rest ih =>
        intro tracked
        rw [List.foldl_cons, ih, List.foldl_cons]
        cases call with
        | push bytes => rw [Tracked.call, pushChunks_forgets]; rfl
        | expirePartial => rfl
  exact all _

theorem run_stream (calls : List ParserCall) : (Tracked.run calls).stream = pushed calls := by
  have all : ∀ tracked : Tracked, (calls.foldl Tracked.call tracked).stream =
      tracked.stream ++ pushed calls := by
    induction calls with
    | nil => exact fun tracked => (List.append_nil tracked.stream).symm
    | cons call rest ih =>
        intro tracked
        rw [List.foldl_cons, ih]
        cases call with
        | push bytes =>
            rw [Tracked.call, pushChunks_stream, chunks_flatten (by decide), List.append_assoc]
            rfl
        | expirePartial => rfl
  exact all _

theorem enforceBound_short {parser : Parser} (short : parser.buf.length < maxFrame) :
    parser.enforceBound = parser := by
  unfold maxFrame overhead maxPayload at short
  unfold Parser.enforceBound maxBuffer
  rw [if_neg (by omega)]

/-- What every turn, feed, flush and expiry preserve holds of every run. -/
theorem Tracked.run_induction {P : Tracked → Prop} (start : P Tracked.new)
    (feed : ∀ tracked chunk, P tracked → P (tracked.feed chunk))
    (turn : ∀ tracked, P tracked → P tracked.turn.2)
    (flush : ∀ tracked, P tracked → P tracked.flush)
    (expire : ∀ tracked, P tracked → P tracked.expirePartial) (calls : List ParserCall) :
    P (Tracked.run calls) := by
  have loops : ∀ fuel tracked, P tracked → P (tracked.scanLoop fuel) := by
    intro fuel
    induction fuel with
    | zero => exact fun _ held => held
    | succ fuel ih =>
        intro tracked held
        have stepped := turn tracked held
        unfold Tracked.scanLoop
        rcases turned : tracked.turn with ⟨again, next⟩
        rw [turned] at stepped
        cases again with
        | true => exact ih next stepped
        | false => exact stepped
  have chunk : ∀ tracked chunk, P tracked → P (tracked.pushChunk chunk) := by
    intro tracked chunk held
    have scanned := flush _ (loops ((tracked.feed chunk).parser.buf.length + 1) _
      (feed tracked chunk held))
    -- The loop has left less than a frame, so the bound is never enforced.
    have short := loop_short (tracked.feed chunk).parser
    unfold Tracked.pushChunk
    dsimp only
    rw [enforceBound_short]
    · exact scanned
    · rw [Tracked.flush, scanLoop_forgets, flushGarbage_buf]
      exact short
  have pushes : ∀ (chunks : List (List U8)) tracked, P tracked →
      P (chunks.foldl Tracked.pushChunk tracked) := by
    intro chunks
    induction chunks with
    | nil => exact fun _ held => held
    | cons first rest ih => exact fun tracked held => ih _ (chunk tracked first held)
  unfold Tracked.run
  induction calls using List.reverseRecOn with
  | nil => exact start
  | append_singleton calls call ih =>
      rw [List.foldl_append, List.foldl_cons, List.foldl_nil]
      cases call with
      | expirePartial => exact expire _ ih
      | push bytes => exact pushes _ _ ih

end Follows

/-! ## Frames lie where they were read -/

namespace Tracked

/-- The frames found, each with the stream position of its first byte. -/
def frames (tracked : Tracked) : List (Nat × Frame) :=
  tracked.placed.filterMap fun placed => placed.event.frame?.map (placed.start, ·)

/-- The buffer is the rest of the stream, and what was noted was read before it. -/
structure Sound (tracked : Tracked) : Prop where
  within : tracked.parser.buf.length ≤ tracked.stream.length
  rest : tracked.stream.drop tracked.here = tracked.parser.buf
  read : ∀ placed ∈ tracked.placed, placed.event.bytes <+: tracked.stream.drop placed.start
  started : ∀ placed ∈ tracked.placed, placed.start ≤ tracked.here
  emitted : tracked.frames.map Prod.snd = framesIn tracked.parser.events
  ended : ∀ found ∈ tracked.frames, found.1 + (overhead + found.2.data.length) ≤ tracked.here
  fits : ∀ found ∈ tracked.frames, found.2.data.length ≤ maxPayload
  apart : tracked.frames.Pairwise fun found later =>
    found.1 + (overhead + found.2.data.length) ≤ later.1

end Tracked

section Sound
variable {tracked : Tracked}

theorem framesIn_snoc (events : List StreamEvent) (event : StreamEvent) :
    framesIn (events ++ [event]) = framesIn events ++ event.frame?.toList := by
  unfold framesIn
  rw [List.filterMap_append]
  cases found : event.frame? <;> simp [found]

theorem flushGarbage_frames (parser : Parser) :
    framesIn parser.flushGarbage.events = framesIn parser.events := by
  unfold Parser.flushGarbage
  split
  · exact (framesIn_snoc _ _).trans (List.append_nil _)
  · rfl

@[simp] theorem discard_events (parser : Parser) (n : Nat) :
    (parser.discard n).events = parser.events := by
  unfold Parser.discard
  split <;> rfl

theorem frames_note (tracked : Tracked) (parser : Parser) (stream : List U8)
    (hunts : List Hunt) (start : Nat) (event : Option StreamEvent) :
    (Tracked.mk parser stream (tracked.note start event) hunts).frames =
      tracked.frames ++ (event.bind StreamEvent.frame?).toList.map (start, ·) := by
  unfold Tracked.frames Tracked.note
  rw [List.filterMap_append]
  cases event with
  | none => rfl
  | some event => cases found : event.frame? <;> simp [found]

theorem note_none (tracked : Tracked) (start : Nat) :
    tracked.note start none = tracked.placed := List.append_nil _

/-- Dropping `n` buffered bytes moves the buffer on by `n`. -/
theorem Tracked.Sound.here_drop (sound : tracked.Sound) {n : Nat}
    (some : n ≤ tracked.parser.buf.length) :
    tracked.stream.length - (tracked.parser.buf.drop n).length = tracked.here + n := by
  have within := sound.within
  unfold Tracked.here
  rw [List.length_drop]
  omega

theorem Tracked.Sound.drop (sound : tracked.Sound) (n : Nat) :
    tracked.stream.drop (tracked.here + n) = tracked.parser.buf.drop n := by
  rw [← List.drop_drop, sound.rest]

theorem feed_here (within : tracked.parser.buf.length ≤ tracked.stream.length)
    (chunk : List U8) : (tracked.feed chunk).here = tracked.here := by
  unfold Tracked.feed Tracked.here Parser.feed
  simp only [List.length_append]
  omega

theorem flush_here (tracked : Tracked) : tracked.flush.here = tracked.here := by
  unfold Tracked.flush Tracked.here
  rw [flushGarbage_buf]

theorem Tracked.Sound.new : Tracked.new.Sound :=
  ⟨Nat.le_refl _, rfl, nofun, nofun, rfl, nofun, nofun, List.Pairwise.nil⟩

theorem Tracked.Sound.feed (sound : tracked.Sound) (chunk : List U8) :
    (tracked.feed chunk).Sound := by
  have within := sound.within
  have same := feed_here within chunk
  have before : tracked.here ≤ tracked.stream.length := Nat.sub_le _ _
  refine ⟨?_, ?_, fun placed member => ?_, ?_, sound.emitted, ?_, sound.fits, sound.apart⟩
  · simpa [Tracked.feed, Parser.feed] using within
  · rw [same]
    exact (List.drop_append_of_le_length before).trans (by rw [sound.rest]; rfl)
  · have start := sound.started placed member
    rw [Tracked.feed, List.drop_append_of_le_length (by omega)]
    exact (sound.read placed member).trans (List.prefix_append _ _)
  · rw [same]
    exact sound.started
  · rw [same]
    exact sound.ended

theorem Tracked.Sound.flush (sound : tracked.Sound) : tracked.flush.Sound := by
  have same := flush_here tracked
  have buf : tracked.flush.parser.buf = tracked.parser.buf := flushGarbage_buf _
  refine ⟨?_, ?_, sound.read, ?_, ?_, ?_, sound.fits, sound.apart⟩
  · rw [buf]
    exact sound.within
  · rw [same, buf]
    exact sound.rest
  · rw [same]
    exact sound.started
  · exact sound.emitted.trans (flushGarbage_frames _).symm
  · rw [same]
    exact sound.ended

/-- The buffer moves on by `n` bytes and then over those of the event noted there. -/
theorem Tracked.Sound.noted (sound : tracked.Sound) (n k : Nat) (event : Option StreamEvent)
    {parser : Parser} {hunts : List Hunt} (within : n + k ≤ tracked.parser.buf.length)
    (buf : parser.buf = tracked.parser.buf.drop (n + k))
    (read : ∀ found ∈ event, found.bytes <+: tracked.parser.buf.drop n)
    (events : framesIn parser.events =
      framesIn tracked.parser.events ++ (event.bind StreamEvent.frame?).toList)
    (framed : ∀ frame ∈ event.bind StreamEvent.frame?,
      frame.data.length ≤ maxPayload ∧ overhead + frame.data.length ≤ k) :
    (Tracked.mk parser tracked.stream (tracked.note (tracked.here + n) event) hunts).Sound := by
  have moved := sound.here_drop within
  rw [← buf, ← Nat.add_assoc] at moved
  have onward : tracked.here ≤ tracked.here + n + k := by omega
  refine ⟨?_, ?_, fun placed member => ?_, fun placed member => ?_, ?_, ?_, ?_, ?_⟩
  · have := sound.within
    simp only [buf, List.length_drop]
    omega
  · change tracked.stream.drop (tracked.stream.length - parser.buf.length) = parser.buf
    rw [moved, Nat.add_assoc, sound.drop, buf]
  · rcases List.mem_append.mp member with earlier | here
    · exact sound.read placed earlier
    · obtain ⟨found, mem, rfl⟩ := List.mem_map.mp here
      change found.bytes <+: tracked.stream.drop (tracked.here + n)
      rw [sound.drop]
      exact read found (Option.mem_toList.mp mem)
  · change placed.start ≤ tracked.stream.length - parser.buf.length
    rw [moved]
    rcases List.mem_append.mp member with earlier | here
    · exact Nat.le_trans (sound.started placed earlier) onward
    · obtain ⟨found, -, rfl⟩ := List.mem_map.mp here
      exact Nat.le_add_right _ _
  · rw [frames_note, List.map_append, sound.emitted, List.map_map]
    exact ((congrArg _ (List.map_id' _)).trans events.symm)
  all_goals
    rw [frames_note]
  · intro found member
    change _ ≤ tracked.stream.length - parser.buf.length
    rw [moved]
    rcases List.mem_append.mp member with earlier | here
    · exact Nat.le_trans (sound.ended found earlier) onward
    · obtain ⟨frame, mem, rfl⟩ := List.mem_map.mp here
      have := (framed frame (Option.mem_toList.mp mem)).2
      dsimp only
      omega
  · intro found member
    rcases List.mem_append.mp member with earlier | here
    · exact sound.fits found earlier
    · obtain ⟨frame, mem, rfl⟩ := List.mem_map.mp here
      exact (framed frame (Option.mem_toList.mp mem)).1
  · rw [List.pairwise_append]
    refine ⟨sound.apart, ?_, fun found earlier later here => ?_⟩
    · cases event.bind StreamEvent.frame? <;> simp
    · obtain ⟨frame, -, rfl⟩ := List.mem_map.mp here
      exact Nat.le_trans (sound.ended found earlier) (Nat.le_add_right _ _)

theorem consume_last (parser : Parser) (event : StreamEvent) (n : Nat) :
    ((parser.emit event).consume n).events.getLast? = some event := List.getLast?_concat

theorem Tracked.Sound.turn (sound : tracked.Sound) : tracked.turn.2.Sound := by
  have turned := turn_turned tracked.parser
  have bound := seek_within tracked.parser.buf
  unfold Tracked.turn
  generalize (seek tracked.parser.buf).2 = n at turned bound
  generalize tracked.parser.turn = outcome at turned
  have before : framesIn (tracked.parser.discard n).flushGarbage.events =
      framesIn tracked.parser.events := by
    rw [flushGarbage_frames, discard_events]
  cases turned with
  | stopped =>
      refine sound.noted n 0 none bound (discard_buf _ _) nofun ?_ nofun
      rw [discard_events]
      exact (List.append_nil _).symm
  | framed frame rest fits shape =>
      have length := congrArg List.length shape
      rw [List.length_drop, List.length_append, wire_length] at length
      dsimp only
      rw [if_pos rfl, consume_last, wire_length]
      refine sound.noted n (overhead + frame.data.length) (some (.frame frame)) ?_ ?_ ?_ ?_ ?_
      · unfold overhead at *
        omega
      · simp
      · rintro _ ⟨⟩
        exact ⟨rest, shape.symm⟩
      · exact (framesIn_snoc _ _).trans (by rw [before]; rfl)
      · rintro _ ⟨⟩
        exact ⟨fits, Nat.le_refl _⟩
  | rejected raw rest whole shape =>
      have length := congrArg List.length shape
      rw [List.length_drop, List.length_append] at length
      dsimp only
      rw [if_pos rfl, consume_last]
      refine sound.noted n 1 (some (.badChecksum raw)) ?_ ?_ ?_ ?_ nofun
      · omega
      · simp
      · rintro _ ⟨⟩
        exact ⟨rest, shape.symm⟩
      · exact (framesIn_snoc _ _).trans (by rw [before]; rfl)

theorem Tracked.Sound.expirePartial (sound : tracked.Sound) : tracked.expirePartial.Sound := by
  unfold Tracked.expirePartial Parser.expirePartial
  by_cases empty : tracked.parser.buf = []
  · rw [if_pos empty]
    dsimp only
    rw [note_none]
    exact sound
  · rw [if_neg empty]
    refine sound.noted 0 tracked.parser.buf.length (some (.truncated _)) ?_ ?_ ?_ ?_ nofun
    · omega
    · simp
    · rintro _ ⟨⟩
      exact List.prefix_refl _
    · exact (List.append_nil _).symm

theorem run_sound (calls : List ParserCall) : (Tracked.run calls).Sound :=
  Tracked.run_induction .new (fun _ chunk sound => sound.feed chunk) (fun _ sound => sound.turn)
    (fun _ sound => sound.flush) (fun _ sound => sound.expirePartial) calls

end Sound

/-- Every frame is the encoding of the bytes it was read from, and no byte is
read for two of them. -/
theorem frames_placed (calls : List ParserCall) :
    let found := (Tracked.run calls).frames
    found.map Prod.snd = framesIn (Parser.run calls).events ∧
      (∀ start frame, (start, frame) ∈ found →
        ∃ bytes, frame.encode = .ok bytes ∧ bytes <+: (pushed calls).drop start) ∧
      found.Pairwise fun found later =>
        found.1 + (overhead + found.2.data.length) ≤ later.1 := by
  have sound := run_sound calls
  refine ⟨?_, fun start frame member => ?_, sound.apart⟩
  · rw [← run_forgets]
    exact sound.emitted
  · have fits := sound.fits _ member
    refine ⟨wire frame.addr frame.cmd frame.data, if_neg (Nat.not_lt.mpr fits), ?_⟩
    obtain ⟨placed, noted, at_start⟩ := List.mem_filterMap.mp member
    have read := sound.read placed noted
    rcases placed with ⟨at', event⟩
    cases event with
    | frame other =>
        cases at_start
        rw [← run_stream]
        exact read
    | _ => cases at_start

end NanoKvm.Proto
