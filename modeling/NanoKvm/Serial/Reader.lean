import NanoKvm.Proto.GarbageCount
import NanoKvm.Proto.FrameSplit
import NanoKvm.Serial.Matcher

/-!
# The reader thread

`run`, `handle` and `route` of `serial/reader.rs`, with the counters they keep and
the verdict they leave.  Between its steps the caller of the link may do anything to
the matcher, put the link down, drop the receiver or ask the thread to stop.  The
events of the parser are kept, and the thread has taken the first `taken` of them.
-/

set_option autoImplicit false

namespace NanoKvm.Serial

open NanoKvm.Proto NanoKvm.Lib

/-- The counters of the reader; the others are the caller's. -/
structure SerialStats where
  framesRx : Nat
  unsolicited : Nat
  lateReplies : Nat
  unsolicitedDropped : Nat
  badChecksum : Nat
  truncated : Nat
  garbageBytes : Nat
  bytesRx : Nat
  deriving DecidableEq, Repr

inductive Verdict where
  | matched
  | late
  | unsolicited
  deriving DecidableEq, Repr

structure Reader where
  parser : Parser
  taken : Nat
  /-- What `expire_partial` returned, to be handled next. -/
  expired : Option StreamEvent
  inner : Inner
  down : Option String
  finished : Bool
  stop : Bool
  listening : Bool
  stats : SerialStats
  sent : List Reply
  /-- Nothing reads these: the calls on the parser, the events handled, and the frames
  routed with what became of them. -/
  calls : List ParserCall
  handled : List StreamEvent
  routed : List (Reply × Verdict)
  deriving DecidableEq, Repr

def Reader.new : Reader where
  parser := .new
  taken := 0
  expired := none
  inner := .new
  down := none
  finished := false
  stop := false
  listening := true
  stats := ⟨0, 0, 0, 0, 0, 0, 0, 0⟩
  sent := []
  calls := []
  handled := []
  routed := []

/-- What a read returns; `silent` says whether the silence before an expiry has passed. -/
inductive ReadOutcome where
  | data (bytes : List U8)
  | eof
  | timedOut (silent : Bool)
  | failed (error : String)
  deriving DecidableEq, Repr

inductive ReaderLabel where
  | read (outcome : ReadOutcome)
  | handle
  /-- The loop finds the stop flag set. -/
  | leave
  /-- The thread unwinds, wherever it is. -/
  | panic
  /-- What the caller does under the lock. -/
  | caller (inner : Inner)
  | writeFailed (reason : String)
  | deafen
  | stop

/-- The first reason recorded wins. -/
def Reader.markDown (reader : Reader) (reason : String) : Reader :=
  { reader with down := some (reader.down.getD reason) }

/-- The guard's `Drop`. -/
def Reader.finish (reader : Reader) : Reader := { reader with finished := true }

def Reader.route (reader : Reader) (reply : Reply) : Reader :=
  let late := answersSome reader.inner.timedOut reply
  let (inner, diverted) := reader.inner.route ⟨0, reply⟩
  if diverted then
    { reader with
      inner
      routed := reader.routed ++ [(reply, if late then .late else .unsolicited)]
      sent := if reader.listening then reader.sent ++ [reply] else reader.sent
      stats := { reader.stats with
        lateReplies := reader.stats.lateReplies + if late then 1 else 0
        unsolicited := reader.stats.unsolicited + 1
        unsolicitedDropped :=
          reader.stats.unsolicitedDropped + if reader.listening then 0 else 1 } }
  else { reader with inner, routed := reader.routed ++ [(reply, .matched)] }

def Reader.handle (reader : Reader) (event : StreamEvent) : Reader :=
  let reader := { reader with handled := reader.handled ++ [event] }
  match event with
  | .frame frame =>
      { reader with
        stats := { reader.stats with framesRx := reader.stats.framesRx + 1 } }.route frame.intoReply
  | .badChecksum _ =>
      { reader with
        stats := { reader.stats with badChecksum := reader.stats.badChecksum + 1 } }
  | .truncated _ =>
      { reader with stats := { reader.stats with truncated := reader.stats.truncated + 1 } }
  | .garbage bytes =>
      { reader with
        stats := { reader.stats with garbageBytes := reader.stats.garbageBytes + bytes } }

/-- Every event is handled, and the loop is at its read. -/
def Reader.atRest (reader : Reader) : Bool :=
  reader.expired.isNone && decide (reader.parser.events.length ≤ reader.taken)

def Reader.read (reader : Reader) : ReadOutcome → Reader
  | .data [] | .eof => (reader.markDown "read returned EOF: the port hung up").finish
  | .data bytes =>
      { reader with
        parser := reader.parser.push bytes
        calls := reader.calls ++ [.push bytes]
        stats := { reader.stats with bytesRx := reader.stats.bytesRx + bytes.length } }
  | .timedOut silent =>
      if reader.parser.pendingLen > 0 ∧ silent = true then
        { reader with
          expired := reader.parser.expirePartial.1
          parser := reader.parser.expirePartial.2
          calls := reader.calls ++ [.expirePartial] }
      else reader
  | .failed error => (reader.markDown ("read failed: " ++ error)).finish

def Reader.step (label : ReaderLabel) (reader : Reader) : Option Reader :=
  match label with
  | .caller inner => some { reader with inner }
  | .writeFailed reason => some (reader.markDown reason)
  | .deafen => some { reader with listening := false }
  | .stop => some { reader with stop := true }
  | .read outcome =>
      if reader.finished = false ∧ reader.atRest = true then some (reader.read outcome) else none
  | .handle =>
      if reader.finished then none
      else
        match reader.expired, reader.parser.events[reader.taken]? with
        | some event, _ => some ({ reader with expired := none }.handle event)
        | none, some event => some ({ reader with taken := reader.taken + 1 }.handle event)
        | none, none => none
  | .leave =>
      if reader.finished = false ∧ reader.stop = true ∧ reader.atRest = true then
        some reader.finish
      else none
  | .panic => if reader.finished then none else some reader.finish

/-- `Link::is_down`. -/
def Reader.isDown (reader : Reader) : Bool := reader.down.isSome || reader.finished

/-! ## The parser only adds events -/

section Grows
variable {parser : Parser}

theorem flushGarbage_grows (parser : Parser) : parser.events <+: parser.flushGarbage.events := by
  unfold Parser.flushGarbage
  split
  · exact List.prefix_append _ _
  · exact List.prefix_refl _

theorem turn_grows (parser : Parser) : parser.events <+: parser.turn.2.events := by
  have turned := turn_turned parser
  generalize parser.turn = result at turned
  have hunted : parser.events <+: (parser.discard (seek parser.buf).2).flushGarbage.events := by
    rw [← discard_events parser (seek parser.buf).2]
    exact flushGarbage_grows _
  cases turned with
  | stopped => rw [discard_events]
  | framed frame rest fits shape => exact hunted.trans (List.prefix_append _ _)
  | rejected raw rest whole shape => exact hunted.trans (List.prefix_append _ _)

theorem scanLoop_grows (fuel : Nat) (parser : Parser) :
    parser.events <+: (parser.scanLoop fuel).events := by
  induction fuel generalizing parser with
  | zero => exact List.prefix_refl _
  | succ fuel ih =>
      have first := turn_grows parser
      unfold Parser.scanLoop
      split
      next next same =>
        rw [same] at first
        exact first.trans (ih next)
      next next same =>
        rw [same] at first
        exact first

theorem enforceBound_grows (parser : Parser) :
    parser.events <+: parser.enforceBound.events := by
  unfold Parser.enforceBound
  split
  · exact flushGarbage_grows { parser with
      buf := []
      suppressed := 0
      pendingGarbage := parser.pendingGarbage +
        (parser.buf.length - min parser.buf.length parser.suppressed) }
  · exact List.prefix_refl _

theorem pushChunk_grows (parser : Parser) (chunk : List U8) :
    parser.events <+: (parser.pushChunk chunk).events := by
  have looped : parser.events <+: (parser.feed chunk).loop.events :=
    scanLoop_grows _ (parser.feed chunk)
  exact (looped.trans (flushGarbage_grows _)).trans (enforceBound_grows _)

theorem push_grows (parser : Parser) (bytes : List U8) :
    parser.events <+: (parser.push bytes).events := by
  unfold Parser.push
  generalize chunks maxBuffer bytes = pieces
  induction pieces generalizing parser with
  | nil => exact List.prefix_refl _
  | cons piece pieces ih => exact (pushChunk_grows parser piece).trans (ih _)

theorem expirePartial_events (parser : Parser) :
    parser.expirePartial.2.events = parser.events := by
  unfold Parser.expirePartial
  split <;> rfl

end Grows

/-! ## What is routed and counted -/

/-- An event that stood in the parser's queue. -/
def queued : StreamEvent → Bool
  | .truncated _ => false
  | _ => true

def isBad : StreamEvent → Bool
  | .badChecksum _ => true
  | _ => false

theorem framesIn_queued (events : List StreamEvent) :
    framesIn (events.filter queued) = framesIn events := by
  unfold framesIn
  rw [List.filterMap_filter]
  congr 1
  funext event
  cases event <;> rfl

theorem garbageIn_queued (events : List StreamEvent) :
    garbageIn (events.filter queued) = garbageIn events := by
  induction events with
  | nil => rfl
  | cons event events ih =>
      unfold garbageIn at ih ⊢
      cases event <;> simp [List.filter_cons, queued, StreamEvent.count, ih]

theorem bad_queued (events : List StreamEvent) :
    (events.filter queued).countP isBad = events.countP isBad := by
  rw [List.countP_filter]
  congr 1
  funext event
  cases event <;> rfl

structure Reader.Sound (reader : Reader) : Prop where
  parsed : reader.parser = Parser.run reader.calls
  ahead : reader.taken ≤ reader.parser.events.length
  expires : ∀ event, reader.expired = some event → queued event = false
  order : reader.handled.filter queued =
    (reader.parser.events.take reader.taken).filter queued
  routes : reader.routed.map Prod.fst = (framesIn reader.handled).map Frame.intoReply
  frames : reader.stats.framesRx = reader.routed.length
  bad : reader.stats.badChecksum = reader.handled.countP isBad
  truncated : reader.stats.truncated = reader.handled.countP fun event => !queued event
  garbage : reader.stats.garbageBytes = garbageIn reader.handled
  diverted : reader.stats.unsolicited =
    reader.routed.countP fun entry => decide (entry.2 ≠ .matched)
  late : reader.stats.lateReplies = reader.routed.countP fun entry => decide (entry.2 = .late)
  kept : reader.sent.length + reader.stats.unsolicitedDropped = reader.stats.unsolicited
  sends : reader.sent.Sublist
    ((reader.routed.filter fun entry => decide (entry.2 ≠ .matched)).map Prod.fst)
  bytes : reader.stats.bytesRx = (pushed reader.calls).length

section Sound
variable {reader next : Reader}

theorem run_snoc (calls : List ParserCall) (call : ParserCall) :
    Parser.run (calls ++ [call]) = (Parser.run calls).call call := by
  simp [Parser.run]

theorem pushed_snoc (calls : List ParserCall) (call : ParserCall) :
    pushed (calls ++ [call]) = pushed calls ++ call.bytes := by
  simp [pushed]

/-- One event more: what it counts, and where its frame goes. -/
theorem Reader.Sound.handle (sound : reader.Sound) (event : StreamEvent) {taken : Nat}
    {expired : Option StreamEvent} (within : taken ≤ reader.parser.events.length)
    (expires : ∀ other, expired = some other → queued other = false)
    (order : (reader.handled ++ [event]).filter queued =
      (reader.parser.events.take taken).filter queued) :
    (({ reader with taken, expired }).handle event).Sound := by
  obtain ⟨parsed, -, -, -, routes, frames, bad, truncated, garbage, diverted, late, kept, sends,
    bytes⟩ := sound
  cases event with
  | frame frame =>
      have more : framesIn (reader.handled ++ [StreamEvent.frame frame]) =
          framesIn reader.handled ++ [frame] := framesIn_snoc _ _
      unfold Reader.handle Reader.route
      dsimp only
      split
      next diverts =>
        refine ⟨parsed, within, expires, order, ?_, ?_, ?_, ?_, ?_, ?_, ?_, ?_, ?_, bytes⟩
        · simp [more, routes]
        · simp [frames]
        · simp [bad, isBad]
        · simp [truncated, queued]
        · simp [garbage, garbageIn, StreamEvent.count]
        · dsimp only
          rw [List.countP_append, diverted]
          cases answersSome reader.inner.timedOut frame.intoReply <;> rfl
        · dsimp only
          rw [List.countP_append, late]
          cases answersSome reader.inner.timedOut frame.intoReply <;> rfl
        · dsimp only
          cases reader.listening
          · simp only [Bool.false_eq_true, if_false]
            omega
          · simp only [if_true, List.length_append, List.length_singleton]
            omega
        · dsimp only
          rw [List.filter_append, List.map_append]
          cases reader.listening
          · exact sends.trans (List.sublist_append_left _ _)
          · refine sends.append ?_
            cases answersSome reader.inner.timedOut frame.intoReply <;>
              exact List.Sublist.refl _
      next diverts =>
        refine ⟨parsed, within, expires, order, ?_, ?_, ?_, ?_, ?_, ?_, ?_, kept, ?_, bytes⟩
        · simp [more, routes]
        · simp [frames]
        · simp [bad, isBad]
        · simp [truncated, queued]
        · simp [garbage, garbageIn, StreamEvent.count]
        · simp [diverted]
        · simp [late]
        · simpa using sends
  | badChecksum raw =>
      refine ⟨parsed, within, expires, order, ?_, frames, ?_, ?_, ?_, diverted, late, kept, sends,
        bytes⟩
      · simp [Reader.handle, routes, framesIn, StreamEvent.frame?]
      · simp [Reader.handle, bad, isBad]
      · simp [Reader.handle, truncated, queued]
      · simp [Reader.handle, garbage, garbageIn, StreamEvent.count]
  | truncated raw =>
      refine ⟨parsed, within, expires, order, ?_, frames, ?_, ?_, ?_, diverted, late, kept, sends,
        bytes⟩
      · simp [Reader.handle, routes, framesIn, StreamEvent.frame?]
      · simp [Reader.handle, bad, isBad]
      · simp [Reader.handle, truncated, queued]
      · simp [Reader.handle, garbage, garbageIn, StreamEvent.count]
  | garbage n =>
      refine ⟨parsed, within, expires, order, ?_, frames, ?_, ?_, ?_, diverted, late, kept, sends,
        bytes⟩
      · simp [Reader.handle, routes, framesIn, StreamEvent.frame?]
      · simp [Reader.handle, bad, isBad]
      · simp [Reader.handle, truncated, queued]
      · simp [Reader.handle, garbage, garbageIn, StreamEvent.count]

theorem Reader.Sound.read (sound : reader.Sound) (outcome : ReadOutcome) :
    (reader.read outcome).Sound := by
  have whole : ∀ bytes : List U8, ({ reader with
      parser := reader.parser.push bytes
      calls := reader.calls ++ [.push bytes]
      stats := { reader.stats with
        bytesRx := reader.stats.bytesRx + bytes.length } } : Reader).Sound := by
    intro bytes
    have grows := push_grows reader.parser bytes
    refine { sound with parsed := ?_, ahead := ?_, order := ?_, bytes := ?_ }
    · dsimp only
      rw [run_snoc, ← sound.parsed]
      rfl
    · exact sound.ahead.trans grows.length_le
    · obtain ⟨later, more⟩ := grows
      dsimp only
      rw [← more, List.take_append_of_le_length sound.ahead]
      exact sound.order
    · dsimp only
      rw [pushed_snoc, List.length_append, sound.bytes]
      rfl
  cases outcome with
  | eof => exact { sound with }
  | failed error => exact { sound with }
  | timedOut silent =>
      unfold Reader.read
      dsimp only
      split_ifs with silence
      · have events := expirePartial_events reader.parser
        refine { sound with parsed := ?_, ahead := ?_, expires := ?_, order := ?_, bytes := ?_ }
        · dsimp only
          rw [run_snoc, ← sound.parsed]
          rfl
        · dsimp only
          rw [events]
          exact sound.ahead
        · intro event expired
          unfold Parser.expirePartial at expired
          dsimp only at expired
          split at expired
          · cases expired
          · cases expired
            rfl
        · dsimp only
          rw [events]
          exact sound.order
        · dsimp only
          rw [pushed_snoc, List.length_append, sound.bytes]
          rfl
      · exact sound
  | data bytes =>
      cases bytes with
      | nil => exact { sound with }
      | cons b bytes => exact whole (b :: bytes)

theorem Reader.Sound.step (sound : reader.Sound) {label : ReaderLabel}
    (stepped : reader.step label = some next) : next.Sound := by
  unfold Reader.step at stepped
  cases label with
  | caller inner =>
      cases stepped
      exact { sound with }
  | writeFailed reason =>
      cases stepped
      exact { sound with }
  | deafen =>
      cases stepped
      exact { sound with }
  | stop =>
      cases stepped
      exact { sound with }
  | read outcome =>
      dsimp only at stepped
      split_ifs at stepped
      cases stepped
      exact sound.read outcome
  | handle =>
      dsimp only at stepped
      split_ifs at stepped
      split at stepped
      next event expired =>
        cases stepped
        refine sound.handle event sound.ahead nofun ?_
        rw [List.filter_append, ← sound.order]
        simp [sound.expires event expired]
      next event idle found =>
        cases stepped
        obtain ⟨within, rfl⟩ := List.getElem?_eq_some_iff.mp found
        refine sound.handle _ (Nat.succ_le_of_lt within) sound.expires ?_
        rw [List.take_succ_eq_append_getElem within, List.filter_append, List.filter_append,
          sound.order]
      next => cases stepped
  | leave =>
      dsimp only at stepped
      split_ifs at stepped
      cases stepped
      exact { sound with }
  | panic =>
      dsimp only at stepped
      split_ifs at stepped
      cases stepped
      exact { sound with }

theorem new_sound : Reader.new.Sound where
  parsed := rfl
  ahead := Nat.le_refl _
  expires := nofun
  order := rfl
  routes := rfl
  frames := rfl
  bad := rfl
  truncated := rfl
  garbage := rfl
  diverted := rfl
  late := rfl
  kept := rfl
  sends := List.Sublist.refl _
  bytes := rfl

theorem reached_sound (reached : Reachable Reader.step (· = Reader.new) reader) : reader.Sound :=
  reachable_preserves (fun _ first => first ▸ new_sound) (fun _ _ _ sound => sound.step) reached

/-- Between reads, all that stood in the queue is handled. -/
theorem Reader.Sound.rest (sound : reader.Sound) (rest : reader.atRest = true) :
    reader.handled.filter queued = (Parser.run reader.calls).events.filter queued := by
  obtain ⟨-, all⟩ := Bool.and_eq_true_iff.mp rest
  rw [sound.order, List.take_of_length_le (of_decide_eq_true all), sound.parsed]

theorem run_pushes (pushes : List (List U8)) :
    Parser.run (pushes.map .push) = pushes.foldl Parser.push Parser.new := by
  unfold Parser.run
  rw [List.foldl_map]
  rfl

theorem pushed_pushes (pushes : List (List U8)) : pushed (pushes.map .push) = pushes.flatten := by
  unfold pushed
  induction pushes with
  | nil => rfl
  | cons bytes pushes ih => rw [List.map_cons, List.flatMap_cons, ih]; rfl

/-- Calls without an expiry are the reads they push. -/
theorem calls_pushes {calls : List ParserCall} (lively : ParserCall.expirePartial ∉ calls) :
    ∃ pushes : List (List U8), calls = pushes.map .push := by
  induction calls with
  | nil => exact ⟨[], rfl⟩
  | cons call calls ih =>
      obtain ⟨pushes, rfl⟩ := ih fun inside => lively (List.mem_cons_of_mem call inside)
      cases call with
      | push bytes => exact ⟨bytes :: pushes, rfl⟩
      | expirePartial => exact absurd List.mem_cons_self lively

/-- The frames and the rejected candidates of a stream, however it is read. -/
theorem events_agree {calls others : List ParserCall}
    (lively : ParserCall.expirePartial ∉ calls) (also : ParserCall.expirePartial ∉ others)
    (stream : pushed calls = pushed others) :
    tally (Parser.run calls).events = tally (Parser.run others).events := by
  obtain ⟨pushes, rfl⟩ := calls_pushes lively
  obtain ⟨pieces, rfl⟩ := calls_pushes also
  rw [pushed_pushes, pushed_pushes] at stream
  have here := pushes_alike pushes
  have there := pushes_alike pieces
  rw [stream] at here
  have sums := (here.trans there.symm).tally
  rw [Parser.tally, Parser.tally, pushes_reported, pushes_reported] at sums
  rw [run_pushes, run_pushes]
  exact sums

theorem framesIn_tally (events : List StreamEvent) :
    framesIn events = framesIn ((tally events).1.map Prod.snd) := by
  induction events using List.reverseRecOn with
  | nil => rfl
  | append_singleton events event ih =>
      rw [framesIn_snoc, ih, tally_snoc]
      cases event <;> simp [Tally.add, framesIn_snoc, StreamEvent.frame?]

theorem bad_tally (events : List StreamEvent) :
    events.countP isBad = ((tally events).1.map Prod.snd).countP isBad := by
  induction events using List.reverseRecOn with
  | nil => rfl
  | append_singleton events event ih =>
      rw [List.countP_append, ih, tally_snoc]
      cases event <;> simp [Tally.add, isBad]

theorem garbageIn_tally (events : List StreamEvent) :
    garbageIn events = ((tally events).1.map Prod.fst).sum + (tally events).2 := by
  induction events using List.reverseRecOn with
  | nil => rfl
  | append_singleton events event ih =>
      rw [garbageIn_snoc, ih, tally_snoc]
      cases event <;> simp [Tally.add, StreamEvent.count, Nat.add_assoc]

/-- Whatever the caller does beside it: every frame the parser found is routed once, in
order, and handed to a waiter, sent, or counted as dropped; the counters are what was routed
and read; and with no expiry the same bytes are routed and counted alike, however the reads
cut them. -/
theorem reader_accounts (reader : Reader)
    (reached : Reachable Reader.step (· = Reader.new) reader) :
    (reader.atRest = true → reader.routed.map Prod.fst =
        (framesIn (Parser.run reader.calls).events).map Frame.intoReply ∧
      reader.stats.badChecksum = (Parser.run reader.calls).events.countP isBad ∧
      reader.stats.garbageBytes = garbageIn (Parser.run reader.calls).events) ∧
    (reader.stats.framesRx = reader.routed.length ∧
      reader.stats.unsolicited = (reader.routed.countP fun entry => decide (entry.2 ≠ .matched)) ∧
      reader.stats.lateReplies = (reader.routed.countP fun entry => decide (entry.2 = .late)) ∧
      reader.sent.length + reader.stats.unsolicitedDropped = reader.stats.unsolicited ∧
      reader.stats.bytesRx = (pushed reader.calls).length) ∧
    reader.sent.Sublist
      ((reader.routed.filter fun entry => decide (entry.2 ≠ .matched)).map Prod.fst) ∧
    ∀ other, Reachable Reader.step (· = Reader.new) other → reader.atRest = true →
      other.atRest = true → ParserCall.expirePartial ∉ reader.calls →
        ParserCall.expirePartial ∉ other.calls → pushed reader.calls = pushed other.calls →
          reader.routed.map Prod.fst = other.routed.map Prod.fst ∧
            reader.stats.framesRx = other.stats.framesRx ∧
            reader.stats.badChecksum = other.stats.badChecksum ∧
            reader.stats.garbageBytes = other.stats.garbageBytes ∧
            reader.stats.bytesRx = other.stats.bytesRx := by
  have account : ∀ reader, Reachable Reader.step (· = Reader.new) reader →
      reader.atRest = true → reader.routed.map Prod.fst =
          (framesIn (Parser.run reader.calls).events).map Frame.intoReply ∧
        reader.stats.badChecksum = (Parser.run reader.calls).events.countP isBad ∧
        reader.stats.garbageBytes = garbageIn (Parser.run reader.calls).events := by
    intro reader reached rest
    have sound := reached_sound reached
    have all := sound.rest rest
    refine ⟨?_, ?_, ?_⟩
    · rw [sound.routes, ← framesIn_queued, all, framesIn_queued]
    · rw [sound.bad, ← bad_queued, all, bad_queued]
    · rw [sound.garbage, ← garbageIn_queued, all, garbageIn_queued]
  have sound := reached_sound reached
  refine ⟨account reader reached,
    ⟨sound.frames, sound.diverted, sound.late, sound.kept, sound.bytes⟩, sound.sends, ?_⟩
  intro other there rest also lively theirs stream
  obtain ⟨frames, bad, garbage⟩ := account reader reached rest
  obtain ⟨frames', bad', garbage'⟩ := account other there also
  have events := events_agree lively theirs stream
  have routed : reader.routed.map Prod.fst = other.routed.map Prod.fst := by
    rw [frames, frames', framesIn_tally, events, ← framesIn_tally]
  refine ⟨routed, ?_, ?_, ?_, ?_⟩
  · have long := congrArg List.length routed
    rw [List.length_map, List.length_map] at long
    rw [sound.frames, (reached_sound there).frames, long]
  · rw [bad, bad', bad_tally, events, ← bad_tally]
  · rw [garbage, garbage', garbageIn_tally, events, ← garbageIn_tally]
  · rw [sound.bytes, (reached_sound there).bytes, stream]

/-! ## The verdict -/

/-- What no later step takes back. -/
structure Reader.Keeps (before after : Reader) : Prop where
  reason : ∀ reason, before.down = some reason → after.down = some reason
  gone : before.finished = true →
    after.finished = true ∧ after.routed = before.routed ∧ after.stats = before.stats ∧
      after.sent = before.sent

theorem markDown_reason {reason : String} (text : String) (down : reader.down = some reason) :
    (reader.markDown text).down = some reason := by
  unfold Reader.markDown
  rw [down]
  rfl

theorem handle_down (reader : Reader) (event : StreamEvent) :
    (reader.handle event).down = reader.down := by
  cases event with
  | frame frame =>
      unfold Reader.handle Reader.route
      dsimp only
      split <;> rfl
  | _ => rfl

theorem step_keeps {label : ReaderLabel} (stepped : reader.step label = some next) :
    reader.Keeps next := by
  unfold Reader.step at stepped
  cases label with
  | caller inner =>
      cases stepped
      exact ⟨fun _ down => down, fun gone => ⟨gone, rfl, rfl, rfl⟩⟩
  | writeFailed reason =>
      cases stepped
      exact ⟨fun _ down => markDown_reason reason down, fun gone => ⟨gone, rfl, rfl, rfl⟩⟩
  | deafen =>
      cases stepped
      exact ⟨fun _ down => down, fun gone => ⟨gone, rfl, rfl, rfl⟩⟩
  | stop =>
      cases stepped
      exact ⟨fun _ down => down, fun gone => ⟨gone, rfl, rfl, rfl⟩⟩
  | read outcome =>
      dsimp only at stepped
      split_ifs at stepped with running
      cases stepped
      refine ⟨fun reason down => ?_, fun gone => absurd (running.1.symm.trans gone) nofun⟩
      cases outcome with
      | eof => exact markDown_reason _ down
      | failed error => exact markDown_reason _ down
      | timedOut silent =>
          unfold Reader.read
          dsimp only
          split_ifs <;> exact down
      | data bytes =>
          cases bytes with
          | nil => exact markDown_reason _ down
          | cons b bytes => exact down
  | handle =>
      dsimp only at stepped
      split_ifs at stepped with gone
      refine ⟨fun reason down => ?_, fun finished => absurd finished gone⟩
      split at stepped
      · cases stepped
        rw [handle_down]
        exact down
      · cases stepped
        rw [handle_down]
        exact down
      · cases stepped
  | leave =>
      dsimp only at stepped
      split_ifs at stepped with running
      cases stepped
      exact ⟨fun _ down => down, fun gone => absurd (running.1.symm.trans gone) nofun⟩
  | panic =>
      dsimp only at stepped
      split_ifs at stepped with gone
      cases stepped
      exact ⟨fun _ down => down, fun finished => absurd finished gone⟩

theorem run_keeps {labels : List ReaderLabel} {final : Reader}
    (ran : run Reader.step labels reader = some final) : reader.Keeps final := by
  have itself : reader.Keeps reader := ⟨fun _ down => down, fun gone => ⟨gone, rfl, rfl, rfl⟩⟩
  refine run_preserves (P := reader.Keeps) ?_ itself ran
  intro label state after keeps stepped
  have more := step_keeps stepped
  refine ⟨fun reason down => more.reason reason (keeps.reason reason down), fun gone => ?_⟩
  obtain ⟨finished, routed, stats, sent⟩ := keeps.gone gone
  obtain ⟨finished', routed', stats', sent'⟩ := more.gone finished
  exact ⟨finished', routed'.trans routed, stats'.trans stats, sent'.trans sent⟩

/-- Running or gone with a reason, and not asked to stop. -/
def Reader.Reasoned (reader : Reader) : Prop :=
  (reader.finished = true → reader.down.isSome = true) ∧ reader.stop = false

theorem handle_stays (reader : Reader) (event : StreamEvent) :
    (reader.handle event).finished = reader.finished ∧
      (reader.handle event).stop = reader.stop := by
  cases event with
  | frame frame =>
      unfold Reader.handle Reader.route
      dsimp only
      split <;> exact ⟨rfl, rfl⟩
  | _ => exact ⟨rfl, rfl⟩

theorem read_reasoned (reasoned : reader.Reasoned) (outcome : ReadOutcome) :
    (reader.read outcome).Reasoned := by
  cases outcome with
  | eof => exact ⟨fun _ => rfl, reasoned.2⟩
  | failed error => exact ⟨fun _ => rfl, reasoned.2⟩
  | timedOut silent =>
      unfold Reader.read
      dsimp only
      split_ifs <;> exact reasoned
  | data bytes =>
      cases bytes with
      | nil => exact ⟨fun _ => rfl, reasoned.2⟩
      | cons b bytes => exact reasoned

theorem step_reasoned {label : ReaderLabel} (reasoned : reader.Reasoned)
    (stepped : reader.step label = some next) :
    next.Reasoned ∨ label = .panic ∨ label = .stop := by
  unfold Reader.step at stepped
  cases label with
  | caller inner =>
      cases stepped
      exact Or.inl reasoned
  | writeFailed reason =>
      cases stepped
      exact Or.inl ⟨fun _ => rfl, reasoned.2⟩
  | deafen =>
      cases stepped
      exact Or.inl reasoned
  | stop => exact Or.inr (Or.inr rfl)
  | read outcome =>
      dsimp only at stepped
      split_ifs at stepped
      cases stepped
      exact Or.inl (read_reasoned reasoned outcome)
  | handle =>
      dsimp only at stepped
      split_ifs at stepped with gone
      split at stepped
      · cases stepped
        exact Or.inl ⟨fun finished => absurd ((handle_stays _ _).1.symm.trans finished) gone,
          (handle_stays _ _).2.trans reasoned.2⟩
      · cases stepped
        exact Or.inl ⟨fun finished => absurd ((handle_stays _ _).1.symm.trans finished) gone,
          (handle_stays _ _).2.trans reasoned.2⟩
      · cases stepped
  | leave =>
      dsimp only at stepped
      split_ifs at stepped with running
      exact absurd (reasoned.2.symm.trans running.2.1) nofun
  | panic => exact Or.inr (Or.inl rfl)

/-- The first reason stands whatever follows, a link that is down stays down, a thread that
is gone routes and counts nothing more, and it is gone without a reason only where it
panicked or was asked to stop. -/
theorem reader_verdict_stands {labels later : List ReaderLabel} {reader final : Reader}
    (ran : run Reader.step labels Reader.new = some reader)
    (more : run Reader.step later reader = some final) :
    (∀ reason, reader.down = some reason → final.down = some reason) ∧
    (reader.isDown = true → final.isDown = true) ∧
    (reader.finished = true → final.finished = true ∧ final.routed = reader.routed ∧
      final.stats = reader.stats ∧ final.sent = reader.sent) ∧
    (reader.finished = true → reader.down = none →
      ∃ label ∈ labels, label = .panic ∨ label = .stop) := by
  have keeps := run_keeps more
  refine ⟨keeps.reason, fun down => ?_, keeps.gone, fun gone silent => ?_⟩
  · rcases Bool.or_eq_true_iff.mp down with reason | gone
    · obtain ⟨text, down⟩ := Option.isSome_iff_exists.mp reason
      exact Bool.or_eq_true_iff.mpr (Or.inl (by rw [keeps.reason text down]; rfl))
    · exact Bool.or_eq_true_iff.mpr (Or.inr (keeps.gone gone).1)
  · have fresh : Reader.new.Reasoned := ⟨fun gone => Bool.noConfusion gone, rfl⟩
    have stays : ∀ label (state after : Reader), state.Reasoned →
        state.step label = some after → after.Reasoned ∨ label = .panic ∨ label = .stop :=
      fun label state after reasoned stepped => step_reasoned reasoned stepped
    refine run_exits stays fresh ran fun reasoned => ?_
    have reason := reasoned.1 gone
    rw [silent] at reason
    cases reason

end Sound

/-- Two frames cut across two reads, the first awaited, and a hang-up after them. -/
def hungUp : List ReaderLabel :=
  [.caller { Inner.new with inflight := some 0x02#8 },
    .read (.data [0x57#8, 0xAB#8, 0x00#8, 0x82#8, 0x01#8, 0x00#8, 0x85#8, 0x57#8, 0xAB#8]), .handle,
    .read (.data [0x00#8, 0x81#8, 0x00#8, 0x83#8]), .handle, .read .eof,
    .writeFailed "Broken pipe"]

def hungUpReader : Reader := (run Reader.step hungUp .new).getD .new

theorem hungUp_ran : run Reader.step hungUp .new = some hungUpReader :=
  run_getD rfl

theorem reader_accounts_hung_up :
    hungUpReader.routed.map Prod.fst = [⟨0x82#8, [0x00#8]⟩, ⟨0x81#8, []⟩] := by
  have accounts := reader_accounts hungUpReader ⟨_, hungUp, rfl, hungUp_ran⟩
  rw [(accounts.1 (by decide)).1]
  rfl

theorem reader_verdict_stands_hung_up :
    hungUpReader.down = some "read returned EOF: the port hung up" := by
  have first : run Reader.step (hungUp.take 6) .new =
      some ((run Reader.step (hungUp.take 6) .new).getD .new) := run_getD (by decide)
  have last : run Reader.step [.writeFailed "Broken pipe"]
      ((run Reader.step (hungUp.take 6) .new).getD .new) = some hungUpReader := by
    have all := hungUp_ran
    change run Reader.step (hungUp.take 6 ++ [.writeFailed "Broken pipe"]) .new = _ at all
    rw [run_append, first] at all
    exact all
  exact (reader_verdict_stands first last).1 _ (by decide +kernel)

end NanoKvm.Serial
