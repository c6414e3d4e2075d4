import Mathlib
import NanoKvm.Proto.Placed

/-!
# What is counted as garbage

The counter `suppressed` holds how far the last rejected candidate reaches.  A
candidate rejected inside a longer one overwrites it, so a hunt that passes the
end of the inner one counts bytes again that the outer one has reported.  The
garbage counted is the bytes no event accounts for and these.
-/

set_option autoImplicit false

namespace NanoKvm.Proto

open NanoKvm.Lib (Span Covered reach uncovered reach_snoc uncovered_snoc uncovered_add
  uncovered_over)

def StreamEvent.count : StreamEvent → Nat
  | .garbage bytes => bytes
  | _ => 0

/-- What the garbage events of a log add up to. -/
def garbageIn (events : List StreamEvent) : Nat := (events.map StreamEvent.count).sum

/-- How many pushed bytes lie in no frame, in no rejected candidate, in no
expired partial and not in the buffer. -/
def unreported (calls : List ParserCall) : Nat :=
  let tracked := Tracked.run calls
  uncovered (tracked.spans ++ [⟨tracked.here, tracked.stream.length⟩]) tracked.stream.length

/-- The bytes of a hunt that were reported already and counted nevertheless. -/
def Hunt.overcount (hunt : Hunt) : Nat :=
  min hunt.passed hunt.reported - min hunt.passed hunt.suppressed

def overcounted (hunts : List Hunt) : Nat := (hunts.map Hunt.overcount).sum

/-- The hunt stays among the suppressed bytes, or those are all that was reported. -/
def Hunt.Exact (hunt : Hunt) : Prop :=
  hunt.passed ≤ hunt.suppressed ∨ hunt.reported ≤ hunt.suppressed

instance (hunt : Hunt) : Decidable hunt.Exact := inferInstanceAs (Decidable (_ ∨ _))

theorem garbageIn_snoc (events : List StreamEvent) (event : StreamEvent) :
    garbageIn (events ++ [event]) = garbageIn events + event.count := by
  simp [garbageIn]

theorem overcounted_snoc (hunts : List Hunt) (hunt : Hunt) :
    overcounted (hunts ++ [hunt]) = overcounted hunts + hunt.overcount := by
  simp [overcounted]

theorem overcount_zero {hunt : Hunt} : hunt.overcount = 0 ↔ hunt.Exact := by
  unfold Hunt.overcount Hunt.Exact
  omega

theorem overcounted_zero {hunts : List Hunt} :
    overcounted hunts = 0 ↔ ∀ hunt ∈ hunts, hunt.Exact := by
  unfold overcounted
  rw [List.sum_eq_zero_iff_forall_eq_nat]
  simp only [List.mem_map, forall_exists_index, and_imp, forall_apply_eq_imp_iff₂,
    overcount_zero]

/-- Reported garbage and garbage yet to be reported. -/
def Parser.garbage (parser : Parser) : Nat := garbageIn parser.events + parser.pendingGarbage

section Garbage
variable (parser : Parser)

theorem flushGarbage_garbage : parser.flushGarbage.garbage = parser.garbage := by
  unfold Parser.flushGarbage Parser.garbage
  split
  · exact (Nat.add_zero _).trans (garbageIn_snoc _ _)
  · rfl

theorem discard_garbage (n : Nat) :
    (parser.discard n).garbage = parser.garbage + (n - min n parser.suppressed) := by
  unfold Parser.discard Parser.garbage
  split
  · rename_i none
    rw [none, Nat.zero_sub, Nat.add_zero]
  · exact (Nat.add_assoc _ _ _).symm

theorem emit_garbage {event : StreamEvent} (counts : event.count = 0) :
    (parser.emit event).garbage = parser.garbage := by
  unfold Parser.emit Parser.garbage
  dsimp only
  rw [garbageIn_snoc, counts, Nat.add_zero]

theorem discard_suppressed (n : Nat) :
    (parser.discard n).suppressed = parser.suppressed - n := by
  unfold Parser.discard
  split
  · rename_i none
    rw [none, Nat.sub_zero]
  · dsimp only
    omega

theorem flushGarbage_suppressed : parser.flushGarbage.suppressed = parser.suppressed := by
  unfold Parser.flushGarbage
  split <;> rfl

end Garbage

namespace Tracked

/-- Every byte before the buffer is reported or counted; some are both. -/
structure Ledger (tracked : Tracked) : Prop where
  sound : tracked.Sound
  suppressed : tracked.parser.suppressed ≤ reach tracked.spans - tracked.here
  inside : reach tracked.spans ≤ tracked.stream.length
  counted : tracked.parser.garbage =
    uncovered tracked.spans tracked.here + overcounted tracked.hunts

end Tracked

section Ledger
variable {tracked : Tracked}

theorem Tracked.Sound.spans_started (sound : tracked.Sound) :
    ∀ span ∈ tracked.spans, span.start ≤ tracked.here := by
  intro span member
  obtain ⟨placed, noted, rfl⟩ := List.mem_map.mp member
  exact sound.started placed noted

theorem spans_note (parser : Parser) (stream : List U8) (hunts : List Hunt) (start : Nat)
    (event : StreamEvent) :
    (Tracked.mk parser stream (tracked.note start (some event)) hunts).spans =
      tracked.spans ++ [⟨start, start + event.bytes.length⟩] := by
  simp [Tracked.spans, Tracked.note, Placed.span]

theorem Tracked.Ledger.new : Tracked.new.Ledger := ⟨.new, Nat.le_refl _, Nat.le_refl _, rfl⟩

theorem Tracked.Ledger.feed (ledger : tracked.Ledger) (chunk : List U8) :
    (tracked.feed chunk).Ledger := by
  have same := feed_here ledger.sound.within chunk
  refine ⟨ledger.sound.feed chunk, ?_, ?_, ?_⟩
  · rw [same]
    exact ledger.suppressed
  · refine Nat.le_trans ledger.inside ?_
    simp [Tracked.feed]
  · rw [same]
    exact ledger.counted

theorem Tracked.Ledger.flush (ledger : tracked.Ledger) : tracked.flush.Ledger := by
  have same := flush_here tracked
  refine ⟨ledger.sound.flush, ?_, ledger.inside, ?_⟩
  · rw [same, Tracked.flush, flushGarbage_suppressed]
    exact ledger.suppressed
  · rw [same, Tracked.flush, flushGarbage_garbage]
    exact ledger.counted

/-- Of `n` dropped bytes the reports cover `high`; what is counted of them is counted twice. -/
theorem drops_shared {bare twice n low high : Nat} (least : low ≤ high) (most : high ≤ n) :
    bare + twice + (n - low) = bare + (n - high) + (twice + (high - low)) := by
  omega

/-- The buffer moves on by `n` bytes counted as garbage and over an event. -/
theorem Tracked.Ledger.noted (ledger : tracked.Ledger) {n k size : Nat} {event : StreamEvent}
    {parser : Parser} {hunts : List Hunt} (bytes : event.bytes.length = size)
    (sound : (Tracked.mk parser tracked.stream (tracked.note (tracked.here + n) (some event))
      hunts).Sound)
    (within : n + k ≤ tracked.parser.buf.length)
    (buf : parser.buf = tracked.parser.buf.drop (n + k))
    (partly : k ≤ size) (read : n + size ≤ tracked.parser.buf.length)
    (suppressed : parser.suppressed ≤ max (tracked.parser.suppressed - (n + k)) (size - k))
    (garbage : parser.garbage = tracked.parser.garbage + (n - min n tracked.parser.suppressed))
    (hunted : overcounted hunts = overcounted tracked.hunts +
      (min n (reach tracked.spans - tracked.here) - min n tracked.parser.suppressed)) :
    (Tracked.mk parser tracked.stream (tracked.note (tracked.here + n) (some event))
      hunts).Ledger := by
  subst bytes
  have moved := ledger.sound.here_drop within
  rw [← buf, ← Nat.add_assoc] at moved
  have known := ledger.suppressed
  have inside := ledger.inside
  have room := ledger.sound.within
  have counted := ledger.counted
  have started := ledger.sound.spans_started
  have onward : ∀ span ∈ tracked.spans, span.start ≤ tracked.here + n :=
    fun span member => Nat.le_trans (started span member) (Nat.le_add_right _ _)
  refine ⟨sound, ?_, ?_, ?_⟩
  · change _ ≤ _ - (tracked.stream.length - parser.buf.length)
    rw [moved, spans_note, reach_snoc]
    dsimp only
    rw [← Nat.sub_max_sub_right]
    refine Nat.le_trans suppressed (max_le_max ?_ ?_)
    · rw [Nat.add_assoc, ← Nat.sub_sub _ tracked.here]
      exact Nat.sub_le_sub_right known _
    · rw [Nat.add_sub_add_left]
  · rw [spans_note, reach_snoc]
    unfold Tracked.here
    refine max_le ledger.inside ?_
    dsimp only
    omega
  · change parser.garbage = uncovered _ (tracked.stream.length - parser.buf.length) + _
    rw [moved, spans_note, uncovered_over onward (Nat.add_le_add_left partly _),
      uncovered_add started, garbage, hunted, counted]
    exact drops_shared (min_le_min_left n known) (Nat.min_le_left _ _)

theorem Tracked.Ledger.turn (ledger : tracked.Ledger) : tracked.turn.2.Ledger := by
  have sound := ledger.sound.turn
  have turned := turn_turned tracked.parser
  have bound := seek_within tracked.parser.buf
  have known := ledger.suppressed
  unfold Tracked.turn at sound ⊢
  generalize (seek tracked.parser.buf).2 = n at turned bound sound ⊢
  generalize tracked.parser.turn = outcome at turned sound ⊢
  have hunted := overcounted_snoc tracked.hunts
    ⟨n, tracked.parser.suppressed, reach tracked.spans - tracked.here⟩
  unfold Hunt.overcount at hunted
  have dropped := discard_garbage tracked.parser n
  have left := discard_suppressed tracked.parser n
  rw [← flushGarbage_garbage] at dropped
  rw [← flushGarbage_suppressed] at left
  cases turned with
  | stopped =>
      have moved := ledger.sound.here_drop bound
      rw [← discard_buf] at moved
      have started := ledger.sound.spans_started
      have counted := ledger.counted
      dsimp only at sound hunted ⊢
      rw [if_neg (by decide), note_none] at sound ⊢
      refine ⟨sound, ?_, ledger.inside, ?_⟩
      · change _ ≤ reach tracked.spans - (tracked.stream.length - (Parser.discard _ n).buf.length)
        rw [moved, discard_suppressed]
        omega
      · change _ = uncovered tracked.spans
          (tracked.stream.length - (Parser.discard _ n).buf.length) + overcounted _
        rw [moved, hunted, discard_garbage, counted, uncovered_add started]
        exact drops_shared (min_le_min_left n known) (Nat.min_le_left _ _)
  | framed frame rest fits shape =>
      have length := congrArg List.length shape
      rw [List.length_drop, List.length_append] at length
      dsimp only at sound ⊢
      rw [if_pos rfl, consume_last] at sound ⊢
      have size : (StreamEvent.frame frame).bytes.length =
          (wire frame.addr frame.cmd frame.data).length := rfl
      refine ledger.noted size sound ?_ ?_ (Nat.le_refl _) ?_ ?_ ?_ hunted
      · omega
      · simp
      · omega
      · change (tracked.parser.discard n).flushGarbage.suppressed - _ ≤ _
        omega
      · exact (emit_garbage _ rfl).trans dropped
  | rejected raw rest whole shape =>
      have length := congrArg List.length shape
      rw [List.length_drop, List.length_append] at length
      dsimp only at sound ⊢
      rw [if_pos rfl, consume_last] at sound ⊢
      have size : (StreamEvent.badChecksum raw).bytes.length = raw.length := rfl
      refine ledger.noted size sound ?_ ?_ whole ?_ ?_ ?_ hunted
      · omega
      · simp
      · omega
      · exact Nat.le_max_right _ _
      · exact (emit_garbage _ rfl).trans dropped

theorem Tracked.Ledger.expirePartial (ledger : tracked.Ledger) :
    tracked.expirePartial.Ledger := by
  have sound := ledger.sound.expirePartial
  unfold Tracked.expirePartial Parser.expirePartial at sound ⊢
  by_cases empty : tracked.parser.buf = []
  · rw [if_pos empty]
    dsimp only
    rw [note_none]
    exact ledger
  · rw [if_neg empty] at sound ⊢
    have size : (StreamEvent.truncated tracked.parser.buf).bytes.length =
        tracked.parser.buf.length := rfl
    refine ledger.noted (n := 0) size sound ?_ ?_ (Nat.le_refl _) ?_ ?_ ?_ ?_
    · omega
    · simp
    · omega
    · exact Nat.zero_le _
    · simp [Parser.garbage]
    · simp

theorem run_ledger (calls : List ParserCall) : (Tracked.run calls).Ledger :=
  Tracked.run_induction .new (fun _ chunk ledger => ledger.feed chunk)
    (fun _ ledger => ledger.turn) (fun _ ledger => ledger.flush)
    (fun _ ledger => ledger.expirePartial) calls

theorem run_reported (calls : List ParserCall) : (Parser.run calls).pendingGarbage = 0 := by
  unfold Parser.run
  induction calls using List.reverseRecOn with
  | nil => rfl
  | append_singleton calls call ih =>
      rw [List.foldl_append, List.foldl_cons, List.foldl_nil]
      generalize List.foldl Parser.call Parser.new calls = parser at ih
      cases call with
      | push bytes =>
          change ((chunks maxBuffer bytes).foldl Parser.pushChunk parser).pendingGarbage = 0
          rcases List.eq_nil_or_concat (chunks maxBuffer bytes) with none | ⟨earlier, last, more⟩
          · rw [none]
            exact ih
          · rw [more, List.concat_eq_append, List.foldl_append]
            exact pushChunk_reported _ last
      | expirePartial =>
          change parser.expirePartial.2.pendingGarbage = 0
          unfold Parser.expirePartial
          split <;> exact ih

/-- The buffer lies past every span and ends with the stream. -/
theorem unreported_read (calls : List ParserCall) :
    unreported calls = uncovered (Tracked.run calls).spans (Tracked.run calls).here := by
  have sound := run_sound calls
  have within := sound.within
  unfold unreported
  generalize Tracked.run calls = tracked at sound within
  have whole : tracked.stream.length = tracked.here + tracked.parser.buf.length := by
    unfold Tracked.here
    omega
  dsimp only
  rw [whole]
  exact uncovered_over sound.spans_started (Nat.le_refl _)

/-- What is counted is what no event accounts for, and what was counted again. -/
theorem garbage_counted (calls : List ParserCall) :
    garbageIn (Parser.run calls).events =
      unreported calls + overcounted (Tracked.run calls).hunts := by
  have counted := (run_ledger calls).counted
  unfold Parser.garbage at counted
  rw [run_forgets, run_reported, Nat.add_zero] at counted
  rw [counted, unreported_read]

end Ledger

/-- A candidate of fourteen bytes around one of six; both checksums are wrong. -/
def nestedCandidates : List U8 :=
  [0x57#8, 0xAB#8, 0x00#8, 0x01#8, 0x08#8,
    0x57#8, 0xAB#8, 0x00#8, 0x01#8, 0x00#8, 0xFF#8, 0x00#8, 0x00#8, 0x00#8]

end NanoKvm.Proto
