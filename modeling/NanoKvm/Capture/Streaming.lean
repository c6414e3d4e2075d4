import Mathlib
import NanoKvm.Capture.V4l2
import NanoKvm.Lib.Transition

/-!
# A V4L2 source over whole runs

The crate's ring of buffers as a machine of its own, moved by the calls made on
it: allocated, probed, primed, streaming, and of no use once a dequeue or the
stream fails.  Every call of every run of a source is one its ring allows; what
the source delivers and counts is read off the buffers its dequeues handed out.
-/

set_option autoImplicit false

namespace NanoKvm.Capture

open NanoKvm.Proto NanoKvm.Lib

/-! ## The ring -/

inductive Ring where
  | absent
  /-- Allocated; the indices below `known` exist. -/
  | probing (known : Nat)
  /-- The indices from 1 to below `next` are queued. -/
  | priming (granted next : Nat)
  /-- The set-up failed and is to be released. -/
  | failed
  | streaming (granted : Nat)
  /-- A dequeue found the device gone. -/
  | lost (granted : Nat)
  /-- The crate's index names a buffer the driver owns, or the queue is in error. -/
  | spoilt
  deriving DecidableEq, Repr

/-- What each call does to the ring; `none` where the call is no use of it. -/
def Ring.called : Call → Ring → Option Ring
  | .request granted, .absent => some (if granted then .probing 0 else .absent)
  | .query index allocated, .probing known =>
      if index = known then some (if allocated then .probing (known + 1) else .priming known 1)
      else none
  | .queue index done, .probing known =>
      if known = bufferProbeLimit ∧ index = 1 then some (if done then .priming known 2 else .failed)
      else none
  | .queue index done, .priming granted next =>
      if index = next ∧ next < granted then
        some (if done then .priming granted (next + 1) else .failed)
      else none
  | .start done, .priming granted next =>
      if next = granted ∧ 2 ≤ granted then some (if done then .streaming granted else .failed)
      else none
  | .pollError, .streaming _ | .pollError, .lost _ => some .spoilt
  | .next (.ok _), .streaming granted => some (.streaming granted)
  | .next (.ok _), .lost granted => some (.lost granted)
  | .next (.error error), .streaming granted | .next (.error error), .lost granted =>
      some (if error = .disconnected then .lost granted else .spoilt)
  | .release, .absent => none
  | .release, _ => some .absent
  | _, _ => none

/-- The dequeues and the poll errors after which no buffer may be taken. -/
def Call.spoils : Call → Bool
  | .pollError => true
  | .next (.error error) => error ≠ .disconnected
  | _ => false

/-- All probed and nothing queued yet. -/
def Ring.Ready (granted : Nat) (ring : Ring) : Prop :=
  ring = .priming granted 1 ∨ (ring = .probing granted ∧ granted = bufferProbeLimit)

theorem release_called {ring : Ring} (held : ring ≠ .absent) :
    ring.called .release = some .absent := by
  cases ring with
  | absent => exact absurd rfl held
  | _ => rfl

theorem probing_held (granted : Nat) : Ring.probing granted ≠ .absent := nofun

theorem priming_held (granted queued : Nat) : Ring.priming granted queued ≠ .absent := nofun

theorem Ring.Ready.held {granted : Nat} {ring : Ring} (ready : ring.Ready granted) :
    ring ≠ .absent := by
  rcases ready with rfl | ⟨rfl, -⟩ <;> exact nofun

theorem Ring.Ready.queue {granted : Nat} {ring : Ring} (ready : ring.Ready granted)
    (enough : 2 ≤ granted) (done : Bool) :
    ring.called (.queue 1 done) = some (if done then .priming granted 2 else .failed) := by
  rcases ready with rfl | ⟨rfl, rfl⟩
  · have below : 1 < granted := enough
    simp only [called, below, and_self, if_true]
  · rfl

/-! ## What a start of the stream does to it -/

section Start
variable (query queue : Nat → Except IoError Unit)

attribute [local simp] Ring.called

/-- The ring after the probes: ready for priming with as many as were granted. -/
theorem grantedFrom_called (left count : Nat) (limit : count + left = bufferProbeLimit) :
    ∃ ring, run Ring.called (grantedFrom query left count).2 (.probing count) = some ring ∧
      ring ≠ .absent ∧
      ∀ granted, (grantedFrom query left count).1 = .ok granted → ring.Ready granted := by
  induction left generalizing count with
  | zero =>
      refine ⟨.probing count, rfl, probing_held count, fun granted same => ?_⟩
      cases same
      exact .inr ⟨rfl, limit⟩
  | succ left ih =>
      simp only [grantedFrom]
      split
      next =>
        obtain ⟨ring, reached, held, ready⟩ := ih (count + 1) (by omega)
        refine ⟨ring, ?_, held, ready⟩
        simpa only [run, Ring.called, if_true, Option.bind_some] using reached
      next error asked =>
        split
        · refine ⟨.priming count 1, by simp [run], priming_held count 1,
            fun granted same => ?_⟩
          cases same
          exact .inl rfl
        · refine ⟨.priming count 1, by simp [run], priming_held count 1,
            fun granted same => ?_⟩
          cases same

/-- Priming queues each index once, in order. -/
theorem queueFrom_called (left next granted : Nat) (total : next + left = granted) :
    run Ring.called (queueFrom queue left next).2 (.priming granted next) =
      some (match (queueFrom queue left next).1 with
        | .ok () => .priming granted granted
        | .error _ => .failed) := by
  induction left generalizing next with
  | zero =>
      cases total
      rfl
  | succ left ih =>
      have here : next < granted := by omega
      simp only [queueFrom]
      split
      next =>
        simp only [run, Ring.called, here, and_self, if_true, Option.bind_some]
        exact ih (next + 1) (by omega)
      next => simp [run, here]

/-- The first index is queued from a ring that is ready, however it got there. -/
theorem queueFrom_ready {granted : Nat} {ring : Ring} (ready : ring.Ready granted)
    (enough : 2 ≤ granted) :
    run Ring.called (queueFrom queue (granted - 1) 1).2 ring =
      some (match (queueFrom queue (granted - 1) 1).1 with
        | .ok () => .priming granted granted
        | .error _ => .failed) := by
  have same : run Ring.called (queueFrom queue (granted - 1) 1).2 ring =
      run Ring.called (queueFrom queue (granted - 1) 1).2 (.priming granted 1) := by
    have primed : (Ring.priming granted 1).Ready granted := .inl rfl
    obtain ⟨left, shape⟩ : ∃ left, granted - 1 = left + 1 := ⟨granted - 2, by omega⟩
    rw [shape]
    simp only [queueFrom]
    split <;> simp only [run, ready.queue enough, primed.queue enough]
  rw [same]
  exact queueFrom_called queue (granted - 1) 1 granted (by omega)

theorem run_snoc {calls : List Call} {call : Call} {ring middle last : Ring}
    (reached : run Ring.called calls ring = some middle)
    (stepped : middle.called call = some last) :
    run Ring.called (calls ++ [call]) ring = some last := by
  rw [run_append, reached, Option.bind_some]
  simp only [run, stepped, Option.bind_some]

/-- A start leaves a streaming ring, or none: what it allocated it has released. -/
theorem startStream_called (path : String) (answers : StartAnswers) :
    run Ring.called (startStream path answers).2 .absent =
      some (match (startStream path answers).1 with
        | .ok granted => .streaming granted
        | .error _ => .absent) := by
  obtain ⟨probed, probes, held, ready⟩ :=
    grantedFrom_called answers.query bufferProbeLimit 0 (by decide)
  have asked : run Ring.called (.request true :: (grantedBuffers answers.query).2) .absent =
      some probed := probes
  unfold startStream
  split
  next => rfl
  next =>
    split
    next error calls granting =>
      rw [granting] at asked
      exact run_snoc asked (release_called held)
    next granted calls granting =>
      rw [granting] at asked
      have isReady : probed.Ready granted := ready granted (congrArg Prod.fst granting)
      split
      · exact run_snoc asked (release_called held)
      next enough =>
        have primes := queueFrom_ready answers.queue isReady (by omega)
        split
        next error primed queueing =>
          rw [queueing] at primes
          refine run_snoc ?_ (release_called (show Ring.failed ≠ .absent from nofun))
          rw [run_append, asked, Option.bind_some]
          exact primes
        next primed queueing =>
          rw [queueing] at primes
          have before : run Ring.called (.request true :: calls ++ primed) .absent =
              some (.priming granted granted) := by
            rw [run_append, asked, Option.bind_some]
            exact primes
          have started (done : Bool) : (Ring.priming granted granted).called (.start done) =
              some (if done then .streaming granted else .failed) := by
            have two : 2 ≤ granted := Nat.le_of_not_lt enough
            simp only [Ring.called, two, and_self, if_true]
          split
          · rw [show [Call.start false, .release] = [.start false] ++ [.release] from rfl,
              ← List.append_assoc]
            exact run_snoc (run_snoc before (started false)) (release_called nofun)
          · exact run_snoc before (started true)

end Start

/-! ## The source and its ring -/

/-- The ring a source holds between two calls of its own. -/
def V4l2Source.Holds (source : V4l2Source) (ring : Ring) : Prop :=
  match source.stream, source.streamBroken with
  | true, false => ring = .streaming source.buffers ∨ ring = .lost source.buffers
  | true, true => ring = .spoilt
  | false, true => ring = .absent
  | false, false => False

/-- A call of the source's own: what it notes is allowed, and it holds the ring it leaves. -/
def Fits (ring : Ring) (source : V4l2Source) (calls : List Call) : Prop :=
  ∃ last, run Ring.called calls ring = some last ∧ source.Holds last

variable {source : V4l2Source} {ring : Ring}

/-- Dropping the stream, if there is one, leaves no ring. -/
theorem freed_called (held : source.stream = true ↔ ring ≠ .absent) :
    run Ring.called (if source.stream then [.release] else []) ring = some .absent := by
  cases stream : source.stream with
  | true => simp [run, release_called (held.mp stream)]
  | false =>
      have gone : ring = .absent := by
        by_contra there
        rw [held.mpr there] at stream
        cases stream
      subst gone
      rfl

/-- A rebuild takes any ring: it holds one exactly when there is a stream. -/
theorem rebuildStream_fits (source : V4l2Source) (answers : StartAnswers)
    (broken : source.streamBroken = true)
    (held : source.stream = true ↔ ring ≠ .absent) :
    Fits ring (source.rebuildStream answers).2.1 (source.rebuildStream answers).2.2 := by
  have started := startStream_called source.path answers
  have freed := freed_called held
  unfold V4l2Source.rebuildStream
  dsimp only
  split
  next error calls starting =>
    rw [starting] at started
    refine ⟨.absent, ?_, ?_⟩
    · dsimp only
      rw [run_append, freed, Option.bind_some]
      exact started
    · simp only [V4l2Source.Holds, broken]
  next granted calls starting =>
    rw [starting] at started
    refine ⟨.streaming granted, ?_, .inl rfl⟩
    dsimp only
    rw [run_append, freed, Option.bind_some]
    exact started

/-- A rebuild that succeeds leaves a whole stream. -/
theorem rebuildStream_whole {answers : StartAnswers} {after : V4l2Source} {calls : List Call}
    (rebuilt : source.rebuildStream answers = (.ok (), after, calls)) :
    after.streamBroken = false := by
  unfold V4l2Source.rebuildStream at rebuilt
  dsimp only at rebuilt
  split at rebuilt <;> cases rebuilt
  rfl

/-- What a source that is ready to take a buffer holds. -/
theorem holds_ready (stream : source.stream = true) (whole : source.streamBroken = false) :
    source.Holds ring ↔ ring = .streaming source.buffers ∨ ring = .lost source.buffers := by
  simp only [V4l2Source.Holds, stream, whole]

theorem Holds.stream (holds : source.Holds ring) (whole : source.streamBroken = false) :
    source.stream = true := by
  unfold V4l2Source.Holds at holds
  rw [whole] at holds
  split at holds
  · assumption
  all_goals simp_all

theorem dequeue_ok (stream : source.stream = true) (buffer : Buffer) :
    source.dequeue (.ok buffer) = (.ok buffer.copy, [.next (.ok buffer)]) := by
  simp [V4l2Source.dequeue, stream]

theorem dequeue_error (stream : source.stream = true) (error : IoError) :
    source.dequeue (.error error) = (.error (mapIo error), [.next (.error (mapIo error))]) := by
  simp [V4l2Source.dequeue, stream]

theorem take_fits (answer : Except IoError Buffer) (holds : source.Holds ring)
    (whole : source.streamBroken = false) :
    Fits ring (source.take answer).2.1 (source.take answer).2.2 := by
  have stream := Holds.stream holds whole
  have ready := (holds_ready stream whole).mp holds
  unfold V4l2Source.take
  cases answer with
  | ok buffer =>
      rw [dequeue_ok stream]
      refine ⟨ring, ?_, holds⟩
      rcases ready with rfl | rfl <;> rfl
  | error error =>
      rw [dequeue_error stream]
      dsimp only
      by_cases gone : mapIo error = .disconnected
      · refine ⟨.lost source.buffers, ?_, ?_⟩
        · rcases ready with rfl | rfl <;> simp [run, Ring.called, gone]
        · rw [if_pos gone]
          exact (holds_ready stream whole).mpr (.inr rfl)
      · refine ⟨.spoilt, ?_, ?_⟩
        · rcases ready with rfl | rfl <;> simp [run, Ring.called, gone]
        · rw [if_neg gone]
          simp only [V4l2Source.Holds, stream]

/-- What `next_frame` returns: a result, the source after it, and the calls it made. -/
abbrev Outcome := Except CaptureError CompressedFrame × V4l2Source × List Call

variable {showDuration : Nat → String} {outcome : Outcome}

theorem await_fits {answers : NextAnswers} (holds : source.Holds ring)
    (whole : source.streamBroken = false)
    (awaited : source.await showDuration answers = some outcome) :
    Fits ring outcome.2.1 outcome.2.2 := by
  have stream := Holds.stream holds whole
  have ready := (holds_ready stream whole).mp holds
  have still : Fits ring source [] := ⟨ring, rfl, holds⟩
  obtain ⟨polled, -, rfl⟩ := Option.map_eq_some_iff.mp awaited
  split
  · exact take_fits answers.next holds whole
  · exact still
  · refine ⟨.spoilt, ?_, ?_⟩
    · rcases ready with rfl | rfl <;> rfl
    · simp only [V4l2Source.Holds, stream]
  · exact still

theorem Fits.trans {calls more : List Call} {after : V4l2Source}
    (first : Fits ring source calls)
    (second : ∀ middle, source.Holds middle → Fits middle after more) :
    Fits ring after (calls ++ more) := by
  obtain ⟨middle, reached, holds⟩ := first
  obtain ⟨last, later, held⟩ := second middle holds
  refine ⟨last, ?_, held⟩
  rw [run_append, reached, Option.bind_some]
  exact later

theorem Holds.held (holds : source.Holds ring) : source.stream = true ↔ ring ≠ .absent := by
  unfold V4l2Source.Holds at holds
  cases stream : source.stream with
  | true =>
      have there : ring ≠ .absent := by
        cases broken : source.streamBroken with
        | true =>
            rw [stream, broken] at holds
            rw [holds]
            exact nofun
        | false =>
            rw [stream, broken] at holds
            rcases holds with rfl | rfl <;> exact nofun
      exact ⟨fun _ => there, fun _ => rfl⟩
  | false =>
      cases broken : source.streamBroken with
      | true =>
          rw [stream, broken] at holds
          exact ⟨nofun, fun there => absurd holds there⟩
      | false =>
          rw [stream, broken] at holds
          exact holds.elim

theorem nextFrame_fits {answers : NextAnswers} (holds : source.Holds ring)
    (next : source.nextFrame showDuration answers = some outcome) :
    Fits ring outcome.2.1 outcome.2.2 := by
  unfold V4l2Source.nextFrame at next
  split at next
  next broken =>
    have rebuilt := rebuildStream_fits source answers.rebuild broken (Holds.held holds)
    split at next
    next error after calls rebuilding =>
      cases next
      rw [rebuilding] at rebuilt
      exact rebuilt
    next after calls rebuilding =>
      rw [rebuilding] at rebuilt
      obtain ⟨⟨result, last, more⟩, awaited, rfl⟩ := Option.map_eq_some_iff.mp next
      refine rebuilt.trans fun middle held => await_fits held ?_ awaited
      exact rebuildStream_whole rebuilding
  next whole =>
    exact await_fits holds (by simpa using whole) next

/-! ## What is counted -/

/-- The buffers the dequeues handed out, in order. -/
def buffersOf (calls : List Call) : List Buffer :=
  calls.filterMap fun
    | .next (.ok buffer) => some buffer
    | _ => none

@[simp] theorem buffersOf_append (first second : List Call) :
    buffersOf (first ++ second) = buffersOf first ++ buffersOf second :=
  List.filterMap_append

/-- No buffer is taken and no stream started. -/
def Quiet (calls : List Call) : Prop := buffersOf calls = [] ∧ calls.count (.start true) = 0

theorem grantedFrom_quiet (query : Nat → Except IoError Unit) (left count : Nat) :
    Quiet (grantedFrom query left count).2 := by
  induction left generalizing count with
  | zero => exact ⟨rfl, rfl⟩
  | succ left ih =>
      simp only [grantedFrom]
      split
      · simpa [Quiet, buffersOf] using ih (count + 1)
      · split <;> exact ⟨rfl, rfl⟩

theorem queueFrom_quiet (queue : Nat → Except IoError Unit) (left index : Nat) :
    Quiet (queueFrom queue left index).2 := by
  induction left generalizing index with
  | zero => exact ⟨rfl, rfl⟩
  | succ left ih =>
      simp only [queueFrom]
      split
      · simpa [Quiet, buffersOf] using ih (index + 1)
      · exact ⟨rfl, rfl⟩

/-- A start takes no buffer, and starts a stream exactly when it succeeds. -/
theorem startStream_counts (path : String) (answers : StartAnswers) :
    buffersOf (startStream path answers).2 = [] ∧
      (startStream path answers).2.count (.start true) =
        (match (startStream path answers).1 with
          | .ok _ => 1
          | .error _ => 0) := by
  have probes := grantedFrom_quiet answers.query bufferProbeLimit 0
  unfold startStream
  split
  next => exact ⟨rfl, rfl⟩
  next =>
    split
    next error calls granting =>
      rw [grantedBuffers] at granting
      rw [granting] at probes
      simp_all [Quiet, buffersOf]
    next granted calls granting =>
      rw [grantedBuffers] at granting
      rw [granting] at probes
      have primes := queueFrom_quiet answers.queue (granted - 1) 1
      split
      · simp_all [Quiet, buffersOf]
      · split
        next error primed queueing =>
          rw [queueing] at primes
          simp_all [Quiet, buffersOf]
        next primed queueing =>
          rw [queueing] at primes
          split <;> simp_all [Quiet, buffersOf]

/-- What a stretch of calls comes to, from the buffers taken in it. -/
structure Counts (before after : V4l2Source) (calls : List Call)
    (delivered : List CompressedFrame) : Prop where
  delivered : delivered = (buffersOf calls).filterMap fun buffer => buffer.copy.frame.toOption
  frames : after.frames = before.frames + (buffersOf calls).length
  bytes : after.bytes = (buffersOf calls).foldl (fun stats buffer => stats.record buffer.bytesused)
    before.bytes
  rebuilds : after.streamRebuilds = before.streamRebuilds + calls.count (.start true)
  format : after.format = before.format

theorem Counts.trans {before middle after : V4l2Source} {calls more : List Call}
    {delivered others : List CompressedFrame} (first : Counts before middle calls delivered)
    (second : Counts middle after more others) :
    Counts before after (calls ++ more) (delivered ++ others) where
  delivered := by rw [first.delivered, second.delivered, buffersOf_append, List.filterMap_append]
  frames := by
    rw [second.frames, first.frames, buffersOf_append, List.length_append, Nat.add_assoc]
  bytes := by rw [second.bytes, first.bytes, buffersOf_append, List.foldl_append]
  rebuilds := by rw [second.rebuilds, first.rebuilds, List.count_append, Nat.add_assoc]
  format := second.format.trans first.format

/-- Calls that take no buffer and start no stream change no count. -/
theorem Counts.quiet {before after : V4l2Source} {calls : List Call} (quiet : Quiet calls)
    (frames : after.frames = before.frames) (bytes : after.bytes = before.bytes)
    (rebuilds : after.streamRebuilds = before.streamRebuilds)
    (format : after.format = before.format) : Counts before after calls [] where
  delivered := by rw [quiet.1]; rfl
  frames := by rw [quiet.1]; exact frames
  bytes := by rw [quiet.1]; exact bytes
  rebuilds := by rw [quiet.2]; exact rebuilds
  format := format

theorem freed_quiet (source : V4l2Source) :
    Quiet (if source.stream then [.release] else []) := by
  cases source.stream <;> exact ⟨rfl, rfl⟩

theorem rebuildStream_counts (source : V4l2Source) (answers : StartAnswers) :
    Counts source (source.rebuildStream answers).2.1 (source.rebuildStream answers).2.2 [] := by
  have freed := freed_quiet source
  obtain ⟨untaken, started⟩ := startStream_counts source.path answers
  unfold V4l2Source.rebuildStream
  dsimp only
  split
  next error calls starting =>
    rw [starting] at untaken started
    refine .quiet ⟨?_, ?_⟩ rfl rfl rfl rfl
    · rw [buffersOf_append, freed.1, untaken]; rfl
    · rw [List.count_append, freed.2, started]
      rfl
  next granted calls starting =>
    rw [starting] at untaken started
    have taken : buffersOf ((if source.stream then [Call.release] else []) ++ calls) = [] := by
      rw [buffersOf_append, freed.1, untaken]; rfl
    refine ⟨by dsimp only; rw [taken]; rfl, by dsimp only; rw [taken]; rfl,
      by dsimp only; rw [taken]; rfl, ?_, rfl⟩
    dsimp only
    rw [List.count_append, freed.2, started]
    rfl

theorem take_counts (answer : Except IoError Buffer) (stream : source.stream = true) :
    Counts source (source.take answer).2.1 (source.take answer).2.2
      (source.take answer).1.toOption.toList := by
  unfold V4l2Source.take
  cases answer with
  | ok buffer =>
      rw [dequeue_ok stream]
      refine ⟨?_, rfl, rfl, rfl, rfl⟩
      dsimp only [buffersOf, List.filterMap]
      cases buffer.copy.frame <;> rfl
  | error error =>
      rw [dequeue_error stream]
      dsimp only
      split <;> exact .quiet ⟨rfl, rfl⟩ rfl rfl rfl rfl

theorem await_counts {answers : NextAnswers} (stream : source.stream = true)
    (awaited : source.await showDuration answers = some outcome) :
    Counts source outcome.2.1 outcome.2.2 outcome.1.toOption.toList := by
  obtain ⟨polled, -, rfl⟩ := Option.map_eq_some_iff.mp awaited
  split
  · exact take_counts answers.next stream
  all_goals exact .quiet ⟨rfl, rfl⟩ rfl rfl rfl rfl

theorem rebuildStream_stream {answers : StartAnswers} {after : V4l2Source} {calls : List Call}
    (rebuilt : source.rebuildStream answers = (.ok (), after, calls)) : after.stream = true := by
  unfold V4l2Source.rebuildStream at rebuilt
  dsimp only at rebuilt
  split at rebuilt <;> cases rebuilt
  rfl

theorem nextFrame_counts {answers : NextAnswers} (holds : source.Holds ring)
    (next : source.nextFrame showDuration answers = some outcome) :
    Counts source outcome.2.1 outcome.2.2 outcome.1.toOption.toList := by
  unfold V4l2Source.nextFrame at next
  split at next
  next broken =>
    have rebuilt := rebuildStream_counts source answers.rebuild
    split at next
    next error after calls rebuilding =>
      cases next
      rw [rebuilding] at rebuilt
      exact rebuilt
    next after calls rebuilding =>
      rw [rebuilding] at rebuilt
      obtain ⟨⟨result, last, more⟩, awaited, rfl⟩ := Option.map_eq_some_iff.mp next
      exact rebuilt.trans (await_counts (rebuildStream_stream rebuilding) awaited)
  next whole =>
    exact await_counts (Holds.stream holds (by simpa using whole)) next

/-! ## Whole runs -/

inductive SourceOp where
  | nextFrame (answers : NextAnswers)
  | restart (answers : StartAnswers)
  | forceRebuild
  | setTimeout (timeout : Nat)

/-- A source, the calls it has made since it was opened, and what it has delivered. -/
structure Streaming where
  source : V4l2Source
  calls : List Call
  delivered : List CompressedFrame

def Streaming.after (streaming : Streaming) (source : V4l2Source) (calls : List Call)
    (frames : List CompressedFrame) : Streaming :=
  ⟨source, streaming.calls ++ calls, streaming.delivered ++ frames⟩

def Streaming.step (showDuration : Nat → String) : SourceOp → Streaming → Option Streaming
  | .nextFrame answers, streaming =>
      (streaming.source.nextFrame showDuration answers).map fun (result, source, calls) =>
        streaming.after source calls result.toOption.toList
  | .restart answers, streaming =>
      let (_, source, calls) := streaming.source.restart answers
      some (streaming.after source calls [])
  | .forceRebuild, streaming =>
      let (source, calls) := streaming.source.forceRebuildForTest
      some (streaming.after source calls [])
  | .setTimeout timeout, streaming =>
      some (streaming.after { streaming.source with timeout } [] [])

/-- Opened for this mode, and nothing called on it yet. -/
def Opened (width height fps : U32) (streaming : Streaming) : Prop :=
  ∃ showFps path answers, V4l2Source.open showFps path width height fps answers =
    (.ok streaming.source, streaming.calls) ∧ streaming.delivered = []

/-- Each operation fits the ring the source holds, and counts what it takes. -/
theorem step_fits {op : SourceOp} {streaming next : Streaming}
    (holds : streaming.source.Holds ring)
    (stepped : streaming.step showDuration op = some next) :
    ∃ calls frames, next = streaming.after next.source calls frames ∧
      Fits ring next.source calls ∧ Counts streaming.source next.source calls frames := by
  cases op with
  | nextFrame answers =>
      obtain ⟨outcome, moved, rfl⟩ := Option.map_eq_some_iff.mp stepped
      exact ⟨_, _, rfl, nextFrame_fits holds moved, nextFrame_counts holds moved⟩
  | restart answers =>
      cases stepped
      let broken : V4l2Source := { streaming.source with streamBroken := true }
      have held := Holds.held holds
      have counted := rebuildStream_counts broken answers
      exact ⟨_, _, rfl, rebuildStream_fits broken answers rfl held,
        counted.delivered, counted.frames, counted.bytes, counted.rebuilds, counted.format⟩
  | forceRebuild =>
      cases stepped
      refine ⟨_, _, rfl, ⟨.absent, freed_called (Holds.held holds), rfl⟩, ?_⟩
      exact .quiet (freed_quiet streaming.source) rfl rfl rfl rfl
  | setTimeout timeout =>
      cases stepped
      exact ⟨[], [], rfl, ⟨ring, rfl, holds⟩, .quiet ⟨rfl, rfl⟩ rfl rfl rfl rfl⟩

/-! ## What holds of every run -/

theorem open_holds {showFps : U32 × U32 → String} {path : String} {width height fps : U32}
    {answers : OpenAnswers} {calls : List Call}
    (opened : V4l2Source.open showFps path width height fps answers = (.ok source, calls)) :
    run Ring.called calls .absent = some (.streaming source.buffers) ∧
      source.Holds (.streaming source.buffers) ∧ source.frames = 0 ∧ source.bytes = .empty ∧
      source.streamRebuilds + 1 = calls.count (.start true) ∧ buffersOf calls = [] ∧
      source.format = (width, height) := by
  unfold V4l2Source.open at opened
  split at opened
  · cases opened
  split at opened
  · cases opened
  · cases opened
  split at opened
  · cases opened
  next agreed =>
  split at opened
  · cases opened
  · cases opened
  split at opened
  · cases opened
  have started := startStream_called path answers.start
  have counted := startStream_counts path answers.start
  split at opened
  · cases opened
  next granted others starting =>
  cases opened
  rw [starting] at started counted
  obtain ⟨-, wide, high⟩ := not_or.mp agreed |>.imp id not_or.mp
  refine ⟨started, .inl rfl, rfl, rfl, counted.2.symm, counted.1, ?_⟩
  rw [not_not.mp wide, not_not.mp high]

/-- What a run keeps: every call was allowed, and the counts are those of the buffers taken. -/
structure Tracked (width height : U32) (streaming : Streaming) : Prop where
  ring : ∃ ring, run Ring.called streaming.calls .absent = some ring ∧
    streaming.source.Holds ring
  delivered : streaming.delivered =
    (buffersOf streaming.calls).filterMap fun buffer => buffer.copy.frame.toOption
  frames : streaming.source.frames = (buffersOf streaming.calls).length
  bytes : streaming.source.bytes = (buffersOf streaming.calls).foldl
    (fun stats buffer => stats.record buffer.bytesused) .empty
  rebuilds : streaming.source.streamRebuilds + 1 = streaming.calls.count (.start true)
  format : streaming.source.format = (width, height)

section Runs
variable {width height fps : U32} {streaming : Streaming}

theorem opened_tracked (opened : Opened width height fps streaming) :
    Tracked width height streaming := by
  obtain ⟨showFps, path, answers, opened, nothing⟩ := opened
  obtain ⟨called, holds, frames, bytes, rebuilds, taken, format⟩ := open_holds opened
  exact ⟨⟨_, called, holds⟩, by rw [taken, nothing]; rfl, by rw [taken, frames]; rfl,
    by rw [taken, bytes]; rfl, rebuilds, format⟩

theorem step_tracked {op : SourceOp} {next : Streaming} (tracked : Tracked width height streaming)
    (stepped : streaming.step showDuration op = some next) : Tracked width height next := by
  obtain ⟨ring, called, holds⟩ := tracked.ring
  obtain ⟨calls, frames, shape, ⟨last, more, held⟩, counts⟩ := step_fits holds stepped
  have sameCalls : next.calls = streaming.calls ++ calls := congrArg Streaming.calls shape
  have sameFrames : next.delivered = streaming.delivered ++ frames :=
    congrArg Streaming.delivered shape
  refine ⟨⟨last, ?_, held⟩, ?_, ?_, ?_, ?_, counts.format.trans tracked.format⟩
  · rw [sameCalls, run_append, called]
    exact more
  · rw [sameFrames, sameCalls, tracked.delivered, counts.delivered, buffersOf_append,
      List.filterMap_append]
  · rw [counts.frames, tracked.frames, sameCalls, buffersOf_append, List.length_append]
  · rw [counts.bytes, tracked.bytes, sameCalls, buffersOf_append, List.foldl_append]
  · rw [counts.rebuilds, sameCalls, List.count_append, ← tracked.rebuilds]
    omega

theorem reachable_tracked
    (reached : Reachable (Streaming.step showDuration) (Opened width height fps) streaming) :
    Tracked width height streaming :=
  reachable_preserves (fun _ => opened_tracked) (fun _ _ _ => step_tracked) reached

theorem called_spoils {call : Call} {ring next : Ring} (spoils : call.spoils = true)
    (called : ring.called call = some next) : next = .spoilt := by
  unfold Ring.called at called
  split at called <;> simp_all [Call.spoils]

/-- Only a release ends a ring that is spoilt. -/
theorem spoilt_stays (call : Call) (ring next : Ring) (spoilt : ring = .spoilt)
    (called : ring.called call = some next) : next = .spoilt ∨ call = .release := by
  subst spoilt
  cases call with
  | release => exact .inr rfl
  | next answer => cases answer <;> cases called
  | _ => cases called

def Ring.live : Ring → Bool
  | .streaming _ | .lost _ => true
  | _ => false

/-- Only a stream that starts makes a ring live. -/
theorem dead_stays (call : Call) (ring next : Ring) (dead : ring.live = false)
    (called : ring.called call = some next) : next.live = false ∨ call = .start true := by
  unfold Ring.called at called
  split at called <;> grind [Ring.live]

theorem next_live {ring next : Ring} {answer : Except CaptureError Buffer}
    (called : ring.called (.next answer) = some next) : ring.live = true := by
  cases ring with
  | streaming => rfl
  | lost => rfl
  | _ => cases answer <;> cases called

/-- Every call a source makes is one its ring allows: buffers are asked for with none
held, each one granted but the first is queued once before the stream starts, and all
are released before more are asked for.  After a dequeue that failed, or an error of the
stream, no buffer is taken before the stream is released and another has started. -/
theorem calls_respect_ring
    (reached : Reachable (Streaming.step showDuration) (Opened width height fps) streaming) :
    (∃ ring, run Ring.called streaming.calls .absent = some ring ∧
        streaming.source.Holds ring) ∧
      ∀ before bad middle answer after,
        streaming.calls = before ++ bad :: middle ++ .next answer :: after →
          bad.spoils = true → .release ∈ middle ∧ .start true ∈ middle := by
  obtain ⟨ring, accepted, holds⟩ := (reachable_tracked reached).ring
  refine ⟨⟨ring, accepted, holds⟩, fun before bad middle answer after shape spoils => ?_⟩
  rw [shape, run_append] at accepted
  obtain ⟨taking, upTo, onward⟩ := Option.bind_eq_some_iff.mp accepted
  rw [run_append] at upTo
  obtain ⟨failing, -, rest⟩ := Option.bind_eq_some_iff.mp upTo
  obtain ⟨broken, spoiling, between⟩ := run_cons rest
  obtain ⟨taken, taking', -⟩ := run_cons onward
  have live := next_live taking'
  have spoilt : broken = .spoilt := called_spoils spoils spoiling
  subst spoilt
  constructor
  · obtain ⟨call, member, rfl⟩ := run_exits spoilt_stays rfl between (by rintro rfl; cases live)
    exact member
  · have dead : Ring.live .spoilt = false := rfl
    obtain ⟨call, member, rfl⟩ := run_exits dead_stays dead between (by rw [live]; exact nofun)
    exact member
end Runs

/-! A stream that breaks and is rebuilt. -/

/-- Four buffers are granted and all else goes well. -/
def grantsFour : StartAnswers where
  request := .ok ()
  query := fun index =>
    if index < 4 then .ok () else .error ⟨some Errno.einval, false, "Invalid argument"⟩
  queue := fun _ => .ok ()
  start := .ok ()

/-- The header of a picture of 3x2. -/
def tinyJpeg : List U8 :=
  [0xFF#8, 0xD8#8, 0xFF#8, 0xC0#8, 0x00#8, 0x08#8, 0x08#8, 0x00#8, 0x02#8, 0x00#8, 0x03#8]

def tinyBuffer (sequence : U32) : Buffer := ⟨tinyJpeg ++ [0#8], 11#32, 7, 0, sequence, 0#32⟩

/-- A buffer is ready at once. -/
def answered (next : Except IoError Buffer) : NextAnswers :=
  ⟨grantsFour, 0, [⟨0, .ready Poll.pollin, 0⟩], next⟩

def fourStarted : List Call :=
  [.request true, .query 0 true, .query 1 true, .query 2 true, .query 3 true, .query 4 false,
    .queue 1 true, .queue 2 true, .queue 3 true, .start true]

def justOpened : Streaming :=
  ⟨⟨"/dev/video0", true, (3#32, 2#32), 60#32, defaultTimeout, .empty, 0#32, 0, 4, false, 0⟩,
    fourStarted, []⟩

theorem justOpened_opened : Opened 3#32 2#32 60#32 justOpened :=
  ⟨fun _ => "", "/dev/video0",
    ⟨.ok (), .ok ⟨3#32, 2#32, "MJPG"⟩, .ok (1#32, 240#32), .ok (1#32, 60#32), grantsFour⟩,
    rfl, rfl⟩

def transferError : IoError := ⟨some Errno.eio, false, eioText⟩

/-- One good frame, a transfer error, and another good frame after the rebuild. -/
def interruptedOps : List SourceOp :=
  [.nextFrame (answered (.ok (tinyBuffer 0#32))), .nextFrame (answered (.error transferError)),
    .nextFrame (answered (.ok (tinyBuffer 1#32)))]

def interruptedStream : Streaming :=
  (run (Streaming.step fun _ => "250ms") interruptedOps justOpened).getD justOpened

theorem interrupted_reachable :
    Reachable (Streaming.step fun _ => "250ms") (Opened 3#32 2#32 60#32) interruptedStream :=
  ⟨justOpened, interruptedOps, justOpened_opened, run_getD (by decide)⟩

theorem calls_respect_ring_interrupted :
    Call.release ∈ Call.release :: fourStarted ∧ Call.start true ∈ Call.release :: fourStarted :=
  (calls_respect_ring interrupted_reachable).2 (fourStarted ++ [.next (.ok (tinyBuffer 0#32))])
    (.next (.error (mapIo transferError))) (.release :: fourStarted)
    (.ok (tinyBuffer 1#32)) [] (by decide +kernel) rfl

/-! ## What the statistics say -/

/-- The figures are those of the sizes, which came in this order. -/
structure BytesUsedStats.Tallies (stats : BytesUsedStats) (sizes : List U32) : Prop where
  count : stats.count = sizes.length
  total : stats.total = (sizes.map (·.toNat)).sum
  bounds : ∀ size ∈ sizes, stats.min ≤ size ∧ size ≤ stats.max
  attained : sizes ≠ [] → stats.min ∈ sizes ∧ stats.max ∈ sizes
  fresh : sizes = [] → stats.max = 0#32
  last : stats.last = sizes.getLastD 0#32

theorem tallies_empty : BytesUsedStats.empty.Tallies [] :=
  ⟨rfl, rfl, nofun, fun there => absurd rfl there, fun _ => rfl, rfl⟩

section Tallies
variable {stats : BytesUsedStats} {sizes : List U32}

/-- The first size is both the least and the greatest. -/
theorem record_first (tallies : stats.Tallies []) (size : U32) :
    (stats.record size).min = size ∧ (stats.record size).max = size := by
  refine ⟨if_pos (.inl tallies.count), ?_⟩
  change (if stats.max < size then size else stats.max) = size
  rw [tallies.fresh rfl]
  split
  · rfl
  next least =>
    apply BitVec.eq_of_toNat_eq
    have := BitVec.lt_def.not.mp least
    simp only [BitVec.toNat_ofNat, Nat.zero_mod] at this ⊢
    omega

theorem record_later (tallies : stats.Tallies sizes) (later : sizes ≠ []) (size : U32) :
    (stats.record size).min = (if size < stats.min then size else stats.min) ∧
      (stats.record size).max = (if stats.max < size then size else stats.max) := by
  have some : stats.count ≠ 0 := by
    rw [tallies.count]
    exact fun none => later (List.length_eq_zero_iff.mp none)
  refine ⟨?_, rfl⟩
  simp only [BytesUsedStats.record, some, false_or]

theorem record_bounds (tallies : stats.Tallies sizes) (size : U32) :
    ∀ other ∈ sizes ++ [size],
      (stats.record size).min ≤ other ∧ other ≤ (stats.record size).max := by
  intro other member
  by_cases first : sizes = []
  · subst first
    obtain ⟨least, greatest⟩ := record_first tallies size
    cases List.mem_singleton.mp member
    rw [least, greatest]
    exact ⟨BitVec.le_refl _, BitVec.le_refl _⟩
  · obtain ⟨least, greatest⟩ := record_later tallies first size
    rw [least, greatest]
    rcases List.mem_append.mp member with earlier | here
    · obtain ⟨above, below⟩ := tallies.bounds other earlier
      simp only [BitVec.le_def, BitVec.lt_def] at above below ⊢
      split <;> split <;> omega
    · cases List.mem_singleton.mp here
      simp only [BitVec.le_def, BitVec.lt_def]
      split <;> split <;> omega

theorem record_attained (tallies : stats.Tallies sizes) (size : U32) :
    (stats.record size).min ∈ sizes ++ [size] ∧ (stats.record size).max ∈ sizes ++ [size] := by
  by_cases first : sizes = []
  · subst first
    obtain ⟨least, greatest⟩ := record_first tallies size
    rw [least, greatest]
    exact ⟨List.mem_singleton_self _, List.mem_singleton_self _⟩
  · obtain ⟨least, greatest⟩ := record_later tallies first size
    obtain ⟨lower, upper⟩ := tallies.attained first
    rw [least, greatest]
    constructor <;> split <;> simp [lower, upper]

theorem Tallies.record (tallies : stats.Tallies sizes) (size : U32) :
    (stats.record size).Tallies (sizes ++ [size]) where
  count := by
    rw [List.length_append, ← tallies.count]
    rfl
  total := by
    rw [List.map_append, List.sum_append, ← tallies.total]
    simp [BytesUsedStats.record]
  bounds := record_bounds tallies size
  attained := fun _ => record_attained tallies size
  fresh := fun none => by simp at none
  last := by simp [BytesUsedStats.record]

theorem Tallies.foldl {buffers : List Buffer} (tallies : stats.Tallies sizes) :
    (buffers.foldl (fun stats buffer => stats.record buffer.bytesused) stats).Tallies
      (sizes ++ buffers.map (·.bytesused)) := by
  induction buffers generalizing stats sizes with
  | nil => simpa using tallies
  | cons buffer buffers ih =>
      rw [List.map_cons, List.append_cons]
      exact ih (Tallies.record tallies buffer.bytesused)

end Tallies

/-- What a buffer should come to: the driver claims no more than is mapped, and what it
claims is a JPEG whose own header is of a size that can be decoded. -/
def Buffer.picture (buffer : Buffer) : Option CompressedFrame :=
  if buffer.bytesused.toNat ≤ buffer.mapping.length then
    match dimensions (buffer.mapping.take buffer.bytesused.toNat) with
    | .ok (width, height) =>
        if dimensionsInRange width height then
          some ⟨buffer.mapping.take buffer.bytesused.toNat, width, height,
            timestampToDuration buffer.seconds buffer.micros, buffer.sequence⟩
        else none
    | .error _ => none
  else none

theorem copy_frame (buffer : Buffer) : buffer.copy.frame.toOption = buffer.picture := by
  unfold Buffer.picture Dequeued.frame Buffer.copy
  dsimp only
  by_cases whole : buffer.bytesused.toNat ≤ buffer.mapping.length
  · rw [if_neg (by omega), if_pos whole, Nat.min_eq_left whole]
    dsimp only
    generalize buffer.mapping.take buffer.bytesused.toNat = jpeg
    cases jpeg with
    | nil => rfl
    | cons head rest =>
        rw [if_neg (by simp)]
        cases dimensions (head :: rest) with
        | error error => rfl
        | ok dims =>
            dsimp only
            cases dimensionsInRange dims.1 dims.2 <;> rfl
  · rw [if_pos (by omega), if_neg whole]
    rfl

/-- A source delivers the frames of the buffers it takes, in order and each once, and
its counters are exact; the mode it reports is the one it was opened with. -/
theorem delivers_what_is_taken {width height fps : U32} {streaming : Streaming}
    (reached : Reachable (Streaming.step showDuration) (Opened width height fps) streaming) :
    streaming.delivered = (buffersOf streaming.calls).filterMap Buffer.picture ∧
      streaming.source.frames = (buffersOf streaming.calls).length ∧
      streaming.source.bytes.Tallies ((buffersOf streaming.calls).map (·.bytesused)) ∧
      streaming.source.streamRebuilds + 1 = streaming.calls.count (.start true) ∧
      streaming.source.negotiatedDimensions = some (width, height) := by
  have tracked := reachable_tracked reached
  refine ⟨?_, tracked.frames, ?_, tracked.rebuilds, congrArg some tracked.format⟩
  · rw [tracked.delivered]
    exact congrArg (fun f => List.filterMap f _) (funext copy_frame)
  · rw [tracked.bytes]
    exact Tallies.foldl tallies_empty

theorem delivers_what_is_taken_interrupted :
    interruptedStream.delivered =
        (buffersOf interruptedStream.calls).filterMap Buffer.picture ∧
      interruptedStream.delivered.map (·.sequence) = [0#32, 1#32] ∧
      interruptedStream.source.streamRebuilds = 1 :=
  ⟨(delivers_what_is_taken interrupted_reachable).1, by decide +kernel, rfl⟩

end NanoKvm.Capture
