import NanoKvm.Input.Motion
import NanoKvm.Input.Shared

/-!
# The writer thread among its producers

`input/writer.rs` as a machine that makes one shared access a step: a section
under the queue lock or the link-state lock, an atomic load, one transaction.
A program counter names the point between two accesses and carries the locals
still live there.  A label names the thread that moves and the answer the link,
the clock or the source gives it.  A condition-variable wait may end at any
time, as a timed wait may, and no instant is kept.

The log is what an observer of every thread would write down; no step reads it.
-/

set_option autoImplicit false

namespace NanoKvm.Input

open NanoKvm.Proto

/-- Where `cancellation_sequence` and `refresh_device_info` were called from. -/
inductive Caller where
  | run
  | backoff (initial : Bool)
  deriving DecidableEq, Repr

/-- Whose release reports `emit_release_all` is writing. -/
inductive Release where
  | cancellation (caller : Caller) (epoch : Nat) (reason : ReleaseReason)
  | commission (initial : Bool) (epoch : Nat) (reason : ReleaseReason)
  deriving DecidableEq, Repr

def Release.epoch : Release → Nat
  | .cancellation _ epoch _ => epoch
  | .commission _ epoch _ => epoch

inductive Pc where
  | acquireFirstLink
  | firstLinkFailed
  -- `run`
  | loopTop
  | shouldExit
  | exited
  | checkLinkDown
  | checkRefresh
  | checkStale (entry : Entry)
  | checkLink (entry : Entry)
  | writeEntry (entry : Entry)
  | triggerLinkDown
  -- `next_entry` and `note_link_lost`
  | nextEntry
  | nextEntryWait
  | noteLoad
  | noteAsk
  | noteMark
  | noteTrigger
  -- `write_frame` under `write_entry`
  | report (epoch : Nat) (frame : HidFrame)
  | flush (epoch : Nat) (loop : Flush)
  | flushCancelled (epoch : Nat) (next : Option Flush)
  | reportFailed
  -- `cancellation_sequence`
  | latch (caller : Caller)
  | releaseCheck (caller : Caller) (epoch : Nat) (reason : ReleaseReason)
  | release (owner : Release) (frames : List HidFrame)
  | releaseFailed (owner : Release)
  | record (caller : Caller) (epoch : Nat) (reason : ReleaseReason) (outcome : ReleaseOutcome)
  | acknowledge (caller : Caller) (epoch : Nat)
  -- `refresh_device_info`
  | refreshClear (caller : Caller)
  | refreshCheck (caller : Caller)
  | refreshAsk (caller : Caller)
  | refreshAwait (caller : Caller)
  | refreshNote (caller : Caller) (info : Option DeviceInfo)
  -- `acquire`, `backoff_wait` and `open_bounded`
  | acquire (initial : Bool)
  | backoffShutdown (initial : Bool)
  | backoffCancel (initial : Bool)
  | backoffRefresh (initial : Bool)
  | backoffLock (initial : Bool)
  | backoffWait (initial : Bool)
  | acquireShutdown (initial : Bool)
  | openLock (initial : Bool)
  | openWait (initial : Bool)
  -- `commission`
  | commission (initial : Bool)
  | commissionResync (initial : Bool) (epoch : Nat) (reason : ReleaseReason)
  | commissionDrain (initial : Bool) (epoch : Nat) (reason : ReleaseReason)
  | commissionAsk (initial : Bool) (epoch : Nat) (reason : ReleaseReason)
  | commissionAwait (initial : Bool) (epoch : Nat) (reason : ReleaseReason)
  | commissionRecord (initial : Bool) (epoch : Nat) (reason : ReleaseReason)
      (info : Option DeviceInfo)
  | commissionUp (initial : Bool) (epoch : Nat) (info : DeviceInfo)
  | commissionAcknowledge (initial : Bool) (epoch : Nat) (accepted : Bool)
  deriving DecidableEq, Repr

def Caller.resume : Caller → Pc
  | .run => .loopTop
  | .backoff initial => .backoffShutdown initial

/-- The helper thread of `open_bounded`. -/
inductive Helper where
  | idle
  /-- Opening; `wanted` until a shutdown abandons the open. -/
  | opening (wanted : Bool)
  | sent (opened : Except LinkError Nat)
  | died
  deriving DecidableEq, Repr

/-- What a written frame was derived from. -/
inductive Origin where
  | entry (epoch : Nat)
  | release (epoch : Nat)
  | getInfo
  deriving DecidableEq, Repr

inductive Happening where
  | submitted (event : Event) (epoch : Nat) (verdict : Except SubmitError Unit)
  | engaged (epoch : Nat)
  | raised (epoch : Nat) (shutdown : Bool)
  | popped (entry : Entry)
  | takenUp (entry : Entry)
  | latched (epoch : Nat) (commissioning : Bool)
  | resynced (ok : Bool)
  | askedInfo
  | wrote (origin : Origin) (frame : HidFrame) (result : TransactResult)
  | acknowledged (epoch : Nat)
  deriving DecidableEq, Repr

structure Sys where
  shared : Shared
  pc : Pc
  held : HeldState
  mode : PointerMode
  /-- The link in service, by the number its opening was given. -/
  link : Option Nat
  reconnect : Bool
  /-- `source` is `Some`. -/
  sourceHome : Bool
  helper : Helper
  /-- Threads between an overflowed push and the trigger it owes. -/
  overflowed : List Nat
  log : List Happening

/-- `start`: a reconnecting path has no link until the first one is commissioned. -/
def Sys.start (maxBarriers : Nat) (reconnect : Bool) : Sys where
  shared :=
    if reconnect then (Shared.new maxBarriers).markLinkDown else Shared.new maxBarriers
  pc := .acquireFirstLink
  held := HeldState.new
  mode := .rel
  link := none
  reconnect := reconnect
  sourceHome := true
  helper := .idle
  overflowed := []
  log := []

/-- The answer the environment gives one step of the writer. -/
inductive Answer where
  | none
  | expired (yes : Bool)
  | down (yes : Bool)
  | opened (result : Except LinkError Nat)
  | resynced (ok : Bool)
  | replied (result : TransactResult)
  deriving DecidableEq, Repr

inductive Label where
  | submit (thread : Nat) (event : Event)
  | overflowTrigger (thread : Nat)
  | requestReleaseAll (reason : ReleaseReason)
  | engage
  | refreshDeviceInfo
  | beginShutdown
  | helperSends (opened : Except LinkError Nat)
  | helperDies
  | writer (answer : Answer)
  deriving DecidableEq, Repr

def Sys.note (sys : Sys) (happening : Happening) : Sys :=
  { sys with log := sys.log ++ [happening] }

def Sys.go (sys : Sys) (pc : Pc) : Sys := { sys with pc := pc }

def Sys.share (sys : Sys) (shared : Shared) : Sys := { sys with shared := shared }

/-! ## The producers and the helper -/

def Sys.submit (sys : Sys) (thread : Nat) (event : Event) : Sys :=
  let epoch := sys.shared.requestedEpoch
  match sys.shared.submit event with
  | .ok shared => (sys.share shared).note (.submitted event epoch (.ok ()))
  | .error .overflow =>
      { sys with overflowed := thread :: sys.overflowed }.note
        (.submitted event epoch (.error .overflow))
  | .error refusal => sys.note (.submitted event epoch (.error refusal))

def Sys.raise (sys : Sys) (slot : ReasonSlot) (shutdown : Bool) : Sys :=
  (sys.share (sys.shared.raise slot shutdown)).note
    (.raised (sys.shared.requestedEpoch + 1) shutdown)

def Sys.overflowTrigger (sys : Sys) (thread : Nat) : Sys :=
  { sys with overflowed := sys.overflowed.erase thread }.raise (.note .overflow) false

def Sys.engage (sys : Sys) : Sys :=
  match sys.shared.engage with
  | .ok shared => (sys.share shared).note (.engaged sys.shared.requestedEpoch)
  | .error _ => sys

/-- The result is sent under the queue lock; an abandoned open drops it. -/
def Sys.helperSends (sys : Sys) (opened : Except LinkError Nat) : Option Sys :=
  match sys.helper with
  | .opening true => some { sys with helper := .sent opened }
  | .opening false => some { sys with helper := .idle }
  | _ => none

def Sys.helperDies (sys : Sys) : Option Sys :=
  match sys.helper with
  | .opening true => some { sys with helper := .died }
  | .opening false => some { sys with helper := .idle }
  | _ => none

/-! ## The writer -/

/-- `Link::transact` for one report, and where a transport failure leads. -/
def Sys.transact (sys : Sys) (origin : Origin) (frame : HidFrame) (answer : Answer)
    (unlinked failed sent : Pc) : Option Sys :=
  match sys.link, answer with
  | none, .none => some (sys.go unlinked)
  | some _, .replied result =>
      some ((sys.note (.wrote origin frame result)).go (if handed result then sent else failed))
  | _, _ => none

def Release.finished (owner : Release) (outcome : ReleaseOutcome) : Pc :=
  match owner, outcome with
  | .cancellation caller epoch reason, _ => .record caller epoch reason outcome
  | .commission initial epoch reason, .submitted => .commissionAsk initial epoch reason
  | .commission initial epoch reason, .unsent => .commissionRecord initial epoch reason none

/-- Fold a pending trigger into a commissioning, unless it is milder. -/
def commissionReason : Option ReleaseReason → ReleaseReason
  | some reason =>
      if reason.severity > ReleaseReason.severity .reconnected then reason else .reconnected
  | none => .reconnected

/-- The reading a transaction gave, if it gave a usable one. -/
def infoOf (result : TransactResult) : Option DeviceInfo :=
  match result with
  | .ok reply => (DeviceInfo.parse reply.data).toOption
  | .error _ => none

def Sys.getInfoFrame : HidFrame := ⟨Cmd.getInfo, []⟩

/-- The entry is put on the wire: what `write_entry` does before its first report. -/
def Sys.startWrite (sys : Sys) (entry : Entry) : Sys :=
  match startEntry sys.held sys.mode entry.kind with
  | (held, .nothing) => { sys with held := held, pc := .loopTop }
  | (held, .report frame) => { sys with held := held, pc := .report entry.epoch frame }
  | (held, .flush loop) => { sys with held := held, pc := .flush entry.epoch loop }

/-- One report of a motion run; the mode is set before the report goes out. -/
def Sys.flushReport (sys : Sys) (epoch : Nat) (loop : Flush) (answer : Answer) : Option Sys :=
  match loop.emit sys.mode sys.held.buttons with
  | (mode, frame, next) =>
      { sys with mode := mode }.transact (.entry epoch) frame answer .triggerLinkDown
        .reportFailed (.flushCancelled epoch next)

def Sys.runStep (sys : Sys) (answer : Answer) : Option Sys :=
  match sys.pc, answer with
  | .acquireFirstLink, .none => if sys.reconnect then some (sys.go (.acquire true)) else none
  | .acquireFirstLink, .opened (.ok link) =>
      if sys.reconnect then none else some { sys with link := some link, pc := .loopTop }
  | .acquireFirstLink, .opened (.error _) =>
      if sys.reconnect then none else some (sys.go .firstLinkFailed)
  | .firstLinkFailed, .none => some ((sys.share sys.shared.markLinkDown).go .loopTop)
  | .loopTop, .none => some (sys.go (if sys.shared.cancel then .latch .run else .shouldExit))
  | .shouldExit, .none =>
      some (sys.go
        (if sys.shared.shuttingDown && !sys.shared.cancel then .exited else .checkLinkDown))
  | .checkLinkDown, .none =>
      some (sys.go
        (if sys.reconnect && sys.shared.linkDown then .acquire false else .checkRefresh))
  | .checkRefresh, .none =>
      some (sys.go (if sys.shared.refreshInfo then .refreshClear .run else .nextEntry))
  | .checkStale entry, .none =>
      -- Strict: the current session's own events carry `acked_epoch`.
      some (sys.go (if entry.epoch < sys.shared.ackedEpoch then .loopTop else .checkLink entry))
  | .checkLink entry, .none =>
      if sys.shared.linkDown then some (sys.go .loopTop)
      else some ((sys.note (.takenUp entry)).go (.writeEntry entry))
  | .writeEntry entry, .none => some (sys.startWrite entry)
  | .report epoch frame, answer =>
      sys.transact (.entry epoch) frame answer .triggerLinkDown .reportFailed .loopTop
  | .flush epoch loop, answer => sys.flushReport epoch loop answer
  | .flushCancelled epoch next, .none =>
      match next with
      | some loop =>
          some (sys.go (if sys.shared.cancel || sys.shared.shuttingDown then .loopTop
            else .flush epoch loop))
      | none => some (sys.go .loopTop)
  | .reportFailed, .none => some ((sys.share sys.shared.markLinkDown).go .triggerLinkDown)
  | .triggerLinkDown, .none => some ((sys.raise (.note .linkDown) false).go .loopTop)
  | _, _ => none

def Sys.nextEntryStep (sys : Sys) (answer : Answer) : Option Sys :=
  match sys.pc, answer with
  | .nextEntry, .none =>
      if sys.shared.cancel || sys.shared.shuttingDown || sys.shared.refreshInfo then
        some (sys.go .loopTop)
      else
        match sys.shared.queue.pop with
        | some (entry, queue) =>
            some (((sys.share { sys.shared with queue := queue }).note (.popped entry)).go
              (.checkStale entry))
        | none => some (sys.go .nextEntryWait)
  | .nextEntryWait, .none => some (sys.go .noteLoad)
  | .noteLoad, .none => some (sys.go (if sys.shared.linkDown then .nextEntry else .noteAsk))
  | .noteAsk, .down yes => some (sys.go (if sys.link.isSome && yes then .noteMark else .nextEntry))
  | .noteMark, .none => some ((sys.share sys.shared.markLinkDown).go .noteTrigger)
  | .noteTrigger, .none => some ((sys.raise (.note .linkDown) false).go .loopTop)
  | _, _ => none

def Sys.cancellationStep (sys : Sys) (answer : Answer) : Option Sys :=
  match sys.pc, answer with
  | .latch caller, .none =>
      let epoch := sys.shared.requestedEpoch
      let reason := sys.shared.queue.pendingReason.getD .userRequested
      some (((sys.share sys.shared.latch).note (.latched epoch false)).go
        (.releaseCheck caller epoch reason))
  | .releaseCheck caller epoch reason, .none =>
      if sys.link.isNone || sys.shared.linkDown then
        some (sys.go (.record caller epoch reason .unsent))
      else some (sys.go (.release (.cancellation caller epoch reason) (releaseFrames sys.mode)))
  | .release owner [], .none => some (sys.go (owner.finished .submitted))
  | .release owner (frame :: rest), answer =>
      sys.transact (.release owner.epoch) frame answer (owner.finished .unsent)
        (.releaseFailed owner) (.release owner rest)
  | .releaseFailed owner, .none =>
      some ((sys.share sys.shared.markLinkDown).go (owner.finished .unsent))
  | .record caller epoch reason outcome, .none =>
      some { sys with
        held := sys.held.clear
        mode := .rel
        shared := sys.shared.record ⟨epoch, reason, outcome⟩
        pc := .acknowledge caller epoch }
  | .acknowledge caller epoch, .none =>
      some (((sys.share (sys.shared.acknowledge epoch)).note (.acknowledged epoch)).go
        caller.resume)
  | _, _ => none

def Sys.refreshStep (sys : Sys) (answer : Answer) : Option Sys :=
  match sys.pc, answer with
  | .refreshClear caller, .none =>
      some ((sys.share { sys.shared with refreshInfo := false }).go (.refreshCheck caller))
  | .refreshCheck caller, .none =>
      some (sys.go
        (if sys.shared.linkDown || sys.link.isNone then .refreshNote caller none
          else .refreshAsk caller))
  | .refreshAsk caller, .none => some ((sys.note .askedInfo).go (.refreshAwait caller))
  | .refreshAwait caller, .replied result =>
      some ((sys.note (.wrote .getInfo Sys.getInfoFrame result)).go
        (.refreshNote caller (infoOf result)))
  | .refreshNote caller info, .none =>
      match info with
      | some info => some ((sys.share (sys.shared.publishDeviceInfo info)).go caller.resume)
      | none => some ((sys.share sys.shared.noteInfoRefreshFailed).go caller.resume)
  | _, _ => none

def Sys.acquireStep (sys : Sys) (answer : Answer) : Option Sys :=
  match sys.pc, answer with
  | .acquire initial, .none =>
      some { sys with
        link := none
        pc := if initial then .acquireShutdown initial else .backoffShutdown initial }
  | .backoffShutdown initial, .none =>
      some (sys.go (if sys.shared.shuttingDown then .loopTop else .backoffCancel initial))
  | .backoffCancel initial, .none =>
      some (sys.go
        (if sys.shared.cancel then .latch (.backoff initial) else .backoffRefresh initial))
  | .backoffRefresh initial, .none =>
      some (sys.go
        (if sys.shared.refreshInfo then .refreshClear (.backoff initial) else .backoffLock initial))
  | .backoffLock initial, .expired yes =>
      if sys.shared.shuttingDown || sys.shared.cancel || sys.shared.refreshInfo then
        some (sys.go (.backoffShutdown initial))
      else some (sys.go (if yes then .acquireShutdown initial else .backoffWait initial))
  | .backoffWait initial, .none => some (sys.go (.backoffShutdown initial))
  | .acquireShutdown initial, .none =>
      if sys.shared.shuttingDown || !sys.sourceHome then some (sys.go .loopTop)
      else some { sys with sourceHome := false, helper := .opening true, pc := .openLock initial }
  | .openLock initial, .none =>
      match sys.helper with
      | .sent (.ok link) =>
          some { sys with
            sourceHome := true
            helper := .idle
            link := some link
            pc := .commission initial }
      | .sent (.error _) =>
          some { sys with sourceHome := true, helper := .idle, pc := .backoffShutdown initial }
      | .died => some { sys with helper := .idle, pc := .backoffShutdown initial }
      | .opening _ =>
          if sys.shared.shuttingDown then
            some { sys with helper := .opening false, pc := .loopTop }
          else some (sys.go (.openWait initial))
      | .idle => none
  | .openWait initial, .none => some (sys.go (.openLock initial))
  | _, _ => none

def Sys.commissionStep (sys : Sys) (answer : Answer) : Option Sys :=
  match sys.pc, answer with
  | .commission initial, .none =>
      let reason := commissionReason sys.shared.queue.pendingReason
      let epoch := sys.shared.requestedEpoch + 1
      some (((sys.raise .take false).note (.latched epoch true)).go
        (.commissionResync initial epoch reason))
  | .commissionResync initial epoch reason, .resynced ok =>
      some ((sys.note (.resynced ok)).go
        (if ok then .commissionDrain initial epoch reason
          else .commissionRecord initial epoch reason none))
  | .commissionDrain initial epoch reason, .none =>
      some ((sys.share (sys.shared.drain epoch)).go
        (.release (.commission initial epoch reason) (releaseFrames sys.mode)))
  | .commissionAsk initial epoch reason, .none =>
      some ((sys.note .askedInfo).go (.commissionAwait initial epoch reason))
  | .commissionAwait initial epoch reason, .replied result =>
      some ((sys.note (.wrote .getInfo Sys.getInfoFrame result)).go
        (.commissionRecord initial epoch reason (infoOf result)))
  | .commissionRecord initial epoch reason info, .none =>
      let outcome := if info.isSome then .submitted else .unsent
      some { sys with
        held := sys.held.clear
        mode := .rel
        shared := sys.shared.record ⟨epoch, reason, outcome⟩
        pc := match info with
          | some info => .commissionUp initial epoch info
          | none => .commissionAcknowledge initial epoch false }
  | .commissionUp initial epoch info, .none =>
      some ((sys.share (sys.shared.markLinkUp info)).go
        (.commissionAcknowledge initial epoch true))
  | .commissionAcknowledge initial epoch accepted, .none =>
      let sys := (sys.share (sys.shared.acknowledge epoch)).note (.acknowledged epoch)
      if accepted then some (sys.go .loopTop)
      else some { sys with link := none, pc := .backoffShutdown initial }
  | _, _ => none

def Sys.writerStep (sys : Sys) (answer : Answer) : Option Sys :=
  match sys.pc with
  | .acquireFirstLink | .firstLinkFailed | .loopTop | .shouldExit | .exited | .checkLinkDown
  | .checkRefresh | .checkStale _ | .checkLink _ | .writeEntry _ | .triggerLinkDown
  | .report _ _ | .flush _ _ | .flushCancelled _ _ | .reportFailed => sys.runStep answer
  | .nextEntry | .nextEntryWait | .noteLoad | .noteAsk | .noteMark | .noteTrigger =>
      sys.nextEntryStep answer
  | .latch _ | .releaseCheck _ _ _ | .release _ _ | .releaseFailed _ | .record _ _ _ _
  | .acknowledge _ _ => sys.cancellationStep answer
  | .refreshClear _ | .refreshCheck _ | .refreshAsk _ | .refreshAwait _ | .refreshNote _ _ =>
      sys.refreshStep answer
  | .acquire _ | .backoffShutdown _ | .backoffCancel _ | .backoffRefresh _ | .backoffLock _
  | .backoffWait _ | .acquireShutdown _ | .openLock _ | .openWait _ => sys.acquireStep answer
  | .commission _ | .commissionResync _ _ _ | .commissionDrain _ _ _ | .commissionAsk _ _ _
  | .commissionAwait _ _ _ | .commissionRecord _ _ _ _ | .commissionUp _ _ _
  | .commissionAcknowledge _ _ _ => sys.commissionStep answer

def step (label : Label) (sys : Sys) : Option Sys :=
  match label with
  | .submit thread event =>
      if thread ∈ sys.overflowed then none else some (sys.submit thread event)
  | .overflowTrigger thread =>
      if thread ∈ sys.overflowed then some (sys.overflowTrigger thread) else none
  | .requestReleaseAll reason => some (sys.raise (.note reason) false)
  | .engage => some sys.engage
  | .refreshDeviceInfo => some (sys.share sys.shared.requestInfoRefresh.2)
  | .beginShutdown => some (sys.raise (.note .shutdown) true)
  | .helperSends opened => sys.helperSends opened
  | .helperDies => sys.helperDies
  | .writer answer => sys.writerStep answer

end NanoKvm.Input
