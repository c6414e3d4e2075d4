import NanoKvm.Input.Writer
import NanoKvm.Lib.Transition

/-!
# What holds between any two shared accesses

The epochs, the flag, admission, the link flag and the queue are changed by
five operations in separate sections.  What ties them together also depends on
where the writer is, so the invariant speaks of the writer's point through
three projections: the epoch of the entry it holds, the epoch it has latched
and not acknowledged, and whether it is in the outage loop.
-/

set_option autoImplicit false

namespace NanoKvm.Input

open NanoKvm.Proto NanoKvm.Lib

/-! ## What the writer's point commits it to -/

def Caller.outage : Caller → Bool
  | .run => false
  | .backoff _ => true

def Release.outage : Release → Bool
  | .cancellation caller _ _ => caller.outage
  | .commission _ _ _ => true

def Release.commissioning : Release → Bool
  | .cancellation _ _ _ => false
  | .commission _ _ _ => true

/-- The epoch of the entry taken from the queue and not finished with. -/
def Pc.inHand : Pc → Option Nat
  | .checkStale entry | .checkLink entry | .writeEntry entry => some entry.epoch
  | .report epoch _ | .flush epoch _ | .flushCancelled epoch _ => some epoch
  | _ => none

/-- The epoch latched and not acknowledged, and whether a commissioning latched it. -/
def Pc.latched : Pc → Option (Nat × Bool)
  | .releaseCheck _ epoch _ | .record _ epoch _ _ | .acknowledge _ epoch => some (epoch, false)
  | .release owner _ | .releaseFailed owner => some (owner.epoch, owner.commissioning)
  | .commissionResync _ epoch _ | .commissionDrain _ epoch _ | .commissionAsk _ epoch _
  | .commissionAwait _ epoch _ | .commissionRecord _ epoch _ _ | .commissionUp _ epoch _
  | .commissionAcknowledge _ epoch _ => some (epoch, true)
  | _ => none

/-- Between losing a link and putting its replacement into service. -/
def Pc.outage : Pc → Bool
  | .acquire _ | .backoffShutdown _ | .backoffCancel _ | .backoffRefresh _ | .backoffLock _
  | .backoffWait _ | .acquireShutdown _ | .openLock _ | .openWait _ => true
  | .commission _ | .commissionResync _ _ _ | .commissionDrain _ _ _ | .commissionAsk _ _ _
  | .commissionAwait _ _ _ | .commissionRecord _ _ _ _ | .commissionUp _ _ _ => true
  | .commissionAcknowledge _ _ accepted => !accepted
  | .latch caller | .releaseCheck caller _ _ | .record caller _ _ _ | .acknowledge caller _
  | .refreshClear caller | .refreshCheck caller | .refreshAsk caller | .refreshAwait caller
  | .refreshNote caller _ => caller.outage
  | .release owner _ | .releaseFailed owner => owner.outage
  | _ => false

/-- What the writer has read and still relies on. -/
def Pc.Assumes (cancel linkDown reconnect : Bool) : Pc → Prop
  | .acquireFirstLink => reconnect = true → linkDown = true
  | .firstLinkFailed => reconnect = false
  | .latch _ => cancel = true
  | _ => True

/-- The queue of a lost link may still hold its session's entries: the trigger
that follows the loss is owed, or raised and not yet latched. -/
def Pc.exposed (cancel : Bool) : Pc → Bool
  | .triggerLinkDown | .noteTrigger => true
  | .loopTop | .latch .run => cancel
  | _ => false

/-! ## The invariant -/

structure Sound (shared : Shared) (reconnect : Bool) (pc : Pc) : Prop where
  acked_le : shared.ackedEpoch ≤ shared.requestedEpoch
  cancel_iff : shared.cancel = true ↔ shared.ackedEpoch < shared.requestedEpoch
  engaged_settled : shared.engaged = true →
    shared.ackedEpoch = shared.requestedEpoch ∧ shared.shuttingDown = false
  queued : ∀ entry ∈ shared.queue.entries, entry.epoch = shared.ackedEpoch
  in_hand : ∀ epoch, pc.inHand = some epoch → epoch = shared.ackedEpoch
  latched : ∀ epoch commissioning, pc.latched = some (epoch, commissioning) →
    shared.ackedEpoch < epoch ∧ epoch ≤ shared.requestedEpoch ∧ shared.queue.entries = []
  outage : pc.outage = true → shared.linkDown = true ∧ shared.queue.entries = []
  drained : pc.exposed shared.cancel = false → reconnect = true → shared.linkDown = true →
    shared.queue.entries = []
  assumed : pc.Assumes shared.cancel shared.linkDown reconnect

def Sys.Sound (sys : Sys) : Prop := Input.Sound sys.shared sys.reconnect sys.pc

theorem sound_start (maxBarriers : Nat) (reconnect : Bool) :
    (Sys.start maxBarriers reconnect).Sound := by
  cases reconnect <;> constructor <;>
    simp [Sys.start, Shared.new, Shared.markLinkDown, QueueState.new, Pc.inHand, Pc.latched,
      Pc.outage, Pc.Assumes]

section Points
variable {shared : Shared} {reconnect : Bool} {pc next : Pc}

/-- The writer holds nothing, has latched nothing and is in no outage. -/
structure Pc.Idle (pc : Pc) : Prop where
  inHand : pc.inHand = none
  latched : pc.latched = none
  outage : pc.outage = false
  assumed : ∀ cancel linkDown reconnect, pc.Assumes cancel linkDown reconnect

theorem Sound.idle (sound : Sound shared reconnect pc)
    (settled : pc.exposed shared.cancel = false) (idle : next.Idle) :
    Sound shared reconnect next :=
  { sound with
    in_hand := by simp [idle.inHand]
    latched := by simp [idle.latched]
    outage := by simp [idle.outage]
    drained := fun _ => sound.drained settled
    assumed := idle.assumed _ _ _ }

/-- The writer keeps what it had in hand, latched, or was out for. -/
theorem Sound.keep (sound : Sound shared reconnect pc)
    (settled : next.exposed shared.cancel = false → pc.exposed shared.cancel = false)
    (inHand : next.inHand = pc.inHand) (latched : next.latched = pc.latched)
    (outage : next.outage = pc.outage)
    (assumed : next.Assumes shared.cancel shared.linkDown reconnect) :
    Sound shared reconnect next :=
  { sound with
    in_hand := inHand ▸ sound.in_hand
    latched := latched ▸ sound.latched
    outage := outage ▸ sound.outage
    drained := fun hidden => sound.drained (settled hidden)
    assumed := assumed }

/-- A fixed link owes its queue nothing. -/
theorem Sound.lossless (sound : Sound shared false pc) (inHand : next.inHand = none)
    (latched : next.latched = none) (outage : next.outage = false)
    (assumed : next.Assumes shared.cancel shared.linkDown false) :
    Sound shared false next :=
  { sound with
    in_hand := by simp [inHand]
    latched := by simp [latched]
    outage := by simp [outage]
    drained := by simp
    assumed := assumed }

/-- Into, or on through, an outage whose queue is empty. -/
theorem Sound.out (sound : Sound shared reconnect pc) (down : shared.linkDown = true)
    (empty : shared.queue.entries = []) (inHand : next.inHand = none)
    (latched : next.latched = none)
    (assumed : next.Assumes shared.cancel shared.linkDown reconnect) :
    Sound shared reconnect next :=
  { sound with
    in_hand := by simp [inHand]
    latched := by simp [latched]
    outage := fun _ => ⟨down, empty⟩
    drained := fun _ _ _ => empty
    assumed := assumed }

theorem Sound.stay_out (sound : Sound shared reconnect pc) (out : pc.outage = true)
    (inHand : next.inHand = none) (latched : next.latched = none)
    (assumed : next.Assumes shared.cancel shared.linkDown reconnect) :
    Sound shared reconnect next :=
  sound.out (sound.outage out).1 (sound.outage out).2 inHand latched assumed

theorem exposed_mono {cancel : Bool} (hidden : pc.exposed true = false) :
    pc.exposed cancel = false := by
  cases cancel with
  | true => exact hidden
  | false =>
      unfold Pc.exposed at hidden ⊢
      split at hidden <;> first | rfl | exact hidden

theorem raise_assumes {cancel linkDown : Bool} (assumed : pc.Assumes cancel linkDown reconnect) :
    pc.Assumes true linkDown reconnect := by
  unfold Pc.Assumes at assumed ⊢
  split at assumed <;> first | rfl | exact assumed

theorem Sound.raise (sound : Sound shared reconnect pc) (slot : ReasonSlot) (shutdown : Bool) :
    Sound (shared.raise slot shutdown) reconnect pc where
  acked_le := Nat.le_succ_of_le sound.acked_le
  cancel_iff := ⟨fun _ => Nat.lt_succ_of_le sound.acked_le, fun _ => rfl⟩
  engaged_settled engaged := by cases engaged
  queued := by rw [raise_entries]; exact sound.queued
  in_hand := sound.in_hand
  latched epoch commissioning held := by
    obtain ⟨above, below, empty⟩ := sound.latched epoch commissioning held
    exact ⟨above, Nat.le_succ_of_le below, by rw [raise_entries]; exact empty⟩
  outage out := by rw [raise_entries]; exact sound.outage out
  drained hidden := by rw [raise_entries]; exact sound.drained (exposed_mono hidden)
  assumed := raise_assumes sound.assumed

/-- The link is lost outside a release: the trigger it owes comes next. -/
theorem Sound.lose (sound : Sound shared reconnect pc) (inHand : next.inHand = none)
    (latched : next.latched = none) (outage : next.outage = false)
    (owes : next.exposed shared.cancel = true)
    (assumed : next.Assumes shared.cancel true reconnect) :
    Sound shared.markLinkDown reconnect next :=
  { sound with
    in_hand := by simp [inHand]
    latched := by simp [latched]
    outage := by simp [outage]
    drained := fun hidden => by
      change next.exposed shared.cancel = false at hidden
      simp [owes] at hidden
    assumed := assumed }

/-- The link is lost under a release: the queue was drained when it was latched. -/
theorem Sound.lose_latched (sound : Sound shared reconnect pc) (releasing : pc.latched.isSome)
    (inHand : next.inHand = none) (latched : next.latched = pc.latched)
    (assumed : next.Assumes shared.cancel true reconnect) :
    Sound shared.markLinkDown reconnect next := by
  obtain ⟨⟨epoch, commissioning⟩, held⟩ := Option.isSome_iff_exists.mp releasing
  have empty := (sound.latched epoch commissioning held).2.2
  exact { sound with
    in_hand := by simp [inHand]
    latched := latched ▸ sound.latched
    outage := fun _ => ⟨rfl, empty⟩
    drained := fun _ _ _ => empty
    assumed := assumed }

/-- A latch empties the queue: every entry in it belongs to the acknowledged epoch. -/
theorem Sound.latch {caller : Caller} (sound : Sound shared reconnect (.latch caller))
    (inHand : next.inHand = none) (latched : next.latched = some (shared.requestedEpoch, false))
    (outage : next.outage = caller.outage)
    (assumed : next.Assumes shared.cancel shared.linkDown reconnect) :
    Sound shared.latch reconnect next := by
  have empty : shared.latch.queue.entries = [] :=
    drainUpto_all fun entry member => by
      rw [sound.queued entry member]
      exact sound.acked_le
  have behind := sound.cancel_iff.mp sound.assumed
  exact { sound with
    queued := by simp [empty]
    in_hand := by simp [inHand]
    latched := fun epoch kind held => by
      rw [latched] at held
      cases held
      exact ⟨behind, Nat.le_refl _, empty⟩
    outage := fun out => ⟨(sound.outage (outage.symm.trans out)).1, empty⟩
    drained := fun _ _ _ => empty
    assumed := assumed }

/-- An acknowledgement clears the flag exactly when no newer trigger came. -/
theorem Sound.acknowledge {epoch : Nat} {commissioning : Bool}
    (sound : Sound shared reconnect pc) (releasing : pc.latched = some (epoch, commissioning))
    (inHand : next.inHand = none) (latched : next.latched = none)
    (outage : next.outage = true → shared.linkDown = true)
    (assumed : next.Assumes (shared.acknowledge epoch).cancel shared.linkDown reconnect) :
    Sound (shared.acknowledge epoch) reconnect next := by
  obtain ⟨above, below, empty⟩ := sound.latched epoch commissioning releasing
  have same : (shared.acknowledge epoch).queue.entries = [] := empty
  exact {
    acked_le := below
    cancel_iff := by
      have pending := sound.cancel_iff.mpr (Nat.lt_of_lt_of_le above below)
      by_cases newest : shared.requestedEpoch = epoch
      · simp [Shared.acknowledge, newest]
      · simp only [Shared.acknowledge, if_neg newest, pending, true_iff]
        omega
    engaged_settled := fun engaged => by
      have settled := (sound.engaged_settled engaged).1
      omega
    queued := by simp [same]
    in_hand := by simp [inHand]
    latched := by simp [latched]
    outage := fun out => ⟨outage out, same⟩
    drained := fun _ _ _ => same
    assumed := assumed }

theorem Sound.requeue (sound : Sound shared reconnect pc) {queue : QueueState}
    (same : queue.entries = shared.queue.entries) :
    Sound { shared with queue := queue } reconnect pc :=
  { sound with
    queued := same ▸ sound.queued
    latched := same ▸ sound.latched
    outage := same ▸ sound.outage
    drained := same ▸ sound.drained }

/-- A commissioning raises its own epoch and latches it at once. -/
theorem Sound.begin_reconnect {initial : Bool}
    (sound : Sound shared reconnect (.commission initial)) (epoch : Nat) (reason : ReleaseReason)
    (own : epoch = shared.requestedEpoch + 1) :
    Sound (shared.raise .take false) reconnect (.commissionResync initial epoch reason) := by
  have raised := sound.raise .take false
  obtain ⟨down, empty⟩ := raised.outage rfl
  have above : shared.ackedEpoch < epoch ∧ epoch ≤ shared.requestedEpoch + 1 := by
    have := sound.acked_le
    omega
  exact { raised with
    in_hand := by simp [Pc.inHand]
    latched := fun _ _ held => by
      cases held
      exact ⟨above.1, above.2, empty⟩
    outage := fun _ => ⟨down, empty⟩
    drained := fun _ _ _ => empty
    assumed := trivial }

theorem Sound.pop {entry : Entry} {queue : QueueState} (sound : Sound shared reconnect pc)
    (settled : pc.exposed shared.cancel = false) (popped : shared.queue.pop = some (entry, queue))
    (inHand : next.inHand = some entry.epoch) (latched : next.latched = none)
    (outage : next.outage = false)
    (assumed : next.Assumes shared.cancel shared.linkDown reconnect) :
    Sound { shared with queue := queue } reconnect next := by
  have shape := pop_entries popped
  have current := sound.queued entry (by simp [shape])
  exact { sound with
    queued := fun other member => sound.queued other (by simp [shape, member])
    in_hand := by simp [inHand, current]
    latched := by simp [latched]
    outage := by simp [outage]
    drained := fun _ lossy down => by
      have empty := sound.drained settled lossy down
      simp [shape] at empty
    assumed := assumed }

theorem Sound.link_up (sound : Sound shared reconnect pc) (info : DeviceInfo)
    (releasing : pc.latched.isSome) (inHand : next.inHand = none)
    (latched : next.latched = pc.latched) (outage : next.outage = false)
    (assumed : next.Assumes shared.cancel false reconnect) :
    Sound (shared.markLinkUp info) reconnect next := by
  obtain ⟨⟨epoch, commissioning⟩, held⟩ := Option.isSome_iff_exists.mp releasing
  have empty := (sound.latched epoch commissioning held).2.2
  exact { sound with
    in_hand := by simp [inHand]
    latched := latched ▸ sound.latched
    outage := by simp [outage]
    drained := fun _ _ _ => empty
    assumed := assumed }

/-- The rest of the shared state is no concern of the invariant. -/
theorem Sound.aside (sound : Sound shared reconnect pc) (linkState : LinkState)
    (refreshInfo : Bool) (lastRelease : Option ReleaseRecord) :
    Sound { shared with
      linkState := linkState
      refreshInfo := refreshInfo
      lastRelease := lastRelease } reconnect pc :=
  { sound with }

/-! ## The producers' steps -/

theorem submit_session {after : Shared} {event : Event}
    (accepted : shared.submit event = .ok after) :
    shared.engaged = true ∧ shared.linkDown = false ∧ shared.shuttingDown = false ∧
      ∃ queue, after = { shared with queue := queue } ∧
        ∀ entry ∈ queue.entries,
          entry ∈ shared.queue.entries ∨ entry.epoch = shared.requestedEpoch := by
  have pushed : ∀ fold fresh, ∀ entry ∈
      (shared.queue.pushMotion shared.requestedEpoch fold fresh).entries,
      entry ∈ shared.queue.entries ∨ entry.epoch = shared.requestedEpoch := by
    intro fold fresh entry member
    obtain ⟨before, run, shape, pushed⟩ :=
      pushMotion_entries shared.queue shared.requestedEpoch fold fresh
    rw [pushed] at member
    rcases List.mem_append.mp member with old | new
    · left
      rcases shape with shape | ⟨tail, shape⟩
      · exact shape ▸ old
      · exact shape ▸ List.mem_append_left _ old
    · right
      rw [List.mem_singleton.mp new]
  have barred : ∀ kind queue, shared.queue.pushBarrier kind shared.requestedEpoch = some queue →
      ∀ entry ∈ queue.entries,
        entry ∈ shared.queue.entries ∨ entry.epoch = shared.requestedEpoch := by
    intro kind queue success entry member
    rw [pushBarrier_entries success] at member
    rcases List.mem_append.mp member with old | new
    · exact Or.inl old
    · right
      rw [List.mem_singleton.mp new]
  have submits := submit_submits shared event
  rw [accepted] at submits
  cases submits with
  | motion admits plain fold fresh =>
      exact ⟨admits.engaged, admits.up, admits.opened, _, rfl, pushed fold fresh⟩
  | transition admits barrier same success =>
      exact ⟨admits.engaged, admits.up, admits.opened, _, rfl, barred _ _ success⟩

theorem Sound.submit {after : Shared} {event : Event} (sound : Sound shared reconnect pc)
    (accepted : shared.submit event = .ok after) : Sound after reconnect pc := by
  obtain ⟨engaged, up, opened, queue, rfl, entries⟩ := submit_session accepted
  obtain ⟨settled, _⟩ := sound.engaged_settled engaged
  exact {
    acked_le := sound.acked_le
    cancel_iff := sound.cancel_iff
    engaged_settled := sound.engaged_settled
    queued := fun entry member => by
      rcases entries entry member with old | new
      · exact sound.queued entry old
      · rw [new]
        exact settled.symm
    in_hand := sound.in_hand
    latched := fun epoch commissioning held => by
      obtain ⟨above, below, _⟩ := sound.latched epoch commissioning held
      omega
    outage := fun out => by
      have down := (sound.outage out).1
      rw [up] at down
      cases down
    drained := fun _ _ down => by
      change shared.linkDown = true at down
      rw [up] at down
      cases down
    assumed := sound.assumed }

theorem engage_session {after : Shared} (accepted : shared.engage = .ok after) :
    shared.shuttingDown = false ∧ shared.requestedEpoch ≤ shared.ackedEpoch ∧
      after = { shared with engaged := true } := by
  unfold Shared.engage at accepted
  split at accepted
  · cases accepted
  rename_i opened
  split at accepted
  · cases accepted
  rename_i acked
  cases accepted
  exact ⟨by simpa using opened, Nat.le_of_not_lt acked, rfl⟩

theorem Sound.engage {after : Shared} (sound : Sound shared reconnect pc)
    (accepted : shared.engage = .ok after) : Sound after reconnect pc := by
  obtain ⟨opened, acked, rfl⟩ := engage_session accepted
  exact { sound with
    engaged_settled := fun _ => ⟨Nat.le_antisymm sound.acked_le acked, opened⟩ }

end Points

/-! ## The writer's steps -/

section Steps
variable {sys next : Sys} {answer : Answer}

theorem transact_sound {origin : Origin} {frame : HidFrame} {unlinked failed sent : Pc}
    (onUnlinked : Input.Sound sys.shared sys.reconnect unlinked)
    (onFailed : Input.Sound sys.shared sys.reconnect failed)
    (onSent : Input.Sound sys.shared sys.reconnect sent)
    (stepped : sys.transact origin frame answer unlinked failed sent = some next) :
    next.Sound := by
  unfold Sys.transact at stepped
  split at stepped
  · cases Option.some.inj stepped
    exact onUnlinked
  · rename_i result _
    cases Option.some.inj stepped
    change Input.Sound sys.shared sys.reconnect (if handed result then sent else failed)
    split
    · exact onSent
    · exact onFailed
  · cases stepped

theorem startWrite_sound {entry : Entry}
    (sound : Input.Sound sys.shared sys.reconnect (.writeEntry entry)) :
    (sys.startWrite entry).Sound := by
  unfold Sys.startWrite
  split
  · exact sound.idle rfl ⟨rfl, rfl, rfl, fun _ _ _ => trivial⟩
  · exact sound.keep (fun _ => rfl) rfl rfl rfl trivial
  · exact sound.keep (fun _ => rfl) rfl rfl rfl trivial

theorem runStep_sound (sound : sys.Sound) (stepped : sys.runStep answer = some next) :
    next.Sound := by
  unfold Sys.runStep at stepped
  unfold Sys.Sound at sound
  split at stepped
  -- `acquire_first_link`
  · rename_i point
    rw [point] at sound
    split at stepped
    · rename_i lossy
      cases Option.some.inj stepped
      have down := sound.assumed lossy
      exact sound.out down (sound.drained rfl lossy down) rfl rfl trivial
    · cases stepped
  · rename_i point
    rw [point] at sound
    split at stepped
    · cases stepped
    · cases Option.some.inj stepped
      exact sound.idle rfl ⟨rfl, rfl, rfl, fun _ _ _ => trivial⟩
  · rename_i point
    rw [point] at sound
    split at stepped
    · cases stepped
    · rename_i lossless
      cases Option.some.inj stepped
      have fixed : sys.reconnect = false := by simpa using lossless
      unfold Sys.Sound
      change Input.Sound sys.shared sys.reconnect .firstLinkFailed
      rw [fixed] at sound ⊢
      exact sound.lossless rfl rfl rfl rfl
  · rename_i point
    rw [point] at sound
    cases Option.some.inj stepped
    change Input.Sound sys.shared.markLinkDown sys.reconnect .loopTop
    have fixed : sys.reconnect = false := sound.assumed
    have lost : Input.Sound sys.shared.markLinkDown sys.reconnect .triggerLinkDown :=
      sound.lose rfl rfl rfl rfl trivial
    rw [fixed] at lost ⊢
    exact lost.lossless rfl rfl rfl trivial
  -- `run`
  · rename_i point
    rw [point] at sound
    cases Option.some.inj stepped
    change Input.Sound sys.shared sys.reconnect (if sys.shared.cancel then _ else _)
    split
    · rename_i cancelled
      exact sound.keep id rfl rfl rfl cancelled
    · rename_i quiet
      exact sound.idle (by simpa [Pc.exposed] using quiet) ⟨rfl, rfl, rfl, fun _ _ _ => trivial⟩
  · rename_i point
    rw [point] at sound
    cases Option.some.inj stepped
    change Input.Sound sys.shared sys.reconnect (if _ then _ else _)
    split <;> exact sound.idle rfl ⟨rfl, rfl, rfl, fun _ _ _ => trivial⟩
  · rename_i point
    rw [point] at sound
    cases Option.some.inj stepped
    change Input.Sound sys.shared sys.reconnect (if _ then _ else _)
    split
    · rename_i outage
      obtain ⟨lossy, down⟩ : sys.reconnect = true ∧ sys.shared.linkDown = true := by
        simpa using outage
      exact sound.out down (sound.drained rfl lossy down) rfl rfl trivial
    · exact sound.idle rfl ⟨rfl, rfl, rfl, fun _ _ _ => trivial⟩
  · rename_i point
    rw [point] at sound
    cases Option.some.inj stepped
    change Input.Sound sys.shared sys.reconnect (if _ then _ else _)
    split <;> exact sound.idle rfl ⟨rfl, rfl, rfl, fun _ _ _ => trivial⟩
  · rename_i point
    rw [point] at sound
    cases Option.some.inj stepped
    change Input.Sound sys.shared sys.reconnect (if _ then _ else _)
    split
    · exact sound.idle rfl ⟨rfl, rfl, rfl, fun _ _ _ => trivial⟩
    · exact sound.keep (fun _ => rfl) rfl rfl rfl trivial
  · rename_i point
    rw [point] at sound
    split at stepped
    · cases Option.some.inj stepped
      exact sound.idle rfl ⟨rfl, rfl, rfl, fun _ _ _ => trivial⟩
    · cases Option.some.inj stepped
      exact sound.keep (fun _ => rfl) rfl rfl rfl trivial
  · rename_i point
    rw [point] at sound
    cases Option.some.inj stepped
    exact startWrite_sound sound
  -- `write_frame` under `write_entry`
  · rename_i point
    rw [point] at sound
    refine transact_sound ?_ ?_ ?_ stepped
    all_goals exact sound.idle rfl ⟨rfl, rfl, rfl, fun _ _ _ => trivial⟩
  · rename_i point
    rw [point] at sound
    unfold Sys.flushReport at stepped
    split at stepped
    refine transact_sound ?_ ?_ ?_ stepped
    · exact sound.idle rfl ⟨rfl, rfl, rfl, fun _ _ _ => trivial⟩
    · exact sound.idle rfl ⟨rfl, rfl, rfl, fun _ _ _ => trivial⟩
    · exact sound.keep (fun _ => rfl) rfl rfl rfl trivial
  · rename_i point
    rw [point] at sound
    split at stepped
    · cases Option.some.inj stepped
      change Input.Sound sys.shared sys.reconnect (if _ then _ else _)
      split
      · exact sound.idle rfl ⟨rfl, rfl, rfl, fun _ _ _ => trivial⟩
      · exact sound.keep (fun _ => rfl) rfl rfl rfl trivial
    · cases Option.some.inj stepped
      exact sound.idle rfl ⟨rfl, rfl, rfl, fun _ _ _ => trivial⟩
  · rename_i point
    rw [point] at sound
    cases Option.some.inj stepped
    exact sound.lose rfl rfl rfl rfl trivial
  · rename_i point
    rw [point] at sound
    cases Option.some.inj stepped
    exact (sound.raise _ _).keep nofun rfl rfl rfl trivial
  · cases stepped

theorem nextEntryStep_sound (sound : sys.Sound) (stepped : sys.nextEntryStep answer = some next) :
    next.Sound := by
  unfold Sys.nextEntryStep at stepped
  unfold Sys.Sound at sound
  split at stepped
  · rename_i point
    rw [point] at sound
    split at stepped
    · cases Option.some.inj stepped
      exact sound.idle rfl ⟨rfl, rfl, rfl, fun _ _ _ => trivial⟩
    · split at stepped
      · rename_i popped
        cases Option.some.inj stepped
        exact sound.pop rfl popped rfl rfl rfl trivial
      · cases Option.some.inj stepped
        exact sound.idle rfl ⟨rfl, rfl, rfl, fun _ _ _ => trivial⟩
  · rename_i point
    rw [point] at sound
    cases Option.some.inj stepped
    exact sound.idle rfl ⟨rfl, rfl, rfl, fun _ _ _ => trivial⟩
  · rename_i point
    rw [point] at sound
    cases Option.some.inj stepped
    change Input.Sound sys.shared sys.reconnect (if _ then _ else _)
    split <;> exact sound.idle rfl ⟨rfl, rfl, rfl, fun _ _ _ => trivial⟩
  · rename_i point
    rw [point] at sound
    cases Option.some.inj stepped
    change Input.Sound sys.shared sys.reconnect (if _ then _ else _)
    split <;> exact sound.idle rfl ⟨rfl, rfl, rfl, fun _ _ _ => trivial⟩
  · rename_i point
    rw [point] at sound
    cases Option.some.inj stepped
    exact sound.lose rfl rfl rfl rfl trivial
  · rename_i point
    rw [point] at sound
    cases Option.some.inj stepped
    exact (sound.raise _ _).keep nofun rfl rfl rfl trivial
  · cases stepped

theorem finished_keeps (owner : Release) (outcome : ReleaseOutcome) :
    (owner.finished outcome).inHand = none ∧
      (owner.finished outcome).latched = some (owner.epoch, owner.commissioning) ∧
      (owner.finished outcome).outage = owner.outage ∧
      (∀ cancel linkDown reconnect,
        (owner.finished outcome).Assumes cancel linkDown reconnect) ∧
      (∀ cancel, (owner.finished outcome).exposed cancel = false) := by
  cases owner <;> cases outcome <;> exact ⟨rfl, rfl, rfl, fun _ _ _ => trivial, fun _ => rfl⟩

theorem release_finished {owner : Release} {frames : List HidFrame} (outcome : ReleaseOutcome)
    (sound : Input.Sound sys.shared sys.reconnect (.release owner frames)) :
    Input.Sound sys.shared sys.reconnect (owner.finished outcome) := by
  obtain ⟨inHand, latched, outage, assumed, _⟩ := finished_keeps owner outcome
  exact sound.keep (fun _ => rfl) inHand latched outage (assumed _ _ _)

theorem cancellationStep_sound (sound : sys.Sound)
    (stepped : sys.cancellationStep answer = some next) : next.Sound := by
  unfold Sys.cancellationStep at stepped
  unfold Sys.Sound at sound
  split at stepped
  · rename_i point
    rw [point] at sound
    cases Option.some.inj stepped
    exact sound.latch rfl rfl rfl trivial
  · rename_i point
    rw [point] at sound
    split at stepped
    · cases Option.some.inj stepped
      exact sound.keep (fun _ => rfl) rfl rfl rfl trivial
    · cases Option.some.inj stepped
      exact sound.keep (fun _ => rfl) rfl rfl rfl trivial
  · rename_i point
    rw [point] at sound
    cases Option.some.inj stepped
    exact release_finished .submitted sound
  · rename_i point
    rw [point] at sound
    refine transact_sound ?_ ?_ ?_ stepped
    · exact release_finished .unsent sound
    · exact sound.keep (fun _ => rfl) rfl rfl rfl trivial
    · exact sound.keep (fun _ => rfl) rfl rfl rfl trivial
  · rename_i owner point
    rw [point] at sound
    cases Option.some.inj stepped
    obtain ⟨inHand, latched, _, assumed, _⟩ := finished_keeps owner .unsent
    exact sound.lose_latched rfl inHand latched (assumed _ _ _)
  · rename_i point
    rw [point] at sound
    cases Option.some.inj stepped
    exact (sound.aside _ _ _).keep (fun _ => rfl) rfl rfl rfl trivial
  · rename_i caller epoch point
    rw [point] at sound
    cases Option.some.inj stepped
    cases caller with
    | run => exact sound.acknowledge rfl rfl rfl nofun trivial
    | backoff initial =>
        exact sound.acknowledge rfl rfl rfl (fun _ => (sound.outage rfl).1) trivial
  · cases stepped

/-- A refresh leaves the session as it found it, whoever called for it. -/
theorem refreshStep_sound (sound : sys.Sound) (stepped : sys.refreshStep answer = some next) :
    next.Sound := by
  unfold Sys.refreshStep at stepped
  unfold Sys.Sound at sound
  split at stepped
  · rename_i point
    rw [point] at sound
    cases Option.some.inj stepped
    exact (sound.aside _ _ _).keep (fun _ => rfl) rfl rfl rfl trivial
  · rename_i point
    rw [point] at sound
    cases Option.some.inj stepped
    change Input.Sound sys.shared sys.reconnect (if _ then _ else _)
    split <;> exact sound.keep (fun _ => rfl) rfl rfl rfl trivial
  · rename_i point
    rw [point] at sound
    cases Option.some.inj stepped
    exact sound.keep (fun _ => rfl) rfl rfl rfl trivial
  · rename_i point
    rw [point] at sound
    cases Option.some.inj stepped
    exact sound.keep (fun _ => rfl) rfl rfl rfl trivial
  · rename_i caller info point
    rw [point] at sound
    have resumed : Input.Sound sys.shared sys.reconnect caller.resume := by
      cases caller with
      | run => exact sound.idle rfl ⟨rfl, rfl, rfl, fun _ _ _ => trivial⟩
      | backoff initial => exact sound.stay_out rfl rfl rfl trivial
    split at stepped
    · cases Option.some.inj stepped
      exact resumed.aside _ _ _
    · cases Option.some.inj stepped
      exact resumed.aside _ _ _
  · cases stepped

theorem acquireStep_sound (sound : sys.Sound) (stepped : sys.acquireStep answer = some next) :
    next.Sound := by
  unfold Sys.acquireStep at stepped
  unfold Sys.Sound at sound
  split at stepped
  · rename_i initial point
    rw [point] at sound
    cases Option.some.inj stepped
    change Input.Sound sys.shared sys.reconnect (if _ then _ else _)
    split <;> exact sound.stay_out rfl rfl rfl trivial
  · rename_i point
    rw [point] at sound
    cases Option.some.inj stepped
    change Input.Sound sys.shared sys.reconnect (if _ then _ else _)
    split <;> exact sound.stay_out rfl rfl rfl trivial
  · rename_i point
    rw [point] at sound
    cases Option.some.inj stepped
    change Input.Sound sys.shared sys.reconnect (if _ then _ else _)
    split
    · rename_i cancelled
      exact sound.stay_out rfl rfl rfl cancelled
    · exact sound.stay_out rfl rfl rfl trivial
  · rename_i point
    rw [point] at sound
    cases Option.some.inj stepped
    change Input.Sound sys.shared sys.reconnect (if _ then _ else _)
    split <;> exact sound.stay_out rfl rfl rfl trivial
  · rename_i point
    rw [point] at sound
    split at stepped
    · cases Option.some.inj stepped
      exact sound.stay_out rfl rfl rfl trivial
    · cases Option.some.inj stepped
      change Input.Sound sys.shared sys.reconnect (if _ then _ else _)
      split <;> exact sound.stay_out rfl rfl rfl trivial
  · rename_i point
    rw [point] at sound
    cases Option.some.inj stepped
    exact sound.stay_out rfl rfl rfl trivial
  · rename_i point
    rw [point] at sound
    split at stepped <;> cases Option.some.inj stepped <;>
      exact sound.stay_out rfl rfl rfl trivial
  · rename_i point
    rw [point] at sound
    split at stepped
    · cases Option.some.inj stepped
      exact sound.stay_out rfl rfl rfl trivial
    · cases Option.some.inj stepped
      exact sound.stay_out rfl rfl rfl trivial
    · cases Option.some.inj stepped
      exact sound.stay_out rfl rfl rfl trivial
    · split at stepped <;> cases Option.some.inj stepped <;>
        exact sound.stay_out rfl rfl rfl trivial
    · cases stepped
  · rename_i point
    rw [point] at sound
    cases Option.some.inj stepped
    exact sound.stay_out rfl rfl rfl trivial
  · cases stepped

theorem commissionStep_sound (sound : sys.Sound)
    (stepped : sys.commissionStep answer = some next) : next.Sound := by
  unfold Sys.commissionStep at stepped
  unfold Sys.Sound at sound
  split at stepped
  · rename_i initial point
    rw [point] at sound
    cases Option.some.inj stepped
    exact sound.begin_reconnect _ _ rfl
  · rename_i ok point
    rw [point] at sound
    cases Option.some.inj stepped
    change Input.Sound sys.shared sys.reconnect (if _ then _ else _)
    split <;> exact sound.keep (fun _ => rfl) rfl rfl rfl trivial
  · rename_i initial epoch reason point
    rw [point] at sound
    cases Option.some.inj stepped
    have empty := (sound.latched epoch true rfl).2.2
    have same : (sys.shared.queue.drainUpto epoch).entries = sys.shared.queue.entries := by
      rw [drainUpto_entries, empty, List.filter_nil]
    exact (sound.requeue same).keep (fun _ => rfl) rfl rfl rfl trivial
  · rename_i point
    rw [point] at sound
    cases Option.some.inj stepped
    exact sound.keep (fun _ => rfl) rfl rfl rfl trivial
  · rename_i point
    rw [point] at sound
    cases Option.some.inj stepped
    exact sound.keep (fun _ => rfl) rfl rfl rfl trivial
  · rename_i info point
    rw [point] at sound
    cases Option.some.inj stepped
    cases info with
    | none => exact (sound.aside _ _ _).keep (fun _ => rfl) rfl rfl rfl trivial
    | some info => exact (sound.aside _ _ _).keep (fun _ => rfl) rfl rfl rfl trivial
  · rename_i info point
    rw [point] at sound
    cases Option.some.inj stepped
    exact sound.link_up _ rfl rfl rfl rfl trivial
  · rename_i accepted point
    rw [point] at sound
    split at stepped
    · cases Option.some.inj stepped
      exact sound.acknowledge rfl rfl rfl nofun trivial
    · rename_i rejected
      cases Option.some.inj stepped
      exact sound.acknowledge rfl rfl rfl
        (fun _ => (sound.outage (by simpa [Pc.outage] using rejected)).1) trivial
  · cases stepped

end Steps

/-! ## Every step -/

theorem writerStep_sound {sys next : Sys} {answer : Answer} (sound : sys.Sound)
    (stepped : sys.writerStep answer = some next) : next.Sound := by
  unfold Sys.writerStep at stepped
  split at stepped <;> first
    | exact runStep_sound sound stepped
    | exact nextEntryStep_sound sound stepped
    | exact cancellationStep_sound sound stepped
    | exact refreshStep_sound sound stepped
    | exact acquireStep_sound sound stepped
    | exact commissionStep_sound sound stepped

theorem step_sound (label : Label) (sys next : Sys) (sound : sys.Sound)
    (stepped : step label sys = some next) : next.Sound := by
  cases label with
  | submit thread event =>
      simp only [step] at stepped
      split at stepped
      · cases stepped
      · cases Option.some.inj stepped
        unfold Sys.submit
        cases accepted : sys.shared.submit event with
        | ok shared => exact Sound.submit sound accepted
        | error refusal => cases refusal <;> exact sound
  | overflowTrigger thread =>
      simp only [step] at stepped
      split at stepped
      · cases Option.some.inj stepped
        exact Sound.raise sound _ _
      · cases stepped
  | requestReleaseAll reason =>
      cases Option.some.inj stepped
      exact Sound.raise sound _ _
  | engage =>
      cases Option.some.inj stepped
      unfold Sys.engage
      cases accepted : sys.shared.engage with
      | ok shared => exact Sound.engage sound accepted
      | error refusal => exact sound
  | refreshDeviceInfo =>
      cases Option.some.inj stepped
      exact Sound.aside sound _ _ _
  | beginShutdown =>
      cases Option.some.inj stepped
      exact Sound.raise sound _ _
  | helperSends opened =>
      simp only [step, Sys.helperSends] at stepped
      split at stepped
      · cases Option.some.inj stepped
        exact sound
      · cases Option.some.inj stepped
        exact sound
      · cases stepped
  | helperDies =>
      simp only [step, Sys.helperDies] at stepped
      split at stepped
      · cases Option.some.inj stepped
        exact sound
      · cases Option.some.inj stepped
        exact sound
      · cases stepped
  | writer answer => exact writerStep_sound sound stepped

/-- A state some run of the threads leads to. -/
def Sys.Reached (maxBarriers : Nat) (reconnect : Bool) : Sys → Prop :=
  Reachable step (· = Sys.start maxBarriers reconnect)

/-- Where a run of these labels leads; the fresh state where there is no such run. -/
def Sys.after (maxBarriers : Nat) (reconnect : Bool) (labels : List Label) : Sys :=
  (run step labels (Sys.start maxBarriers reconnect)).getD (Sys.start maxBarriers reconnect)

theorem after_reached (maxBarriers : Nat) (reconnect : Bool) (labels : List Label) :
    (Sys.after maxBarriers reconnect labels).Reached maxBarriers reconnect := by
  unfold Sys.after
  cases success : run step labels (Sys.start maxBarriers reconnect) with
  | none => exact ⟨_, [], rfl, rfl⟩
  | some sys => exact ⟨_, labels, rfl, success⟩

theorem reached_sound {maxBarriers : Nat} {reconnect : Bool} {sys : Sys}
    (reached : sys.Reached maxBarriers reconnect) : sys.Sound := by
  refine reachable_preserves ?_ step_sound reached
  intro state started
  rw [started]
  exact sound_start maxBarriers reconnect

end NanoKvm.Input
