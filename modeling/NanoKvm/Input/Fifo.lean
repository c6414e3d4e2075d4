import NanoKvm.Input.Agreement

/-!
# First in, first out

The transitions of a session pass through submission, queue and take-up in one
order.  What is popped and what is queued make up what was accepted until the
next release drains the queue; a refusal for a lost link is never followed by
an acceptance, and a failed report never by a take-up.
-/

set_option autoImplicit false

namespace NanoKvm.Input

open NanoKvm.Proto NanoKvm.Lib

/-! ## What a submission does to the transitions queued -/

/-- The transitions of `epoch` among these entries. -/
def queuedIn (epoch : Nat) (entries : List Entry) : List EntryKind :=
  entries.filterMap (Entry.transition epoch)

@[simp] theorem queuedIn_append (epoch : Nat) (first second : List Entry) :
    queuedIn epoch (first ++ second) = queuedIn epoch first ++ queuedIn epoch second :=
  List.filterMap_append

theorem queuedIn_motion (epoch under : Nat) (motion : MotionRun) :
    queuedIn epoch [⟨.motion motion, under⟩] = [] := by
  simp [queuedIn, Entry.transition, EntryKind.isBarrier]

theorem queuedIn_length {epoch : Nat} {entries : List Entry}
    (current : ∀ entry ∈ entries, entry.epoch = epoch) :
    (queuedIn epoch entries).length = entries.countP fun entry => entry.kind.isBarrier := by
  induction entries with
  | nil => rfl
  | cons entry rest ih =>
      have here := current entry List.mem_cons_self
      have there := ih fun other member => current other (List.mem_cons_of_mem entry member)
      unfold queuedIn at there ⊢
      cases barrier : entry.kind.isBarrier <;>
        simp [Entry.transition, here, barrier, there]

/-- The queue counts its own transitions. -/
def QueueState.Counted (queue : QueueState) : Prop :=
  queue.barriers = queue.entries.countP fun entry => entry.kind.isBarrier

/-- What one accepted event adds to the queue. -/
structure QueueState.Gains (queue after : QueueState) (under : Nat) (event : Event) : Prop where
  transitions : ∀ epoch, queuedIn epoch after.entries =
    queuedIn epoch queue.entries ++ (if under = epoch then event.transition else none).toList
  counted : queue.Counted → after.Counted
  maxBarriers : after.maxBarriers = queue.maxBarriers

theorem pushMotion_gains (queue : QueueState) (under : Nat) (fold : MotionRun → MotionRun)
    (fresh : MotionRun) {event : Event} (motion : event.transition = none) :
    queue.Gains (queue.pushMotion under fold fresh) under event := by
  obtain ⟨before, run, shape, pushed⟩ := pushMotion_entries queue under fold fresh
  have kept : (queue.pushMotion under fold fresh).barriers = queue.barriers ∧
      (queue.pushMotion under fold fresh).maxBarriers = queue.maxBarriers := by
    unfold QueueState.pushMotion
    split <;> exact ⟨rfl, rfl⟩
  refine ⟨fun epoch => ?_, fun counted => ?_, kept.2⟩
  · rw [pushed, queuedIn_append, queuedIn_motion, motion, List.append_nil]
    rcases shape with shape | ⟨tail, shape⟩
    · simp [shape]
    · simp [shape, queuedIn_motion]
  · unfold QueueState.Counted at counted ⊢
    rw [pushed, kept.1, counted]
    rcases shape with shape | ⟨tail, shape⟩
    · simp [shape, EntryKind.isBarrier]
    · simp [shape, EntryKind.isBarrier]

theorem pushBarrier_gains {queue after : QueueState} {kind : EntryKind} {under : Nat}
    {event : Event} (barrier : kind.isBarrier = true) (same : event.transition = some kind)
    (pushed : queue.pushBarrier kind under = some after) : queue.Gains after under event := by
  have entries := pushBarrier_entries pushed
  have kept : after.barriers = queue.barriers + 1 ∧ after.maxBarriers = queue.maxBarriers := by
    unfold QueueState.pushBarrier at pushed
    split at pushed
    · cases pushed
    · cases pushed
      exact ⟨rfl, rfl⟩
  refine ⟨fun epoch => ?_, fun counted => ?_, kept.2⟩
  · rw [entries, queuedIn_append, same]
    by_cases here : under = epoch
    · simp [queuedIn, Entry.transition, here, barrier]
    · simp [queuedIn, Entry.transition, here]
  · unfold QueueState.Counted at counted ⊢
    rw [entries, kept.1, counted]
    simp [barrier]

theorem submit_gains {shared after : Shared} {event : Event}
    (accepted : shared.submit event = .ok after) :
    shared.queue.Gains after.queue shared.requestedEpoch event := by
  have submits := submit_submits shared event
  rw [accepted] at submits
  cases submits with
  | motion admits plain fold fresh => exact pushMotion_gains _ _ fold fresh plain
  | transition admits barrier same pushed => exact pushBarrier_gains barrier same pushed

/-- Only a transition overflows, and only at the bound. -/
theorem submit_overflow {shared : Shared} {event : Event}
    (refused : shared.submit event = .error .overflow) :
    shared.engaged = true ∧ shared.linkDown = false ∧
      shared.queue.maxBarriers ≤ shared.queue.barriers := by
  have submits := submit_submits shared event
  rw [refused] at submits
  cases submits with
  | overflow admits same full =>
      refine ⟨admits.engaged, admits.up, ?_⟩
      by_contra room
      simp [QueueState.pushBarrier, room] at full

theorem submit_linkDown {shared : Shared} {event : Event}
    (refused : shared.submit event = .error .linkDown) :
    shared.engaged = true ∧ shared.linkDown = true := by
  have submits := submit_submits shared event
  rw [refused] at submits
  cases submits with
  | linkDown engaged down => exact ⟨engaged, down⟩

/-! ## The invariant -/

/-- The transition popped and not yet taken up. -/
def Duty.held (epoch : Nat) : Duty → Option EntryKind
  | .holding entry => entry.transition epoch
  | _ => none

structure Fifo (bound : Nat) (view : View) : Prop where
  maxBarriers : view.shared.queue.maxBarriers = bound
  counted : view.shared.queue.Counted
  current : ∀ entry ∈ view.shared.queue.entries, entry.epoch = view.shared.ackedEpoch
  popped : ∀ epoch, poppedIn epoch view.log <+: acceptedIn epoch view.log
  taken : ∀ epoch, takenIn epoch view.log <+: poppedIn epoch view.log
  queued : view.duty.latched = none →
    poppedIn view.shared.ackedEpoch view.log ++
        queuedIn view.shared.ackedEpoch view.shared.queue.entries =
      acceptedIn view.shared.ackedEpoch view.log
  held : view.shared.linkDown = false → view.duty.latched = none →
    takenIn view.shared.ackedEpoch view.log ++
        (view.duty.held view.shared.ackedEpoch).toList =
      poppedIn view.shared.ackedEpoch view.log
  fresh : ∀ epoch, view.shared.ackedEpoch < epoch → acceptedIn epoch view.log = []
  refused : ∀ epoch, RefusedDown view.log epoch → epoch < view.shared.ackedEpoch ∨
    (epoch = view.shared.ackedEpoch ∧
      (view.shared.linkDown = true ∨ view.duty.latched.isSome = true))
  failed : Failed view.log view.shared.ackedEpoch → view.duty = .failing ∨
    (view.shared.ackedEpoch < view.shared.requestedEpoch ∧ view.duty.inHand = none)
  failedPast : ∀ epoch, Failed view.log epoch → epoch ≤ view.shared.ackedEpoch

section Preserved
variable {bound : Nat} {view next : View}

/-- The same entries, counted and bounded alike; only the pending reason may differ. -/
structure QueueState.Same (queue after : QueueState) : Prop where
  entries : after.entries = queue.entries
  barriers : after.barriers = queue.barriers
  maxBarriers : after.maxBarriers = queue.maxBarriers

theorem same_queue {queue after : QueueState} (same : after = queue) : queue.Same after := by
  rw [same]
  exact ⟨rfl, rfl, rfl⟩

theorem raise_queue (shared : Shared) (slot : ReasonSlot) (shuttingDown : Bool) :
    shared.queue.Same (shared.raise slot shuttingDown).queue := by
  refine ⟨raise_entries shared slot shuttingDown, ?_, ?_⟩ <;>
  · cases slot with
    | take => rfl
    | note reason =>
        simp only [Shared.raise, ReasonSlot.apply, QueueState.noteReason]
        split
        · rfl
        · split <;> rfl

/-- Two logs that say the same of every transition and every refusal. -/
structure SameRecord (log after : List Happening) : Prop where
  accepted : ∀ epoch, acceptedIn epoch after = acceptedIn epoch log
  popped : ∀ epoch, poppedIn epoch after = poppedIn epoch log
  taken : ∀ epoch, takenIn epoch after = takenIn epoch log
  refused : ∀ epoch, RefusedDown after epoch → RefusedDown log epoch
  failed : ∀ epoch, Failed after epoch → Failed log epoch

theorem SameRecord.refl (log : List Happening) : SameRecord log log :=
  ⟨fun _ => rfl, fun _ => rfl, fun _ => rfl, fun _ => id, fun _ => id⟩

theorem refusedDown_snoc {log : List Happening} {happening : Happening} {epoch : Nat}
    (refused : RefusedDown (log ++ [happening]) epoch) :
    RefusedDown log epoch ∨ ∃ event, happening = .submitted event epoch (.error .linkDown) := by
  obtain ⟨event, member⟩ := refused
  rcases List.mem_append.mp member with old | new
  · exact Or.inl ⟨event, old⟩
  · exact Or.inr ⟨event, (List.mem_singleton.mp new).symm⟩

theorem failed_snoc {log : List Happening} {happening : Happening} {epoch : Nat}
    (failed : Failed (log ++ [happening]) epoch) :
    Failed log epoch ∨ ∃ frame result,
      happening = .wrote (.entry epoch) frame result ∧ handed result = false := by
  obtain ⟨frame, result, member, lost⟩ := failed
  rcases List.mem_append.mp member with old | new
  · exact Or.inl ⟨frame, result, old, lost⟩
  · exact Or.inr ⟨frame, result, (List.mem_singleton.mp new).symm, lost⟩

theorem SameRecord.note (log : List Happening) (happening : Happening)
    (accepted : ∀ epoch, happening.acceptedUnder epoch = none)
    (popped : ∀ epoch, happening.poppedUnder epoch = none)
    (taken : ∀ epoch, happening.takenUnder epoch = none)
    (refused : ∀ event epoch, happening ≠ .submitted event epoch (.error .linkDown))
    (failed : ∀ epoch frame result, happening ≠ .wrote (.entry epoch) frame result) :
    SameRecord log (log ++ [happening]) where
  accepted epoch := by simp [accepted]
  popped epoch := by simp [popped]
  taken epoch := by simp [taken]
  refused epoch member := (refusedDown_snoc member).resolve_right
    fun ⟨event, same⟩ => refused event epoch same
  failed epoch member := (failed_snoc member).resolve_right
    fun ⟨frame, result, same, _⟩ => failed epoch frame result same

/-- The same record, queue and acknowledged epoch; the duty and the link may change. -/
theorem Fifo.same {after : View} (told : Fifo bound view) (record : SameRecord view.log after.log)
    (queue : view.shared.queue.Same after.shared.queue)
    (acked : after.shared.ackedEpoch = view.shared.ackedEpoch)
    (free : after.duty.latched = none → view.duty.latched = none)
    (up : after.shared.linkDown = false → after.duty.latched = none →
      view.shared.linkDown = false ∧
        after.duty.held view.shared.ackedEpoch = view.duty.held view.shared.ackedEpoch)
    (failing : view.duty = .failing ∨
        (view.shared.ackedEpoch < view.shared.requestedEpoch ∧ view.duty.inHand = none) →
      after.duty = .failing ∨
        (after.shared.ackedEpoch < after.shared.requestedEpoch ∧ after.duty.inHand = none)) :
    Fifo bound after where
  maxBarriers := queue.maxBarriers.trans told.maxBarriers
  counted := by
    unfold QueueState.Counted
    rw [queue.barriers, queue.entries]
    exact told.counted
  current := by rw [queue.entries, acked]; exact told.current
  popped epoch := by rw [record.popped, record.accepted]; exact told.popped epoch
  taken epoch := by rw [record.taken, record.popped]; exact told.taken epoch
  queued unlatched := by
    rw [acked, queue.entries, record.popped, record.accepted]
    exact told.queued (free unlatched)
  held live unlatched := by
    obtain ⟨before, same⟩ := up live unlatched
    rw [acked, record.taken, record.popped, same]
    exact told.held before (free unlatched)
  fresh epoch above := by rw [record.accepted]; exact told.fresh epoch (acked ▸ above)
  refused epoch refused := by
    rw [acked]
    refine (told.refused epoch (record.refused epoch refused)).imp_right fun ⟨here, lost⟩ => ?_
    refine ⟨here, ?_⟩
    by_cases live : after.shared.linkDown = true
    · exact Or.inl live
    · by_cases unlatched : after.duty.latched = none
      · obtain ⟨before, _⟩ := up (by simpa using live) unlatched
        rw [before, free unlatched] at lost
        simp at lost
      · exact Or.inr (Option.isSome_iff_ne_none.mpr unlatched)
  failed lost := failing (told.failed (acked ▸ record.failed _ lost))
  failedPast epoch lost := acked ▸ told.failedPast epoch (record.failed epoch lost)

/-- Only the duty changes, and not to or from a transition held or a release. -/
theorem Fifo.turn {duty : Duty} (told : Fifo bound view)
    (latched : duty.latched = none → view.duty.latched = none)
    (held : duty.latched = none →
      duty.held view.shared.ackedEpoch = view.duty.held view.shared.ackedEpoch)
    (failing : view.duty = .failing ∨
        (view.shared.ackedEpoch < view.shared.requestedEpoch ∧ view.duty.inHand = none) →
      duty = .failing ∨
        (view.shared.ackedEpoch < view.shared.requestedEpoch ∧ duty.inHand = none)) :
    Fifo bound { view with duty := duty } :=
  told.same (SameRecord.refl _) (same_queue rfl) rfl latched
    (fun live free => ⟨live, held free⟩) failing

/-- The log gains something that is neither submission, entry nor report of one. -/
theorem Fifo.note (told : Fifo bound view) (happening : Happening)
    (accepted : ∀ epoch, happening.acceptedUnder epoch = none)
    (popped : ∀ epoch, happening.poppedUnder epoch = none)
    (taken : ∀ epoch, happening.takenUnder epoch = none)
    (refused : ∀ event epoch, happening ≠ .submitted event epoch (.error .linkDown))
    (failed : ∀ epoch frame result, happening ≠ .wrote (.entry epoch) frame result) :
    Fifo bound { view with log := view.log ++ [happening] } :=
  told.same (SameRecord.note _ _ accepted popped taken refused failed) (same_queue rfl) rfl id
    (fun live _ => ⟨live, rfl⟩) id

theorem Fifo.keep {after : Shared} (told : Fifo bound view) (keeps : view.shared.Keeps after)
    (up : after.linkDown = false →
      view.shared.linkDown = false ∨ view.duty.latched.isSome = true) :
    Fifo bound { view with shared := after } := by
  refine told.same (SameRecord.refl _) (same_queue keeps.queue) keeps.acked id (fun live free => ?_)
    fun lost => ?_
  · have before := (up live).resolve_right (by rw [free]; simp)
    exact ⟨before, rfl⟩
  · change _ ∨ after.ackedEpoch < after.requestedEpoch ∧ _
    rw [keeps.acked, keeps.requested]
    exact lost

attribute [local simp] Happening.acceptedUnder Happening.poppedUnder Happening.takenUnder
  Duty.held

theorem Fifo.submit {event : Event} {after : Shared} (told : Fifo bound view)
    (accepted : view.shared.submit event = .ok after)
    (settled : view.shared.ackedEpoch = view.shared.requestedEpoch)
    (free : view.duty.latched = none) :
    Fifo bound { view with
      shared := after
      log := view.log ++ [.submitted event view.shared.requestedEpoch (.ok ())] } := by
  obtain ⟨_, up, _, queue, rfl, entries⟩ := submit_session accepted
  have gains := submit_gains accepted
  have record : ∀ epoch, acceptedIn epoch
      (view.log ++ [Happening.submitted event view.shared.requestedEpoch (.ok ())]) =
      acceptedIn epoch view.log ++
        (if view.shared.requestedEpoch = epoch then event.transition else none).toList :=
    fun epoch => acceptedIn_snoc _ _ _
  exact {
    maxBarriers := gains.maxBarriers.trans told.maxBarriers
    counted := gains.counted told.counted
    current := fun entry member => by
      rcases entries entry member with old | new
      · exact told.current entry old
      · exact new.trans settled.symm
    popped := fun epoch => by
      rw [poppedIn_snoc, record]
      simp only [Happening.poppedUnder, Option.toList_none, List.append_nil]
      exact (told.popped epoch).trans (List.prefix_append _ _)
    taken := fun epoch => by
      rw [takenIn_snoc, poppedIn_snoc]
      simpa using told.taken epoch
    queued := fun _ => by
      have before := told.queued free
      change poppedIn view.shared.ackedEpoch (view.log ++ [_]) ++
        queuedIn view.shared.ackedEpoch queue.entries = acceptedIn view.shared.ackedEpoch _
      rw [record, gains.transitions, ← before, poppedIn_snoc]
      simp [List.append_assoc]
    held := fun _ _ => by
      have before := told.held up free
      change takenIn view.shared.ackedEpoch (view.log ++ [_]) ++ _ =
        poppedIn view.shared.ackedEpoch (view.log ++ [_])
      rw [takenIn_snoc, poppedIn_snoc]
      simpa using before
    fresh := fun epoch above => by
      have apart : ¬ view.shared.requestedEpoch = epoch := by
        change view.shared.ackedEpoch < epoch at above
        omega
      rw [record, if_neg apart, told.fresh epoch above]
      rfl
    refused := fun epoch refused =>
      told.refused epoch ((refusedDown_snoc refused).resolve_right nofun)
    failed := fun lost => told.failed ((failed_snoc lost).resolve_right nofun)
    failedPast := fun epoch lost =>
      told.failedPast epoch ((failed_snoc lost).resolve_right nofun) }

theorem pop_counted {entry : Entry} {queue after : QueueState} (counted : queue.Counted)
    (popped : queue.pop = some (entry, after)) :
    after.Counted ∧ after.maxBarriers = queue.maxBarriers := by
  unfold QueueState.pop at popped
  unfold QueueState.Counted at counted ⊢
  split at popped
  · cases popped
  · rename_i head rest shape
    cases popped
    rw [shape] at counted
    refine ⟨?_, rfl⟩
    cases barrier : entry.kind.isBarrier <;> simp [barrier] at counted ⊢ <;> omega

theorem Fifo.pop {entry : Entry} {queue : QueueState} (told : Fifo bound view)
    (duty : view.duty = .idle) (popped : view.shared.queue.pop = some (entry, queue))
    (current : entry.epoch = view.shared.ackedEpoch)
    (settled : view.shared.ackedEpoch = view.shared.requestedEpoch) :
    Fifo bound { view with
      duty := .holding entry
      shared := { view.shared with queue := queue }
      log := view.log ++ [.popped entry] } := by
  have shape := pop_entries popped
  obtain ⟨counted, maxBarriers⟩ := pop_counted told.counted popped
  have free : view.duty.latched = none := by rw [duty]; rfl
  have order : poppedIn view.shared.ackedEpoch (view.log ++ [Happening.popped entry]) ++
      queuedIn view.shared.ackedEpoch queue.entries =
        acceptedIn view.shared.ackedEpoch view.log := by
    rw [← told.queued free, shape, poppedIn_snoc, List.append_assoc]
    congr 1
    cases held : entry.transition view.shared.ackedEpoch <;>
      simp [queuedIn, held]
  have accepted : ∀ epoch, acceptedIn epoch (view.log ++ [Happening.popped entry]) =
      acceptedIn epoch view.log := fun epoch => by simp
  exact {
    maxBarriers := maxBarriers.trans told.maxBarriers
    counted := counted
    current := fun other member => told.current other (shape ▸ List.mem_cons_of_mem entry member)
    popped := fun epoch => by
      rw [accepted]
      by_cases here : epoch = view.shared.ackedEpoch
      · rw [here, ← order]
        exact List.prefix_append _ _
      · have none : entry.transition epoch = none := by
          simp [Entry.transition, current, Ne.symm here]
        simpa [none] using told.popped epoch
    taken := fun epoch => by
      rw [takenIn_snoc, poppedIn_snoc]
      simp only [Happening.takenUnder, Option.toList_none, List.append_nil]
      exact (told.taken epoch).trans (List.prefix_append _ _)
    queued := fun _ => by
      rw [accepted]
      exact order
    held := fun live _ => by
      have before := told.held live free
      rw [duty] at before
      change takenIn view.shared.ackedEpoch (view.log ++ [Happening.popped entry]) ++
        (entry.transition view.shared.ackedEpoch).toList =
          poppedIn view.shared.ackedEpoch (view.log ++ [Happening.popped entry])
      rw [takenIn_snoc, poppedIn_snoc, ← before]
      simp
    fresh := fun epoch above => by
      rw [accepted]
      exact told.fresh epoch above
    refused := fun epoch refused => by
      have before := told.refused epoch ((refusedDown_snoc refused).resolve_right nofun)
      rw [duty] at before
      exact before
    failed := fun lost => by
      have before := told.failed ((failed_snoc lost).resolve_right nofun)
      rw [duty] at before
      rcases before with failing | ⟨behind, _⟩
      · cases failing
      · change view.shared.ackedEpoch < view.shared.requestedEpoch at behind
        omega
    failedPast := fun epoch lost =>
      told.failedPast epoch ((failed_snoc lost).resolve_right nofun) }

theorem Fifo.refuse {event : Event} {refusal : SubmitError} (told : Fifo bound view)
    (refused : view.shared.submit event = .error refusal)
    (settled : view.shared.engaged = true →
      view.shared.ackedEpoch = view.shared.requestedEpoch ∧ view.duty.latched = none) :
    Fifo bound { view with
      log := view.log ++ [.submitted event view.shared.requestedEpoch (.error refusal)] } := by
  by_cases lost : refusal = .linkDown
  · subst lost
    obtain ⟨engaged, down⟩ := submit_linkDown refused
    exact { told with
      popped := fun epoch => by
        simpa using told.popped epoch
      taken := fun epoch => by
        simpa using told.taken epoch
      queued := fun free => by
        simpa using told.queued free
      held := fun live => by
        change view.shared.linkDown = false at live
        rw [down] at live
        cases live
      fresh := fun epoch above => by
        simpa using told.fresh epoch above
      refused := fun epoch member => by
        rcases refusedDown_snoc member with old | ⟨other, same⟩
        · exact told.refused epoch old
        · cases same
          exact Or.inr ⟨(settled engaged).1.symm, Or.inl down⟩
      failed := fun lost => told.failed ((failed_snoc lost).resolve_right nofun)
      failedPast := fun epoch lost =>
        told.failedPast epoch ((failed_snoc lost).resolve_right nofun) }
  · refine told.note _ (fun _ => rfl) (fun _ => rfl) (fun _ => rfl) ?_ nofun
    intro other epoch same
    cases same
    exact lost rfl

theorem Fifo.take {entry : Entry} (told : Fifo bound view) (duty : view.duty = .holding entry)
    (current : entry.epoch = view.shared.ackedEpoch) (up : view.shared.linkDown = false) :
    Fifo bound { view with
      duty := .writing entry.epoch
      log := view.log ++ [.takenUp entry] } := by
  have free : view.duty.latched = none := by rw [duty]; rfl
  have order : takenIn view.shared.ackedEpoch (view.log ++ [Happening.takenUp entry]) =
      poppedIn view.shared.ackedEpoch view.log := by
    rw [← told.held up free, duty, takenIn_snoc]
    rfl
  exact { told with
    popped := fun epoch => by
      simpa using told.popped epoch
    taken := fun epoch => by
      by_cases here : epoch = view.shared.ackedEpoch
      · rw [here, order]
        simp
      · have none : entry.transition epoch = none := by
          simp [Entry.transition, current, Ne.symm here]
        simpa [none] using told.taken epoch
    queued := fun _ => by
      simpa using told.queued free
    held := fun _ _ => by
      change takenIn view.shared.ackedEpoch (view.log ++ [Happening.takenUp entry]) ++ [] =
        poppedIn view.shared.ackedEpoch (view.log ++ [Happening.takenUp entry])
      rw [order]
      simp
    fresh := fun epoch above => by
      simpa using told.fresh epoch above
    refused := fun epoch refused => by
      have before := told.refused epoch ((refusedDown_snoc refused).resolve_right nofun)
      rw [duty] at before
      exact before
    failed := fun lost => by
      have before := told.failed ((failed_snoc lost).resolve_right nofun)
      rw [duty] at before
      rcases before with failing | ⟨_, none⟩
      · cases failing
      · cases none
    failedPast := fun epoch lost =>
      told.failedPast epoch ((failed_snoc lost).resolve_right nofun) }

theorem Fifo.wrote {epoch : Nat} (told : Fifo bound view) (duty : view.duty = .writing epoch)
    (frame : HidFrame) (result : TransactResult) (current : epoch = view.shared.ackedEpoch) :
    Fifo bound { view with
      duty := if handed result then .writing epoch else .failing
      log := view.log ++ [.wrote (.entry epoch) frame result] } := by
  have free : view.duty.latched = none := by rw [duty]; rfl
  have unfailed : ¬ Failed view.log view.shared.ackedEpoch := by
    intro lost
    have before := told.failed lost
    rw [duty] at before
    rcases before with failing | ⟨_, none⟩
    · cases failing
    · cases none
  exact { told with
    popped := fun epoch => by
      simpa using told.popped epoch
    taken := fun epoch => by
      simpa using told.taken epoch
    queued := fun _ => by
      simpa using told.queued free
    held := fun live _ => by
      have before := told.held live free
      rw [duty] at before
      cases success : handed result <;>
        simpa using before
    fresh := fun epoch above => by
      simpa using told.fresh epoch above
    refused := fun epoch refused => by
      have before := told.refused epoch ((refusedDown_snoc refused).resolve_right nofun)
      rw [free] at before
      refine before.imp_right fun ⟨here, lost⟩ => ⟨here, Or.inl ?_⟩
      simpa using lost
    failed := fun lost => by
      rcases failed_snoc lost with old | ⟨_, _, same, refused⟩
      · exact absurd old unfailed
      · injection same with _ _ sameResult
        subst sameResult
        left
        simp [refused]
    failedPast := fun other lost => by
      rcases failed_snoc lost with old | ⟨_, _, same, _⟩
      · exact told.failedPast other old
      · cases same
        exact Nat.le_of_eq current }

theorem Fifo.latch {after : Shared} (told : Fifo bound view) (epoch : Nat) (commissioning : Bool)
    (behind : view.shared.ackedEpoch < view.shared.requestedEpoch)
    (maxBarriers : after.queue.maxBarriers = view.shared.queue.maxBarriers)
    (counted : after.queue.Counted) (empty : after.queue.entries = [])
    (requested : after.requestedEpoch = view.shared.requestedEpoch)
    (acked : after.ackedEpoch = view.shared.ackedEpoch) :
    Fifo bound { view with
      duty := .releasing epoch commissioning .unwritten
      shared := after
      log := view.log ++ [.latched epoch commissioning] } where
  maxBarriers := maxBarriers.trans told.maxBarriers
  counted := counted
  current entry member := by
    rw [empty] at member
    cases member
  popped other := by
    simpa using told.popped other
  taken other := by
    simpa using told.taken other
  queued := nofun
  held := nofun
  fresh other above := by
    simpa using told.fresh other (acked ▸ above)
  refused other refused := by
    rw [acked]
    exact (told.refused other ((refusedDown_snoc refused).resolve_right nofun)).imp_right
      fun ⟨here, _⟩ => ⟨here, Or.inr rfl⟩
  failed _ := Or.inr ⟨by rw [acked, requested]; exact behind, rfl⟩
  failedPast other lost := by
    rw [acked]
    exact told.failedPast other ((failed_snoc lost).resolve_right nofun)

theorem Fifo.acknowledge {epoch : Nat} (told : Fifo bound view)
    (above : view.shared.ackedEpoch < epoch) (empty : view.shared.queue.entries = []) :
    Fifo bound { view with
      duty := .idle
      shared := view.shared.acknowledge epoch
      log := view.log ++ [.acknowledged epoch] } := by
  have accepted : acceptedIn epoch (view.log ++ [Happening.acknowledged epoch]) = [] := by
    rw [acceptedIn_snoc, told.fresh epoch above]
    rfl
  have popped : poppedIn epoch (view.log ++ [Happening.acknowledged epoch]) = [] := by
    have before := told.popped epoch
    rw [told.fresh epoch above] at before
    rw [poppedIn_snoc, List.prefix_nil.mp before]
    rfl
  have taken : takenIn epoch (view.log ++ [Happening.acknowledged epoch]) = [] := by
    have before := told.taken epoch
    have none := told.popped epoch
    rw [told.fresh epoch above] at none
    rw [List.prefix_nil.mp none] at before
    rw [takenIn_snoc, List.prefix_nil.mp before]
    rfl
  exact { told with
    current := fun entry member => by
      change entry ∈ view.shared.queue.entries at member
      rw [empty] at member
      cases member
    popped := fun other => by
      simpa using told.popped other
    taken := fun other => by
      simpa using told.taken other
    queued := fun _ => by
      change poppedIn epoch _ ++ queuedIn epoch view.shared.queue.entries = acceptedIn epoch _
      rw [accepted, popped, empty]
      rfl
    held := fun _ _ => by
      change takenIn epoch _ ++ [] = poppedIn epoch _
      rw [taken, popped]
      rfl
    fresh := fun other higher => by
      change epoch < other at higher
      simpa using told.fresh other (Nat.lt_trans above higher)
    refused := fun other refused => by
      left
      have before := told.refused other ((refusedDown_snoc refused).resolve_right nofun)
      change other < epoch
      omega
    failed := fun lost => by
      have before := told.failedPast epoch ((failed_snoc lost).resolve_right nofun)
      omega
    failedPast := fun other lost => by
      have before := told.failedPast other ((failed_snoc lost).resolve_right nofun)
      change other ≤ epoch
      omega }

theorem drain_counted (queue : QueueState) (epoch : Nat) : (queue.drainUpto epoch).Counted := rfl

theorem Fifo.drain {epoch : Nat} {commissioning : Bool} {stage : Stage} (told : Fifo bound view)
    (duty : view.duty = .releasing epoch commissioning stage) :
    Fifo bound { view with shared := view.shared.drain epoch } := by
  have unfree : ¬ view.duty.latched = none := by
    rw [duty]
    nofun
  exact { told with
    counted := drain_counted _ _
    current := fun entry member => told.current entry (List.mem_filter.mp member).1
    queued := fun free => absurd free unfree
    held := fun _ free => absurd free unfree }

theorem move_fifo (move : Move view next) (told : Fifo bound view) : Fifo bound next := by
  cases move with
  | aside keeps up => exact told.keep keeps up
  | engaged keeps down settled =>
      have kept := told.keep keeps fun up => Or.inl (down ▸ up)
      exact kept.note (.engaged _) (fun _ => rfl) (fun _ => rfl) (fun _ => rfl) nofun nofun
  | submitted accepted settled free => exact told.submit accepted settled free
  | refused refused settled => exact told.refuse refused settled
  | raised slot shutdown within =>
      have raised : Fifo bound { view with shared := view.shared.raise slot shutdown } :=
        told.same (SameRecord.refl _) (raise_queue _ _ _) rfl id (fun live _ => ⟨live, rfl⟩)
          fun lost => lost.imp_right fun both => ⟨Nat.lt_succ_of_le within, both.2⟩
      exact raised.note (.raised _ _) (fun _ => rfl) (fun _ => rfl) (fun _ => rfl) nofun nofun
  | popped duty popped current settled => exact told.pop duty popped current settled
  | taken duty current up => exact told.take duty current up
  | discarded duty down =>
      refine told.same (SameRecord.refl _) (same_queue rfl) rfl (fun _ => by rw [duty]; rfl)
        (fun live _ => ?_) (by rw [duty]; nofun)
      change view.shared.linkDown = false at live
      rw [down] at live
      cases live
  | wrote duty frame result current => exact told.wrote duty frame result current
  | steered duty after =>
      exact told.same (SameRecord.refl _) (same_queue rfl) rfl id (fun live _ => ⟨live, rfl⟩) id
  | finished duty =>
      exact told.turn (fun _ => by rw [duty]; rfl) (fun _ => by rw [duty]; rfl)
        (by rw [duty]; nofun)
  | unlinked duty =>
      exact told.turn (fun _ => by rw [duty]; rfl) (fun _ => by rw [duty]; rfl)
        fun _ => Or.inl rfl
  | triggered duty behind =>
      exact told.turn (fun _ => by rw [duty]; rfl) (fun _ => by rw [duty]; rfl)
        fun _ => Or.inr ⟨behind, rfl⟩
  | asked free => exact told.note _ (fun _ => rfl) (fun _ => rfl) (fun _ => rfl) nofun nofun
  | informed result free =>
      exact told.note _ (fun _ => rfl) (fun _ => rfl) (fun _ => rfl) nofun nofun
  | resynced duty ok => exact told.note _ (fun _ => rfl) (fun _ => rfl) (fun _ => rfl) nofun nofun
  | latched duty behind empty =>
      exact told.latch _ false behind rfl (drain_counted _ _) empty rfl rfl
  | commissioned duty behind empty =>
      exact told.latch _ true behind rfl told.counted empty rfl rfl
  | drained duty => exact told.drain duty
  | passed duty passes =>
      exact told.turn nofun nofun fun lost =>
        Or.inr ⟨(lost.resolve_left (by rw [duty]; nofun)).1, rfl⟩
  | released duty result =>
      rename_i epoch commissioning frame rest
      have noted := told.note (.wrote (.release epoch) frame result) (fun _ => rfl) (fun _ => rfl)
        (fun _ => rfl) nofun nofun
      exact noted.turn nofun nofun fun lost =>
        Or.inr ⟨(lost.resolve_left (by rw [duty]; nofun)).1, rfl⟩
  | recorded duty reason outcome earned =>
      exact told.same (SameRecord.refl _) (same_queue rfl) rfl nofun nofun fun lost =>
        Or.inr ⟨(lost.resolve_left (by rw [duty]; nofun)).1, rfl⟩
  | acknowledged duty above below empty =>
      exact told.acknowledge above empty

end Preserved

end NanoKvm.Input
