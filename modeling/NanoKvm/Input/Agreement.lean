import NanoKvm.Input.Simulation

/-!
# What the log and the state agree on

Two invariants of the moves: the epochs and the latch read off the log are
those of the state, and the release reports in the log are those the release in
force has written.
-/

set_option autoImplicit false

namespace NanoKvm.Input

open NanoKvm.Proto NanoKvm.Lib

/-! ## Epochs and the latch -/

structure Replays (view : View) : Prop where
  requested : (replay view.log).requested = view.shared.requestedEpoch
  acked : (replay view.log).acked = view.shared.ackedEpoch
  shuttingDown : (replay view.log).shuttingDown = view.shared.shuttingDown
  latched : (replay view.log).latched = view.duty.latched
  untouched : (replay view.log).touched = false →
    view.mode = .rel ∧ ∀ epoch, view.duty ≠ .writing epoch
  cleared : ∀ epoch commissioning, view.duty = .cleared epoch commissioning → view.mode = .rel
  backed : view.shared.queue.entries ≠ [] ∨ view.duty.inHand.isSome = true →
    Accepted view.log view.shared.ackedEpoch

section Preserved
variable {view next : View}

theorem submit_keeps {shared after : Shared} {event : Event}
    (accepted : shared.submit event = .ok after) :
    after.requestedEpoch = shared.requestedEpoch ∧ after.ackedEpoch = shared.ackedEpoch ∧
      after.shuttingDown = shared.shuttingDown ∧ after.lastRelease = shared.lastRelease ∧
        after.linkDown = shared.linkDown := by
  obtain ⟨_, _, _, queue, rfl, _⟩ := submit_session accepted
  exact ⟨rfl, rfl, rfl, rfl, rfl⟩

theorem drained_nonempty {queue : QueueState} {epoch : Nat}
    (kept : (queue.drainUpto epoch).entries ≠ []) : queue.entries ≠ [] := by
  intro empty
  apply kept
  rw [drainUpto_entries, empty, List.filter_nil]

theorem Replays.share {after : Shared} (told : Replays view)
    (requested : after.requestedEpoch = view.shared.requestedEpoch)
    (acked : after.ackedEpoch = view.shared.ackedEpoch)
    (shuttingDown : after.shuttingDown = view.shared.shuttingDown)
    (entries : after.queue.entries ≠ [] → view.shared.queue.entries ≠ []) :
    Replays { view with shared := after } where
  requested := told.requested.trans requested.symm
  acked := told.acked.trans acked.symm
  shuttingDown := told.shuttingDown.trans shuttingDown.symm
  latched := told.latched
  untouched := told.untouched
  cleared := told.cleared
  backed held := by
    change Accepted view.log after.ackedEpoch
    rw [acked]
    exact told.backed (held.imp_left entries)

theorem Replays.keep {after : Shared} (told : Replays view) (keeps : view.shared.Keeps after) :
    Replays { view with shared := after } :=
  told.share keeps.requested keeps.acked keeps.shuttingDown (by rw [keeps.queue]; exact id)

/-- A happening that says nothing of epochs, latches or entries taken up. -/
theorem Replays.note (told : Replays view) (happening : Happening)
    (silent : (replay view.log).next happening = replay view.log) :
    Replays { view with log := view.log ++ [happening] } where
  requested := by rw [replay_snoc, silent]; exact told.requested
  acked := by rw [replay_snoc, silent]; exact told.acked
  shuttingDown := by rw [replay_snoc, silent]; exact told.shuttingDown
  latched := by rw [replay_snoc, silent]; exact told.latched
  untouched := by rw [replay_snoc, silent]; exact told.untouched
  cleared := told.cleared
  backed held := (told.backed held).mono

/-- The duty changes, with no entry taken up and no release cleared. -/
theorem Replays.turn {duty : Duty} (told : Replays view)
    (latched : duty.latched = view.duty.latched)
    (writing : ∀ epoch, duty = .writing epoch → view.duty = .writing epoch)
    (cleared : ∀ epoch commissioning, duty ≠ .cleared epoch commissioning)
    (inHand : duty.inHand.isSome = true → view.duty.inHand.isSome = true) :
    Replays { view with duty := duty } where
  requested := told.requested
  acked := told.acked
  shuttingDown := told.shuttingDown
  latched := told.latched.trans latched.symm
  untouched quiet := ⟨(told.untouched quiet).1, fun epoch same =>
    (told.untouched quiet).2 epoch (writing epoch same)⟩
  cleared epoch commissioning same := absurd same (cleared epoch commissioning)
  backed held := told.backed (held.imp_right inHand)

/-- No entry is in hand any more. -/
theorem Replays.put_down {duty : Duty} (told : Replays view)
    (latched : duty.latched = view.duty.latched) (free : duty.inHand = none)
    (cleared : ∀ epoch commissioning, duty ≠ .cleared epoch commissioning) :
    Replays { view with duty := duty } := by
  refine told.turn latched ?_ cleared ?_
  · intro epoch same
    simp [same, Duty.inHand] at free
  · simp [free]

/-- A release takes force over an empty queue. -/
theorem Replays.latch {after : Shared} (told : Replays view) (epoch : Nat) (commissioning : Bool)
    (requested : after.requestedEpoch = view.shared.requestedEpoch)
    (acked : after.ackedEpoch = view.shared.ackedEpoch)
    (shuttingDown : after.shuttingDown = view.shared.shuttingDown)
    (empty : after.queue.entries = []) :
    Replays { view with
      duty := .releasing epoch commissioning .unwritten
      shared := after
      log := view.log ++ [.latched epoch commissioning] } where
  requested := by rw [replay_snoc]; exact told.requested.trans requested.symm
  acked := by rw [replay_snoc]; exact told.acked.trans acked.symm
  shuttingDown := by rw [replay_snoc]; exact told.shuttingDown.trans shuttingDown.symm
  latched := by rw [replay_snoc]; rfl
  untouched quiet := by
    rw [replay_snoc] at quiet
    exact ⟨(told.untouched quiet).1, by rintro _ ⟨⟩⟩
  cleared := by rintro _ _ ⟨⟩
  backed held := by
    rcases held with queued | held
    · exact absurd empty queued
    · cases held

theorem move_replays (move : Move view next) (told : Replays view) : Replays next := by
  cases move with
  | aside keeps up => exact told.keep keeps
  | engaged keeps down settled => exact (told.keep keeps).note (.engaged _) rfl
  | submitted accepted settled free =>
      rename_i event after
      obtain ⟨requested, acked, shuttingDown, _, _⟩ := submit_keeps accepted
      exact {
        requested := by rw [replay_snoc]; exact told.requested.trans requested.symm
        acked := by rw [replay_snoc]; exact told.acked.trans acked.symm
        shuttingDown := by rw [replay_snoc]; exact told.shuttingDown.trans shuttingDown.symm
        latched := by rw [replay_snoc]; exact told.latched
        untouched := by rw [replay_snoc]; exact told.untouched
        cleared := told.cleared
        backed := fun _ => ⟨event, List.mem_append_right _
          (by rw [acked, settled]; exact List.mem_singleton_self _)⟩ }
  | refused refused settled => exact told.note _ rfl
  | raised slot shutdown within =>
      exact {
        requested := by rw [replay_snoc]; rfl
        acked := by rw [replay_snoc]; exact told.acked
        shuttingDown := by
          rw [replay_snoc]
          simp [Replay.next, told.shuttingDown, Shared.raise]
        latched := by rw [replay_snoc]; exact told.latched
        untouched := by rw [replay_snoc]; exact told.untouched
        cleared := told.cleared
        backed := fun held => by
          rw [raise_entries] at held
          exact (told.backed held).mono }
  | popped duty popped current settled =>
      rename_i entry queue
      have queued : Accepted view.log view.shared.ackedEpoch := by
        refine told.backed (Or.inl ?_)
        rw [pop_entries popped]
        exact List.cons_ne_nil _ _
      exact {
        requested := by rw [replay_snoc]; exact told.requested
        acked := by rw [replay_snoc]; exact told.acked
        shuttingDown := by rw [replay_snoc]; exact told.shuttingDown
        latched := by
          rw [replay_snoc]
          exact told.latched.trans (by rw [duty]; rfl)
        untouched := fun quiet => by
          rw [replay_snoc] at quiet
          exact ⟨(told.untouched quiet).1, by rintro _ ⟨⟩⟩
        cleared := by rintro _ _ ⟨⟩
        backed := fun _ => queued.mono }
  | taken duty current up =>
      rename_i entry
      have held : Accepted view.log view.shared.ackedEpoch := by
        refine told.backed (Or.inr ?_)
        rw [duty]
        rfl
      exact {
        requested := by rw [replay_snoc]; exact told.requested
        acked := by rw [replay_snoc]; exact told.acked
        shuttingDown := by rw [replay_snoc]; exact told.shuttingDown
        latched := by
          rw [replay_snoc]
          exact told.latched.trans (by rw [duty]; rfl)
        untouched := fun quiet => by
          rw [replay_snoc] at quiet
          cases quiet
        cleared := by rintro _ _ ⟨⟩
        backed := fun _ => held.mono }
  | discarded duty down => exact told.put_down (by rw [duty]; rfl) rfl (by rintro _ _ ⟨⟩)
  | wrote duty frame result current =>
      rename_i epoch
      have noted := told.note (.wrote (.entry epoch) frame result) rfl
      cases handed result with
      | true =>
          exact noted.turn (by rw [duty]; rfl) (fun _ same => same ▸ duty) (by rintro _ _ ⟨⟩)
            (by rw [duty]; exact id)
      | false => exact noted.put_down (by rw [duty]; rfl) rfl (by rintro _ _ ⟨⟩)
  | steered duty after =>
      exact {
        requested := told.requested
        acked := told.acked
        shuttingDown := told.shuttingDown
        latched := told.latched
        untouched := fun quiet => absurd duty ((told.untouched quiet).2 _)
        cleared := fun epoch commissioning same => by
          rw [duty] at same
          cases same
        backed := told.backed }
  | finished duty => exact told.put_down (by rw [duty]; rfl) rfl (by rintro _ _ ⟨⟩)
  | unlinked duty => exact told.put_down (by rw [duty]; rfl) rfl (by rintro _ _ ⟨⟩)
  | triggered duty behind => exact told.put_down (by rw [duty]; rfl) rfl (by rintro _ _ ⟨⟩)
  | asked free => exact told.note _ rfl
  | informed result free => exact told.note _ rfl
  | resynced duty ok => exact told.note _ rfl
  | latched duty behind empty => exact told.latch _ false rfl rfl rfl empty
  | commissioned duty behind empty => exact told.latch _ true rfl rfl rfl empty
  | drained duty => exact told.share rfl rfl rfl drained_nonempty
  | passed duty passes => exact told.put_down (by rw [duty]; rfl) rfl (by rintro _ _ ⟨⟩)
  | released duty result =>
      rename_i epoch commissioning frame rest
      have noted := told.note (.wrote (.release epoch) frame result) rfl
      exact noted.put_down (by rw [duty]; rfl) rfl (by rintro _ _ ⟨⟩)
  | recorded duty reason outcome earned =>
      exact {
        requested := told.requested
        acked := told.acked
        shuttingDown := told.shuttingDown
        latched := told.latched.trans (by rw [duty]; rfl)
        untouched := fun quiet => ⟨rfl, by rintro _ ⟨⟩⟩
        cleared := fun _ _ _ => rfl
        backed := fun held => told.backed (Or.inl (held.resolve_right (by rintro ⟨⟩))) }
  | acknowledged duty above below empty =>
      exact {
        requested := by rw [replay_snoc]; exact told.requested
        acked := by rw [replay_snoc]; rfl
        shuttingDown := by rw [replay_snoc]; exact told.shuttingDown
        latched := by rw [replay_snoc]; rfl
        untouched := fun _ => ⟨told.cleared _ _ duty, by rintro _ ⟨⟩⟩
        cleared := by rintro _ _ ⟨⟩
        backed := fun held => by
          rcases held with queued | held
          · exact absurd empty queued
          · cases held }

end Preserved

/-! ## The reports of a release -/

/-- What the log holds of the release in force. -/
def Stage.Holds (log : List Happening) (mode : PointerMode) (epoch : Nat) : Stage → Prop
  | .unwritten => releaseWrites epoch log = []
  | .writing frames => (releaseWrites epoch log).map Prod.fst ++ frames = releaseFrames mode ∧
      ∀ write ∈ releaseWrites epoch log, handed write.2 = true
  | .delivered => Delivered log epoch
  | .unsent => True

structure Releases (view : View) : Prop where
  stage : ∀ epoch commissioning stage, view.duty = .releasing epoch commissioning stage →
    stage.Holds view.log view.mode epoch
  above : ∀ epoch commissioning, view.duty.latched = some (epoch, commissioning) →
    view.shared.ackedEpoch < epoch
  /-- A release not yet latched has written nothing. -/
  fresh : ∀ epoch, view.shared.ackedEpoch < epoch →
    (∀ commissioning, view.duty.latched ≠ some (epoch, commissioning)) →
    releaseWrites epoch view.log = []
  recorded : ∀ record, view.shared.lastRelease = some record →
    (record.outcome = .submitted → Delivered view.log record.epoch) ∧
      (record.epoch ≤ view.shared.ackedEpoch ∨
        ∃ commissioning, view.duty = .cleared record.epoch commissioning)

section Preserved
variable {view next : View}

/-- Nothing a release depends on changes. -/
theorem Releases.same {after : View} (told : Releases view)
    (duty : ∀ epoch commissioning stage, after.duty = .releasing epoch commissioning stage →
      view.duty = .releasing epoch commissioning stage ∧ after.mode = view.mode)
    (latched : after.duty.latched = view.duty.latched)
    (cleared : ∀ epoch commissioning, view.duty = .cleared epoch commissioning →
      after.duty = .cleared epoch commissioning)
    (acked : after.shared.ackedEpoch = view.shared.ackedEpoch)
    (lastRelease : after.shared.lastRelease = view.shared.lastRelease)
    (writes : ∀ epoch, releaseWrites epoch after.log = releaseWrites epoch view.log) :
    Releases after where
  stage epoch commissioning stage same := by
    obtain ⟨before, mode⟩ := duty epoch commissioning stage same
    have held := told.stage epoch commissioning stage before
    cases stage with
    | unwritten => exact (writes epoch).trans held
    | writing frames => rw [Stage.Holds, writes, mode]; exact held
    | delivered =>
        unfold Stage.Holds Delivered
        rw [writes]
        exact held
    | unsent => trivial
  above := by
    rw [latched, acked]
    exact told.above
  fresh epoch above unlatched := by
    rw [writes]
    exact told.fresh epoch (acked ▸ above) (latched ▸ unlatched)
  recorded record last := by
    obtain ⟨delivered, past⟩ := told.recorded record (lastRelease ▸ last)
    unfold Delivered
    rw [writes, acked]
    exact ⟨delivered, past.imp_right fun ⟨commissioning, same⟩ =>
      ⟨commissioning, cleared _ _ same⟩⟩

/-- The duty is no release, before or after, and the log gains no release report. -/
theorem Releases.apart {after : View} (told : Releases view)
    (before : view.duty.latched = none) (now : after.duty.latched = none)
    (acked : after.shared.ackedEpoch = view.shared.ackedEpoch)
    (lastRelease : after.shared.lastRelease = view.shared.lastRelease)
    (writes : ∀ epoch, releaseWrites epoch after.log = releaseWrites epoch view.log) :
    Releases after := by
  refine told.same ?_ (now.trans before.symm) ?_ acked lastRelease writes
  · intro epoch commissioning stage same
    rw [same] at now
    cases now
  · intro epoch commissioning same
    rw [same] at before
    cases before

/-- The log gains nothing but a happening that is no release report. -/
theorem Releases.note (told : Releases view) (happening : Happening)
    (silent : ∀ epoch, happening.releasedUnder epoch = none) :
    Releases { view with log := view.log ++ [happening] } := by
  refine told.same (fun _ _ _ same => ⟨same, rfl⟩) rfl (fun _ _ same => same) rfl rfl ?_
  intro epoch
  simp [silent]

/-- A release is latched: nothing has been written for its epoch yet. -/
theorem Releases.latch {after : Shared} (told : Releases view) (epoch : Nat)
    (commissioning : Bool) (duty : view.duty = .idle) (above : view.shared.ackedEpoch < epoch)
    (acked : after.ackedEpoch = view.shared.ackedEpoch)
    (lastRelease : after.lastRelease = view.shared.lastRelease) :
    Releases { view with
      duty := .releasing epoch commissioning .unwritten
      shared := after
      log := view.log ++ [.latched epoch commissioning] } where
  stage other kind stage same := by
    cases same
    change releaseWrites epoch (view.log ++ [Happening.latched epoch commissioning]) = []
    rw [releaseWrites_snoc, told.fresh epoch above fun _ held => by rw [duty] at held; cases held]
    rfl
  above other kind same := by
    cases same
    exact acked.symm ▸ above
  fresh other higher _ := by
    change releaseWrites other (view.log ++ [Happening.latched epoch commissioning]) = []
    rw [releaseWrites_snoc, told.fresh other (acked ▸ higher) fun _ held => by
      rw [duty] at held; cases held]
    rfl
  recorded record last := by
    obtain ⟨delivered, past⟩ := told.recorded record (lastRelease ▸ last)
    refine ⟨fun submitted => ?_, ?_⟩
    · change Delivered (view.log ++ [Happening.latched epoch commissioning]) record.epoch
      unfold Delivered
      rw [releaseWrites_snoc]
      simpa [Happening.releasedUnder, Delivered] using delivered submitted
    · rcases past with past | ⟨kind, same⟩
      · exact Or.inl (acked.symm ▸ past)
      · rw [duty] at same
        cases same

theorem Releases.share {after : Shared} (told : Releases view)
    (acked : after.ackedEpoch = view.shared.ackedEpoch)
    (lastRelease : after.lastRelease = view.shared.lastRelease) :
    Releases { view with shared := after } :=
  told.same (fun _ _ _ same => ⟨same, rfl⟩) rfl (fun _ _ same => same) acked lastRelease
    fun _ => rfl

theorem passes_holds {log : List Happening} {mode : PointerMode} {epoch : Nat}
    {stage after : Stage} (passes : stage.Passes mode after) (held : stage.Holds log mode epoch) :
    after.Holds log mode epoch := by
  cases passes with
  | begin =>
      change releaseWrites epoch log = [] at held
      simp [Stage.Holds, held]
  | deliver =>
      obtain ⟨sent, handed⟩ := held
      exact ⟨mode, by simpa using sent, handed⟩
  | abandon stage => trivial

theorem move_releases (move : Move view next) (told : Releases view) : Releases next := by
  cases move with
  | aside keeps up => exact told.share keeps.acked keeps.lastRelease
  | engaged keeps down settled =>
      exact (told.share keeps.acked keeps.lastRelease).note (.engaged _) fun _ => rfl
  | submitted accepted settled free =>
      obtain ⟨_, acked, _, lastRelease, _⟩ := submit_keeps accepted
      exact (told.share acked lastRelease).note (.submitted _ _ _) fun _ => rfl
  | refused refused settled => exact told.note _ fun _ => rfl
  | raised slot shutdown within =>
      have shared : Releases { view with shared := view.shared.raise slot shutdown } :=
        told.share rfl rfl
      exact shared.note (.raised _ _) fun _ => rfl
  | popped duty popped current settled =>
      exact told.apart (by rw [duty]; rfl) rfl rfl rfl fun _ => by simp [Happening.releasedUnder]
  | taken duty current up =>
      exact told.apart (by rw [duty]; rfl) rfl rfl rfl fun _ => by simp [Happening.releasedUnder]
  | discarded duty down => exact told.apart (by rw [duty]; rfl) rfl rfl rfl fun _ => rfl
  | wrote duty frame result current =>
      refine told.apart (by rw [duty]; rfl) ?_ rfl rfl fun _ => by simp [Happening.releasedUnder]
      cases handed result <;> rfl
  | steered duty after =>
      exact told.apart (by rw [duty]; rfl) (by rw [duty]; rfl) rfl rfl fun _ => rfl
  | finished duty => exact told.apart (by rw [duty]; rfl) rfl rfl rfl fun _ => rfl
  | unlinked duty => exact told.apart (by rw [duty]; rfl) rfl rfl rfl fun _ => rfl
  | triggered duty behind => exact told.apart (by rw [duty]; rfl) rfl rfl rfl fun _ => rfl
  | asked free => exact told.note _ fun _ => rfl
  | informed result free => exact told.note _ fun _ => rfl
  | resynced duty ok => exact told.note _ fun _ => rfl
  | latched duty behind empty => exact told.latch _ false duty behind rfl rfl
  | commissioned duty behind empty => exact told.latch _ true duty behind rfl rfl
  | drained duty => exact told.share rfl rfl
  | passed duty passes =>
      rename_i epoch commissioning stage after
      exact {
        stage := fun _ _ _ same => by
          cases same
          exact passes_holds passes (told.stage epoch commissioning stage duty)
        above := fun other kind same => told.above other kind (by rw [duty]; exact same)
        fresh := fun other above unlatched => told.fresh other above (by rw [duty]; exact unlatched)
        recorded := fun record last => by
          obtain ⟨delivered, past⟩ := told.recorded record last
          refine ⟨delivered, Or.inl (past.resolve_right fun ⟨kind, same⟩ => ?_)⟩
          rw [duty] at same
          cases same }
  | released duty result =>
      rename_i epoch commissioning frame rest
      have writes :
          releaseWrites epoch (view.log ++ [Happening.wrote (.release epoch) frame result]) =
            releaseWrites epoch view.log ++ [(frame, result)] := by
        simp [Happening.releasedUnder]
      have others : ∀ other, other ≠ epoch →
          releaseWrites other (view.log ++ [Happening.wrote (.release epoch) frame result]) =
            releaseWrites other view.log := by
        intro other apart
        simp [Happening.releasedUnder, Ne.symm apart]
      obtain ⟨sent, through⟩ := told.stage epoch commissioning _ duty
      exact {
        stage := fun other kind stage same => by
          cases same
          cases success : handed result with
          | false => trivial
          | true =>
              refine ⟨?_, ?_⟩
              · rw [writes, List.map_append, List.append_assoc]
                exact sent
              · intro write member
                rw [writes] at member
                rcases List.mem_append.mp member with old | new
                · exact through write old
                · rw [List.mem_singleton.mp new]
                  exact success
        above := fun other kind same => told.above other kind (by rw [duty]; exact same)
        fresh := fun other above unlatched => by
          have apart : other ≠ epoch := fun same => unlatched commissioning (by rw [same]; rfl)
          change releaseWrites other (view.log ++ [_]) = []
          rw [others other apart]
          refine told.fresh other above fun kind held => ?_
          rw [duty] at held
          cases held
          exact apart rfl
        recorded := fun record last => by
          obtain ⟨delivered, past⟩ := told.recorded record last
          have old : record.epoch ≤ view.shared.ackedEpoch := by
            refine past.resolve_right fun ⟨kind, same⟩ => ?_
            rw [duty] at same
            cases same
          have apart : record.epoch ≠ epoch :=
            Nat.ne_of_lt (Nat.lt_of_le_of_lt old
              (told.above epoch commissioning (by rw [duty]; rfl)))
          refine ⟨fun submitted => ?_, Or.inl old⟩
          unfold Delivered
          rw [others record.epoch apart]
          exact delivered submitted }
  | recorded duty reason outcome earned =>
      rename_i epoch commissioning stage
      exact {
        stage := nofun
        above := fun other kind same => told.above other kind (by rw [duty]; exact same)
        fresh := fun other above unlatched => told.fresh other above (by rw [duty]; exact unlatched)
        recorded := fun record last => by
          cases last
          refine ⟨fun submitted => ?_, Or.inr ⟨commissioning, rfl⟩⟩
          have delivered := earned submitted
          subst delivered
          exact told.stage epoch commissioning .delivered duty }
  | acknowledged duty above below empty =>
      rename_i epoch commissioning
      have writes : ∀ other, releaseWrites other (view.log ++ [Happening.acknowledged epoch]) =
          releaseWrites other view.log := fun other => by simp [Happening.releasedUnder]
      exact {
        stage := nofun
        above := nofun
        fresh := fun other higher _ => by
          change epoch < other at higher
          rw [writes]
          refine told.fresh other (Nat.lt_trans above higher) fun kind held => ?_
          rw [duty] at held
          cases held
          exact Nat.lt_irrefl _ higher
        recorded := fun record last => by
          obtain ⟨delivered, past⟩ := told.recorded record last
          refine ⟨fun submitted => ?_, Or.inl ?_⟩
          · unfold Delivered
            rw [writes]
            exact delivered submitted
          · rcases past with past | ⟨kind, same⟩
            · exact Nat.le_trans past (Nat.le_of_lt above)
            · rw [duty] at same
              cases same
              exact Nat.le_refl _ }

end Preserved

end NanoKvm.Input
