import NanoKvm.Input.Record

/-!
# What a release guarantees

Every cancellation drains the queue, writes its release and acknowledges its
epoch; these are the guarantees a producer relies on when it reads the two
epochs, and the ones a shutdown relies on.
-/

set_option autoImplicit false

namespace NanoKvm.Input

open NanoKvm.Proto NanoKvm.Lib

section Epochs
variable {maxBarriers : Nat} {reconnect : Bool} {sys final : Sys} {labels : List Label}
  {bound : Nat} {before after log : List Happening} {epoch : Nat}

/-! ## The epochs between any two critical sections -/

/-- The two epochs, the flag, admission and the queue agree: a refused recapture
has a cancellation scheduled, and the stale test never discards an entry of the
current session. -/
structure Sys.EpochsAgree (sys : Sys) : Prop where
  acked_le : sys.shared.ackedEpoch ≤ sys.shared.requestedEpoch
  settled : sys.shared.cancel = false → sys.shared.ackedEpoch = sys.shared.requestedEpoch
  engaged : sys.shared.engaged = true →
    sys.shared.ackedEpoch = sys.shared.requestedEpoch ∧ sys.shared.shuttingDown = false
  queued : sys.shared.cancel = false →
    ∀ entry ∈ sys.shared.queue.entries, entry.epoch = sys.shared.ackedEpoch
  scheduled : ∀ requested acked, sys.shared.engage = .error (.notYetAcked requested acked) →
    sys.shared.cancel = true
  current : ∀ entry, sys.pc = .checkStale entry → ¬ entry.epoch < sys.shared.ackedEpoch

theorem epochs_agree (reached : sys.Reached maxBarriers reconnect) : sys.EpochsAgree := by
  have sound := reached_sound reached
  refine ⟨sound.acked_le, ?_, sound.engaged_settled, fun _ => sound.queued, ?_, ?_⟩
  · intro quiet
    refine Nat.le_antisymm sound.acked_le (Nat.le_of_not_lt fun behind => ?_)
    rw [sound.cancel_iff.mpr behind] at quiet
    cases quiet
  · intro requested acked refused
    unfold Shared.engage at refused
    split at refused
    · cases refused
    · split at refused
      · rename_i behind
        exact sound.cancel_iff.mpr behind
      · cases refused
  · intro entry point stale
    have current := sound.in_hand entry.epoch (by rw [point]; rfl)
    rw [current] at stale
    exact Nat.lt_irrefl _ stale

/-- One key pressed and written, a shutdown begun, and its release half written. -/
def pressThenShutdown : List Label :=
  [.writer (.opened (.ok 0)), .submit 0 (.key (.usage 0x04#8) true)] ++
    List.replicate 8 (.writer .none) ++
    [.writer (.replied (.ok ⟨0x82#8, [0#8]⟩)), .beginShutdown] ++
    List.replicate 3 (.writer .none) ++ [.writer (.replied (.ok ⟨0x82#8, [0#8]⟩))]

/-- The rest of that release. -/
def releaseThrough : List Label :=
  .writer (.replied (.ok ⟨0x85#8, [0#8]⟩)) :: List.replicate 3 (.writer .none)

theorem epochs_agree_mid_release :
    (Sys.after 4 false pressThenShutdown).shared.ackedEpoch <
        (Sys.after 4 false pressThenShutdown).shared.requestedEpoch ∧
      (Sys.after 4 false pressThenShutdown).EpochsAgree :=
  ⟨by decide, epochs_agree (after_reached 4 false pressThenShutdown)⟩

/-! ## Nothing stale after an acknowledgement -/

/-- A report of an entry carries at least every epoch acknowledged before it. -/
theorem entry_not_stale {frame : HidFrame} {result : TransactResult}
    (lawful : Lawful (Law bound) (before ++ after))
    (written : Happening.wrote (.entry epoch) frame result ∈ after) :
    (replay before).acked ≤ epoch := by
  obtain ⟨middle, rest, shape, law⟩ := lawful.mem written
  have early : before ++ middle <+: before ++ after := by
    rw [shape, ← List.append_assoc]
    exact List.prefix_append _ _
  have grown := acked_mono (lawful.of_prefix early) (List.prefix_append before middle)
  rw [law.2.1]
  exact grown

/-- What may go out between a latch and its acknowledgement. -/
def ReleaseOnly (epoch : Nat) (commissioning : Bool) : Happening → Prop
  | .wrote origin frame _ =>
      (origin = .release epoch ∧ ∃ mode, frame ∈ releaseFrames mode) ∨
        (origin = .getInfo ∧ frame = Sys.getInfoFrame ∧ commissioning = true)
  | .resynced _ => commissioning = true
  | _ => True

theorem release_only {commissioning : Bool}
    (lawful : Lawful (Law bound) (before ++ .latched epoch commissioning :: after))
    (unanswered : Happening.acknowledged epoch ∉ after) :
    ∀ happening ∈ after, ReleaseOnly epoch commissioning happening := by
  intro happening member
  have opened : before ++ .latched epoch commissioning :: after =
      (before ++ [.latched epoch commissioning]) ++ after := by simp
  rw [opened] at lawful
  obtain ⟨middle, rest, shape, law⟩ := lawful.mem member
  have held : (replay (before ++ [Happening.latched epoch commissioning] ++ middle)).latched =
      some (epoch, commissioning) := by
    have early : before ++ .latched epoch commissioning :: middle <+:
        before ++ [.latched epoch commissioning] ++ after := by
      rw [shape]
      exact ⟨happening :: rest, by simp⟩
    rw [List.append_assoc, List.singleton_append]
    refine latch_holds (lawful.of_prefix early) fun answered => unanswered ?_
    rw [shape]
    exact List.mem_append_left _ answered
  cases happening with
  | wrote origin frame result =>
      cases origin with
      | entry other =>
          obtain ⟨none, _⟩ := law
          rw [held] at none
          cases none
      | release other =>
          obtain ⟨kind, mode, same, frames, _⟩ := law
          rw [held] at same
          cases same
          exact Or.inl ⟨rfl, mode, frames⟩
      | getInfo =>
          obtain ⟨info, none | ⟨other, same⟩⟩ := law
          · rw [held] at none
            cases none
          · rw [held] at same
            cases same
            exact Or.inr ⟨rfl, info, rfl⟩
  | resynced ok =>
      obtain ⟨other, same⟩ := law
      rw [held] at same
      cases same
      rfl
  | _ => trivial

/-- Once `epoch` is acknowledged, and so once a trigger has returned it and its
release is through, no report of an event accepted under an earlier epoch goes to
any link.  Between a latch and its acknowledgement nothing goes out but the reports
of that release, and under a commissioning its preamble and `GET_INFO`. -/
structure NothingStale (sys final : Sys) : Prop where
  acknowledged : ∀ epoch, epoch ≤ sys.shared.ackedEpoch →
    ∃ after, final.log = sys.log ++ after ∧ ∀ accepted frame result,
      Happening.wrote (.entry accepted) frame result ∈ after → epoch ≤ accepted
  releasing : ∀ before latched commissioning after,
    final.log = before ++ .latched latched commissioning :: after →
    Happening.acknowledged latched ∉ after →
    ∀ happening ∈ after, ReleaseOnly latched commissioning happening

theorem releaseFrames_inert {frame : HidFrame} (member : frame ∈ releaseFrames .rel) :
    frame.Inert := by
  simp only [releaseFrames, List.mem_cons, List.not_mem_nil, or_false] at member
  rcases member with rfl | rfl <;> decide

/-- Everything written after a shutdown's epoch is acknowledged is inert. -/
theorem written_inert {origin : Origin} {frame : HidFrame} {result : TransactResult}
    (lawful : Lawful (Law bound) (before ++ after))
    (returned : Happening.raised epoch true ∈ before) (acked : epoch ≤ (replay before).acked)
    (written : Happening.wrote origin frame result ∈ after) : frame.Inert := by
  obtain ⟨middle, rest, shape, law⟩ := lawful.mem written
  have early : before ++ middle <+: before ++ after := by
    rw [shape, ← List.append_assoc]
    exact List.prefix_append _ _
  have earlier := lawful.of_prefix early
  have shutting : Happening.raised epoch true ∈ before ++ middle :=
    List.mem_append_left middle returned
  have past : epoch ≤ (replay (before ++ middle)).acked :=
    Nat.le_trans acked (acked_mono earlier (List.prefix_append before middle))
  cases origin with
  | entry under =>
      obtain ⟨_, current, accepted⟩ := law
      have below := (shutdown_closes earlier shutting).2 under accepted
      omega
  | release under =>
      obtain ⟨_, mode, _, frames, relative⟩ := law
      rw [relative (shutdown_idles earlier shutting past)] at frames
      exact releaseFrames_inert frames
  | getInfo =>
      rw [law.1]
      decide

section Exit
variable {next : Sys} {answer : Answer}

theorem transact_lands {origin : Origin} {frame : HidFrame} {unlinked failed sent : Pc}
    (stepped : sys.transact origin frame answer unlinked failed sent = some next) :
    next.pc = unlinked ∨ next.pc = failed ∨ next.pc = sent := by
  unfold Sys.transact at stepped
  split at stepped
  · cases Option.some.inj stepped
    exact Or.inl rfl
  · rename_i result _
    cases Option.some.inj stepped
    cases handed result
    · exact Or.inr (Or.inl rfl)
    · exact Or.inr (Or.inr rfl)
  · cases stepped

theorem transact_stays {origin : Origin} {frame : HidFrame} {unlinked failed sent : Pc}
    (stepped : sys.transact origin frame answer unlinked failed sent = some next)
    (one : unlinked ≠ .exited) (two : failed ≠ .exited) (three : sent ≠ .exited) :
    next.pc ≠ .exited := by
  rcases transact_lands stepped with same | same | same
  · exact same ▸ one
  · exact same ▸ two
  · exact same ▸ three

theorem runStep_exits (stepped : sys.runStep answer = some next) (exited : next.pc = .exited) :
    sys.shared.cancel = false := by
  unfold Sys.runStep at stepped
  repeat' split at stepped
  all_goals try (cases stepped; done)
  all_goals try cases Option.some.inj stepped
  all_goals try simp only [Sys.go] at exited
  all_goals try (cases exited; done)
  · rename_i allowed
    simp only [Bool.and_eq_true, Bool.not_eq_true'] at allowed
    exact allowed.2
  · unfold Sys.startWrite at exited
    split at exited <;> cases exited
  · exact absurd exited (transact_stays stepped nofun nofun nofun)
  · unfold Sys.flushReport at stepped
    split at stepped
    exact absurd exited (transact_stays stepped nofun nofun nofun)

theorem nextEntryStep_stays (stepped : sys.nextEntryStep answer = some next) :
    next.pc ≠ .exited := by
  unfold Sys.nextEntryStep at stepped
  repeat' split at stepped
  all_goals first
    | cases stepped; done
    | (cases Option.some.inj stepped; intro exited; cases exited)

theorem resume_stays (caller : Caller) : caller.resume ≠ .exited := by
  cases caller <;> nofun

theorem finished_stays (owner : Release) (outcome : ReleaseOutcome) :
    owner.finished outcome ≠ .exited := by
  cases owner <;> cases outcome <;> nofun

theorem cancellationStep_stays (stepped : sys.cancellationStep answer = some next) :
    next.pc ≠ .exited := by
  unfold Sys.cancellationStep at stepped
  repeat' split at stepped
  all_goals try (cases stepped; done)
  all_goals try (cases Option.some.inj stepped; intro exited; cases exited)
  · cases Option.some.inj stepped
    exact finished_stays _ _
  · exact transact_stays stepped (finished_stays _ _) nofun nofun
  · cases Option.some.inj stepped
    exact finished_stays _ _
  · cases Option.some.inj stepped
    exact resume_stays _

theorem refreshStep_stays (stepped : sys.refreshStep answer = some next) :
    next.pc ≠ .exited := by
  unfold Sys.refreshStep at stepped
  repeat' split at stepped
  all_goals try (cases stepped; done)
  all_goals try (cases Option.some.inj stepped; intro exited; cases exited)
  all_goals
    cases Option.some.inj stepped
    exact resume_stays _

theorem acquireStep_stays (stepped : sys.acquireStep answer = some next) :
    next.pc ≠ .exited := by
  unfold Sys.acquireStep at stepped
  repeat' split at stepped
  all_goals first
    | cases stepped; done
    | (cases Option.some.inj stepped; intro exited; cases exited)

theorem commissionStep_stays (stepped : sys.commissionStep answer = some next) :
    next.pc ≠ .exited := by
  unfold Sys.commissionStep at stepped
  repeat' split at stepped
  all_goals try (cases stepped; done)
  all_goals try (cases Option.some.inj stepped; intro exited; cases exited)

/-- The writer leaves only at `should_exit`, and only with no cancellation pending. -/
theorem writerStep_exits (stepped : sys.writerStep answer = some next)
    (exited : next.pc = .exited) : sys.shared.cancel = false := by
  unfold Sys.writerStep at stepped
  split at stepped <;> first
    | exact runStep_exits stepped exited
    | exact absurd exited (nextEntryStep_stays stepped)
    | exact absurd exited (cancellationStep_stays stepped)
    | exact absurd exited (refreshStep_stays stepped)
    | exact absurd exited (acquireStep_stays stepped)
    | exact absurd exited (commissionStep_stays stepped)

end Exit

/-- After a release of a shutdown's epoch or a later one is acknowledged nothing
written presses or moves anything; the writer exits with no cancellation pending;
and the shutdown reports its release submitted only if every frame of such a
release was handed to the link, and unsent otherwise. -/
structure ShutdownFinal (sys : Sys) (epoch : Nat) : Prop where
  inert : epoch ≤ sys.shared.ackedEpoch → ∀ labels final, run step labels sys = some final →
    ∃ after, final.log = sys.log ++ after ∧ ∀ origin frame result,
      Happening.wrote origin frame result ∈ after → frame.Inert
  exits : ∀ answer next, sys.writerStep answer = some next → next.pc = .exited →
    sys.shared.cancel = false ∧ epoch ≤ sys.shared.ackedEpoch
  submitted : ∀ joined, sys.shared.shutdownOutcome epoch joined = .submitted →
    ∃ release, epoch ≤ release ∧ Delivered sys.log release
  unsent : ∀ joined, (¬ ∃ release, epoch ≤ release ∧ Delivered sys.log release) →
    sys.shared.shutdownOutcome epoch joined = .unsent

theorem shutdown_final {epoch : Nat} (reached : sys.Reached maxBarriers reconnect)
    (returned : Happening.raised epoch true ∈ sys.log) : ShutdownFinal sys epoch := by
  have holds := reached_holds reached
  have submitted : ∀ joined, sys.shared.shutdownOutcome epoch joined = .submitted →
      ∃ release, epoch ≤ release ∧ Delivered sys.log release := by
    intro joined outcome
    unfold Shared.shutdownOutcome at outcome
    split at outcome
    · rename_i record last
      split at outcome
      · rename_i through
        exact ⟨record.epoch, through.2, (holds.agreed.releases.recorded record last).1 outcome⟩
      · cases outcome
    · cases outcome
  refine ⟨?_, ?_, submitted, ?_⟩
  · intro acked labels final success
    obtain ⟨after, extended⟩ := run_log reached success
    have lawful := reached_lawful (reached.run success)
    rw [← extended] at lawful
    refine ⟨after, extended.symm, fun origin frame result written => ?_⟩
    have told : (replay sys.log).acked = sys.shared.ackedEpoch := holds.agreed.replays.acked
    exact written_inert lawful returned (Nat.le_trans acked (Nat.le_of_eq told.symm)) written
  · intro answer next stepped exited
    have quiet := writerStep_exits stepped exited
    refine ⟨quiet, ?_⟩
    have within := (raised_within (reached_lawful reached)).2.1 true returned
    have told : (replay sys.log).requested = sys.shared.requestedEpoch :=
      holds.agreed.replays.requested
    rw [told] at within
    refine Nat.le_trans within (Nat.le_of_not_lt fun behind => ?_)
    rw [holds.sound.cancel_iff.mpr behind] at quiet
    cases quiet
  · intro joined missing
    cases outcome : sys.shared.shutdownOutcome epoch joined with
    | submitted => exact absurd (submitted joined outcome) missing
    | unsent => rfl

theorem shutdown_final_mid_release :
    Happening.raised 1 true ∈ (Sys.after 4 false pressThenShutdown).log ∧
      ShutdownFinal (Sys.after 4 false pressThenShutdown) 1 :=
  ⟨by decide, shutdown_final (after_reached 4 false pressThenShutdown) (by decide)⟩

end Epochs

end NanoKvm.Input
