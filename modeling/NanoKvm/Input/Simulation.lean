import NanoKvm.Input.Moves

/-!
# The threads make moves

Every step of a thread is a few moves of the smaller machine, whatever the
state it is taken in, given the invariant of `Session`.
-/

set_option autoImplicit false

namespace NanoKvm.Input

open NanoKvm.Proto NanoKvm.Lib

section Steps
variable {sys next : Sys} {answer : Answer}

theorem Moves.one {view after : View} (move : Move view after) : Moves view after :=
  Relation.ReflTransGen.single move

theorem Moves.stay (view : View) : Moves view view := Relation.ReflTransGen.refl

theorem Moves.then_ {view middle after : View} (first : Moves view middle)
    (move : Move middle after) : Moves view after :=
  Relation.ReflTransGen.tail first move

theorem keeps_lost (shared : Shared) : shared.Keeps shared.markLinkDown := ⟨rfl, rfl, rfl, rfl, rfl⟩

theorem lost_move (view : View) : Move view { view with shared := view.shared.markLinkDown } :=
  Move.aside (keeps_lost view.shared) nofun

/-- A point where the writer only looks leads to either of two points of its duty. -/
theorem fork_moves {view : View} {test : Prop} [Decidable test] {one other : Pc}
    (here : one.duty = view.duty) (there : other.duty = view.duty) :
    Moves view ⟨(if test then one else other).duty, view.shared, view.mode, view.log⟩ := by
  split
  · rw [here]
    exact Moves.stay view
  · rw [there]
    exact Moves.stay view

/-- A report goes out, or the link turns out to be gone. -/
theorem transact_moves {view : View} {origin : Origin} {frame : HidFrame}
    {unlinked failed sent : Pc}
    (onUnlinked : Moves view ⟨unlinked.duty, sys.shared, sys.mode, sys.log⟩)
    (onResult : ∀ result, Moves view ⟨(if handed result then sent else failed).duty, sys.shared,
      sys.mode, sys.log ++ [.wrote origin frame result]⟩)
    (stepped : sys.transact origin frame answer unlinked failed sent = some next) :
    Moves view next.view := by
  unfold Sys.transact at stepped
  split at stepped
  · cases Option.some.inj stepped
    exact onUnlinked
  · rename_i result _
    cases Option.some.inj stepped
    exact onResult result
  · cases stepped

theorem runStep_moves (sound : sys.Sound) (stepped : sys.runStep answer = some next) :
    Moves sys.view next.view := by
  unfold Sys.runStep at stepped
  unfold Sys.Sound at sound
  split at stepped
  -- `acquire_first_link`
  · rename_i point
    rw [view_at point]
    split at stepped
    · cases Option.some.inj stepped
      exact Moves.stay _
    · cases stepped
  · rename_i point
    rw [view_at point]
    split at stepped
    · cases stepped
    · cases Option.some.inj stepped
      exact Moves.stay _
  · rename_i point
    rw [view_at point]
    split at stepped
    · cases stepped
    · cases Option.some.inj stepped
      exact Moves.stay _
  · rename_i point
    rw [view_at point]
    cases Option.some.inj stepped
    exact Moves.one (lost_move _)
  -- `run`
  · rename_i point
    rw [view_at point]
    cases Option.some.inj stepped
    exact fork_moves rfl rfl
  · rename_i point
    rw [view_at point]
    cases Option.some.inj stepped
    exact fork_moves rfl rfl
  · rename_i point
    rw [view_at point]
    cases Option.some.inj stepped
    exact fork_moves rfl rfl
  · rename_i point
    rw [view_at point]
    cases Option.some.inj stepped
    exact fork_moves rfl rfl
  · rename_i entry point
    rw [view_at point]
    rw [point] at sound
    cases Option.some.inj stepped
    change Moves _ ⟨Pc.duty (if _ then _ else _), sys.shared, sys.mode, sys.log⟩
    split
    · rename_i stale
      rw [sound.in_hand entry.epoch rfl] at stale
      exact absurd stale (Nat.lt_irrefl _)
    · exact Moves.stay _
  · rename_i entry point
    rw [view_at point]
    rw [point] at sound
    split at stepped
    · rename_i down
      cases Option.some.inj stepped
      exact Moves.one (Move.discarded rfl down)
    · rename_i up
      cases Option.some.inj stepped
      exact Moves.one (Move.taken rfl (sound.in_hand entry.epoch rfl) (by simpa using up))
  · rename_i entry point
    rw [view_at point]
    cases Option.some.inj stepped
    unfold Sys.startWrite
    split
    · exact Moves.one (Move.finished rfl)
    · exact Moves.stay _
    · exact Moves.stay _
  -- `write_frame` under `write_entry`
  · rename_i answer epoch frame point
    rw [view_at point]
    rw [point] at sound
    have current := sound.in_hand epoch rfl
    refine transact_moves (Moves.one (Move.unlinked rfl)) ?_ stepped
    intro result
    have wrote : Move ⟨.writing epoch, sys.shared, sys.mode, sys.log⟩ _ :=
      Move.wrote rfl frame result current
    split
    · rename_i sent
      rw [if_pos sent] at wrote
      exact (Moves.one wrote).then_ (Move.finished rfl)
    · rename_i failed
      rw [if_neg failed] at wrote
      exact Moves.one wrote
  · rename_i answer epoch loop point
    rw [view_at point]
    rw [point] at sound
    have current := sound.in_hand epoch rfl
    unfold Sys.flushReport at stepped
    split at stepped
    rename_i mode frame next _
    have steered : Moves ⟨.writing epoch, sys.shared, sys.mode, sys.log⟩
        ⟨.writing epoch, sys.shared, mode, sys.log⟩ := Moves.one (Move.steered rfl mode)
    refine transact_moves (steered.then_ (Move.unlinked rfl)) ?_ stepped
    intro result
    have wrote : Move ⟨.writing epoch, sys.shared, mode, sys.log⟩ _ :=
      Move.wrote rfl frame result current
    split
    · rename_i sent
      rw [if_pos sent] at wrote
      exact steered.then_ wrote
    · rename_i failed
      rw [if_neg failed] at wrote
      exact steered.then_ wrote
  · rename_i point
    rw [view_at point]
    split at stepped
    · cases Option.some.inj stepped
      change Moves _ ⟨Pc.duty (if _ then _ else _), sys.shared, sys.mode, sys.log⟩
      split
      · exact Moves.one (Move.finished rfl)
      · exact Moves.stay _
    · cases Option.some.inj stepped
      exact Moves.one (Move.finished rfl)
  · rename_i point
    rw [view_at point]
    cases Option.some.inj stepped
    exact Moves.one (lost_move _)
  · rename_i point
    rw [view_at point]
    cases Option.some.inj stepped
    have raised : Move ⟨.failing, sys.shared, sys.mode, sys.log⟩ _ :=
      Move.raised (.note .linkDown) false sound.acked_le
    exact (Moves.one raised).then_ (Move.triggered rfl (Nat.lt_succ_of_le sound.acked_le))
  · cases stepped

theorem nextEntryStep_moves (sound : sys.Sound) (stepped : sys.nextEntryStep answer = some next) :
    Moves sys.view next.view := by
  unfold Sys.nextEntryStep at stepped
  unfold Sys.Sound at sound
  split at stepped
  · rename_i point
    rw [view_at point]
    split at stepped
    · cases Option.some.inj stepped
      exact Moves.stay _
    · rename_i quiet
      split at stepped
      · rename_i entry queue popped
        cases Option.some.inj stepped
        have shape := pop_entries popped
        have uncancelled : ¬ sys.shared.cancel = true := by
          intro cancelled
          exact quiet (by simp [cancelled])
        have settled := Nat.le_antisymm sound.acked_le
          (Nat.le_of_not_lt fun behind => uncancelled (sound.cancel_iff.mpr behind))
        exact Moves.one
          (Move.popped rfl popped (sound.queued entry (shape ▸ List.mem_cons_self)) settled)
      · cases Option.some.inj stepped
        exact Moves.stay _
  · rename_i point
    rw [view_at point]
    cases Option.some.inj stepped
    exact Moves.stay _
  · rename_i point
    rw [view_at point]
    cases Option.some.inj stepped
    exact fork_moves rfl rfl
  · rename_i point
    rw [view_at point]
    cases Option.some.inj stepped
    exact fork_moves rfl rfl
  · rename_i point
    rw [view_at point]
    cases Option.some.inj stepped
    exact Moves.one (lost_move _)
  · rename_i point
    rw [view_at point]
    cases Option.some.inj stepped
    exact Moves.one (Move.raised (.note .linkDown) false sound.acked_le)
  · cases stepped

theorem finished_moves (owner : Release) (outcome : ReleaseOutcome) {stage : Stage}
    (shared : Shared) (mode : PointerMode) (log : List Happening)
    (through : outcome = .submitted → stage = .writing []) :
    Move ⟨.releasing owner.epoch owner.commissioning stage, shared, mode, log⟩
      ⟨(owner.finished outcome).duty, shared, mode, log⟩ := by
  cases outcome with
  | submitted =>
      rw [through rfl]
      cases owner <;> exact Move.passed rfl .deliver
  | unsent => cases owner <;> exact Move.passed rfl (.abandon stage)

theorem cancellationStep_moves (sound : sys.Sound)
    (stepped : sys.cancellationStep answer = some next) : Moves sys.view next.view := by
  unfold Sys.cancellationStep at stepped
  unfold Sys.Sound at sound
  split at stepped
  · rename_i caller point
    rw [view_at point]
    rw [point] at sound
    cases Option.some.inj stepped
    refine Moves.one (Move.latched rfl (sound.cancel_iff.mp sound.assumed) ?_)
    exact drainUpto_all fun entry member => by
      rw [sound.queued entry member]
      exact sound.acked_le
  · rename_i point
    rw [view_at point]
    split at stepped
    · cases Option.some.inj stepped
      exact Moves.one (Move.passed rfl (.abandon _))
    · cases Option.some.inj stepped
      exact Moves.one (Move.passed rfl .begin)
  · rename_i owner point
    rw [view_at point]
    cases Option.some.inj stepped
    exact Moves.one (finished_moves owner .submitted _ _ _ fun _ => rfl)
  · rename_i owner frame rest point
    rw [view_at point]
    refine transact_moves (Moves.one (finished_moves owner .unsent _ _ _ nofun)) ?_ stepped
    intro result
    have released : Move ⟨.releasing owner.epoch owner.commissioning (.writing (frame :: rest)),
        sys.shared, sys.mode, sys.log⟩ _ := Move.released rfl result
    split
    · rename_i sent
      rw [if_pos sent] at released
      exact Moves.one released
    · rename_i failed
      rw [if_neg failed] at released
      exact Moves.one released
  · rename_i owner point
    rw [view_at point]
    cases Option.some.inj stepped
    exact (Moves.one (lost_move _)).then_ (finished_moves owner .unsent _ _ _ nofun)
  · rename_i caller epoch reason outcome point
    rw [view_at point]
    cases Option.some.inj stepped
    cases outcome with
    | submitted => exact Moves.one (Move.recorded rfl reason .submitted fun _ => rfl)
    | unsent => exact Moves.one (Move.recorded rfl reason .unsent nofun)
  · rename_i caller epoch point
    rw [view_at point]
    rw [point] at sound
    obtain ⟨above, below, empty⟩ := sound.latched epoch false rfl
    cases Option.some.inj stepped
    cases caller <;> exact Moves.one (Move.acknowledged rfl above below empty)
  · cases stepped

theorem refreshStep_moves (stepped : sys.refreshStep answer = some next) :
    Moves sys.view next.view := by
  unfold Sys.refreshStep at stepped
  split at stepped
  · rename_i point
    rw [view_at point]
    cases Option.some.inj stepped
    exact Moves.one (Move.aside ⟨rfl, rfl, rfl, rfl, rfl⟩ Or.inl)
  · rename_i point
    rw [view_at point]
    cases Option.some.inj stepped
    exact fork_moves rfl rfl
  · rename_i point
    rw [view_at point]
    cases Option.some.inj stepped
    exact Moves.one (Move.asked (Or.inl rfl))
  · rename_i point
    rw [view_at point]
    cases Option.some.inj stepped
    exact Moves.one (Move.informed _ (Or.inl rfl))
  · rename_i caller info point
    rw [view_at point]
    split at stepped
    · cases Option.some.inj stepped
      cases caller <;> exact Moves.one (Move.aside ⟨rfl, rfl, rfl, rfl, rfl⟩ Or.inl)
    · cases Option.some.inj stepped
      cases caller <;> exact Moves.one (Move.aside ⟨rfl, rfl, rfl, rfl, rfl⟩ Or.inl)
  · cases stepped

theorem acquireStep_moves (stepped : sys.acquireStep answer = some next) :
    Moves sys.view next.view := by
  unfold Sys.acquireStep at stepped
  split at stepped
  · rename_i point
    rw [view_at point]
    cases Option.some.inj stepped
    exact fork_moves rfl rfl
  · rename_i point
    rw [view_at point]
    cases Option.some.inj stepped
    exact fork_moves rfl rfl
  · rename_i point
    rw [view_at point]
    cases Option.some.inj stepped
    exact fork_moves rfl rfl
  · rename_i point
    rw [view_at point]
    cases Option.some.inj stepped
    exact fork_moves rfl rfl
  · rename_i point
    rw [view_at point]
    split at stepped
    · cases Option.some.inj stepped
      exact Moves.stay _
    · cases Option.some.inj stepped
      exact fork_moves rfl rfl
  · rename_i point
    rw [view_at point]
    cases Option.some.inj stepped
    exact Moves.stay _
  · rename_i point
    rw [view_at point]
    split at stepped <;> cases Option.some.inj stepped <;> exact Moves.stay _
  · rename_i point
    rw [view_at point]
    split at stepped
    · cases Option.some.inj stepped
      exact Moves.stay _
    · cases Option.some.inj stepped
      exact Moves.stay _
    · cases Option.some.inj stepped
      exact Moves.stay _
    · split at stepped <;> cases Option.some.inj stepped <;> exact Moves.stay _
    · cases stepped
  · rename_i point
    rw [view_at point]
    cases Option.some.inj stepped
    exact Moves.stay _
  · cases stepped

theorem commissionStep_moves (sound : sys.Sound)
    (stepped : sys.commissionStep answer = some next) : Moves sys.view next.view := by
  unfold Sys.commissionStep at stepped
  unfold Sys.Sound at sound
  split at stepped
  · rename_i initial point
    rw [view_at point]
    rw [point] at sound
    cases Option.some.inj stepped
    have raised : Move ⟨.idle, sys.shared, sys.mode, sys.log⟩ _ :=
      Move.raised .take false sound.acked_le
    refine (Moves.one raised).then_ (Move.commissioned rfl ?_ ?_)
    · exact Nat.lt_succ_of_le sound.acked_le
    · exact (sound.outage rfl).2
  · rename_i ok point
    rw [view_at point]
    cases Option.some.inj stepped
    cases ok with
    | true => exact Moves.one (Move.resynced rfl true)
    | false => exact (Moves.one (Move.resynced rfl false)).then_ (Move.passed rfl (.abandon _))
  · rename_i initial epoch reason point
    rw [view_at point]
    cases Option.some.inj stepped
    exact (Moves.one (Move.drained rfl)).then_ (Move.passed rfl .begin)
  · rename_i point
    rw [view_at point]
    cases Option.some.inj stepped
    exact Moves.one (Move.asked (Or.inr ⟨_, _, rfl⟩))
  · rename_i initial epoch reason result point
    rw [view_at point]
    cases Option.some.inj stepped
    have informed : Move ⟨.releasing epoch true .delivered, sys.shared, sys.mode, sys.log⟩ _ :=
      Move.informed result (Or.inr ⟨_, _, rfl⟩)
    change Moves _ ⟨Pc.duty (.commissionRecord initial epoch reason (infoOf result)), _, _, _⟩
    cases infoOf result with
    | none => exact (Moves.one informed).then_ (Move.passed rfl (.abandon _))
    | some info => exact Moves.one informed
  · rename_i info point
    rw [view_at point]
    cases Option.some.inj stepped
    cases info with
    | none => exact Moves.one (Move.recorded rfl _ .unsent nofun)
    | some info => exact Moves.one (Move.recorded rfl _ .submitted fun _ => rfl)
  · rename_i info point
    rw [view_at point]
    cases Option.some.inj stepped
    exact Moves.one (Move.aside ⟨rfl, rfl, rfl, rfl, rfl⟩ fun _ => Or.inr rfl)
  · rename_i initial epoch accepted point
    rw [view_at point]
    rw [point] at sound
    obtain ⟨above, below, empty⟩ := sound.latched epoch true rfl
    split at stepped <;> cases Option.some.inj stepped <;>
      exact Moves.one (Move.acknowledged rfl above below empty)
  · cases stepped

theorem writerStep_moves (sound : sys.Sound) (stepped : sys.writerStep answer = some next) :
    Moves sys.view next.view := by
  unfold Sys.writerStep at stepped
  split at stepped <;> first
    | exact runStep_moves sound stepped
    | exact nextEntryStep_moves sound stepped
    | exact cancellationStep_moves sound stepped
    | exact refreshStep_moves stepped
    | exact acquireStep_moves stepped
    | exact commissionStep_moves sound stepped

theorem duty_latched (pc : Pc) : pc.duty.latched = pc.latched := by
  cases pc with
  | record caller epoch reason outcome => cases outcome <;> rfl
  | commissionRecord initial epoch reason info => cases info <;> rfl
  | _ => rfl

/-- While submission is admitted the writer carries no release. -/
theorem engaged_free (sound : sys.Sound) (engaged : sys.shared.engaged = true) :
    sys.shared.ackedEpoch = sys.shared.requestedEpoch ∧ sys.pc.duty.latched = none := by
  obtain ⟨settled, _⟩ := sound.engaged_settled engaged
  refine ⟨settled, ?_⟩
  rw [duty_latched]
  cases held : sys.pc.latched with
  | none => rfl
  | some latch =>
      obtain ⟨above, below, _⟩ := sound.latched latch.1 latch.2 held
      omega

theorem submit_moves (sound : sys.Sound) (thread : Nat) (event : Event) :
    Moves sys.view (sys.submit thread event).view := by
  unfold Sys.submit
  cases verdict : sys.shared.submit event with
  | ok shared =>
      obtain ⟨settled, free⟩ := engaged_free sound (submit_session verdict).1
      exact Moves.one (Move.submitted verdict settled free)
  | error refusal =>
      have refused : Move sys.view _ := Move.refused verdict (engaged_free sound)
      cases refusal <;> exact Moves.one refused

/-- Every step of a thread is a few moves. -/
theorem step_moves (label : Label) (sys next : Sys) (sound : sys.Sound)
    (stepped : step label sys = some next) : Moves sys.view next.view := by
  cases label with
  | submit thread event =>
      simp only [step] at stepped
      split at stepped
      · cases stepped
      · cases Option.some.inj stepped
        exact submit_moves sound thread event
  | overflowTrigger thread =>
      simp only [step] at stepped
      split at stepped
      · cases Option.some.inj stepped
        exact Moves.one (Move.raised _ _ sound.acked_le)
      · cases stepped
  | requestReleaseAll reason =>
      cases Option.some.inj stepped
      exact Moves.one (Move.raised _ _ sound.acked_le)
  | engage =>
      cases Option.some.inj stepped
      unfold Sys.engage
      cases accepted : sys.shared.engage with
      | ok shared =>
          obtain ⟨_, acked, rfl⟩ := engage_session accepted
          exact Moves.one (Move.engaged ⟨rfl, rfl, rfl, rfl, rfl⟩ rfl
            (Nat.le_antisymm sound.acked_le acked))
      | error refusal => exact Moves.stay _
  | refreshDeviceInfo =>
      cases Option.some.inj stepped
      exact Moves.one (Move.aside ⟨rfl, rfl, rfl, rfl, rfl⟩ Or.inl)
  | beginShutdown =>
      cases Option.some.inj stepped
      exact Moves.one (Move.raised _ _ sound.acked_le)
  | helperSends opened =>
      simp only [step, Sys.helperSends] at stepped
      split at stepped
      · cases Option.some.inj stepped
        exact Moves.stay _
      · cases Option.some.inj stepped
        exact Moves.stay _
      · cases stepped
  | helperDies =>
      simp only [step, Sys.helperDies] at stepped
      split at stepped
      · cases Option.some.inj stepped
        exact Moves.stay _
      · cases Option.some.inj stepped
        exact Moves.stay _
      · cases stepped
  | writer answer => exact writerStep_moves sound stepped

end Steps

end NanoKvm.Input
