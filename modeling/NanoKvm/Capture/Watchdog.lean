import NanoKvm.Capture.Recovery

/-!
# The watchdog climbs the ladder

The capture worker's fields against its log: every act of the format watchdog is
a rung of the ladder, whatever restarts, reopens and format requests come
between.
-/

set_option autoImplicit false

namespace NanoKvm.Capture

open NanoKvm.Lib

section Watchdog
variable {setup : Setup} {w next : Worker} {source : Option FrameSource}

/-! ## What the watchdog goes by -/

structure Watch where
  log : List Event
  negotiated : Option Dims
  mismatchFrames : Nat
  formatRestarts : Nat
  formatReopened : Bool
  escalating : Bool
  formatAccepted : Bool
  /-- The shared counters of its three acts. -/
  counters : Nat × Nat × Nat

def Worker.watch (w : Worker) : Watch where
  log := w.log
  negotiated := w.negotiated
  mismatchFrames := w.mismatchFrames
  formatRestarts := w.formatRestarts
  formatReopened := w.formatReopened
  escalating := w.escalating
  formatAccepted := w.formatAccepted
  counters := (w.inner.formatMismatchRestarts, w.inner.formatMismatchReopens,
    w.inner.formatMismatchAccepted)

def actCounts (log : List Event) : Nat × Nat × Nat :=
  (log.count .restarted, log.count .escalated, log.count .accepted)

theorem actCounts_snoc {log : List Event} {event : Event} (idle : event.acts = false) :
    actCounts (log ++ [event]) = actCounts log := by
  cases event with
  | restarted | escalated | accepted => cases idle
  | opened | matched | mismatched | lost | reformatted =>
      simp [actCounts, List.count_append]

/-- The fields allow for no more than the log has left. -/
structure Abreast (t : Tally) (watch : Watch) : Prop where
  spent : t.spent ≤ watch.formatRestarts
  gathered : watch.mismatchFrames ≤ t.gathered
  escalations : watch.formatReopened = false → t.escalations = 0
  acceptances : watch.formatAccepted = false → t.acceptances = 0
  asked : t.asked = watch.escalating
  /-- Nothing was accepted before the reopen was asked for. -/
  unaccepted : t.asked = true → t.acceptances = 0

structure Tracks (setup : Setup) (watch : Watch) (source : Option FrameSource) : Prop where
  lawful : Lawful (Rung setup.recover setup.formatRestartLimit setup.formatMinFrames) watch.log
  abreast : Abreast (tally watch.log) watch
  negotiated : ∀ s : FrameSource, source = some s → watch.negotiated = s.negotiatedDimensions
  /-- The marker stands only while the source it gave up is away. -/
  released : watch.escalating = true → source = none
  counters : watch.counters = actCounts watch.log

theorem new_tracks : Tracks setup Worker.new.watch Worker.new.source where
  lawful := lawful_nil
  abreast := ⟨Nat.le_refl _, Nat.le_refl _, fun _ => rfl, fun _ => rfl, rfl, fun _ => rfl⟩
  negotiated _ h := by cases h
  released h := by cases h
  counters := rfl

/-- One more entry of the log, and the fields with it. -/
theorem Tracks.snoc {watch after : Watch} {event : Event} {left : Option FrameSource}
    (tracks : Tracks setup watch source) (log : after.log = watch.log ++ [event])
    (rung : Rung setup.recover setup.formatRestartLimit setup.formatMinFrames watch.log event)
    (abreast : Abreast ((tally watch.log).push event) after)
    (negotiated : ∀ s : FrameSource, left = some s → after.negotiated = s.negotiatedDimensions)
    (released : after.escalating = true → left = none)
    (counters : after.counters = actCounts (watch.log ++ [event])) :
    Tracks setup after left := by
  refine ⟨?_, ?_, negotiated, released, ?_⟩
  · rw [log]
    exact tracks.lawful.snoc rung
  · rw [log, tally_snoc]
    exact abreast
  · rw [log]
    exact counters

theorem Tracks.release {watch : Watch} (tracks : Tracks setup watch source) :
    Tracks setup watch none :=
  { tracks with
    negotiated := fun _ h => by cases h
    released := fun _ => rfl }

/-- The source goes without the watchdog's asking. -/
theorem Tracks.leave {event : Event} (unasked : event = .lost ∨ event = .reformatted)
    (tracks : Tracks setup w.watch source) (quiet : w.escalating = false) :
    Tracks setup (w.note event).watch none := by
  have idle : event.acts = false := by
    rcases unasked with rfl | rfl <;> rfl
  have pushed : (tally w.log).push event = { tally w.log with asked := false } := by
    rcases unasked with rfl | rfl <;> rfl
  apply tracks.snoc rfl
  · rcases unasked with rfl | rfl <;> trivial
  · change Abreast ((tally w.log).push event) _
    rw [pushed]
    exact { tracks.abreast with
      asked := quiet.symm
      unaccepted := fun h => by cases h }
  · intro _ h
    cases h
  · exact fun _ => rfl
  · exact tracks.counters.trans (actCounts_snoc idle).symm

/-- A new source is armed: all starts over, save the marker of a reopen asked for. -/
theorem adopt_tracks (clock : Clock) (source : FrameSource)
    (tracks : Tracks setup w.watch w.source) :
    Tracks setup (w.adopt source clock).watch (some source) := by
  have asked : (tally w.log).asked = w.escalating := tracks.abreast.asked
  refine tracks.snoc rfl trivial ?_ ?_ ?_ ?_
  · change Abreast ((tally w.log).push .opened) _
    unfold Tally.push
    cases escalating : w.escalating with
    | true =>
        rw [escalating] at asked
        rw [if_pos asked]
        refine ⟨Nat.zero_le _, Nat.zero_le _, fun fresh => ?_, fun _ => ?_, rfl, fun h => ?_⟩
        · apply tracks.abreast.escalations
          change (w.escalating && w.formatReopened) = false at fresh
          rwa [escalating, Bool.true_and] at fresh
        · exact tracks.abreast.unaccepted asked
        · cases h
    | false =>
        rw [escalating] at asked
        rw [asked]
        exact ⟨Nat.zero_le _, Nat.zero_le _, fun _ => rfl, fun _ => rfl, asked, fun _ => rfl⟩
  · intro s h
    cases Option.some.inj h
    rfl
  · intro h
    cases h
  · exact tracks.counters.trans (actCounts_snoc rfl).symm

/-! ## The acts -/

/-- What a pass leaves to the loop. -/
def Settles (setup : Setup) (outcome : Except String Step) (w : Worker) : Prop :=
  match outcome with
  | .ok (.reopen _) => Tracks setup w.watch none
  | _ => Tracks setup w.watch w.source ∧ w.escalating = false

theorem invokeRestart_settles (answer : RestartAnswer) (tracks : Tracks setup w.watch w.source)
    (quiet : w.escalating = false) :
    Settles setup (.ok (w.invokeRestart answer).1) (w.invokeRestart answer).2 := by
  unfold Worker.invokeRestart
  split
  · exact ⟨tracks, quiet⟩
  · split <;> exact ⟨tracks, quiet⟩

theorem restartStream_settles (clock : Clock) (answer : RestartAnswer)
    (tracks : Tracks setup w.watch w.source) (quiet : w.escalating = false) :
    Settles setup (.ok (w.restartStream clock answer).1) (w.restartStream clock answer).2 := by
  unfold Worker.restartStream
  dsimp only
  split
  · exact ⟨tracks, quiet⟩
  · exact invokeRestart_settles answer tracks quiet

/-- The counters of acts, with one more act. -/
theorem actCounts_act {log : List Event} :
    actCounts (log ++ [.restarted]) =
        ((actCounts log).1 + 1, (actCounts log).2.1, (actCounts log).2.2) ∧
      actCounts (log ++ [.escalated]) =
        ((actCounts log).1, (actCounts log).2.1 + 1, (actCounts log).2.2) ∧
      actCounts (log ++ [.accepted]) =
        ((actCounts log).1, (actCounts log).2.1, (actCounts log).2.2 + 1) := by
  simp [actCounts, List.count_append]

theorem accept_settles (tracks : Tracks setup w.watch w.source) (quiet : w.escalating = false)
    (unaccepted : w.formatAccepted = false) :
    Settles setup (.ok w.accept.1) w.accept.2 := by
  have asked : (tally w.log).asked = false := tracks.abreast.asked.trans quiet
  have none_ := tracks.abreast.acceptances unaccepted
  refine ⟨tracks.snoc rfl none_ ?_ tracks.negotiated tracks.released ?_, quiet⟩
  · obtain ⟨spent, gathered, escalations, -, same, -⟩ := tracks.abreast
    refine ⟨spent, gathered, escalations, fun h => ?_, same, fun h => ?_⟩
    · cases h
    · exact absurd (asked.symm.trans h) Bool.false_ne_true
  · have counters : w.watch.counters = actCounts w.log := tracks.counters
    change _ = actCounts (w.log ++ [Event.accepted])
    rw [actCounts_act.2.2, ← counters]
    rfl

theorem escalate_settles (dims negotiated : Dims) (tracks : Tracks setup w.watch w.source)
    (unaccepted : w.formatAccepted = false) (enough : setup.formatMinFrames ≤ w.mismatchFrames)
    (able : setup.recover = true) (fresh : w.formatReopened = false) :
    Settles setup (.ok (w.escalate dims negotiated).1) (w.escalate dims negotiated).2 := by
  have none_ := tracks.abreast.acceptances unaccepted
  have first := tracks.abreast.escalations fresh
  have gathered := Nat.le_trans enough tracks.abreast.gathered
  refine tracks.snoc rfl ⟨gathered, none_, first, able⟩ ?_ (fun _ h => by cases h)
    (fun _ => rfl) ?_
  · obtain ⟨spent, gathered, -, acceptances, -, -⟩ := tracks.abreast
    refine ⟨spent, gathered, fun h => ?_, acceptances, rfl, fun _ => none_⟩
    cases h
  · have counters : w.watch.counters = actCounts w.log := tracks.counters
    change _ = actCounts (w.log ++ [Event.escalated])
    rw [actCounts_act.2.1, ← counters]
    rfl

theorem restartFormat_settles (clock : Clock) (answer : RestartAnswer)
    (tracks : Tracks setup w.watch w.source) (quiet : w.escalating = false)
    (unaccepted : w.formatAccepted = false) (enough : setup.formatMinFrames ≤ w.mismatchFrames)
    (room : w.formatRestarts < setup.formatRestartLimit) :
    Settles setup (.ok (w.restartFormat clock answer).1) (w.restartFormat clock answer).2 := by
  have none_ := tracks.abreast.acceptances unaccepted
  have gathered := Nat.le_trans enough tracks.abreast.gathered
  have spent := Nat.lt_of_le_of_lt tracks.abreast.spent room
  unfold Worker.restartFormat
  dsimp only
  refine invokeRestart_settles answer ?_ quiet
  refine tracks.snoc rfl ⟨gathered, none_, spent⟩ ?_ tracks.negotiated tracks.released ?_
  · obtain ⟨spent, -, escalations, acceptances, asked, unaccepted⟩ := tracks.abreast
    exact ⟨Nat.succ_le_succ spent, Nat.zero_le _, escalations, acceptances, asked, unaccepted⟩
  · have counters : w.watch.counters = actCounts w.log := tracks.counters
    change _ = actCounts (w.log ++ [Event.restarted])
    rw [actCounts_act.1, ← counters]
    rfl

/-! ## A frame -/

/-- A frame at the negotiated size, before and after the fields are cleared. -/
theorem matched_tracks (tracks : Tracks setup w.watch w.source) (quiet : w.escalating = false) :
    Tracks setup (w.note .matched).watch w.source ∧
      Tracks setup (w.note .matched).clearFormatRun.watch w.source := by
  have asked : (tally w.log).asked = false := tracks.abreast.asked.trans quiet
  have counters := tracks.counters.trans
    (actCounts_snoc rfl : actCounts (w.log ++ [Event.matched]) = actCounts w.log).symm
  constructor
  · refine tracks.snoc rfl asked ?_ tracks.negotiated tracks.released counters
    exact ⟨Nat.zero_le _, tracks.abreast.gathered, fun _ => rfl, fun _ => rfl,
      tracks.abreast.asked, fun _ => rfl⟩
  · refine tracks.snoc rfl asked ?_ tracks.negotiated tracks.released counters
    exact ⟨Nat.zero_le _, Nat.zero_le _, fun _ => rfl, fun _ => rfl, tracks.abreast.asked,
      fun _ => rfl⟩

/-- A frame at another, before and after it is counted. -/
theorem mismatched_tracks (clock : Clock) (tracks : Tracks setup w.watch w.source)
    (quiet : w.escalating = false) :
    Tracks setup (w.note .mismatched).watch w.source ∧
      Tracks setup ((w.note .mismatched).countMismatch clock).2.watch w.source := by
  have none_ : (tally w.log).asked = false := tracks.abreast.asked.trans quiet
  obtain ⟨spent, gathered, escalations, acceptances, asked, unaccepted⟩ := tracks.abreast
  have counters := tracks.counters.trans
    (actCounts_snoc rfl : actCounts (w.log ++ [Event.mismatched]) = actCounts w.log).symm
  constructor
  · refine tracks.snoc rfl none_ ?_ tracks.negotiated tracks.released counters
    exact ⟨spent, Nat.le_succ_of_le gathered, escalations, acceptances, asked, unaccepted⟩
  · refine tracks.snoc rfl none_ ?_ tracks.negotiated tracks.released counters
    refine ⟨spent, ?_, escalations, acceptances, asked, unaccepted⟩
    have counted : saturatingSucc w.mismatchFrames ≤ w.mismatchFrames + 1 := Nat.min_le_left _ _
    exact Nat.le_trans counted (Nat.succ_le_succ gathered)

theorem watchFormat_settles {source : FrameSource} {dims : Dims} (clock : Clock) (answer : RestartAnswer)
    (tracks : Tracks setup w.watch w.source) (quiet : w.escalating = false)
    (here : w.source = some source) :
    Settles setup (.ok ((w.seen source dims).watchFormat setup dims clock answer).1)
      ((w.seen source dims).watchFormat setup dims clock answer).2 := by
  have agreed : w.negotiated = source.negotiatedDimensions := tracks.negotiated source here
  unfold Worker.seen
  split
  · rename_i negotiated size
    rw [size] at agreed
    by_cases same : dims = negotiated
    · obtain ⟨before, cleared⟩ := matched_tracks tracks quiet
      rw [if_pos same]
      unfold Worker.watchFormat
      split
      · rename_i grace measured _ known
        cases Option.some.inj (known.symm.trans agreed)
        rw [if_pos same]
        exact ⟨cleared, quiet⟩
      · exact ⟨before, quiet⟩
    · obtain ⟨before, counted⟩ := mismatched_tracks clock tracks quiet
      rw [if_neg same]
      unfold Worker.watchFormat
      split
      · rename_i grace measured _ known
        cases Option.some.inj (known.symm.trans agreed)
        rw [if_neg same]
        split
        · exact ⟨before, quiet⟩
        rename_i unaccepted
        replace unaccepted : w.formatAccepted = false := Bool.eq_false_iff.mpr unaccepted
        dsimp only
        split
        · exact ⟨counted, quiet⟩
        rename_i enough
        rw [not_or, Nat.not_lt] at enough
        split
        · split
          · rename_i able
            rw [Bool.and_eq_true, Bool.not_eq_true'] at able
            exact escalate_settles dims negotiated counted unaccepted enough.1 able.1 able.2
          · exact accept_settles counted quiet unaccepted
        rename_i room
        split
        · exact ⟨counted, quiet⟩
        · exact restartFormat_settles clock answer counted quiet unaccepted enough.1
            (Nat.not_le.mp room)
      · exact ⟨before, quiet⟩
  · rename_i size
    rw [size] at agreed
    unfold Worker.watchFormat
    split
    · rename_i known
      rw [agreed] at known
      cases known
    · exact ⟨tracks, quiet⟩

/-! ## The loop -/

theorem step_settles (clock : Clock) (frame : FrameAnswer) (restart : RestartAnswer)
    (tracks : Tracks setup w.watch w.source) (quiet : w.escalating = false) :
    Settles setup (w.step setup clock frame restart).1 (w.step setup clock frame restart).2 := by
  unfold Worker.step
  split
  · exact restartStream_settles clock restart tracks quiet
  split
  · exact ⟨tracks, quiet⟩
  rename_i source here
  split
  · exact watchFormat_settles
      (w := { w with consecutiveErrors := 0, lastKind := none, restartBase := clock.now })
      clock restart tracks quiet here
  · exact ⟨tracks, quiet⟩
  · exact ⟨tracks, quiet⟩
  · exact ⟨tracks, quiet⟩

/-- Between the reopen asked for and the open that answers it nothing polls the source. -/
structure Kept (setup : Setup) (w : Worker) : Prop where
  tracks : Tracks setup w.watch w.source
  away : w.escalating = true → w.pc ≠ .applyFormat ∧ w.pc ≠ .step

theorem lose_kept (message : String) (tracks : Tracks setup w.watch w.source)
    (quiet : w.escalating = false) : Kept setup (w.lose setup message) := by
  have left : Tracks setup (w.loseDevice message).watch none :=
    Tracks.leave (w := { w with
      inner.state := .disconnected
      inner.lastError := some message
      inner.disconnects := w.inner.disconnects + 1
      inner.negotiatedDimensions := none }.releaseSource) (Or.inl rfl) tracks.release quiet
  unfold Worker.lose
  dsimp only
  split
  · exact ⟨left, fun h => absurd (quiet.symm.trans h) Bool.false_ne_true⟩
  · exact ⟨left, fun h => absurd (quiet.symm.trans h) Bool.false_ne_true⟩

theorem handle_kept {outcome : Except String Step} (settles : Settles setup outcome w) :
    Kept setup (w.handle setup outcome) := by
  unfold Worker.handle
  split
  · exact ⟨settles.1, fun _ => ⟨LoopPc.noConfusion, LoopPc.noConfusion⟩⟩
  · exact lose_kept _ settles.1 settles.2
  · exact ⟨settles, fun _ => ⟨LoopPc.noConfusion, LoopPc.noConfusion⟩⟩
  · exact lose_kept _ settles.1 settles.2

theorem finish_kept (tracks : Tracks setup w.watch w.source) : Kept setup w.finish :=
  ⟨tracks.release, fun _ => ⟨LoopPc.noConfusion, LoopPc.noConfusion⟩⟩

theorem move_kept {label : Worker.Move} (kept : Kept setup w)
    (moved : Worker.move setup label w = some next) : Kept setup next := by
  obtain ⟨tracks, away⟩ := kept
  cases label with
  | requestFormat width height fps | stop | close =>
      cases Option.some.inj moved
      exact ⟨tracks, away⟩
  | openFirst clock opened =>
      simp only [Worker.move, Option.ite_none_right_eq_some] at moved
      obtain ⟨-, moved⟩ := moved
      unfold Worker.openFirst at moved
      split at moved
      · simp only [Option.ite_none_right_eq_some, Option.some.injEq] at moved
        obtain ⟨-, rfl⟩ := moved
        exact finish_kept (w := { w with closed := true }) tracks
      · cases Option.some.inj moved
        exact ⟨adopt_tracks clock _ tracks, fun h => by cases h⟩
      · dsimp only at moved
        split at moved
        · cases Option.some.inj moved
          exact ⟨tracks, fun _ => ⟨LoopPc.noConfusion, LoopPc.noConfusion⟩⟩
        · cases Option.some.inj moved
          exact ⟨tracks.release, fun _ => ⟨LoopPc.noConfusion, LoopPc.noConfusion⟩⟩
  | top =>
      simp only [Worker.move, Option.ite_none_right_eq_some] at moved
      obtain ⟨-, moved⟩ := moved
      split at moved
      · cases Option.some.inj moved
        exact finish_kept tracks
      split at moved
      · cases Option.some.inj moved
        exact ⟨tracks, fun _ => ⟨LoopPc.noConfusion, LoopPc.noConfusion⟩⟩
      · rename_i here
        cases Option.some.inj moved
        refine ⟨tracks, fun escalating => ?_⟩
        have gone : w.source = none := tracks.released escalating
        exact absurd (by rw [gone]; rfl) here
  | reconnect | waited =>
      simp only [Worker.move, Option.ite_none_right_eq_some] at moved
      obtain ⟨-, moved⟩ := moved
      split at moved
      · cases Option.some.inj moved
        exact finish_kept tracks
      · cases Option.some.inj moved
        exact ⟨tracks, fun _ => ⟨LoopPc.noConfusion, LoopPc.noConfusion⟩⟩
  | attempt clock opened =>
      simp only [Worker.move, Option.ite_none_right_eq_some] at moved
      obtain ⟨-, moved⟩ := moved
      unfold Worker.attempt at moved
      split at moved
      · simp only [Option.ite_none_right_eq_some, Option.some.injEq] at moved
        obtain ⟨-, rfl⟩ := moved
        exact finish_kept tracks
      · rename_i source
        cases Option.some.inj moved
        have fresh := adopt_tracks (w := { w with consecutiveErrors := 0, lastKind := none })
          clock source tracks
        exact ⟨fresh, fun h => by cases h⟩
      · cases Option.some.inj moved
        exact ⟨tracks, fun _ => ⟨LoopPc.noConfusion, LoopPc.noConfusion⟩⟩
  | applyFormat accepted =>
      simp only [Worker.move, Option.ite_none_right_eq_some, Option.some.injEq] at moved
      obtain ⟨here, rfl⟩ := moved
      have quiet : w.escalating = false := by
        apply Bool.eq_false_iff.mpr
        exact fun escalating => (away escalating).1 here
      unfold Worker.applyFormatRequest
      split
      · exact ⟨tracks, fun h => absurd (quiet.symm.trans h) Bool.false_ne_true⟩
      dsimp only
      split
      · have left := Tracks.leave (w := { w with
          formatRequest := none
          inner.formatChanges := w.inner.formatChanges + 1
          inner.negotiatedDimensions := none }.releaseSource) (Or.inr rfl) tracks.release quiet
        exact ⟨left, fun h => absurd (quiet.symm.trans h) Bool.false_ne_true⟩
      · exact ⟨tracks, fun h => absurd (quiet.symm.trans h) Bool.false_ne_true⟩
  | step clock frame restart =>
      simp only [Worker.move, Option.ite_none_right_eq_some, Option.some.injEq] at moved
      obtain ⟨here, rfl⟩ := moved
      have quiet : w.escalating = false := by
        apply Bool.eq_false_iff.mpr
        exact fun escalating => (away escalating).2 here
      exact handle_kept (step_settles clock frame restart tracks quiet)

theorem reachable_kept (reached : Reachable (Worker.move setup) (· = .new) w) : Kept setup w := by
  apply reachable_preserves _ (fun _ _ _ kept moved => move_kept kept moved) reached
  rintro _ rfl
  exact ⟨new_tracks, fun h => by cases h⟩

/-- The shared counters count the acts of the log. -/
theorem acts_counted (reached : Reachable (Worker.move setup) (· = .new) w) :
    w.inner.formatMismatchRestarts = w.log.count .restarted ∧
      w.inner.formatMismatchReopens = w.log.count .escalated ∧
      w.inner.formatMismatchAccepted = w.log.count .accepted := by
  have counters := (reachable_kept reached).tracks.counters
  simpa [Worker.watch, actCounts] using counters

/-- Between two refills the watchdog keeps to its budget, and never acts on fewer
mismatched frames than it was told to wait for. -/
theorem watchdog_bounded (reached : Reachable (Worker.move setup) (· = .new) w) :
    (∀ before middle after, w.log = before ++ middle ++ after → Unrefilled before middle →
      WithinBudget setup.recover setup.formatRestartLimit middle) ∧
    ∀ before event after, w.log = before ++ event :: after →
      event = .restarted ∨ event = .escalated →
        setup.formatMinFrames ≤ (tally before).gathered := by
  have lawful := (reachable_kept reached).tracks.lawful
  constructor
  · intro before middle after shape kept
    change Lawful _ w.log at lawful
    rw [shape] at lawful
    exact lawful_within lawful kept
  · intro before event after shape which
    have rung := lawful before event after shape
    rcases which with rfl | rfl
    · exact rung.1
    · exact rung.1

end Watchdog

/-- No patience, one frame, one restart. -/
def hastySetup : Setup := ⟨true, none, some 0, 1, 1⟩

/-- A device that never sends what it negotiated, from its first open to acceptance. -/
def stubbornRun : List Worker.Move :=
  let clock : Clock := ⟨0, 0⟩
  let source : FrameSource := ⟨some (2#32, 2#32)⟩
  let pass : List Worker.Move :=
    [.applyFormat false, .step clock (.frame (1#32, 1#32)) .restarted, .top]
  [.openFirst clock (some (.ok source)), .top] ++ pass ++ pass ++
    [.reconnect, .waited, .attempt clock (some (.error (.config "busy"))),
      .reconnect, .waited, .attempt clock (some (.ok source))] ++ pass ++ pass ++ pass

theorem watchdog_bounded_stubborn :
    ∃ w, run (Worker.move hastySetup) stubbornRun .new = some w ∧
      w.log = [.opened, .mismatched, .restarted, .mismatched, .escalated, .opened, .mismatched,
        .restarted, .mismatched, .accepted, .mismatched] ∧
      (∀ before middle after, w.log = before ++ middle ++ after → Unrefilled before middle →
        WithinBudget true 1 middle) ∧
      ∀ before event after, w.log = before ++ event :: after →
        event = .restarted ∨ event = .escalated → 1 ≤ (tally before).gathered := by
  have success : run (Worker.move hastySetup) stubbornRun .new =
      some ((run (Worker.move hastySetup) stubbornRun .new).getD .new) := rfl
  have facts := @watchdog_bounded hastySetup _ ⟨.new, stubbornRun, rfl, success⟩
  exact ⟨_, success, by decide, facts.1, facts.2⟩

end NanoKvm.Capture
