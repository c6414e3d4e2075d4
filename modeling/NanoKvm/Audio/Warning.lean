import NanoKvm.Audio.Workers

/-!
# A warning over working audio

A snapshot finds a side overdue under one lock and reports it under another; the
worker clears its mark and its condition in between, once an open.  A report that
comes after stays for the rest of the session.
-/

set_option autoImplicit false

namespace NanoKvm.Audio

open NanoKvm.Lib

/-- What holds of a side, by where its worker is. -/
def SideView.Settled (view : SideView) : Prop :=
  match view.phase with
  | .ready true | .moving true =>
      view.working = true ∧ view.failing = false ∧ (view.condition = none ↔ view.late = false)
  | .moved | .recovering => view.working = true ∧ view.failing = false
  | .interrupted _ | .closing _ | .reporting _ => view.working = false ∧ view.failing = true
  -- A worker told to stop comes here from anywhere.
  | _ => view.stop = false → view.working = false ∧ (view.failing = true → view.condition ≠ none)

section Worker
variable {path after : AudioPath} {side : AudioSide} {act : WorkerAct}

@[simp] theorem view_phase (path : AudioPath) (side : AudioSide) :
    (path.view side).phase = path.phases.get side := rfl

@[simp] theorem view_go_same (path : AudioPath) (side : AudioSide) (phase : Phase) :
    (path.go side phase).view side = { path.view side with phase := phase } := by
  unfold AudioPath.view AudioPath.go
  simp

@[simp] theorem view_keep_same (path : AudioPath) (side : AudioSide) (stats : AudioStats) :
    (path.keep stats).view side =
      { path.view side with condition := stats.conditionOf side } := rfl

attribute [local simp] working failing late

@[simp] theorem view_opened (path : AudioPath) (side : AudioSide) :
    (path.note (.device side .opened)).view side = { path.view side with working := false } := by
  unfold AudioPath.view AudioPath.note
  simp

@[simp] theorem view_moved (path : AudioPath) (side : AudioSide) :
    (path.note (.device side .moved)).view side =
      { path.view side with working := true, failing := false } := by
  unfold AudioPath.view AudioPath.note
  simp

@[simp] theorem view_failed (path : AudioPath) (side : AudioSide) (error : AudioError) :
    (path.note (.device side (.failed error))).view side =
      { path.view side with working := false, failing := true } := by
  unfold AudioPath.view AudioPath.note
  simp

@[simp] theorem view_recovered (path : AudioPath) (side : AudioSide) :
    (path.note (.recovered side)).view side = { path.view side with late := false } := by
  unfold AudioPath.view AudioPath.note
  simp

@[simp] theorem view_surfaced (path : AudioPath) (side : AudioSide) :
    (path.note (.surfaced side)).view side = { path.view side with late := true } := by
  unfold AudioPath.view AudioPath.note
  simp

/-- A step of the worker of the side. -/
theorem work_settled (settled : (path.view side).Settled)
    (worked : path.work side act = some after) : (after.view side).Settled := by
  unfold AudioPath.work at worked
  unfold SideView.Settled at settled
  rw [view_phase] at settled
  split at worked
  all_goals cases worked
  · rename_i here
    rw [here] at settled
    rw [view_go_same]
    split <;> exact settled
  · rename_i here
    rw [here] at settled
    rw [view_keep_same, view_go_same]
    exact settled
  · rename_i here
    rw [here] at settled
    rw [view_opened, view_go_same]
    exact fun going => ⟨rfl, (settled going).2⟩
  · rw [view_failed, view_go_same]
    exact ⟨rfl, rfl⟩
  · rename_i first here
    rw [here] at settled
    rw [view_go_same]
    split
    · rename_i stopping
      intro going
      exact absurd (stopping.symm.trans going) Bool.noConfusion
    · cases first <;> exact settled
  · rename_i first here
    rw [here] at settled
    rw [view_moved, view_go_same]
    cases first with
    | true => exact ⟨rfl, rfl, settled.2.2⟩
    | false => exact ⟨rfl, rfl⟩
  · rw [view_failed, view_go_same]
    exact ⟨rfl, rfl⟩
  · rename_i here
    rw [here] at settled
    rw [view_keep_same, view_go_same]
    exact settled
  -- The recovery clears the condition, and what was reported before it.
  · rename_i here
    rw [here] at settled
    rw [view_recovered, view_keep_same, view_go_same]
    exact ⟨settled.1, settled.2, iff_of_true (recovered_none _) rfl⟩
  · rename_i error here
    rw [here] at settled
    rw [view_go_same]
    split
    · rename_i stopping
      intro going
      exact absurd (stopping.symm.trans going) Bool.noConfusion
    · exact settled
  · rename_i here
    rw [here] at settled
    rw [view_keep_same, view_go_same]
    exact settled
  · rename_i error here
    rw [here] at settled
    rw [view_keep_same, view_go_same]
    exact fun _ => ⟨settled.1, fun _ => Option.isSome_iff_ne_none.mp (report_some _ _ _)⟩

/-- A condition put up keeps a side settled if it counts as late. -/
theorem SideView.Settled.reported {view : SideView} (settled : view.Settled)
    {condition : Option AudioCondition} (up : condition ≠ none) :
    { view with condition := condition, late := true }.Settled := by
  obtain ⟨phase, stop, held, working, failing, late⟩ := view
  cases phase with
  | ready first | moving first =>
      cases first with
      | true => exact ⟨settled.1, settled.2.1, iff_of_false up Bool.noConfusion⟩
      | false => exact fun going => ⟨(settled going).1, fun _ => up⟩
  | moved | recovering | interrupted | closing | reporting => exact settled
  | top | starting | opening | finished => exact fun going => ⟨(settled going).1, fun _ => up⟩

theorem SideView.Settled.stopped {view : SideView} (settled : view.Settled) :
    { view with stop := true }.Settled := by
  obtain ⟨phase, stop, held, working, failing, late⟩ := view
  cases phase with
  | ready first | moving first =>
      cases first with
      | true => exact settled
      | false => exact fun going => Bool.noConfusion going
  | moved | recovering | interrupted | closing | reporting => exact settled
  | top | starting | opening | finished => exact fun going => Bool.noConfusion going

/-- A supervisor's report of the side. -/
theorem surface_settled {caller : Nat} (settled : (path.view side).Settled)
    (surfaced : path.surface caller side = some after) : (after.view side).Settled := by
  obtain ⟨rest, -, rfl⟩ := surface_cases surfaced
  rw [view_surfaced, view_keep_same]
  exact settled.reported (Option.isSome_iff_ne_none.mp (report_some _ _ _))

end Worker

section Path
variable {path after : AudioPath} {label : AudioLabel} {side : AudioSide}

/-- A step about neither side, or about the other, only may ask the path to stop. -/
theorem step_other (apart : label.side ≠ some side) (stepped : step label path = some after) :
    after.view side = path.view side ∨
      label = .stop ∧ after.view side = { path.view side with stop := true } := by
  cases label with
  | capture act => exact .inl (work_other (by rintro rfl; exact apart rfl) stepped)
  | playback act =>
      have other : AudioSide.playback ≠ side := by
        rintro rfl
        exact apart rfl
      rcases playbackLoop_cases stepped with worked | ⟨first, -, -, rfl⟩
      · exact .inl (work_other other worked)
      · exact .inl (view_go .top other)
  | snapshot | elapse time =>
      cases stepped
      exact .inl rfl
  | surface caller about =>
      have other : about ≠ side := by
        rintro rfl
        exact apart rfl
      obtain ⟨rest, -, rfl⟩ := surface_cases stepped
      refine .inl ((view_note (.surfaced about) other).trans (view_keep ?_))
      exact report_other _ _ _ other
  | read caller =>
      obtain ⟨-, rfl⟩ := read_cases stepped
      exact .inl rfl
  | finish caller =>
      obtain ⟨condition, -, rfl⟩ := finish_cases stepped
      exact .inl rfl
  | stop =>
      cases stepped
      exact .inr ⟨rfl, rfl⟩
  | close =>
      obtain ⟨-, rfl⟩ := close_cases stepped
      exact .inl rfl

/-- No step of one side or of its supervision changes the other side's condition. -/
theorem step_isolated (apart : label.side ≠ some side) (stepped : step label path = some after) :
    after.stats.conditionOf side = path.stats.conditionOf side := by
  rcases step_other apart stepped with same | ⟨-, same⟩
  · exact congrArg SideView.condition same
  · exact congrArg SideView.condition same

/-- The ring is closed after the path was asked to stop. -/
def Sealed (path : AudioPath) : Prop := path.closed = true → path.stop = true

theorem work_flags {act : WorkerAct} (worked : path.work side act = some after) :
    after.stop = path.stop ∧ after.closed = path.closed := by
  unfold AudioPath.work at worked
  split at worked
  all_goals cases worked
  all_goals exact ⟨rfl, rfl⟩

theorem step_sealed (closed : Sealed path) (stepped : step label path = some after) :
    Sealed after := by
  have kept (stop : after.stop = path.stop) (same : after.closed = path.closed) : Sealed after := by
    unfold Sealed
    rw [stop, same]
    exact closed
  cases label with
  | capture act => exact kept (work_flags stepped).1 (work_flags stepped).2
  | playback act =>
      rcases playbackLoop_cases stepped with worked | ⟨first, -, -, rfl⟩
      · exact kept (work_flags worked).1 (work_flags worked).2
      · exact closed
  | surface caller about =>
      obtain ⟨rest, -, rfl⟩ := surface_cases stepped
      exact closed
  | read caller =>
      obtain ⟨-, rfl⟩ := read_cases stepped
      exact closed
  | finish caller =>
      obtain ⟨condition, -, rfl⟩ := finish_cases stepped
      exact closed
  | snapshot | elapse =>
      cases stepped
      exact closed
  | stop =>
      cases stepped
      exact fun _ => rfl
  | close =>
      obtain ⟨stopping, rfl⟩ := close_cases stepped
      exact fun _ => stopping

theorem step_settled (closed : Sealed path) (settled : ∀ side, (path.view side).Settled)
    (stepped : step label path = some after) (side : AudioSide) : (after.view side).Settled := by
  by_cases about : label.side = some side
  · cases label with
    | capture act =>
        cases about
        exact work_settled (settled _) stepped
    | playback act =>
        cases about
        rcases playbackLoop_cases stepped with worked | ⟨first, here, shut, rfl⟩
        · exact work_settled (settled _) worked
        · rw [view_go_same]
          intro going
          exact absurd ((closed shut).symm.trans going) Bool.noConfusion
    | surface caller about' =>
        cases about
        exact surface_settled (settled _) stepped
    | snapshot | read | finish | stop | close | elapse => cases about
  · rcases step_other about stepped with same | ⟨-, same⟩
    · rw [same]
      exact settled side
    · rw [same]
      exact (settled side).stopped

/-- Every run keeps both sides settled. -/
theorem run_settled {labels : List AudioLabel} {limit now : Nat}
    (success : run step labels (AudioPath.spawn limit now) = some path) (side : AudioSide) :
    (path.view side).Settled := by
  have both : Sealed path ∧ ∀ side, (path.view side).Settled := by
    apply run_preserves ?_ ?_ success
    · rintro label before next ⟨closed, settled⟩ stepped
      exact ⟨step_sealed closed stepped, step_settled closed settled stepped⟩
    · refine ⟨fun shut => Bool.noConfusion shut, fun side => ?_⟩
      have idle : (AudioPath.spawn limit now).view side =
          ⟨.top, false, none, false, false, false⟩ := by
        cases side <;> rfl
      rw [idle]
      exact fun _ => ⟨rfl, fun fails => Bool.noConfusion fails⟩
  exact both.2 side

end Path

/-! ## Warnings along a run -/

/-- No snapshot is under way, no worker is between a device result and its bookkeeping,
and nothing asked to stop. -/
def Quiet (path : AudioPath) : Prop :=
  path.callers = [] ∧ (∀ side, (path.phases.get side).between = false) ∧ path.stop = false

/-- A working side has no condition, and a failing one has. -/
def Sound (path : AudioPath) : Prop :=
  ∀ side, (working side path.log = true → path.stats.conditionOf side = none) ∧
    (failing side path.log = true → path.stats.conditionOf side ≠ none)

/-- What the warnings of a run are to be. -/
structure Honest (labels : List AudioLabel) (first : AudioPath) : Prop where
  sound : ∀ before rest reached, labels = before ++ rest → run step before first = some reached →
    Quiet reached → Sound reached
  isolated : ∀ before label rest reached after, labels = before ++ label :: rest →
    run step before first = some reached → step label reached = some after →
      ∀ side, label.side ≠ some side →
        after.stats.conditionOf side = reached.stats.conditionOf side

section Quiet
variable {path : AudioPath} {side : AudioSide}

/-- A working side at rest is in its inner loop, past its recovery; a failing one has
its condition. -/
theorem settled_quiet (settled : (path.view side).Settled) (quiet : Quiet path) :
    (working side path.log = true →
      (path.stats.conditionOf side = none ↔ late side path.log = false)) ∧
    (failing side path.log = true → path.stats.conditionOf side ≠ none) := by
  obtain ⟨-, booked, going⟩ := quiet
  have here := booked side
  unfold SideView.Settled at settled
  rw [view_phase] at settled
  cases phase : path.phases.get side with
  | ready first | moving first =>
      rw [phase] at settled
      cases first with
      | true =>
          refine ⟨fun _ => settled.2.2, fun fails => ?_⟩
          exact absurd (settled.2.1.symm.trans fails) Bool.noConfusion
      | false =>
          refine ⟨fun works => ?_, fun fails => (settled going).2 fails⟩
          exact absurd ((settled going).1.symm.trans works) Bool.noConfusion
  | moved | recovering | interrupted | closing | reporting =>
      rw [phase] at here
      cases here
  | top | starting | opening | finished =>
      rw [phase] at settled
      refine ⟨fun works => ?_, fun fails => (settled going).2 fails⟩
      exact absurd ((settled going).1.symm.trans works) Bool.noConfusion

end Quiet

/-- The capture side's open takes ten seconds.  A snapshot finds it overdue, the first
period is read and the recovery done, and the snapshot reports. -/
def lateReport : List AudioLabel :=
  [.capture .check, .capture .lock, .elapse 10000000000, .capture (.device .opened),
    .capture .check, .snapshot, .capture (.device .moved), .capture .lock, .capture .lock,
    .surface 0 .capture, .read 0, .finish 0]

def warned : AudioPath := (run step lateReport (AudioPath.spawn 10000 0)).getD (.spawn 10000 0)

end NanoKvm.Audio
