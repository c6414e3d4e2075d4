import NanoKvm.Cli.Deliver

/-!
# What a delivery hands to the link

Between two steps of the send loop everything handed is acknowledged.  A step that
ends the loop does so before its report, or with it where it is not acknowledged;
then the guard adds the one release.
-/

set_option autoImplicit false

namespace NanoKvm.Cli

open NanoKvm.Proto NanoKvm.Script

/-! ## The send loop -/

section Loop
variable (world : World)

def AckedBelow (n : Nat) : Prop := ∀ i < n, ∃ reply, world.answers i = .ok reply

def Signalled : Prop := ∃ look, world.signal look = true

structure Between (done : List KeyboardReport) (r : Running) : Prop where
  handed : r.handed = done
  sent : r.sent = done.length
  acked : AckedBelow world done.length

/-- Why the loop can end with `n` reports handed. -/
def Cause (total n : Nat) : DeliverError → Prop
  | .interrupted sent total' | .paused sent total' =>
      sent = n ∧ total' = total ∧ AckedBelow world n ∧ Signalled world
  | .unacknowledged _ sent total' error =>
      n = sent + 1 ∧ total' = total ∧ AckedBelow world sent ∧ world.answers sent = .error error
  | .opening _ | .resync _ | .getInfo _ | .noTarget | .capsLock => False

def Stopped (total : Nat) (reports : List KeyboardReport) (r : Running) (error : DeliverError) :
    Prop :=
  ∃ n ≤ reports.length, r.handed = reports.take n ∧ Cause world total n error

/-- What the loop leaves once the steps with these reports are through. -/
def Leaves (total : Nat) (reports : List KeyboardReport) : Running × Option DeliverError → Prop
  | (r, none) => Between world reports r
  | (r, some error) => Stopped world total reports r error

variable {world} {total delay : Nat} {done : List KeyboardReport} {r : Running}

theorem pause_signal {looks slices after : Nat} (seen : pause world looks slices = (after, true)) :
    Signalled world := by
  induction slices generalizing looks with
  | zero => exact ⟨looks, congrArg Prod.snd seen⟩
  | succ slices ih =>
      unfold pause at seen
      split at seen
      · next now => exact ⟨looks, now⟩
      · exact ih seen

theorem Between.looking (between : Between world done r) (looks : Nat) :
    Between world done { r with looks } := { between with }

/-- Interrupted with all that was handed acknowledged. -/
theorem Between.stopped (between : Between world done r) {error : DeliverError}
    (cause : Cause world total done.length error) : Stopped world total done r error :=
  ⟨done.length, le_rfl, by rw [List.take_length, between.handed], cause⟩

theorem pausing_leaves (between : Between world done r) (millis : Nat) :
    Leaves world total done (pausing world total r millis) := by
  unfold pausing
  split
  · next looks seen =>
      exact (between.looking looks).stopped ⟨between.sent, rfl, between.acked, pause_signal seen⟩
  · next looks _ => exact between.looking looks

theorem transact_leaves (between : Between world done r) (outgoing : Outgoing) :
    Leaves world total (done ++ [outgoing.report]) (transact world total r outgoing) := by
  unfold transact
  rw [between.handed]
  cases answered : world.answers done.length with
  | ok reply =>
      refine ⟨rfl, by simp [between.sent], fun i below => ?_⟩
      rw [List.length_append, List.length_singleton] at below
      rcases Nat.lt_succ_iff_lt_or_eq.mp below with earlier | rfl
      · exact between.acked i earlier
      · exact ⟨reply, answered⟩
  | error error =>
      refine ⟨done.length + 1, by simp, (List.take_of_length_le (by simp)).symm, ?_, rfl, ?_, ?_⟩
      · rw [between.sent]
      · rw [between.sent]
        exact between.acked
      · rw [between.sent]
        exact answered

/-- A loop that ended stays ended, whatever was to follow. -/
theorem Stopped.append {reports : List KeyboardReport} {error : DeliverError}
    (stopped : Stopped world total reports r error) (more : List KeyboardReport) :
    Stopped world total (reports ++ more) r error := by
  obtain ⟨n, bounded, handed, cause⟩ := stopped
  refine ⟨n, ?_, handed.trans (List.take_append_of_le_length bounded).symm, cause⟩
  rw [List.length_append]
  exact bounded.trans (Nat.le_add_right _ _)

theorem runStep_leaves (between : Between world done r) (step : Step) :
    Leaves world total (done ++ stepReports [step]) (runStep world total delay r step) := by
  have looked := between.looking (r.looks + 1)
  unfold runStep
  dsimp only
  split
  · next seen =>
      have cause : Cause world total done.length (.interrupted r.sent total) :=
        ⟨between.sent, rfl, between.acked, r.looks, seen⟩
      exact (looked.stopped cause).append _
  · cases step with
    | wait millis =>
        change Leaves world total (done ++ []) _
        rw [List.append_nil]
        exact pausing_leaves looked millis
    | send outgoing =>
        change Leaves world total (done ++ [outgoing.report]) _
        dsimp only
        split
        · have paused := @pausing_leaves world total done _ looked delay
          generalize pausing world total _ delay = left at paused ⊢
          obtain ⟨after, _ | error⟩ := left
          · exact transact_leaves paused outgoing
          · exact paused.append _
        · exact transact_leaves looked outgoing

theorem runSteps_leaves (steps : List Step) (between : Between world done r) :
    Leaves world total (done ++ stepReports steps) (runSteps world total delay r steps) := by
  induction steps generalizing r done with
  | nil =>
      change Leaves world total (done ++ []) _
      rw [List.append_nil]
      exact between
  | cons step rest ih =>
      have stepped := @runStep_leaves world total delay done r between step
      have split : stepReports (step :: rest) = stepReports [step] ++ stepReports rest :=
        stepReports_append [step] rest
      rw [split, ← List.append_assoc]
      unfold runSteps
      generalize runStep world total delay r step = left at stepped ⊢
      obtain ⟨after, _ | error⟩ := left
      · exact ih stepped
      · exact stepped.append _

end Loop

/-! ## The whole delivery -/

/-- The gates before the guard: nothing may fail, and a target must be there. -/
def Cleared (world : World) (compiled : Compiled) (how : Delivery) (script : Script) : Prop :=
  how.dryRun = false ∧ world.opened = .ok () ∧ world.resynced = .ok () ∧
    ∃ info, getInfo world.info = .ok info ∧ info.targetConnected = true ∧
      chooseEncoding compiled info.capsLock how.capsLock = .ok script

/-- How a delivery ends that handed over `n` reports of the script. -/
def Result (world : World) (script : Script) (n : Nat) : Except DeliverError Done → Prop
  | .ok .rendered => False
  | .ok (.delivered sent) => n = script.reports.length ∧ sent = n ∧ AckedBelow world n
  | .error error => Cause world script.reports.length n error

def Result.NoReport : Except DeliverError Done → Prop
  | .ok .rendered => True
  | .ok (.delivered _) => False
  | .error error => error.sent = none

/-- How many of the first `n` reports were acknowledged. -/
def acknowledged (world : World) (n : Nat) : Nat :=
  (List.range n).countP fun i => (world.answers i).isOk

structure DeliverLaws (world : World) (compiled : Compiled) (how : Delivery) (d : Delivered) :
    Prop where
  /-- The first of the script's reports, and the release of the guard. -/
  guarded : ∀ script, Cleared world compiled how script →
    ∃ n ≤ script.reports.length,
      d.handed = script.reports.take n ++ [KeyboardReport.releaseAll] ∧
      Result world script n d.result ∧
      ∀ error sent, d.result = .error error → error.sent = some sent →
        sent = acknowledged world n
  gated : (∀ script, ¬ Cleared world compiled how script) →
    d.handed = [] ∧ Result.NoReport d.result
  silent : (∃ error, getInfo world.info = .error error) ∨
      (∃ info, getInfo world.info = .ok info ∧ (info.targetConnected = false ∨
        (info.capsLock = true ∧ how.capsLock = .refuse ∧
          ∃ other, compiled.compensated = some other ∧ other ≠ compiled.script))) →
    d.handed = []
  /-- A text reads as itself on a target that holds no key. -/
  typed : ∀ text layout info sent, compiledType text layout = .ok compiled →
    how.capsLock ≠ .ignore → getInfo world.info = .ok info →
    d.result = .ok (.delivered sent) → ∀ target : Target, AllUp target.report →
      (target.receiveAll info.capsLock d.handed).typed = target.typed ++ text

section Whole
variable {world : World} {compiled : Compiled} {how : Delivery}

theorem acknowledged_all {n : Nat} (acked : AckedBelow world n) : acknowledged world n = n := by
  unfold acknowledged
  rw [List.countP_eq_length.mpr, List.length_range]
  intro i member
  obtain ⟨reply, answered⟩ := acked i (List.mem_range.mp member)
  rw [answered]
  rfl

theorem acknowledged_last {n : Nat} {error : LinkError} (acked : AckedBelow world n)
    (answered : world.answers n = .error error) : acknowledged world (n + 1) = n := by
  have before := acknowledged_all acked
  unfold acknowledged at *
  rw [List.range_succ, List.countP_append, before, List.countP_singleton, answered]
  rfl

theorem Cause.count {total n sent : Nat} {error : DeliverError} (cause : Cause world total n error)
    (named : error.sent = some sent) : sent = acknowledged world n := by
  cases error with
  | interrupted | paused =>
      obtain ⟨rfl, -, acked, -⟩ := cause
      cases named
      exact (acknowledged_all acked).symm
  | unacknowledged label count total' failure =>
      obtain ⟨rfl, -, acked, answered⟩ := cause
      cases named
      exact (acknowledged_last acked answered).symm
  | opening | resync | getInfo | noTarget | capsLock => cases cause

/-- What the guard sees of the loop. -/
theorem guarded_result (world : World) (script : Script) (delay : Nat) :
    ∃ n ≤ script.reports.length,
      (guarded world script delay).handed =
        script.reports.take n ++ [KeyboardReport.releaseAll] ∧
      Result world script n (guarded world script delay).result := by
  have left := @runSteps_leaves world (reportCount script) delay [] Running.start script.steps
    ⟨rfl, rfl, fun i below => absurd below (Nat.not_lt_zero i)⟩
  unfold guarded
  generalize runSteps world (reportCount script) delay Running.start script.steps = ended at left ⊢
  obtain ⟨r, _ | error⟩ := ended
  · refine ⟨script.reports.length, le_rfl, ?_, rfl, left.sent, left.acked⟩
    rw [List.take_length]
    exact congrArg (· ++ _) left.handed
  · obtain ⟨n, bounded, handed, cause⟩ := left
    exact ⟨n, bounded, congrArg (· ++ _) handed, cause⟩

theorem chooseEncoding_error {capsLockOn : Bool} {error : DeliverError}
    (refused : chooseEncoding compiled capsLockOn how.capsLock = .error error) :
    error = .capsLock := by
  unfold chooseEncoding at refused
  split at refused
  · cases refused
  · split at refused
    · cases refused
      rfl
    · cases refused
    · cases refused

/-- A delivery runs the loop under the guard, or stops at a gate. -/
theorem deliver_cases (world : World) (compiled : Compiled) (how : Delivery) :
    (∃ script, Cleared world compiled how script ∧
      deliver world compiled how = guarded world script how.delay) ∨
    (deliver world compiled how).handed = [] ∧
      Result.NoReport (deliver world compiled how).result := by
  unfold deliver
  split
  · exact .inr ⟨rfl, trivial⟩
  next live =>
  split
  · exact .inr ⟨rfl, rfl⟩
  next opened =>
  split
  · exact .inr ⟨rfl, rfl⟩
  next resynced =>
  split
  · exact .inr ⟨rfl, rfl⟩
  next info answered =>
  split
  · exact .inr ⟨rfl, rfl⟩
  next connected =>
  split
  · next error refused =>
      rw [chooseEncoding_error refused]
      exact .inr ⟨rfl, rfl⟩
  · next script chosen =>
      exact .inl ⟨script, ⟨eq_false_of_ne_true live, opened, resynced, info, answered,
        by simpa using connected, chosen⟩, rfl⟩

theorem deliver_cleared {script : Script} (cleared : Cleared world compiled how script) :
    deliver world compiled how = guarded world script how.delay := by
  obtain ⟨live, opened, resynced, info, answered, connected, chosen⟩ := cleared
  unfold deliver
  simp only [live, opened, resynced, answered, connected, chosen, Bool.false_eq_true, if_false,
    Bool.not_true]

theorem chooseEncoding_refuse {other : Script} (held : compiled.compensated = some other)
    (differs : other ≠ compiled.script) :
    chooseEncoding compiled true .refuse = .error .capsLock := by
  have affected : compiled.affectedByCapsLock = true := by
    simp [Compiled.affectedByCapsLock, held, differs]
  simp [chooseEncoding, affected]

/-- The version chosen was compiled for the CapsLock state reported. -/
theorem chooseEncoding_meant {text : List Char} {layout : Layout} {capsLockOn : Bool}
    {policy : CapsLockPolicy} {script : Script}
    (compiles : compiledType text layout = .ok compiled) (minded : policy ≠ .ignore)
    (chosen : chooseEncoding compiled capsLockOn policy = .ok script) :
    ∃ caps : CapsLock, caps.meantFor = capsLockOn ∧ compileType text layout caps = .ok script := by
  unfold compiledType at compiles
  split at compiles
  · cases compiles
  next plain plainly =>
  split at compiles
  · cases compiles
  next compensated invertedly =>
  cases compiles
  cases capsLockOn with
  | false =>
      cases chosen
      exact ⟨.off, rfl, plainly⟩
  | true =>
      unfold chooseEncoding at chosen
      split at chosen
      · next same =>
          cases chosen
          have alike : compensated = plain := by
            simpa [Compiled.affectedByCapsLock] using same
          exact ⟨.compensate, rfl, alike ▸ invertedly⟩
      · cases policy with
        | refuse => cases chosen
        | ignore => exact absurd rfl minded
        | compensate =>
            cases chosen
            exact ⟨.compensate, rfl, invertedly⟩

/-- The release at the end types nothing more. -/
theorem typed_released (caps : Bool) (target : Target) (reports : List KeyboardReport) :
    (target.receiveAll caps (reports ++ [KeyboardReport.releaseAll])).typed =
      (target.receiveAll caps reports).typed := by
  rw [read_append, read_cons, read_nil, receive_quiet (pressEdges_up allUp_releaseAll)]

end Whole

/-- A target with CapsLock on. -/
def capsTarget : World where
  opened := .ok ()
  resynced := .ok ()
  info := .ok ⟨0x81#8, [0x38#8, 1#8, 2#8]⟩
  signal := fun _ => false
  slices := fun _ _ => 1
  answers := fun _ => .ok ⟨0x82#8, [0#8]⟩

end NanoKvm.Cli
