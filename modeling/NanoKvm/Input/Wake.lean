import NanoKvm.Input.Session

/-!
# The wait and the wake-up

The writer's three waits, a step for each access: taking the queue lock, every
load the section makes under it, and the wait itself, which gives up the lock
and parks in one step.  The other threads move as before, save that their own
sections under the queue lock wait for the writer's, and that whoever notifies
does so in a step after its store.  The writer's own `notify_all` can wake no
writer and is left out.
-/

set_option autoImplicit false

namespace NanoKvm.Input

open NanoKvm.Proto NanoKvm.Lib

/-- The next access of the section the writer is in. -/
inductive Check where
  | cancel
  | shuttingDown
  | refreshInfo
  | pop
  | deadline
  | tryRecv
  | park
  deriving DecidableEq, Repr

structure Fine where
  sys : Sys
  /-- Set while the writer is in a section that may end in a wait. -/
  check : Option Check
  parked : Bool
  /-- Threads that have made their store and not yet notified. -/
  owed : Nat
  /-- A refresh was requested since the writer last loaded that flag under the queue lock. -/
  slipped : Bool

inductive Act where
  | move (label : Label)
  | notify
  /-- The wait times out, or ends for no reason. -/
  | timeout
  deriving DecidableEq, Repr

def Fine.start (maxBarriers : Nat) (reconnect : Bool) : Fine :=
  ⟨Sys.start maxBarriers reconnect, none, false, 0, false⟩

/-! ## The other threads -/

def Label.takesQueueLock : Label → Bool
  | .submit _ _ | .overflowTrigger _ | .requestReleaseAll _ | .engage | .beginShutdown
  | .helperSends _ => true
  | .refreshDeviceInfo | .helperDies | .writer _ => false

/-- Whether a `notify_all` follows; a refused submission and `engage` make none. -/
def Label.notifies (sys : Sys) : Label → Bool
  | .submit _ event => (sys.shared.submit event).isOk
  | .overflowTrigger _ | .requestReleaseAll _ | .beginShutdown | .refreshDeviceInfo
  | .helperSends _ => true
  | .engage | .helperDies | .writer _ => false

def Label.refreshes : Label → Bool
  | .refreshDeviceInfo => true
  | _ => false

def Fine.others (fine : Fine) (label : Label) : Option Fine :=
  if fine.check.isSome && label.takesQueueLock then none
  else (step label fine.sys).map fun next =>
    { fine with
      sys := next
      owed := if label.notifies fine.sys then fine.owed + 1 else fine.owed
      slipped := fine.slipped || label.refreshes }

/-! ## The writer -/

def Fine.leave (fine : Fine) (sys : Sys) : Fine := { fine with sys := sys, check := none }

def Fine.await (fine : Fine) (check : Check) : Fine := { fine with check := some check }

def Fine.load (fine : Fine) (flag : Bool) (out : Pc) (check : Check) : Fine :=
  if flag then fine.leave (fine.sys.go out) else fine.await check

/-- The load of `refresh_info`, from which on a request slips in. -/
def Fine.loadRefresh (fine : Fine) (out : Pc) (check : Check) : Fine :=
  { fine with slipped := false }.load fine.sys.shared.refreshInfo out check

def Fine.park (fine : Fine) (pc : Pc) : Fine :=
  { fine.leave (fine.sys.go pc) with parked := true }

/-- `shutdown` abandons an open; a helper that died leaves nothing to abandon. -/
def Helper.abandoned : Helper → Helper
  | .opening _ => .opening false
  | _ => .idle

/-- `next_entry`, under the queue lock. -/
def Fine.nextEntry (fine : Fine) : Check → Option Fine
  | .cancel => some (fine.load fine.sys.shared.cancel .loopTop .shuttingDown)
  | .shuttingDown => some (fine.load fine.sys.shared.shuttingDown .loopTop .refreshInfo)
  | .refreshInfo => some (fine.loadRefresh .loopTop .pop)
  | .pop =>
      match fine.sys.shared.queue.pop with
      | some (entry, queue) =>
          some (fine.leave (((fine.sys.share { fine.sys.shared with queue := queue }).note
            (.popped entry)).go (.checkStale entry)))
      | none => some (fine.await .park)
  | .park => some (fine.park .nextEntryWait)
  | _ => none

/-- The second half of the loop of `backoff_wait`, under the queue lock. -/
def Fine.backoffWait (fine : Fine) (initial : Bool) (answer : Answer) : Check → Option Fine
  | .shuttingDown => some (fine.load fine.sys.shared.shuttingDown (.backoffShutdown initial) .cancel)
  | .cancel => some (fine.load fine.sys.shared.cancel (.backoffShutdown initial) .refreshInfo)
  | .refreshInfo => some (fine.loadRefresh (.backoffShutdown initial) .deadline)
  | .deadline =>
      match answer with
      | .expired yes => some (fine.load yes (.acquireShutdown initial) .park)
      | _ => none
  | .park => some (fine.park (.backoffWait initial))
  | _ => none

/-- The loop of `open_bounded`, under the queue lock. -/
def Fine.openBounded (fine : Fine) (initial : Bool) : Check → Option Fine
  | .tryRecv =>
      match fine.sys.helper with
      | .opening _ => some (fine.await .shuttingDown)
      | _ => (fine.sys.acquireStep .none).map fine.leave
  | .shuttingDown =>
      if fine.sys.shared.shuttingDown then
        some (fine.leave { fine.sys with helper := fine.sys.helper.abandoned, pc := .loopTop })
      else some (fine.await .park)
  | .park => some (fine.park (.openWait initial))
  | _ => none

def Fine.writer (fine : Fine) (answer : Answer) : Option Fine :=
  if fine.parked then none
  else match fine.sys.pc, fine.check with
  | .nextEntry, none => some (fine.await .cancel)
  | .nextEntry, some check => fine.nextEntry check
  | .backoffLock _, none => some (fine.await .shuttingDown)
  | .backoffLock initial, some check => fine.backoffWait initial answer check
  | .openLock _, none => some (fine.await .tryRecv)
  | .openLock initial, some check => fine.openBounded initial check
  | _, _ => (fine.sys.writerStep answer).map fine.leave

def Fine.step (act : Act) (fine : Fine) : Option Fine :=
  match act with
  | .move (.writer answer) => fine.writer answer
  | .move label => fine.others label
  | .notify =>
      if 0 < fine.owed then some { fine with owed := fine.owed - 1, parked := false } else none
  | .timeout => if fine.parked then some { fine with parked := false } else none

/-! ## What the writer may sleep on -/

/-- Nothing asks for the writer at the wait it is in. -/
def Sys.Quiet (sys : Sys) : Prop :=
  match sys.pc with
  | .nextEntryWait => sys.shared.queue.entries = [] ∧ sys.shared.cancel = false ∧
      sys.shared.shuttingDown = false ∧ sys.shared.refreshInfo = false
  | .backoffWait _ => sys.shared.cancel = false ∧ sys.shared.shuttingDown = false ∧
      sys.shared.refreshInfo = false
  | .openWait _ => sys.shared.shuttingDown = false ∧ ∀ opened, sys.helper ≠ .sent opened
  | _ => False

def Fine.Awake (fine : Fine) : Prop :=
  fine.parked = true → fine.owed = 0 → fine.sys.Quiet

/-- The writer does not park on a refresh requested since it loaded the flag, unless
some thread has yet to notify. -/
def Fine.Guard (act : Act) (fine : Fine) : Prop :=
  (∃ answer, act = .move (.writer answer)) → fine.check = some .park →
    (∀ initial, fine.sys.pc ≠ .openLock initial) → fine.slipped = true → 0 < fine.owed

/-- What the loads of a section have shown so far and no one can change under it. -/
def Fine.Known (fine : Fine) (check : Check) : Prop :=
  match fine.sys.pc, check with
  | .nextEntry, .cancel => True
  | .nextEntry, .shuttingDown => fine.sys.shared.cancel = false
  | .nextEntry, .refreshInfo =>
      fine.sys.shared.cancel = false ∧ fine.sys.shared.shuttingDown = false
  | .nextEntry, .pop => fine.sys.shared.cancel = false ∧ fine.sys.shared.shuttingDown = false ∧
      fine.sys.shared.refreshInfo = fine.slipped
  | .nextEntry, .park => fine.sys.shared.queue.entries = [] ∧ fine.sys.shared.cancel = false ∧
      fine.sys.shared.shuttingDown = false ∧ fine.sys.shared.refreshInfo = fine.slipped
  | .backoffLock _, .shuttingDown => True
  | .backoffLock _, .cancel => fine.sys.shared.shuttingDown = false
  | .backoffLock _, .refreshInfo =>
      fine.sys.shared.cancel = false ∧ fine.sys.shared.shuttingDown = false
  | .backoffLock _, .deadline | .backoffLock _, .park => fine.sys.shared.cancel = false ∧
      fine.sys.shared.shuttingDown = false ∧ fine.sys.shared.refreshInfo = fine.slipped
  | .openLock _, .tryRecv => True
  | .openLock _, .shuttingDown => ∀ opened, fine.sys.helper ≠ .sent opened
  | .openLock _, .park => fine.sys.shared.shuttingDown = false ∧
      ∀ opened, fine.sys.helper ≠ .sent opened
  | _, _ => False

structure Fine.Kept (fine : Fine) : Prop where
  known : ∀ check, fine.check = some check → fine.parked = false ∧ fine.Known check
  awake : fine.Awake

section Writer
variable {fine next : Fine} {sys : Sys} {check : Check}

attribute [local simp] Fine.Known Fine.leave Fine.await Fine.park

theorem leave_kept (running : fine.parked = false) : (fine.leave sys).Kept where
  known _ asked := by simp at asked
  awake parked := by simp [running] at parked

theorem await_kept (running : fine.parked = false) (known : fine.Known check) :
    (fine.await check).Kept where
  known other asked := by
    cases Option.some.inj asked
    exact ⟨running, known⟩
  awake parked := by simp [running] at parked

theorem load_kept {flag : Bool} {out : Pc} (running : fine.parked = false)
    (unset : flag = false → fine.Known check) : (fine.load flag out check).Kept := by
  unfold Fine.load
  split
  · exact leave_kept running
  · rename_i clear
    exact await_kept running (unset (by simpa using clear))

theorem loadRefresh_kept {out : Pc} (running : fine.parked = false)
    (unset : fine.sys.shared.refreshInfo = false →
      { fine with slipped := false }.Known check) : (fine.loadRefresh out check).Kept :=
  load_kept running unset

theorem park_kept {pc : Pc} (quiet : fine.owed = 0 → (fine.sys.go pc).Quiet) :
    (fine.park pc).Kept where
  known _ asked := by simp at asked
  awake _ settled := quiet settled

theorem nextEntry_kept (point : fine.sys.pc = .nextEntry) (running : fine.parked = false)
    (known : fine.Known check) (guarded : check = .park → fine.slipped = true → 0 < fine.owed)
    (stepped : fine.nextEntry check = some next) : next.Kept := by
  unfold Fine.Known at known
  rw [point] at known
  cases check with
  | cancel =>
      cases Option.some.inj stepped
      apply load_kept running
      intro clear
      simpa [point] using clear
  | shuttingDown =>
      cases Option.some.inj stepped
      apply load_kept running
      intro clear
      simp only [Fine.Known, point]
      exact ⟨known, clear⟩
  | refreshInfo =>
      cases Option.some.inj stepped
      apply loadRefresh_kept running
      intro clear
      simp only [Fine.Known, point]
      exact ⟨known.1, known.2, clear⟩
  | pop =>
      simp only [Fine.nextEntry] at stepped
      split at stepped
      · cases Option.some.inj stepped
        exact leave_kept running
      · rename_i empty
        cases Option.some.inj stepped
        apply await_kept running
        simp only [Fine.Known, point]
        exact ⟨pop_none empty, known⟩
  | park =>
      cases Option.some.inj stepped
      apply park_kept
      intro settled
      obtain ⟨empty, cancel, shuttingDown, same⟩ := known
      refine ⟨empty, cancel, shuttingDown, ?_⟩
      -- Were it set, a request had slipped in, and its thread would still owe a notify.
      cases slipped : fine.slipped with
      | false => exact same.trans slipped
      | true =>
          have owed := guarded rfl slipped
          omega
  | deadline => cases known
  | tryRecv => cases known

theorem backoffWait_kept {initial : Bool} {answer : Answer}
    (point : fine.sys.pc = .backoffLock initial) (running : fine.parked = false)
    (known : fine.Known check) (guarded : check = .park → fine.slipped = true → 0 < fine.owed)
    (stepped : fine.backoffWait initial answer check = some next) : next.Kept := by
  unfold Fine.Known at known
  rw [point] at known
  cases check with
  | shuttingDown =>
      cases Option.some.inj stepped
      apply load_kept running
      intro clear
      simpa [point] using clear
  | cancel =>
      cases Option.some.inj stepped
      apply load_kept running
      intro clear
      simp only [Fine.Known, point]
      exact ⟨clear, known⟩
  | refreshInfo =>
      cases Option.some.inj stepped
      apply loadRefresh_kept running
      intro clear
      simp only [Fine.Known, point]
      exact ⟨known.1, known.2, clear⟩
  | deadline =>
      simp only [Fine.backoffWait] at stepped
      split at stepped
      · cases Option.some.inj stepped
        apply load_kept running
        intro _
        simpa only [Fine.Known, point] using known
      · cases stepped
  | park =>
      cases Option.some.inj stepped
      apply park_kept
      intro settled
      obtain ⟨cancel, shuttingDown, same⟩ := known
      refine ⟨cancel, shuttingDown, ?_⟩
      cases slipped : fine.slipped with
      | false => exact same.trans slipped
      | true =>
          have owed := guarded rfl slipped
          omega
  | pop => cases known
  | tryRecv => cases known

theorem openBounded_kept {initial : Bool} (point : fine.sys.pc = .openLock initial)
    (running : fine.parked = false) (known : fine.Known check)
    (stepped : fine.openBounded initial check = some next) : next.Kept := by
  unfold Fine.Known at known
  rw [point] at known
  cases check with
  | tryRecv =>
      simp only [Fine.openBounded] at stepped
      split at stepped
      · rename_i opening
        cases Option.some.inj stepped
        apply await_kept running
        simp [point, opening]
      · obtain ⟨_, _, rfl⟩ := Option.map_eq_some_iff.mp stepped
        exact leave_kept running
  | shuttingDown =>
      simp only [Fine.openBounded] at stepped
      split at stepped
      · cases Option.some.inj stepped
        exact leave_kept running
      · rename_i open_
        cases Option.some.inj stepped
        apply await_kept running
        simp only [Fine.Known, point]
        exact ⟨by simpa using open_, known⟩
  | park =>
      cases Option.some.inj stepped
      apply park_kept
      intro _
      exact known
  | cancel => cases known
  | refreshInfo => cases known
  | pop => cases known
  | deadline => cases known

theorem writer_kept {answer : Answer} (kept : fine.Kept)
    (guarded : fine.Guard (.move (.writer answer)))
    (stepped : fine.writer answer = some next) : next.Kept := by
  unfold Fine.writer at stepped
  split at stepped
  · cases stepped
  · rename_i awake
    have running : fine.parked = false := by simpa using awake
    split at stepped
    · rename_i point _
      cases Option.some.inj stepped
      exact await_kept running (by simp [point])
    · rename_i check point asked
      have guarded : check = .park → fine.slipped = true → 0 < fine.owed := by
        intro rfl
        exact guarded ⟨_, rfl⟩ asked (by simp [point])
      exact nextEntry_kept point running (kept.known _ asked).2 guarded stepped
    · rename_i point _
      cases Option.some.inj stepped
      exact await_kept running (by simp [point])
    · rename_i check point asked
      have guarded : check = .park → fine.slipped = true → 0 < fine.owed := by
        intro rfl
        exact guarded ⟨_, rfl⟩ asked (by simp [point])
      exact backoffWait_kept point running (kept.known _ asked).2 guarded stepped
    · rename_i point _
      cases Option.some.inj stepped
      exact await_kept running (by simp [point])
    · rename_i point asked
      exact openBounded_kept point running (kept.known _ asked).2 stepped
    · obtain ⟨_, _, rfl⟩ := Option.map_eq_some_iff.mp stepped
      exact leave_kept running

end Writer

/-! ## What the other threads do to it -/

/-- Nothing changes that the writer's waits go by, and no result is sent to it. -/
structure Still (sys next : Sys) : Prop where
  pc : next.pc = sys.pc
  entries : next.shared.queue.entries = sys.shared.queue.entries
  cancel : next.shared.cancel = sys.shared.cancel
  shuttingDown : next.shared.shuttingDown = sys.shared.shuttingDown
  refreshInfo : next.shared.refreshInfo = sys.shared.refreshInfo
  helper : ∀ opened, next.helper = .sent opened → sys.helper = .sent opened

theorem Still.quiet {sys next : Sys} (still : Still sys next) (quiet : sys.Quiet) :
    next.Quiet := by
  unfold Sys.Quiet at quiet ⊢
  rw [still.pc]
  split at quiet
  · rw [still.entries, still.cancel, still.shuttingDown, still.refreshInfo]
    exact quiet
  · rw [still.cancel, still.shuttingDown, still.refreshInfo]
    exact quiet
  · rw [still.shuttingDown]
    exact ⟨quiet.1, fun opened sent => quiet.2 opened (still.helper opened sent)⟩
  · exact quiet

theorem refusal_still {sys : Sys} {thread : Nat} {event : Event}
    (refused : (sys.shared.submit event).isOk = false) : Still sys (sys.submit thread event) := by
  unfold Sys.submit
  cases verdict : sys.shared.submit event with
  | ok shared => simp [verdict, Except.isOk, Except.toBool] at refused
  | error refusal => cases refusal <;> exact ⟨rfl, rfl, rfl, rfl, rfl, fun _ => id⟩

theorem engage_still (sys : Sys) : Still sys sys.engage := by
  unfold Sys.engage Shared.engage
  repeat' split
  all_goals first
    | exact ⟨rfl, rfl, rfl, rfl, rfl, fun _ => id⟩
    | (rename_i accepted
       split at accepted
       · cases accepted
       · split at accepted <;> cases accepted
         exact ⟨rfl, rfl, rfl, rfl, rfl, fun _ => id⟩)

theorem helperDies_still {sys next : Sys} (stepped : sys.helperDies = some next) :
    Still sys next := by
  unfold Sys.helperDies at stepped
  split at stepped
  · cases Option.some.inj stepped
    exact ⟨rfl, rfl, rfl, rfl, rfl, fun _ sent => by cases sent⟩
  · cases Option.some.inj stepped
    exact ⟨rfl, rfl, rfl, rfl, rfl, fun _ sent => by cases sent⟩
  · cases stepped

section Others
variable {fine next : Fine} {label : Label}

theorem others_step (stepped : fine.others label = some next) :
    ∃ sys, step label fine.sys = some sys ∧
      (label.takesQueueLock = true → fine.check = none) ∧
      next = { fine with
        sys := sys
        owed := if label.notifies fine.sys then fine.owed + 1 else fine.owed
        slipped := fine.slipped || label.refreshes } := by
  unfold Fine.others at stepped
  split at stepped
  · cases stepped
  · rename_i free
    obtain ⟨sys, moved, same⟩ := Option.map_eq_some_iff.mp stepped
    refine ⟨sys, moved, fun locks => ?_, same.symm⟩
    simpa [locks] using free

/-- Outside the writer's sections, a thread that will notify may change anything. -/
theorem owing_kept {sys : Sys} {slipped : Bool} (free : fine.check = none) :
    ({ fine with sys := sys, owed := fine.owed + 1, slipped := slipped }).Kept where
  known check asked := by
    rw [free] at asked
    cases asked
  awake _ settled := by cases settled

theorem still_kept {sys : Sys} (kept : fine.Kept) (still : Still fine.sys sys) :
    ({ fine with sys := sys }).Kept where
  known check asked := by
    obtain ⟨running, known⟩ := kept.known check asked
    refine ⟨running, ?_⟩
    unfold Fine.Known at known ⊢
    simp only [still.pc, still.entries, still.cancel, still.shuttingDown, still.refreshInfo]
    split at known <;> first
      | exact known
      | exact fun opened sent => known opened (still.helper opened sent)
      | exact ⟨known.1, fun opened sent => known.2 opened (still.helper opened sent)⟩
  awake parked settled := still.quiet (kept.awake parked settled)

/-- The one request whose store the queue lock does not keep out. -/
theorem refresh_kept (kept : fine.Kept) :
    ({ fine with
      sys := fine.sys.share fine.sys.shared.requestInfoRefresh.2
      owed := fine.owed + 1
      slipped := true }).Kept where
  known check asked := by
    obtain ⟨running, known⟩ := kept.known check asked
    refine ⟨running, ?_⟩
    unfold Fine.Known at known ⊢
    split at known <;> simp_all [Sys.share, Shared.requestInfoRefresh]
  awake _ settled := by cases settled

theorem others_kept (kept : fine.Kept) (other : ∀ answer, label ≠ .writer answer)
    (stepped : fine.others label = some next) : next.Kept := by
  obtain ⟨sys, moved, locked, rfl⟩ := others_step stepped
  cases label with
  | submit thread event =>
      simp only [step] at moved
      split at moved
      · cases moved
      · cases Option.some.inj moved
        cases verdict : (fine.sys.shared.submit event).isOk with
        | true => simpa [Label.notifies, verdict] using owing_kept (locked rfl)
        | false =>
            have still : Still fine.sys (fine.sys.submit thread event) := refusal_still verdict
            simpa [Label.notifies, Label.refreshes, verdict] using still_kept kept still
  | overflowTrigger thread => exact owing_kept (locked rfl)
  | requestReleaseAll reason => exact owing_kept (locked rfl)
  | engage =>
      cases Option.some.inj moved
      simpa [Label.notifies, Label.refreshes] using still_kept kept (engage_still fine.sys)
  | refreshDeviceInfo =>
      cases Option.some.inj moved
      simpa [Label.notifies, Label.refreshes] using refresh_kept kept
  | beginShutdown => exact owing_kept (locked rfl)
  | helperSends opened => exact owing_kept (locked rfl)
  | helperDies => simpa [Label.notifies, Label.refreshes] using still_kept kept (helperDies_still moved)
  | writer answer => exact absurd rfl (other answer)

end Others

theorem step_kept {act : Act} {fine next : Fine} (kept : fine.Kept) (guarded : fine.Guard act)
    (stepped : fine.step act = some next) : next.Kept := by
  cases act with
  | move label =>
      cases label with
      | writer answer => exact writer_kept kept guarded stepped
      | submit | overflowTrigger | requestReleaseAll | engage | refreshDeviceInfo
      | beginShutdown | helperSends | helperDies =>
          exact others_kept kept (by simp) stepped
  | notify =>
      simp only [Fine.step] at stepped
      split at stepped
      · cases Option.some.inj stepped
        exact ⟨fun check asked => ⟨rfl, (kept.known check asked).2⟩, fun parked => by cases parked⟩
      · cases stepped
  | timeout =>
      simp only [Fine.step] at stepped
      split at stepped
      · cases Option.some.inj stepped
        exact ⟨fun check asked => ⟨rfl, (kept.known check asked).2⟩, fun parked => by cases parked⟩
      · cases stepped

theorem start_kept (maxBarriers : Nat) (reconnect : Bool) :
    (Fine.start maxBarriers reconnect).Kept where
  known _ asked := by cases asked
  awake parked := by cases parked

/-- Parking on a request that slipped in, with no notify to come, is a lost wake-up. -/
theorem slipped_lost {act : Act} {fine : Fine} (kept : fine.Kept) (unguarded : ¬ fine.Guard act) :
    ∃ next, fine.step act = some next ∧ ¬ next.Awake := by
  simp only [Fine.Guard, Classical.not_imp] at unguarded
  obtain ⟨⟨answer, rfl⟩, asked, notOpen, slipped, unowed⟩ := unguarded
  have settled : fine.owed = 0 := Nat.eq_zero_of_not_pos unowed
  obtain ⟨running, known⟩ := kept.known .park asked
  unfold Fine.Known at known
  split at known
  all_goals first
    | cases known; done
    | skip
  all_goals rename_i point same
  all_goals cases same
  · have stepped : fine.step (.move (.writer answer)) = some (fine.park .nextEntryWait) := by
      simp [Fine.step, Fine.writer, running, point, asked, Fine.nextEntry]
    refine ⟨_, stepped, fun awake => ?_⟩
    have quiet : fine.sys.shared.refreshInfo = false := (awake rfl settled).2.2.2
    rw [known.2.2.2, slipped] at quiet
    cases quiet
  · rename_i _ _ initial
    have stepped : fine.step (.move (.writer answer)) = some (fine.park (.backoffWait initial)) := by
      simp [Fine.step, Fine.writer, running, point, asked, Fine.backoffWait]
    refine ⟨_, stepped, fun awake => ?_⟩
    have quiet : fine.sys.shared.refreshInfo = false := (awake rfl settled).2.2
    rw [known.2.2, slipped] at quiet
    cases quiet
  · exact absurd point (notOpen _)

/-- No wake-up is lost, all along a run, exactly when the writer never parks on a
refresh request that slipped between its load and its wait. -/
theorem awake_iff (maxBarriers : Nat) (reconnect : Bool) (acts : List Act) :
    (∀ first rest fine, acts = first ++ rest →
      run Fine.step first (Fine.start maxBarriers reconnect) = some fine → fine.Awake) ↔
    Guarded Fine.step Fine.Guard acts (Fine.start maxBarriers reconnect) := by
  have keep : ∀ act fine next, Fine.Kept fine → fine.Guard act →
      fine.step act = some next → next.Kept :=
    fun act fine next kept guarded stepped => step_kept kept guarded stepped
  have breaks : ∀ act fine, Fine.Kept fine → ¬ fine.Guard act →
      ∃ next, fine.step act = some next ∧ ¬ next.Awake :=
    fun act fine kept unguarded => slipped_lost kept unguarded
  exact always_iff_guarded keep (fun _ kept => kept.awake) breaks (start_kept maxBarriers reconnect)

/-- A refresh stored and notified between the writer's load of the flag and its wait. -/
def refreshMissed : List Act :=
  .move (.writer (.opened (.ok 0))) :: List.replicate 8 (.move (.writer .none)) ++
    [.move .refreshDeviceInfo, .notify, .move (.writer .none), .move (.writer .none)]

/-- The idle writer sleeps on it. -/
theorem refresh_missed :
    ∃ fine, run Fine.step refreshMissed (Fine.start 8 false) = some fine ∧ ¬ fine.Awake := by
  have asleep : (run Fine.step refreshMissed (Fine.start 8 false)).map (fun fine =>
      (fine.sys.pc, fine.parked, fine.owed, fine.sys.shared.refreshInfo)) =
      some (.nextEntryWait, true, 0, true) := by
    decide
  obtain ⟨fine, success, same⟩ := Option.map_eq_some_iff.mp asleep
  simp only [Prod.mk.injEq] at same
  obtain ⟨point, parked, settled, asked⟩ := same
  refine ⟨fine, success, fun awake => ?_⟩
  have quiet := awake parked settled
  unfold Sys.Quiet at quiet
  rw [point] at quiet
  rw [quiet.2.2.2] at asked
  cases asked

end NanoKvm.Input
