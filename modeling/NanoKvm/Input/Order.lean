import Mathlib.Data.List.TakeWhile
import NanoKvm.Input.Record

/-!
# The order in which a session's transitions are taken up

Between a refused push and the cancellation it owes, the queue lock is free: the
writer may go on popping and another producer may queue behind the gap.  As long
as the writer pops no more than the refused push found queued, what it takes up
is a prefix of what was submitted.
-/

set_option autoImplicit false

namespace NanoKvm.Input

open NanoKvm.Proto NanoKvm.Lib

/-- The transitions of a session submitted before the first one refused. -/
def unrefusedIn (epoch : Nat) (log : List Happening) : List EntryKind :=
  ((submissionsIn epoch log).takeWhile Prod.snd).map Prod.fst

def Happening.overflows (epoch : Nat) : Happening → Bool
  | .submitted _ under (.error .overflow) => under == epoch
  | _ => false

/-- The log from the session's first overflow on. -/
def sinceOverflow (epoch : Nat) (log : List Happening) : List Happening :=
  log.dropWhile fun happening => !happening.overflows epoch

structure InOrder (epoch : Nat) (log : List Happening) : Prop where
  submitted : takenIn epoch log <+: (submissionsIn epoch log).map Prod.fst
  unrefused : takenIn epoch log <+: unrefusedIn epoch log
  failed : ∀ before after, log = before ++ after → Failed before epoch → takenIn epoch after = []

/-- Where a transition is about to be taken up, no more were popped since its
session's first overflow than the queue holds. -/
def timely (label : Label) (sys : Sys) : Bool :=
  match label, sys.pc with
  | .writer .none, .checkLink entry =>
      sys.shared.linkDown || !entry.kind.isBarrier ||
        decide ((poppedIn entry.epoch (sinceOverflow entry.epoch sys.log)).length ≤
          sys.shared.queue.maxBarriers)
  | _, _ => true

section Logs
variable {bound epoch : Nat} {before log : List Happening}

theorem unrefused_grows (early : before <+: log) :
    unrefusedIn epoch before <+: unrefusedIn epoch log := by
  obtain ⟨after, rfl⟩ := early
  unfold unrefusedIn submissionsIn
  rw [List.filterMap_append, List.takeWhile_append]
  split
  · rename_i whole
    rw [List.IsPrefix.eq_of_length (List.takeWhile_prefix _) whole]
    exact (List.prefix_append _ _).map Prod.fst
  · exact List.prefix_refl _

theorem unrefused_submitted :
    unrefusedIn epoch log <+: (submissionsIn epoch log).map Prod.fst :=
  (List.takeWhile_prefix Prod.snd).map Prod.fst

/-- A refusal, or anything but a submission, leaves the unrefused transitions alone. -/
theorem unrefused_idle {happening : Happening}
    (idle : ∀ kind, happening.submittedUnder epoch ≠ some (kind, true)) :
    unrefusedIn epoch (log ++ [happening]) = unrefusedIn epoch log := by
  have stop : (happening.submittedUnder epoch).toList.takeWhile Prod.snd = [] := by
    cases shape : happening.submittedUnder epoch with
    | none => rfl
    | some submission =>
        obtain ⟨kind, queued⟩ := submission
        cases queued with
        | false => rfl
        | true => exact absurd shape (idle kind)
  unfold unrefusedIn
  rw [submissionsIn_snoc, List.takeWhile_append, stop]
  split
  · rename_i whole
    rw [List.append_nil, List.IsPrefix.eq_of_length (List.takeWhile_prefix _) whole]
  · rfl

theorem unrefused_all (all : ∀ submission ∈ submissionsIn epoch log, submission.2 = true) :
    unrefusedIn epoch log = (submissionsIn epoch log).map Prod.fst := by
  unfold unrefusedIn
  rw [List.takeWhile_eq_self_iff.mpr all]

/-- Without an overflow, everything accepted was submitted before the first refusal:
a lost link stays lost for the rest of the session. -/
theorem unrefused_accepted (lawful : Lawful (Law bound) log)
    (fits : ∀ happening ∈ log, happening.overflows epoch = false) :
    unrefusedIn epoch log = acceptedIn epoch log := by
  let P := fun grown : List Happening =>
    (∀ happening ∈ grown, happening.overflows epoch = false) →
      unrefusedIn epoch grown = acceptedIn epoch grown ∧
        ((∀ submission ∈ submissionsIn epoch grown, submission.2 = true) ∨
          RefusedDown grown epoch)
  have base : P [] := fun _ => ⟨rfl, Or.inl nofun⟩
  have told : P log := by
    refine lawful.extend List.nil_prefix base ?_
    intro middle happening _ _ earlier law fits
    obtain ⟨same, kept⟩ := earlier fun other member => fits other (List.mem_append_left _ member)
    have here := fits happening (List.mem_append_right _ (List.mem_singleton_self _))
    have quiet : happening.submittedUnder epoch = none →
        happening.acceptedUnder epoch = none →
        unrefusedIn epoch (middle ++ [happening]) = acceptedIn epoch (middle ++ [happening]) ∧
          ((∀ submission ∈ submissionsIn epoch (middle ++ [happening]), submission.2 = true) ∨
            RefusedDown (middle ++ [happening]) epoch) := by
      intro submitted accepted
      rw [unrefused_idle (by rw [submitted]; nofun), acceptedIn_snoc, accepted,
        submissionsIn_snoc, submitted]
      refine ⟨by simpa using same, kept.imp (by simpa using ·) fun ⟨event, member⟩ => ?_⟩
      exact ⟨event, List.mem_append_left _ member⟩
    cases happening with
    | submitted event under verdict =>
        by_cases session : under = epoch
        · subst session
          cases verdict with
          | ok _ =>
              have all := kept.resolve_right law.2.2.2
              have all : ∀ submission ∈
                  submissionsIn under (middle ++ [Happening.submitted event under (.ok ())]),
                  submission.2 = true := by
                intro submission member
                rw [submissionsIn_snoc] at member
                rcases List.mem_append.mp member with old | new
                · exact all submission old
                · cases transition : event.transition <;>
                    simp [Happening.submittedUnder, transition] at new
                  rw [new]
              refine ⟨?_, Or.inl all⟩
              rw [unrefused_all all, submissionsIn_snoc, acceptedIn_snoc, List.map_append,
                ← same, unrefused_all (kept.resolve_right law.2.2.2)]
              cases transition : event.transition <;>
                simp [Happening.submittedUnder, Happening.acceptedUnder, transition]
          | error refusal =>
              cases refusal with
              | overflow => simp [Happening.overflows] at here
              | linkDown =>
                  have idle : ∀ kind, (Happening.submitted event under
                      (.error .linkDown)).submittedUnder under ≠ some (kind, true) := by
                    intro kind
                    cases transition : event.transition <;>
                      simp [Happening.submittedUnder, transition]
                  rw [unrefused_idle idle, acceptedIn_snoc]
                  exact ⟨by simpa [Happening.acceptedUnder] using same,
                    Or.inr ⟨event, List.mem_append_right _ (List.mem_singleton_self _)⟩⟩
              | disengaged => exact quiet (by simp [Happening.submittedUnder]) rfl
              | shuttingDown => exact quiet (by simp [Happening.submittedUnder]) rfl
        · refine quiet (by simp [Happening.submittedUnder, session]) ?_
          cases verdict with
          | ok _ => simp [Happening.acceptedUnder, session]
          | error _ => rfl
    | _ => exact quiet rfl rfl
  exact (told fits).1

theorem unrefused_within_accepted : unrefusedIn epoch log <+: acceptedIn epoch log := by
  induction log with
  | nil => exact List.prefix_refl _
  | cons happening rest ih =>
      unfold unrefusedIn submissionsIn acceptedIn at ih ⊢
      have agree : happening.acceptedUnder epoch =
          (happening.submittedUnder epoch).bind fun submission =>
            if submission.2 then some submission.1 else none := by
        cases happening with
        | submitted event under verdict =>
            by_cases session : under = epoch
            · cases verdict with
              | ok _ => cases transition : event.transition <;>
                  simp [Happening.acceptedUnder, Happening.submittedUnder, session, transition]
              | error refusal => cases refusal <;> cases transition : event.transition <;>
                  simp [Happening.acceptedUnder, Happening.submittedUnder, session, transition]
            · cases verdict <;>
                simp [Happening.acceptedUnder, Happening.submittedUnder, session]
        | _ => rfl
      rw [List.filterMap_cons, List.filterMap_cons, agree]
      cases happening.submittedUnder epoch with
      | none => exact ih
      | some submission =>
          obtain ⟨kind, queued⟩ := submission
          cases queued with
          | false => exact List.nil_prefix
          | true => exact List.cons_prefix_cons.mpr ⟨rfl, ih⟩

/-- After a failed report nothing of its session is taken up. -/
theorem failed_stops {after : List Happening} (lawful : Lawful (Law bound) (before ++ after))
    (failed : Failed before epoch) : takenIn epoch after = [] := by
  rw [takenIn, List.filterMap_eq_nil_iff]
  intro happening member
  obtain ⟨middle, rest, _, law⟩ := lawful.mem member
  cases happening with
  | takenUp entry =>
      change entry.transition epoch = none
      unfold Entry.transition
      rw [if_neg]
      rintro ⟨here, _⟩
      obtain ⟨frame, result, written, lost⟩ := failed
      exact law.2.2.2 (here ▸ ⟨frame, result, List.mem_append_left _ written, lost⟩)
  | _ => rfl

/-- What was popped lies before the first refusal, if since the first overflow no
more was popped than the queue holds. -/
theorem popped_unrefused (lawful : Lawful (Law bound) log)
    (fifo : poppedIn epoch log <+: acceptedIn epoch log)
    (few : (poppedIn epoch (sinceOverflow epoch log)).length ≤ bound) :
    (poppedIn epoch log).length ≤ (unrefusedIn epoch log).length := by
  let earlier := log.takeWhile fun happening => !happening.overflows epoch
  have split : log = earlier ++ sinceOverflow epoch log := List.takeWhile_append_dropWhile.symm
  have early : earlier <+: log := List.takeWhile_prefix _
  have fits : ∀ happening ∈ earlier, happening.overflows epoch = false := by
    intro happening member
    simpa using List.mem_takeWhile_imp member
  have whole := unrefused_accepted (lawful.of_prefix early) fits
  have grown : (unrefusedIn epoch earlier).length ≤ (unrefusedIn epoch log).length :=
    (unrefused_grows early).length_le
  rw [whole] at grown
  cases since : sinceOverflow epoch log with
  | nil =>
      rw [since, List.append_nil] at split
      rw [← split] at grown
      exact Nat.le_trans fifo.length_le grown
  | cons happening rest =>
      have first : happening.overflows epoch = true := by
        have head := List.head?_dropWhile_not (fun happening => !happening.overflows epoch) log
        unfold sinceOverflow at since
        rw [since] at head
        simpa using head
      have law := lawful earlier happening rest (since ▸ split)
      have room : (poppedIn epoch earlier).length + bound ≤ (acceptedIn epoch earlier).length := by
        cases happening with
        | submitted event under verdict =>
            cases verdict with
            | ok _ => cases first
            | error refusal =>
                cases refusal with
                | overflow => exact (by simpa [Happening.overflows] using first) ▸ law.2
                | _ => cases first
        | _ => cases first
      have counted : (poppedIn epoch log).length = (poppedIn epoch earlier).length +
          (poppedIn epoch (sinceOverflow epoch log)).length := by
        rw [← List.length_append]
        unfold poppedIn
        rw [← List.filterMap_append, ← split]
      rw [since] at few counted
      omega

end Logs

/-! ## What one step takes up -/

section Steps
variable {sys next : Sys} {answer : Answer} {label : Label}

/-- The step took up an entry, or the log gained no take-up. -/
def TookUp (label : Label) (sys next : Sys) : Prop :=
  (∀ epoch, takenIn epoch next.log = takenIn epoch sys.log) ∨
    ∃ entry, label = .writer .none ∧ sys.pc = .checkLink entry ∧ sys.shared.linkDown = false ∧
      next.log = sys.log ++ [.takenUp entry]

theorem note_takes (sys : Sys) (happening : Happening)
    (aside : (happening.takenUnder ·) = fun _ => none) (epoch : Nat) :
    takenIn epoch (sys.log ++ [happening]) = takenIn epoch sys.log := by
  rw [takenIn_snoc, show happening.takenUnder epoch = none from congrFun aside epoch]
  exact List.append_nil _

theorem raise_takes (sys : Sys) (slot : ReasonSlot) (shutdown : Bool) (epoch : Nat) :
    takenIn epoch (sys.raise slot shutdown).log = takenIn epoch sys.log :=
  note_takes sys _ rfl epoch

theorem transact_takes {origin : Origin} {frame : HidFrame} {unlinked failed sent : Pc}
    (stepped : sys.transact origin frame answer unlinked failed sent = some next) (epoch : Nat) :
    takenIn epoch next.log = takenIn epoch sys.log := by
  unfold Sys.transact at stepped
  split at stepped
  · cases Option.some.inj stepped
    rfl
  · cases Option.some.inj stepped
    simp [Sys.note, Sys.go, Happening.takenUnder]
  · cases stepped

theorem runStep_takes (stepped : sys.runStep answer = some next) :
    TookUp (.writer answer) sys next := by
  unfold Sys.runStep at stepped
  repeat' split at stepped
  all_goals try (cases stepped; done)
  all_goals try (cases Option.some.inj stepped; exact Or.inl fun _ => rfl)
  · rename_i entry point up
    cases Option.some.inj stepped
    exact Or.inr ⟨entry, rfl, point, by simpa using up, rfl⟩
  · cases Option.some.inj stepped
    refine Or.inl fun _ => ?_
    unfold Sys.startWrite
    split <;> rfl
  · exact Or.inl (transact_takes stepped)
  · unfold Sys.flushReport at stepped
    split at stepped
    exact Or.inl fun epoch => transact_takes stepped epoch
  · cases Option.some.inj stepped
    exact Or.inl (raise_takes sys _ _)

theorem nextEntryStep_takes (stepped : sys.nextEntryStep answer = some next) (epoch : Nat) :
    takenIn epoch next.log = takenIn epoch sys.log := by
  unfold Sys.nextEntryStep at stepped
  repeat' split at stepped
  all_goals first
    | cases stepped; done
    | (cases Option.some.inj stepped; rfl)
    | (cases Option.some.inj stepped; exact raise_takes sys _ _ epoch)
    | (cases Option.some.inj stepped; exact note_takes _ _ rfl epoch)

theorem cancellationStep_takes (stepped : sys.cancellationStep answer = some next)
    (epoch : Nat) : takenIn epoch next.log = takenIn epoch sys.log := by
  unfold Sys.cancellationStep at stepped
  repeat' split at stepped
  all_goals first
    | cases stepped; done
    | (cases Option.some.inj stepped; rfl)
    | (cases Option.some.inj stepped; exact note_takes _ _ rfl epoch)
    | exact transact_takes stepped epoch

theorem refreshStep_takes (stepped : sys.refreshStep answer = some next) (epoch : Nat) :
    takenIn epoch next.log = takenIn epoch sys.log := by
  unfold Sys.refreshStep at stepped
  repeat' split at stepped
  all_goals first
    | cases stepped; done
    | (cases Option.some.inj stepped; rfl)
    | (cases Option.some.inj stepped; exact note_takes _ _ rfl epoch)

theorem acquireStep_takes (stepped : sys.acquireStep answer = some next) (epoch : Nat) :
    takenIn epoch next.log = takenIn epoch sys.log := by
  unfold Sys.acquireStep at stepped
  repeat' split at stepped
  all_goals first
    | cases stepped; done
    | (cases Option.some.inj stepped; rfl)

theorem commissionStep_takes (stepped : sys.commissionStep answer = some next) (epoch : Nat) :
    takenIn epoch next.log = takenIn epoch sys.log := by
  unfold Sys.commissionStep at stepped
  split at stepped
  · cases Option.some.inj stepped
    exact (note_takes (sys.raise .take false) _ rfl epoch).trans (raise_takes sys _ _ epoch)
  all_goals repeat' split at stepped
  all_goals first
    | cases stepped; done
    | (cases Option.some.inj stepped; rfl)
    | (cases Option.some.inj stepped; exact note_takes _ _ rfl epoch)

theorem submit_takes (sys : Sys) (thread : Nat) (event : Event) (epoch : Nat) :
    takenIn epoch (sys.submit thread event).log = takenIn epoch sys.log := by
  unfold Sys.submit
  split
  · exact note_takes sys _ rfl epoch
  · exact note_takes sys _ rfl epoch
  · exact note_takes sys _ rfl epoch

theorem step_takes (stepped : step label sys = some next) : TookUp label sys next := by
  unfold step at stepped
  cases label with
  | submit thread event =>
      dsimp only at stepped
      split at stepped
      · cases stepped
      · cases Option.some.inj stepped
        exact Or.inl (submit_takes sys thread event)
  | overflowTrigger thread =>
      dsimp only at stepped
      split at stepped
      · cases Option.some.inj stepped
        exact Or.inl (raise_takes _ _ _)
      · cases stepped
  | requestReleaseAll reason =>
      cases Option.some.inj stepped
      exact Or.inl (raise_takes sys _ _)
  | engage =>
      cases Option.some.inj stepped
      unfold Sys.engage
      split
      · exact Or.inl (note_takes sys _ rfl)
      · exact Or.inl fun _ => rfl
  | refreshDeviceInfo =>
      cases Option.some.inj stepped
      exact Or.inl fun _ => rfl
  | beginShutdown =>
      cases Option.some.inj stepped
      exact Or.inl (raise_takes sys _ _)
  | helperSends opened =>
      dsimp only [Sys.helperSends] at stepped
      split at stepped <;> first
        | cases stepped; done
        | (cases Option.some.inj stepped; exact Or.inl fun _ => rfl)
  | helperDies =>
      dsimp only [Sys.helperDies] at stepped
      split at stepped <;> first
        | cases stepped; done
        | (cases Option.some.inj stepped; exact Or.inl fun _ => rfl)
  | writer answer =>
      dsimp only [Sys.writerStep] at stepped
      split at stepped <;> first
        | exact runStep_takes stepped
        | exact Or.inl (nextEntryStep_takes stepped)
        | exact Or.inl (cancellationStep_takes stepped)
        | exact Or.inl (refreshStep_takes stepped)
        | exact Or.inl (acquireStep_takes stepped)
        | exact Or.inl (commissionStep_takes stepped)

end Steps

/-! ## Every timely run -/

section Runs
variable {maxBarriers : Nat} {reconnect : Bool} {sys next final : Sys} {label : Label}
  {labels : List Label}

/-- No more was taken up than was submitted before the first refusal. -/
def Sys.Within (sys : Sys) : Prop :=
  ∀ epoch, (takenIn epoch sys.log).length ≤ (unrefusedIn epoch sys.log).length

theorem step_within (reached : sys.Reached maxBarriers reconnect) (within : sys.Within)
    (guard : timely label sys = true) (stepped : step label sys = some next) : next.Within := by
  intro epoch
  have later := reached.next stepped
  have success : run step [label] sys = some next := by simp [run, stepped]
  have grown : (unrefusedIn epoch sys.log).length ≤ (unrefusedIn epoch next.log).length :=
    (unrefused_grows (run_log reached success)).length_le
  refine Nat.le_trans ?_ grown
  rcases step_takes stepped with same | ⟨entry, rfl, point, up, noted⟩
  · rw [same]
    exact within epoch
  cases transition : entry.transition epoch with
  | none =>
      rw [noted, takenIn_snoc]
      simpa [Happening.takenUnder, transition] using within epoch
  | some kind =>
      obtain ⟨here, barrier⟩ : entry.epoch = epoch ∧ entry.kind.isBarrier = true := by
        unfold Entry.transition at transition
        split at transition
        · assumption
        · cases transition
      have fifo := (reached_holds reached).agreed.fifo
      have few : (poppedIn epoch (sinceOverflow epoch sys.log)).length ≤ max 1 maxBarriers := by
        have bound : sys.shared.queue.maxBarriers = max 1 maxBarriers := fifo.maxBarriers
        rw [← bound]
        simpa [timely, point, up, barrier, here] using guard
      have taken := ((reached_holds later).agreed.fifo.taken epoch).length_le
      change (takenIn epoch next.log).length ≤ (poppedIn epoch next.log).length at taken
      rw [show poppedIn epoch next.log = poppedIn epoch sys.log by
        rw [noted, poppedIn_snoc]; exact List.append_nil _] at taken
      exact Nat.le_trans taken
        (popped_unrefused (reached_lawful reached) (fifo.popped epoch) few)

/-- One transition fills the queue, the next overflows it, and the writer takes up
the first before the cancellation. -/
def overflowCancelled : List Label :=
  [.writer (.opened (.ok 0)), .submit 0 (.key (.usage 0x04#8) true),
    .submit 0 (.key (.usage 0x04#8) false)] ++
    List.replicate 8 (.writer .none) ++
    [.writer (.replied (.ok ⟨0x82#8, [0#8]⟩)), .overflowTrigger 0]

/-- The writer makes room and another producer queues behind the gap before the
cancellation comes: the lost key-up is followed by a later key-down. -/
def queuedBehindGap : List Label :=
  [.writer (.opened (.ok 0)), .submit 0 (.key (.usage 0x04#8) true),
    .submit 0 (.key (.usage 0x04#8) false)] ++
    List.replicate 8 (.writer .none) ++
    [.writer (.replied (.ok ⟨0x82#8, [0#8]⟩)), .submit 1 (.key (.usage 0x05#8) true)] ++
    List.replicate 8 (.writer .none) ++ [.writer (.replied (.ok ⟨0x82#8, [0#8]⟩))]

end Runs

end NanoKvm.Input
