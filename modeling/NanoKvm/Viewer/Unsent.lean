import NanoKvm.Input.Record
import NanoKvm.Lib.Noticed

/-!
# The warning of an unsent release

`ReleaseNotice` of `viewer/state.rs` and `check_release_outcome` of `viewer/app.rs`,
beside the threads of the input path.  The event loop takes a snapshot at a tick and
looks at it later in the tick, while the writer goes on.
-/

set_option autoImplicit false

namespace NanoKvm.Viewer

open NanoKvm.Lib
open NanoKvm.Input (Agreed Delivered Move Moves ReleaseOutcome ReleaseRecord Sys View)

structure ReleaseNotice where
  reportedEpoch : Option Nat
  raised : Bool
  deriving DecidableEq, Repr

def ReleaseNotice.default : ReleaseNotice := ⟨none, false⟩

/-- The record when it has not been seen before. -/
def ReleaseNotice.observe (notice : ReleaseNotice) :
    Option ReleaseRecord → Option ReleaseRecord × ReleaseNotice
  | none => (none, notice)
  | some record =>
      if notice.reportedEpoch = some record.epoch then (none, notice)
      else
        (some record,
          { reportedEpoch := some record.epoch
            raised :=
              match record.outcome with
              | .unsent => true
              | .submitted => false })

structure Overseer where
  input : Sys
  notice : ReleaseNotice
  /-- The `last_release` of the snapshot in hand. -/
  snapshot : Option (Option ReleaseRecord)
  logged : List ReleaseRecord
  /-- Nothing reads this: what the slot of the last release has held. -/
  records : List ReleaseRecord

def Overseer.start (maxBarriers : Nat) (reconnect : Bool) : Overseer where
  input := Sys.start maxBarriers reconnect
  notice := .default
  snapshot := none
  logged := []
  records := []

inductive OverseerLabel where
  | input (label : Input.Label)
  | stats
  /-- `check_release_outcome`. -/
  | check
  deriving DecidableEq, Repr

/-- What a step of the input path puts into the slot. -/
def slotted (sys next : Sys) : Option ReleaseRecord :=
  if next.shared.lastRelease = sys.shared.lastRelease then none else next.shared.lastRelease

def Overseer.check (overseer : Overseer) (last : Option ReleaseRecord) : Overseer :=
  let (record, notice) := overseer.notice.observe last
  { overseer with notice, snapshot := none, logged := overseer.logged ++ record.toList }

def Overseer.step (label : OverseerLabel) (overseer : Overseer) : Option Overseer :=
  match label with
  | .input label =>
      (Input.step label overseer.input).map fun next =>
        { overseer with
          input := next
          records := overseer.records ++ (slotted overseer.input next).toList }
  | .stats =>
      if overseer.snapshot.isNone then
        some { overseer with snapshot := some overseer.input.shared.lastRelease }
      else none
  | .check => overseer.snapshot.map overseer.check

/-! ## Every release has its own epoch -/

section Slots
variable {bound : Nat} {view next : View}

/-- The slot is left alone, or gets a record of a later epoch. -/
def Later (view next : View) : Prop :=
  next.shared.lastRelease = view.shared.lastRelease ∨
    ∃ record, next.shared.lastRelease = some record ∧
      ∀ old, view.shared.lastRelease = some old → old.epoch < record.epoch

theorem move_later (agreed : Agreed bound view) (move : Move view next) : Later view next := by
  cases move with
  | aside keeps up => exact Or.inl keeps.lastRelease
  | engaged keeps down settled => exact Or.inl keeps.lastRelease
  | submitted accepted settled free => exact Or.inl (Input.submit_keeps accepted).2.2.2.1
  | @recorded epoch commissioning stage duty reason outcome earned =>
      refine Or.inr ⟨_, rfl, fun old held => ?_⟩
      have above : view.shared.ackedEpoch < epoch :=
        agreed.releases.above epoch commissioning (by rw [duty]; rfl)
      rcases (agreed.releases.recorded old held).2 with past | ⟨kind, cleared⟩
      · exact Nat.lt_of_le_of_lt past above
      · rw [duty] at cleared
        cases cleared
  | _ => exact Or.inl rfl

theorem moves_later (agreed : Agreed bound view) (moves : Moves view next) : Later view next := by
  induction moves with
  | refl => exact Or.inl rfl
  | tail first move ih =>
      have here := move_later (Input.moves_agreed first agreed).1 move
      rcases here with same | ⟨record, held, above⟩
      · rcases ih with before | ⟨record, held, above⟩
        · exact Or.inl (same.trans before)
        · exact Or.inr ⟨record, same.trans held, above⟩
      · refine Or.inr ⟨record, held, fun old was => ?_⟩
        rcases ih with before | ⟨between, held, higher⟩
        · exact above old (before.trans was)
        · exact Nat.lt_trans (higher old was) (above between held)

end Slots

/-! ## What the event loop has made of the slot -/

def unsent (record : ReleaseRecord) : Bool := decide (record.outcome = .unsent)

structure Overseer.Sound (bound : Nat) (overseer : Overseer) : Prop where
  holds : overseer.input.Holds bound
  latest : overseer.records.getLast? = overseer.input.shared.lastRelease
  rising : Rising ReleaseRecord.epoch overseer.records
  reported : overseer.notice.reportedEpoch = overseer.logged.getLast?.map (·.epoch)
  raised : overseer.notice.raised = overseer.logged.getLast?.any unsent
  part : overseer.logged.Sublist overseer.records
  /-- A snapshot shows what the slot held when it was taken. -/
  snapped : ∀ last, overseer.snapshot = some last → ∃ before, before <+: overseer.records ∧
    before.getLast? = last ∧ overseer.logged.Sublist before

section Looking
variable {bound : Nat} {overseer after : Overseer}

theorem observe_noticed (notice : ReleaseNotice) (last : Option ReleaseRecord) :
    (notice.observe last).1 = noticed ReleaseRecord.epoch notice.reportedEpoch last := by
  cases last with
  | none => rfl
  | some record =>
      unfold ReleaseNotice.observe noticed
      rw [Option.filter_some]
      by_cases old : notice.reportedEpoch = some record.epoch
      · simp only [if_pos old]
        rw [if_neg (by simp [old])]
      · simp only [if_neg old]
        rw [if_pos (decide_eq_true old)]

/-- The notice follows what is logged. -/
theorem observe_follows {notice : ReleaseNotice} {logged : List ReleaseRecord}
    (reported : notice.reportedEpoch = logged.getLast?.map (·.epoch))
    (raised : notice.raised = logged.getLast?.any unsent) (last : Option ReleaseRecord) :
    (notice.observe last).2.reportedEpoch =
        (logged ++ (notice.observe last).1.toList).getLast?.map (·.epoch) ∧
      (notice.observe last).2.raised =
        (logged ++ (notice.observe last).1.toList).getLast?.any unsent := by
  cases last with
  | none =>
      simp only [ReleaseNotice.observe, Option.toList_none, List.append_nil]
      exact ⟨reported, raised⟩
  | some record =>
      unfold ReleaseNotice.observe
      by_cases old : notice.reportedEpoch = some record.epoch
      · simp only [if_pos old, Option.toList_none, List.append_nil]
        exact ⟨reported, raised⟩
      · simp only [if_neg old, Option.toList_some, List.getLast?_concat]
        refine ⟨rfl, ?_⟩
        cases shape : record.outcome <;> simp [unsent, shape]

theorem slotted_latest {records : List ReleaseRecord} {sys next : Sys}
    (latest : records.getLast? = sys.shared.lastRelease) (later : Later sys.view next.view) :
    (records ++ (slotted sys next).toList).getLast? = next.shared.lastRelease := by
  change next.shared.lastRelease = sys.shared.lastRelease ∨ _ at later
  unfold slotted
  split
  next same => rw [Option.toList_none, List.append_nil, latest, same]
  next other =>
    obtain ⟨record, held, -⟩ := later.resolve_left other
    change next.shared.lastRelease = some record at held
    rw [held, Option.toList_some, List.getLast?_concat]

theorem slotted_rising {records : List ReleaseRecord} {sys next : Sys}
    (latest : records.getLast? = sys.shared.lastRelease)
    (rising : Rising ReleaseRecord.epoch records) (later : Later sys.view next.view) :
    Rising ReleaseRecord.epoch (records ++ (slotted sys next).toList) := by
  change next.shared.lastRelease = sys.shared.lastRelease ∨ _ at later
  unfold slotted
  split
  next same =>
    rw [Option.toList_none, List.append_nil]
    exact rising
  next other =>
    obtain ⟨record, held, above⟩ := later.resolve_left other
    change next.shared.lastRelease = some record at held
    rw [held, Option.toList_some]
    exact rising.snoc fun last ended => above last (latest.symm.trans ended)

theorem Overseer.Sound.input (sound : overseer.Sound bound) {label : Input.Label} {next : Sys}
    (stepped : Input.step label overseer.input = some next) :
    Overseer.Sound bound { overseer with
      input := next
      records := overseer.records ++ (slotted overseer.input next).toList } := by
  have later : Later overseer.input.view next.view :=
    moves_later sound.holds.agreed (Input.step_moves label _ _ sound.holds.sound stepped)
  exact {
    holds := Input.step_holds label _ _ sound.holds stepped
    latest := slotted_latest sound.latest later
    rising := slotted_rising sound.latest sound.rising later
    reported := sound.reported
    raised := sound.raised
    part := sound.part.trans (List.sublist_append_left _ _)
    snapped := fun last taken => by
      obtain ⟨before, early, ended, within⟩ := sound.snapped last taken
      exact ⟨before, early.trans (List.prefix_append _ _), ended, within⟩ }

theorem Overseer.Sound.check (sound : overseer.Sound bound) {last : Option ReleaseRecord}
    (taken : overseer.snapshot = some last) :
    (overseer.check last).Sound bound ∧ (overseer.check last).logged.getLast? = last := by
  obtain ⟨before, early, rfl, within⟩ := sound.snapped last taken
  obtain ⟨reported, raised⟩ := observe_follows sound.reported sound.raised before.getLast?
  have told := noticed_told (sound.rising.sublist early.sublist) within
  rw [← sound.reported, ← observe_noticed] at told
  refine ⟨?_, told.2⟩
  exact {
    holds := sound.holds
    latest := sound.latest
    rising := sound.rising
    reported := reported
    raised := raised
    part := told.1.trans early.sublist
    snapped := nofun }

theorem Overseer.Sound.step (label : OverseerLabel) (sound : overseer.Sound bound)
    (stepped : overseer.step label = some after) :
    after.Sound bound ∧ overseer.logged <+: after.logged := by
  cases label with
  | input label =>
      obtain ⟨next, moved, rfl⟩ := Option.map_eq_some_iff.mp stepped
      exact ⟨sound.input moved, List.prefix_refl _⟩
  | stats =>
      simp only [Overseer.step] at stepped
      split at stepped
      · cases stepped
        refine ⟨{ sound with snapped := fun last taken => ?_ }, List.prefix_refl _⟩
        cases taken
        exact ⟨overseer.records, List.prefix_refl _, sound.latest, sound.part⟩
      · cases stepped
  | check =>
      obtain ⟨last, taken, rfl⟩ := Option.map_eq_some_iff.mp stepped
      exact ⟨(sound.check taken).1, List.prefix_append _ _⟩

theorem overseer_start (maxBarriers : Nat) (reconnect : Bool) :
    (Overseer.start maxBarriers reconnect).Sound (max 1 maxBarriers) where
  holds := ⟨Input.sound_start maxBarriers reconnect, Input.agreed_start maxBarriers reconnect⟩
  latest := by cases reconnect <;> rfl
  rising := List.Pairwise.nil
  reported := rfl
  raised := rfl
  part := List.Sublist.refl _
  snapped := nofun

theorem run_overseer {labels : List OverseerLabel} (sound : overseer.Sound bound)
    (ran : run Overseer.step labels overseer = some after) :
    after.Sound bound ∧ overseer.logged <+: after.logged := by
  let P := fun now : Overseer => now.Sound bound ∧ overseer.logged <+: now.logged
  have here : P overseer := ⟨sound, List.prefix_refl _⟩
  refine run_preserves (P := P) ?_ here ran
  rintro label now next ⟨sound, logged⟩ stepped
  obtain ⟨kept, more⟩ := sound.step label stepped
  exact ⟨kept, logged.trans more⟩

theorem run_input {labels : List Input.Label}
    (ran : run Overseer.step (labels.map .input) overseer = some after) :
    after.notice = overseer.notice ∧ after.snapshot = overseer.snapshot ∧
      after.logged = overseer.logged := by
  induction labels generalizing overseer with
  | nil =>
      cases Option.some.inj ran
      exact ⟨rfl, rfl, rfl⟩
  | cons label labels ih =>
      obtain ⟨next, stepped, rest⟩ := run_cons ran
      obtain ⟨moved, -, rfl⟩ := Option.map_eq_some_iff.mp stepped
      have kept := ih rest
      exact kept

/-- A tick's look, whatever the input path does between its two halves. -/
theorem look_latest (sound : overseer.Sound bound) (free : overseer.snapshot = none)
    {labels : List Input.Label}
    (ran : run Overseer.step (.stats :: (labels.map .input ++ [.check])) overseer = some after) :
    after.Sound bound ∧ after.logged.getLast? = overseer.records.getLast? := by
  obtain ⟨snapped, taken, rest⟩ := run_cons ran
  simp only [Overseer.step, free, Option.isNone_none, if_true, Option.some.injEq] at taken
  rw [run_append] at rest
  obtain ⟨moved, input, checked⟩ := Option.bind_eq_some_iff.mp rest
  have first : snapped.Sound bound ∧ overseer.logged <+: snapped.logged :=
    sound.step .stats (by simp [Overseer.step, free, taken])
  have kept := (run_overseer first.1 input).1
  have shown : moved.snapshot = some overseer.input.shared.lastRelease := by
    rw [(run_input input).2.1, ← taken]
  obtain ⟨final, stepped, stopped⟩ := run_cons checked
  obtain rfl := Option.some.inj stopped
  simp only [Overseer.step, shown, Option.map_some, Option.some.injEq] at stepped
  subst stepped
  obtain ⟨still, ended⟩ := kept.check shown
  exact ⟨still, ended.trans sound.latest.symm⟩

/-- A warning comes down for a later release alone. -/
theorem lowered_later (sound : overseer.Sound bound) (up : overseer.notice.raised = true)
    {labels : List OverseerLabel} (ran : run Overseer.step labels overseer = some after)
    (down : after.notice.raised = false) :
    ∃ record ∈ after.logged, record.outcome = .submitted ∧
      ∀ earlier ∈ overseer.logged, earlier.epoch < record.epoch := by
  obtain ⟨kept, ⟨more, grown⟩⟩ := run_overseer sound ran
  rw [sound.raised] at up
  rw [kept.raised, ← grown] at down
  cases shape : more.getLast? with
  | none =>
      rw [List.getLast?_eq_none_iff.mp shape, List.append_nil, up] at down
      cases down
  | some record =>
      obtain ⟨before, rfl⟩ := List.getLast?_eq_some_iff.mp shape
      rw [← List.append_assoc, List.getLast?_concat] at down
      have rising : Rising ReleaseRecord.epoch (overseer.logged ++ before ++ [record]) := by
        rw [List.append_assoc, grown]
        exact kept.rising.sublist kept.part
      have above := (List.pairwise_append.mp rising).2.2
      refine ⟨record, by simp [← grown], ?_, fun earlier member => ?_⟩
      · cases outcome : record.outcome with
        | submitted => rfl
        | unsent => simp [unsent, outcome] at down
      · exact above earlier (List.mem_append_left _ member) record (List.mem_singleton_self _)

end Looking

/-- Among any steps of the input path: each release that ends is a record of its own
epoch and is logged once at most; a tick's look leaves the warning up exactly if the
latest record it could see was unsent, and down only if all its reports went out; and a
warning comes down for a later release that was submitted, never by itself. -/
theorem unsent_releases_stay_visible {maxBarriers : Nat} {reconnect : Bool}
    {labels : List OverseerLabel} {overseer : Overseer}
    (ran : run Overseer.step labels (Overseer.start maxBarriers reconnect) = some overseer) :
    Rising ReleaseRecord.epoch overseer.records ∧ overseer.logged.Sublist overseer.records ∧
      (∀ (between : List Input.Label) after, overseer.snapshot = none →
        run Overseer.step (.stats :: (between.map .input ++ [.check])) overseer = some after →
          (after.notice.raised = true ↔ ∃ record, overseer.records.getLast? = some record ∧
            record.outcome = .unsent) ∧
          (after.notice.raised = false → ∀ record, overseer.records.getLast? = some record →
            Delivered overseer.input.log record.epoch)) ∧
      ∀ later after, overseer.notice.raised = true →
        run Overseer.step later overseer = some after → after.notice.raised = false →
          ∃ record ∈ after.logged, record.outcome = .submitted ∧
            ∀ earlier ∈ overseer.logged, earlier.epoch < record.epoch := by
  have sound := (run_overseer (overseer_start maxBarriers reconnect) ran).1
  refine ⟨sound.rising, sound.part, ?_, ?_⟩
  · intro between after free looked
    obtain ⟨kept, ended⟩ := look_latest sound free looked
    rw [kept.raised, ended]
    cases held : overseer.records.getLast? with
    | none => simp
    | some record =>
        refine ⟨by simp [unsent], fun down other same => ?_⟩
        cases same
        have submitted : record.outcome = .submitted := by
          cases outcome : record.outcome with
          | submitted => rfl
          | unsent => simp [unsent, outcome] at down
        exact (sound.holds.agreed.releases.recorded record (sound.latest.symm.trans held)).1
          submitted
  · intro later after up again down
    exact lowered_later sound up again down

/-- A path whose only link never opened is asked for a release. -/
def unlinkedRelease : List OverseerLabel :=
  ([.writer (.opened (.error .down)), .writer .none, .requestReleaseAll .userRequested,
    .writer .none, .writer .none, .writer .none, .writer .none, .writer .none] :
      List Input.Label).map .input

def unlinked : Overseer :=
  (run Overseer.step unlinkedRelease (.start 8 false)).getD (.start 8 false)

def unlinkedLooked : Overseer :=
  (run Overseer.step (.stats :: (([.engage] : List Input.Label).map .input ++ [.check]))
    unlinked).getD unlinked

theorem unsent_releases_stay_visible_unlinked : unlinkedLooked.notice.raised = true := by
  have ran : run Overseer.step unlinkedRelease (.start 8 false) = some unlinked :=
    run_getD rfl
  have looked : run Overseer.step
      (.stats :: (([.engage] : List Input.Label).map .input ++ [.check])) unlinked =
        some unlinkedLooked :=
    run_getD rfl
  have free : unlinked.snapshot = none := rfl
  have held : unlinked.records.getLast? = some ⟨1, .userRequested, .unsent⟩ := rfl
  exact ((unsent_releases_stay_visible ran).2.2.1 _ _ free looked).1.mpr ⟨_, held, rfl⟩

end NanoKvm.Viewer
