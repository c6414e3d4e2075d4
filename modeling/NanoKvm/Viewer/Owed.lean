import NanoKvm.Viewer.Steps

/-!
# Every forwarded press is released

What each label adds to the log, and what every run's log therefore says: the
release of a press the target is still owed forwards its up at once.
-/

set_option autoImplicit false

namespace NanoKvm.Viewer

open NanoKvm.Proto
open NanoKvm.Lib
open NanoKvm.Input (Event)

/-! ## What a label adds to the log -/

/-- What an origin may forward. -/
def Sourced : Origin → Event → Prop
  | .host physical, event =>
      ∃ input down, physical.input = some input ∧ event = Input.event input down
  | .paste, _ => True
  | .menu, _ => False
  | .other, event => ∀ (input : Input) (down : Bool), event ≠ input.event down

/-- No edge of the host, and nothing forwarded that its origin may not. -/
def Plain : Happening → Prop
  | .edge _ _ => False
  | .forwarded origin event => Sourced origin event
  | .releaseAll _ => True

def Adds (app after : App) : Prop :=
  ∃ chunk, after.log = app.log ++ chunk ∧ ∀ happening ∈ chunk, Plain happening

theorem Adds.nothing {app after : App} (same : after.log = app.log) : Adds app after :=
  ⟨[], by simp [same], by simp⟩

theorem Adds.then {app middle after : App} (first : Adds app middle)
    (same : after.log = middle.log) : Adds app after := by
  obtain ⟨chunk, log, plain⟩ := first
  exact ⟨chunk, same.trans log, plain⟩

theorem feed_adds (answers : Answers) {origin : Origin} {trigger : Trigger}
    (proper : trigger.Proper) (sourced : ∀ event, trigger.event = some event → Sourced origin event)
    (app : App) : Adds app (app.feed answers origin trigger) := by
  have fed := feed_fed answers origin proper app
  generalize app.feed answers origin trigger = after at fed ⊢
  cases fed with
  | calm session grab calm => exact Adds.nothing rfl
  | passes passes => exact ⟨[_], rfl, by simpa [Plain] using sourced _ passes.fires⟩
  | emptied emptied =>
      obtain ⟨reason, log⟩ := emptied.log
      refine ⟨trigger.forwards origin ++ [.releaseAll reason], by simp [log], ?_⟩
      intro happening member
      rcases List.mem_append.mp member with forwarded | last
      · simp only [Trigger.forwards, Option.mem_toList, Option.map_eq_some_iff] at forwarded
        obtain ⟨event, fires, rfl⟩ := forwarded
        exact sourced event fires
      · rw [List.mem_singleton.mp last]
        trivial

theorem compileAndStart_log (app : App) (text : List Char) (capsLock : Option Bool) :
    (app.compileAndStart text capsLock).log = app.log := by
  unfold App.compileAndStart
  split <;> rfl

theorem advancePreparing_log (app : App) (polled : Polled) :
    (app.advancePreparing polled).log = app.log := by
  unfold App.advancePreparing
  split
  · split
    · exact compileAndStart_log _ _ _
    · split <;> rfl
  · split
    · rfl
    · dsimp only
      split
      · exact compileAndStart_log _ _ _
      · split <;> rfl
    · split <;> rfl
  · rfl

theorem finishPasteIfOver_log (app : App) : app.finishPasteIfOver.log = app.log := by
  unfold App.finishPasteIfOver
  split
  · split <;> rfl
  · rfl

theorem failPaste_log (app : App) (reason : String) : (app.failPaste reason).log = app.log := by
  unfold App.failPaste
  split
  · exact finishPasteIfOver_log _
  · rfl

theorem stepTrigger_proper {event : Event} {trigger : Trigger}
    (fed : stepTrigger event = some trigger) : trigger.Proper := by
  unfold stepTrigger at fed
  split at fed
  · cases fed
    trivial
  · cases fed
    trivial
  · cases fed

theorem advanceRunning_adds (app : App) (answers : Answers) (due : Bool) :
    Adds app (app.advanceRunning answers due) := by
  unfold App.advanceRunning
  split
  · exact Adds.nothing (failPaste_log app _)
  · split
    · split
      · exact Adds.nothing (finishPasteIfOver_log app)
      · split
        · exact Adds.nothing (failPaste_log app _)
        · rename_i fed
          have adds : Adds app (app.feed answers .paste _) :=
            feed_adds answers (stepTrigger_proper fed)
              (fun event _ => show Sourced .paste event from trivial) app
          dsimp only
          split
          · exact adds.then (finishPasteIfOver_log _)
          · exact adds
    · exact Adds.nothing rfl

theorem advancePaste_adds (app : App) (answers : Answers) (polled : Polled) (due : Bool) :
    Adds app (app.advancePaste answers polled due) := by
  unfold App.advancePaste
  split
  · exact Adds.nothing rfl
  · exact Adds.nothing (advancePreparing_log app polled)
  · exact advanceRunning_adds app answers due

theorem Routed.adds {app after : App} {answers : Answers} {physical : Physical} {pressed : Bool}
    (routed : Routed app answers physical pressed after) : Adds app after := by
  cases routed with
  | kept owned => exact Adds.nothing rfl
  | fed input mapped free own =>
      refine feed_adds answers (trigger_proper input pressed) ?_ app
      intro event fires
      obtain rfl := Option.some.inj ((trigger_event input pressed).symm.trans fires)
      exact ⟨input, pressed, mapped, rfl⟩
  | released down =>
      refine feed_adds answers (show Trigger.Proper .releaseKey from trivial) ?_ app
      rintro event ⟨⟩
  | pasted down clipboard => exact Adds.nothing (startPaste_log app clipboard)

/-- While a press is owed its input is not the paste's. -/
theorem Owns.owed_not_pasted {app : App} (owns : Owns none app) {physical : Physical}
    {input : Input} (mapped : physical.input = some input) (owed : Owed app.log physical input) :
    app.paste.held.holds input = false := by
  cases paste : app.paste with
  | idle => exact none_holds input
  | preparing text => exact none_holds input
  | running job =>
      obtain ⟨_, _, ups, _, _, _, lifts, _, fresh, _⟩ := owns.job job paste
      have member := lifts input ⟨physical, mapped, owed⟩
      have empty := fresh (List.ne_nil_of_mem member)
      change job.held.holds input = false
      rw [empty, none_holds]

/-- The release of an owed press is forwarded, whatever it is refused with. -/
theorem Owns.release_forwarded {app after : App} (owns : Owns none app) {answers : Answers}
    {physical : Physical} {input : Input} (mapped : physical.input = some input)
    (owed : Owed app.log physical input)
    (routed : Routed (app.edge physical false) answers physical false after) :
    ∃ rest, after.log =
      (app.edge physical false).log ++ .forwarded (.host physical) input.up :: rest := by
  obtain ⟨isDown, holds⟩ := owns.owed physical input mapped owed
  have captured : app.session.capture = .captured := by
    by_contra free
    rw [owns.captured free, none_holds] at holds
    cases holds
  cases routed with
  | kept owned =>
      have pasted : app.paste.held.holds input = true := owned input mapped rfl holds
      rw [owns.owed_not_pasted mapped owed] at pasted
      cases pasted
  | released down => cases down
  | pasted down clipboard => cases down
  | fed input' mapped' free own =>
      obtain rfl := Option.some.inj (mapped.symm.trans mapped')
      have fed := feed_fed answers (.host physical) (trigger_proper input false)
        (app.edge physical false)
      generalize (app.edge physical false).feed answers (.host physical) (input.trigger false) =
        after at fed ⊢
      cases fed with
      | calm session grab calm =>
          obtain ⟨_, edge, rfl, eaten⟩ :=
            calm.eaten captured (owns.opened captured) input false rfl
          rw [owns.consumed edge eaten] at holds
          cases holds
      | passes passes =>
          obtain rfl := Option.some.inj ((trigger_event input false).symm.trans passes.fires)
          exact ⟨[], rfl⟩
      | emptied emptied =>
          obtain ⟨reason, log⟩ := emptied.log
          exact ⟨[.releaseAll reason], by simp [log, Trigger.forwards]⟩

/-- What one label adds: forwards and releases, after at most one edge of the host;
and the release of an owed press forwards its up at once. -/
theorem step_log {app after : App} {label : Label} (owns : Owns none app)
    (stepped : step label app = some after) :
    Adds app after ∨ ∃ physical down,
      Adds (app.edge physical down) after ∧
      (down = false → ∀ input, physical.input = some input → Owed app.log physical input →
        ∃ rest, after.log =
          (app.edge physical down).log ++ .forwarded (.host physical) input.up :: rest) := by
  cases step_handled stepped with
  | nothing => exact Or.inl (Adds.nothing rfl)
  | edge routed =>
      rename_i physical pressed
      refine Or.inr ⟨physical, pressed, routed.adds, ?_⟩
      rintro rfl input mapped owed
      exact owns.release_forwarded mapped owed routed
  | other motion =>
      refine Or.inl (feed_adds _ motion.proper ?_ app)
      exact motion
  | flip pointer popoverOpen modalOpen pointerOverChrome grab => exact Or.inl (Adds.nothing rfl)
  | startPaste clipboard => exact Or.inl (Adds.nothing (startPaste_log app clipboard))
  | advancePaste polled due => exact Or.inl (advancePaste_adds app _ polled due)

/-! ## Every run -/

/-- What the log of a run says. -/
structure Told (log : List Happening) : Prop where
  sourced : ∀ origin event, .forwarded origin event ∈ log → Sourced origin event
  answered : ∀ (before rest : List Happening) (physical : Physical) (input : Input),
    physical.input = some input → log = before ++ .edge physical false :: rest →
    Owed before physical input → rest.head? = some (.forwarded (.host physical) input.up)

theorem told_nil : Told [] := by
  constructor
  · simp
  · intro before rest physical input _ split
    simp at split

/-- Plain additions answer nothing and ask nothing. -/
theorem Told.plain {log chunk : List Happening} (told : Told log)
    (plain : ∀ happening ∈ chunk, Plain happening) : Told (log ++ chunk) := by
  constructor
  · intro origin event member
    rcases List.mem_append.mp member with earlier | now
    · exact told.sourced origin event earlier
    · exact plain _ now
  · intro before rest physical input mapped split owed
    rcases List.append_eq_append_iff.mp split with ⟨later, _, inside⟩ | ⟨between, outer, inside⟩
    · exact (plain (.edge physical false) (by simp [inside])).elim
    · cases between with
      | nil =>
          rw [List.nil_append] at inside
          exact (plain (.edge physical false) (by simp [← inside])).elim
      | cons first between =>
          obtain ⟨rfl, rfl⟩ := List.cons.inj inside
          have head := told.answered before between physical input mapped outer owed
          change (between ++ chunk).head? = _
          rw [List.head?_append, head]
          rfl

/-- One edge of the host, and what it adds. -/
theorem Told.edge {log chunk : List Happening} (told : Told log)
    (plain : ∀ happening ∈ chunk, Plain happening) {physical : Physical} {down : Bool}
    (answer : down = false → ∀ input, physical.input = some input → Owed log physical input →
      chunk.head? = some (.forwarded (.host physical) input.up)) :
    Told (log ++ .edge physical down :: chunk) := by
  have here : ∀ (rest : List Happening) (other : Physical) (input : Input),
      other.input = some input → Owed log other input →
      Happening.edge physical down :: chunk = .edge other false :: rest →
      rest.head? = some (.forwarded (.host other) input.up) := by
    intro rest other input mapped owed same
    injection same with edge chunk
    injection edge with own up
    subst own up chunk
    exact answer rfl input mapped owed
  constructor
  · intro origin event member
    rcases List.mem_append.mp member with earlier | now
    · exact told.sourced origin event earlier
    · rcases List.mem_cons.mp now with edge | later
      · cases edge
      · exact plain _ later
  · intro before rest other input mapped split owed
    rcases List.append_eq_append_iff.mp split with ⟨later, outer, inside⟩ | ⟨between, outer, inside⟩
    · cases later with
      | nil =>
          rw [List.append_nil] at outer
          exact here rest other input mapped (outer ▸ owed) inside
      | cons first later =>
          have same : chunk = later ++ .edge other false :: rest := (List.cons.inj inside).2
          have member : Happening.edge other false ∈ chunk := by
            rw [same]
            exact List.mem_append_right later List.mem_cons_self
          exact (plain _ member).elim
    · cases between with
      | nil =>
          rw [List.append_nil] at outer
          exact here rest other input mapped (outer ▸ owed) inside.symm
      | cons first between =>
          obtain ⟨rfl, rfl⟩ := List.cons.inj inside
          have head := told.answered before between other input mapped outer owed
          change (between ++ _).head? = _
          rw [List.head?_append, head]
          rfl

theorem reachable_told {app : App} (reached : Reachable step start app) : Told app.log := by
  have both : Owns none app ∧ Told app.log := by
    refine reachable_preserves (P := fun app => Owns none app ∧ Told app.log) ?_ ?_ reached
    · rintro state ⟨pointer, layout, rfl⟩
      exact ⟨Owns.start pointer layout, told_nil⟩
    · rintro label state after ⟨owns, told⟩ stepped
      refine ⟨owns.step stepped, ?_⟩
      rcases step_log owns stepped with ⟨chunk, log, plain⟩ | ⟨physical, down, adds, answer⟩
      · rw [log]
        exact told.plain plain
      · obtain ⟨chunk, log, plain⟩ := adds
        have whole : after.log = state.log ++ .edge physical down :: chunk := by
          simp [log, App.edge]
        rw [whole]
        refine told.edge plain ?_
        intro up input mapped owed
        obtain ⟨rest, forwarded⟩ := answer up input mapped owed
        rw [log] at forwarded
        rw [List.append_cancel_left forwarded]
        rfl
  exact both.2

/-! ## Every forwarded press -/

/-- With nothing down on the host and no paste running the target holds nothing;
and the release of a press the target was sent is forwarded at once, unless a
release-all, a step of a paste or another physical input with the same usage
lifted it first. -/
theorem forwarded_presses_are_released {app : App} (reached : Reachable step start app) :
    app.outstanding = heldBy app.log ∧
      (app.down = [] → (∀ job, app.paste ≠ .running job) → app.outstanding.isEmpty = true) ∧
      ∀ (physical : Physical) (input : Input) (before middle rest : List Happening),
        physical.input = some input →
        app.log = before ++ .forwarded (.host physical) input.press ::
          (middle ++ .edge physical false :: rest) →
        .edge physical false ∉ middle →
        rest.head? = some (.forwarded (.host physical) input.up) ∨
          (∃ reason, .releaseAll reason ∈ middle) ∨
          .forwarded .paste input.up ∈ middle ∨
          ∃ other, other ≠ physical ∧ other.input = some input ∧
            .forwarded (.host other) input.up ∈ middle := by
  have owns := reachable_owns reached
  have told := reachable_told reached
  refine ⟨owns.replayed, ?_, ?_⟩
  · intro allUp idle
    have empty : app.outstanding = .none := by
      rw [eq_none_iff]
      intro input single
      by_contra holds
      rcases owns.held input single (by simpa using holds) with pasted |
        ⟨physical, isDown | lifting, _⟩
      · cases paste : app.paste with
        | idle => simp [paste, PasteState.held, none_holds] at pasted
        | preparing text => simp [paste, PasteState.held, none_holds] at pasted
        | running job => exact idle job paste
      · simp [allUp] at isDown
      · cases lifting
    simp [Outstanding.isEmpty, empty]
  · intro physical input before middle rest mapped split first
    by_cases settled : ∃ happening ∈ middle, Settles physical input happening
    · right
      obtain ⟨happening, member, settles⟩ := settled
      cases happening with
      | releaseAll reason => exact Or.inl ⟨reason, member⟩
      | edge other down =>
          obtain ⟨rfl, rfl⟩ := settles
          exact absurd member first
      | forwarded origin event =>
          obtain ⟨rfl, elsewhere⟩ := settles
          have sourced := told.sourced origin input.up (by simp [split, member])
          cases origin with
          | paste => exact Or.inr (Or.inl member)
          | menu => exact absurd sourced id
          | other => exact absurd rfl (sourced input false)
          | host other =>
              obtain ⟨input', down, mapped', same⟩ := sourced
              obtain ⟨rfl, _⟩ := event_injective same
              refine Or.inr (Or.inr ⟨other, ?_, mapped', member⟩)
              rintro rfl
              exact elsewhere rfl
    · left
      apply told.answered (before ++ .forwarded (.host physical) input.press :: middle) rest
        physical input mapped
      · simp [split]
      · exact ⟨before, middle, rfl, fun happening member settles =>
          settled ⟨happening, member, settles⟩⟩

/-- An event the producer and the compositor grant. -/
def granted (occurrence : Occurrence) : Label := ⟨occurrence, ⟨true, none, true⟩⟩

def hostKey (code : KeyCode) (pressed : Bool) : Label :=
  granted (.key code pressed false false (.ok ()))

/-- Capture by a click. -/
def captureClick : List Label := [granted (.button .left true), granted (.button .left false)]

/-- A popover opens between a press and its release. -/
def popoverRun : List Label :=
  captureClick ++ [hostKey .keyA true, granted (.flip .absolute true false false false),
    hostKey .keyA false]

theorem forwarded_presses_are_released_popover :
    ∃ app, run step popoverRun (App.new .absolute .us) = some app ∧
      app.outstanding.isEmpty = true ∧
      app.log.getLast? = some (.forwarded (.host (.key .keyA)) (.key (.usage 0x04#8) false)) := by
  obtain ⟨app, ran, down, idle, last⟩ : ∃ app,
      run step popoverRun (App.new .absolute .us) = some app ∧ app.down = [] ∧ app.paste = .idle ∧
        app.log.getLast? = some (.forwarded (.host (.key .keyA)) (.key (.usage 0x04#8) false)) :=
    ⟨_, rfl, rfl, rfl, rfl⟩
  have reached : Reachable step start app :=
    ⟨App.new .absolute .us, popoverRun, ⟨.absolute, .us, rfl⟩, ran⟩
  refine ⟨app, ran, (forwarded_presses_are_released reached).2.1 down ?_, last⟩
  intro job running
  rw [idle] at running
  cases running

/-- Two keys of one usage are pressed, the first is released, and a popover opens. -/
def sharedUsageRun : List Label :=
  captureClick ++ [hostKey .launchApp2 true, hostKey .browserSearch true,
    hostKey .launchApp2 false, granted (.flip .absolute true false false false),
    hostKey .browserSearch false]

/-- The second key's own release goes to the popover: the first one's lifted the
usage they share. -/
theorem shared_usage_release_not_forwarded :
    ¬ ∀ app, Reachable step start app →
      ∀ (physical : Physical) (input : Input) (before middle rest : List Happening),
        physical.input = some input →
        app.log = before ++ .forwarded (.host physical) input.press ::
          (middle ++ .edge physical false :: rest) →
        .edge physical false ∉ middle →
        rest.head? = some (.forwarded (.host physical) input.up) ∨
          (∃ reason, .releaseAll reason ∈ middle) ∨ .forwarded .paste input.up ∈ middle := by
  intro claim
  obtain ⟨app, ran, log⟩ : ∃ app, run step sharedUsageRun (App.new .absolute .us) = some app ∧
      app.log =
        [.edge (.button .left) true, .edge (.button .left) false, .edge (.key .launchApp2) true,
          .forwarded (.host (.key .launchApp2)) (.key (.usage 0xf0#8) true),
          .edge (.key .browserSearch) true] ++
        .forwarded (.host (.key .browserSearch)) (Input.press (.key (.usage 0xf0#8))) ::
        ([.edge (.key .launchApp2) false,
          .forwarded (.host (.key .launchApp2)) (.key (.usage 0xf0#8) false)] ++
        [.edge (.key .browserSearch) false]) := ⟨_, rfl, rfl⟩
  have reached : Reachable step start app :=
    ⟨App.new .absolute .us, sharedUsageRun, ⟨.absolute, .us, rfl⟩, ran⟩
  rcases claim app reached _ _ _ _ _ rfl log (by decide) with ahead | ⟨reason, member⟩ | member
  · cases ahead
  · simp at member
  · simp at member

end NanoKvm.Viewer
