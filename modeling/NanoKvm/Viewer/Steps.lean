import NanoKvm.Viewer.Job

/-!
# Every label keeps who owns what

Where routing takes one edge of the host, what a paste does between two looks at
it, and from both that every reachable state of the loop satisfies `Owns`.
-/

set_option autoImplicit false

namespace NanoKvm.Viewer

open NanoKvm.Proto
open NanoKvm.Lib
open NanoKvm.Input (Event)

/-! ## Routing one edge -/

/-- Where one edge of a physical input goes. -/
inductive Routed (app : App) (answers : Answers) (physical : Physical) (pressed : Bool) :
    App → Prop where
  | kept (owned : ∀ input, physical.input = some input → pressed = false →
      app.outstanding.holds input = true → app.paste.held.holds input = true) :
      Routed app answers physical pressed app
  | fed (input : Input) (mapped : physical.input = some input)
      (free : pressed = true → app.paste.isActive = false)
      (own : app.paste.isActive = true → ∀ key, input = .key key →
        app.outstanding.holds input = true ∧ app.paste.held.holds input = false) :
      Routed app answers physical pressed
        (app.feed answers (.host physical) (input.trigger pressed))
  | released (down : pressed = true) :
      Routed app answers physical pressed (app.feed answers .other .releaseKey)
  | pasted (down : pressed = true) (clipboard : Except String Unit) :
      Routed app answers physical pressed (app.startPaste clipboard)

theorem routeKey_target {inputs : RouteInputs} {key : HidKey} {down : Bool}
    (target : routeKey inputs (.forward key down) = .target) :
    down = true → inputs.pasteRunning = false := by
  rintro rfl
  cases running : inputs.pasteRunning with
  | false => rfl
  | true => simp [routeKey, running] at target

/-- While a paste runs only an up the target is owed gets through. -/
theorem routeKey_running {inputs : RouteInputs} {key : HidKey} {down : Bool}
    (target : routeKey inputs (.forward key down) = .target)
    (running : inputs.pasteRunning = true) :
    inputs.outstanding.holdsKey key = true ∧ inputs.pasteHeld.holdsKey key = false := by
  by_contra other
  have passed : (!down && inputs.outstanding.holdsKey key && !inputs.pasteHeld.holdsKey key) =
      false := by
    by_contra owed
    simp only [Bool.not_eq_false, Bool.and_eq_true, Bool.not_eq_true'] at owed
    exact other ⟨owed.1.2, owed.2⟩
  simp [routeKey, passed, running] at target

theorem routeKey_owned {inputs : RouteInputs} {key : HidKey}
    (elsewhere : routeKey inputs (.forward key false) ≠ .target)
    (holds : inputs.outstanding.holdsKey key = true) : inputs.pasteHeld.holdsKey key = true := by
  by_contra other
  exact elsewhere (by simp [routeKey, holds, other])

theorem keyboardInput_routed (app : App) (answers : Answers) (code : KeyCode)
    (pressed shift : Bool) (clipboard : Except String Unit) :
    Routed app answers (.key code) pressed
      (app.keyboardInput answers code pressed false shift clipboard) := by
  by_cases pause : code = .pause
  · subst pause
    have unmapped : (Physical.key .pause).input = none := rfl
    have kept : Routed app answers (.key .pause) pressed app :=
      Routed.kept fun input mapped => by rw [unmapped] at mapped; cases mapped
    cases pressed with
    | false => exact kept
    | true =>
        cases shift with
        | false => exact Routed.released rfl
        | true =>
            cases active : app.paste.isActive with
            | true =>
                have same : app.keyboardInput answers .pause true false true clipboard =
                    app.feed answers .other .releaseKey := by
                  simp [App.keyboardInput, mapKey, resolvePasteChord, active, routeKey]
                rw [same]
                exact Routed.released rfl
            | false =>
                have same : app.keyboardInput answers .pause true false true clipboard =
                    app.startPaste clipboard := by
                  simp [App.keyboardInput, mapKey, resolvePasteChord, active, routeKey]
                rw [same]
                exact Routed.pasted rfl clipboard
  · cases found : hidKey code with
    | none =>
        have same : app.keyboardInput answers code pressed false shift clipboard = app := by
          simp [App.keyboardInput, mapKey, pause, found, resolvePasteChord, routeKey]
        rw [same]
        refine Routed.kept ?_
        intro input mapped
        simp [Physical.input, pause, found] at mapped
    | some key =>
        have mapped : (Physical.key code).input = some (.key key) := by
          simp [Physical.input, pause, found]
        by_cases target : routeKey app.routeInputs (.forward key pressed) = .target
        · have same : app.keyboardInput answers code pressed false shift clipboard =
              app.feed answers (.host (.key code)) ((Input.key key).trigger pressed) := by
            simp [App.keyboardInput, mapKey, pause, found, resolvePasteChord, target,
              Input.trigger]
          rw [same]
          refine Routed.fed (.key key) mapped (fun down => routeKey_target target down) ?_
          rintro running key' same
          obtain rfl := Input.key.inj same
          exact routeKey_running target running
        · have same : app.keyboardInput answers code pressed false shift clipboard = app := by
            cases sink : routeKey app.routeInputs (.forward key pressed) <;>
              simp_all [App.keyboardInput, mapKey, resolvePasteChord]
          rw [same]
          refine Routed.kept ?_
          rintro input found' rfl holds
          obtain rfl := Option.some.inj (mapped.symm.trans found')
          exact routeKey_owned target holds

theorem routePointer_target {inputs : RouteInputs} {mask : U8} {down : Bool}
    (target : routePointer inputs (.button mask down) = .target) :
    down = true → inputs.pasteRunning = false := by
  rintro rfl
  cases running : inputs.pasteRunning with
  | false => rfl
  | true =>
      simp only [routePointer, RouteInputs.ownedUp, Bool.false_eq_true, if_false, running,
        PointerKind.isPress, Bool.and_self, if_true] at target
      split at target <;> cases target

theorem mouseInput_routed (app : App) (answers : Answers) (which : MouseButton) (pressed : Bool) :
    Routed app answers (.button which) pressed (app.mouseInput answers which pressed) := by
  cases found : mapButton which with
  | none =>
      have same : app.mouseInput answers which pressed = app := by
        cases sink : routePointer app.routeInputs (.button 0#8 pressed) <;>
          simp [App.mouseInput, found, sink]
      rw [same]
      refine Routed.kept ?_
      intro input mapped
      simp [Physical.input, found] at mapped
  | some mask =>
      have mapped : (Physical.button which).input = some (.button mask) := by
        simp [Physical.input, found]
      have real : mask ≠ 0#8 := (physical_single mapped).ne_zero
      by_cases target : routePointer app.routeInputs (.button mask pressed) = .target
      · have same : app.mouseInput answers which pressed =
            app.feed answers (.host (.button which)) ((Input.button mask).trigger pressed) := by
          simp [App.mouseInput, found, target, real, Input.trigger]
        rw [same]
        refine Routed.fed (.button mask) mapped (fun down => routePointer_target target down) ?_
        intro _ key same
        cases same
      · have same : app.mouseInput answers which pressed = app := by
          cases sink : routePointer app.routeInputs (.button mask pressed) <;>
            simp_all [App.mouseInput]
        rw [same]
        refine Routed.kept ?_
        rintro input found' rfl holds
        obtain rfl := Option.some.inj (mapped.symm.trans found')
        have owned : app.routeInputs.ownedUp (.button mask false) = true := holds
        exact absurd (by rw [routePointer, if_pos owned]) target

/-! ## What a label comes to -/

theorem keyboardInput_repeated (app : App) (answers : Answers) (code : KeyCode)
    (pressed shift : Bool) (clipboard : Except String Unit) :
    app.keyboardInput answers code pressed true shift clipboard = app := by
  simp [App.keyboardInput, mapKey, resolvePasteChord, routeKey]

theorem control_silent {trigger : Trigger} (control : trigger.isInput = false) :
    trigger.event = none := by
  cases trigger <;> simp_all [Trigger.isInput, Trigger.event]

/-- A trigger that fires no edge of an input. -/
def Trigger.Motion (trigger : Trigger) : Prop :=
  ∀ event, trigger.event = some event → ∀ (input : Input) (down : Bool), event ≠ input.event down

theorem Trigger.Motion.proper {trigger : Trigger} (motion : trigger.Motion) : trigger.Proper := by
  cases trigger with
  | motion event => exact motion event rfl
  | _ => trivial

theorem motion_of_event {event : Event}
    (plain : ∀ (input : Input) (down : Bool), event ≠ input.event down) :
    (Trigger.motion event).Motion := by
  intro event' fires
  obtain rfl := Option.some.inj fires
  exact plain

/-- What handling one label comes to. -/
inductive Handled (app : App) (answers : Answers) : App → Prop where
  | nothing : Handled app answers app
  | edge {physical : Physical} {pressed : Bool} {after : App}
      (routed : Routed (app.edge physical pressed) answers physical pressed after) :
      Handled app answers after
  | other {trigger : Trigger} (motion : trigger.Motion) :
      Handled app answers (app.feed answers .other trigger)
  | flip (pointer : PointerMode) (popoverOpen modalOpen pointerOverChrome grab : Bool) :
      Handled app answers { app with pointer, popoverOpen, modalOpen, pointerOverChrome, grab }
  | startPaste (clipboard : Except String Unit) : Handled app answers (app.startPaste clipboard)
  | advancePaste (polled : Polled) (due : Bool) :
      Handled app answers (app.advancePaste answers polled due)

theorem pointerMoved_handled (app : App) (answers : Answers) (kind : PointerKind) {event : Event}
    (plain : ∀ (input : Input) (down : Bool), event ≠ input.event down) :
    Handled app answers (app.pointerMoved answers kind event) := by
  unfold App.pointerMoved
  split
  · exact Handled.nothing
  · exact Handled.nothing
  · exact Handled.other (motion_of_event plain)

theorem step_handled {app after : App} {label : Label} (stepped : step label app = some after) :
    Handled app label.answers after := by
  unfold Viewer.step at stepped
  by_cases allowed : app.allows label.occurrence = true
  · rw [if_pos allowed, Option.some.injEq] at stepped
    subst stepped
    cases occurrence : label.occurrence with
    | key code pressed repeated shift clipboard =>
        cases repeated with
        | true =>
            simp only [App.handle, if_true, keyboardInput_repeated]
            exact Handled.nothing
        | false => exact Handled.edge (keyboardInput_routed _ _ code pressed shift clipboard)
    | button which pressed => exact Handled.edge (mouseInput_routed _ _ which pressed)
    | cursor x y =>
        simp only [App.handle]
        split
        · exact pointerMoved_handled app _ _ fun input down => by cases input <;> simp [Input.event]
        · exact Handled.nothing
    | wheel delta =>
        exact pointerMoved_handled app _ _ fun input down => by cases input <;> simp [Input.event]
    | deviceMotion dx dy =>
        simp only [App.handle]
        split
        · exact Handled.other (motion_of_event fun input down => by
            cases input <;> simp [Input.event])
        · exact Handled.nothing
    | control trigger =>
        rw [occurrence] at allowed
        have silent := control_silent (by simpa [App.allows] using allowed)
        exact Handled.other fun event fires => by rw [silent] at fires; cases fires
    | flip pointer popoverOpen modalOpen pointerOverChrome grab =>
        exact Handled.flip pointer popoverOpen modalOpen pointerOverChrome grab
    | pasteCommand clipboard => exact Handled.startPaste clipboard
    | advancePaste polled due => exact Handled.advancePaste polled due
  · rw [if_neg allowed] at stepped
    cases stepped

/-! ## The paste's part -/

section Paste

variable {app : App}

/-- The paste changes while it holds nothing. -/
theorem Owns.set_paste (owns : Owns none app) (idle : app.paste.held = .none)
    (paste : PasteState) (last : Option PasteOutcome) (refusal : Option Refusal)
    (active : paste.isActive = true → app.session.capture = .captured)
    (job : ∀ job, paste = .running job →
      Fits (fun input => ∃ physical, physical.input = some input ∧ Owed app.log physical input)
        job) :
    Owns none { app with paste, pasteLast := last, pasteRefusal := refusal } := by
  refine ⟨owns.replayed, owns.captured, active, owns.closed, owns.consumed, ?_, owns.owed, job⟩
  intro input single holds
  rcases owns.held input single holds with before | host
  · rw [idle, none_holds] at before
    cases before
  · exact Or.inr host

/-- Nothing is typed before the text is compiled. -/
theorem startPaste_log (app : App) (clipboard : Except String Unit) :
    (app.startPaste clipboard).log = app.log := by
  unfold App.startPaste
  split
  · rfl
  · split
    · rfl
    · split <;> rfl

theorem Owns.refusePaste (owns : Owns none app) (idle : app.paste.held = .none)
    (refusal : Refusal) : Owns none (app.refusePaste refusal) :=
  owns.set_paste idle .idle none (some refusal) (fun active => by cases active)
    fun job running => by cases running

theorem Owns.startPaste (owns : Owns none app) (clipboard : Except String Unit) :
    Owns none (app.startPaste clipboard) := by
  unfold App.startPaste
  cases idle : app.paste with
  | preparing text => simpa [PasteState.isActive] using owns
  | running job => simpa [PasteState.isActive] using owns
  | idle =>
      have empty : app.paste.held = .none := by rw [idle]; rfl
      rw [if_neg (by simp [PasteState.isActive])]
      by_cases free : app.session.capture ≠ .captured
      · rw [if_pos free]
        exact owns.refusePaste empty .notCaptured
      · rw [if_neg free]
        cases clipboard with
        | error reason => exact owns.refusePaste empty (.clipboard reason)
        | ok _ =>
            exact owns.set_paste empty (.preparing none) app.pasteLast none
              (fun _ => by simpa using free) fun job running => by cases running

theorem Owns.compileAndStart (owns : Owns none app) (idle : app.paste.held = .none)
    (captured : app.session.capture = .captured) (text : List Char) (capsLock : Option Bool) :
    Owns none (app.compileAndStart text capsLock) := by
  unfold App.compileAndStart
  cases accepted : compile text app.layout capsLock with
  | error refusal => exact owns.refusePaste idle refusal
  | ok body =>
      refine owns.set_paste idle _ none none (fun _ => captured) ?_
      intro job running
      injection running with same
      subst same
      refine Fits.new accepted ?_
      rintro input ⟨physical, mapped, owed⟩
      exact ⟨physical_single mapped, (owns.owed physical input mapped owed).2⟩

theorem Owns.advancePreparing (owns : Owns none app) (polled : Polled) :
    Owns none (app.advancePreparing polled) := by
  have ready : ∀ (app : App) (text : List Char), Owns none app → app.paste.held = .none →
      app.session.capture = .captured →
      Owns none
        (if polled.fresh then
          app.compileAndStart text (if polled.stale then none else polled.deviceCaps)
        else if polled.timedOut then app.refusePaste .deviceTimeout
        else app) := by
    intro app text owns idle captured
    by_cases fresh : polled.fresh = true
    · rw [if_pos fresh]
      exact owns.compileAndStart idle captured text _
    · rw [if_neg fresh]
      by_cases late : polled.timedOut = true
      · rw [if_pos late]
        exact owns.refusePaste idle .deviceTimeout
      · rw [if_neg late]
        exact owns
  unfold App.advancePreparing
  cases paste : app.paste with
  | idle => exact owns
  | running job => exact owns
  | preparing fetched =>
      have idle : app.paste.held = .none := by rw [paste]; rfl
      have captured := owns.pasting (by rw [paste]; rfl)
      cases fetched with
      | some text => exact ready app text owns idle captured
      | none =>
          cases clipboard : polled.clipboard with
          | none =>
              by_cases late : polled.timedOut = true
              · simp only [late, if_true]
                exact owns.refusePaste idle (.clipboard clipboardLate)
              · simpa only [late, Bool.false_eq_true, if_false] using owns
          | some answer =>
              cases answer with
              | error reason => exact owns.refusePaste idle (.clipboard reason)
              | ok text =>
                  exact ready { app with paste := .preparing (some text) } text
                    (owns.set_paste idle (.preparing (some text)) app.pasteLast app.pasteRefusal
                      (fun _ => captured) fun job running => by cases running)
                    rfl captured

/-- A fed step of a paste, before it is recorded as delivered. -/
structure Stepped (app : App) (input : Input) (down : Bool) (after : App) : Prop where
  replayed : after.outstanding = heldBy after.log
  captured : after.session.capture = .captured
  opened : after.session.closing = false
  consumed : ∀ edge : Edge, after.session.consumed edge = true →
    after.outstanding.holds edge.input = false
  holds : ∀ other : Input, other.Single →
    after.outstanding.holds other = (app.outstanding.set input down).holds other
  owed : ∀ physical other, physical.input = some other → Owed after.log physical other →
    Owed app.log physical other ∧ (down = false → other ≠ input)
  down : after.down = app.down
  paste : after.paste = app.paste

theorem Owns.opened (owns : Owns none app) (captured : app.session.capture = .captured) :
    app.session.closing = false := by
  by_contra closing
  have := owns.closed (by simpa using closing)
  rw [captured] at this
  cases this

theorem Owns.feed_step (owns : Owns none app) (answers : Answers)
    (captured : app.session.capture = .captured) {input : Input} (single : input.Single)
    (down : Bool) :
    Stepped app input down (app.feed answers .paste (input.trigger down)) ∨
      ∃ forwards, Emptied app forwards (app.feed answers .paste (input.trigger down)) := by
  have fed := feed_fed answers .paste (trigger_proper input down) app
  generalize app.feed answers .paste (input.trigger down) = after at fed ⊢
  cases fed with
  | emptied emptied => exact Or.inr ⟨_, emptied⟩
  | calm session grab calm =>
      obtain ⟨rfl, edge, rfl, eaten⟩ := calm.eaten captured (owns.opened captured) input down rfl
      have unheld := owns.consumed edge eaten
      have kept := owns.calm calm grab
      refine Or.inl ⟨kept.replayed, calm.kept captured,
        calm.closing.trans (owns.opened captured), kept.consumed, ?_, ?_, rfl, rfl⟩
      · intro other single'
        by_cases same : edge.input = other
        · subst same
          rw [holds_set_same _ single]
          exact unheld
        · rw [holds_set_other _ single single' same]
      · intro physical other mapped owed
        refine ⟨owed, ?_⟩
        rintro _ rfl
        have := (owns.owed physical _ mapped owed).2
        rw [unheld] at this
        cases this
  | passes passes =>
      obtain rfl := Option.some.inj ((trigger_event input down).symm.trans passes.fires)
      refine Or.inl ⟨?_, passes.still, passes.closing.trans passes.opened, ?_, ?_, ?_, rfl, rfl⟩
      · rw [heldBy_snoc, ← owns.replayed]
      · intro edge set
        obtain ⟨before, apart⟩ := passes.consumed edge set
        have distinct : input ≠ edge.input := by
          rintro rfl
          exact apart down rfl
        rw [record_event, holds_set_other _ single (edge_single edge) distinct]
        exact owns.consumed edge before
      · intro other _
        rw [record_event]
      · intro physical other mapped owed
        rcases owed_forwarded owed with ⟨never, _⟩ | ⟨before, settled⟩
        · cases never
        · exact ⟨before, fun up same => by cases settled up same⟩

/-- The step is recorded: the paste runs on, or is done with nothing down. -/
theorem Owns.deliver (owns : Owns none app) {job : PasteJob} (running : app.paste = .running job)
    {input : Input} {down : Bool}
    (delivers : Delivers
      (fun input => ∃ physical, physical.input = some input ∧ Owed app.log physical input)
      job input down)
    {after : App} (stepped : Stepped app input down after) :
    Owns none (App.finishPasteIfOver { after with paste := .running job.delivered }) := by
  have held : ∀ (paste : PasteState), paste.held = job.held.set input down →
      ∀ other : Input, other.Single → after.outstanding.holds other = true →
        paste.held.holds other = true ∨ ∃ physical, (physical ∈ after.down ∨
          (none : Option Physical) = some physical) ∧ physical.input = some other := by
    intro paste same other single holds
    rw [stepped.holds other single] at holds
    rw [same, stepped.down]
    by_cases own : input = other
    · subst own
      rw [holds_set_same _ single] at holds ⊢
      exact Or.inl holds
    · rw [holds_set_other _ delivers.single single own] at holds ⊢
      have before := owns.held other single holds
      rwa [running] at before
  have owed : ∀ physical other, physical.input = some other → Owed after.log physical other →
      physical ∈ after.down ∧ after.outstanding.holds other = true := by
    intro physical other mapped owes
    obtain ⟨before, apart⟩ := stepped.owed physical other mapped owes
    obtain ⟨isDown, holds⟩ := owns.owed physical other mapped before
    rw [stepped.down, stepped.holds other (physical_single mapped)]
    refine ⟨isDown, ?_⟩
    by_cases own : input = other
    · subst own
      rw [holds_set_same _ delivers.single]
      cases down with
      | true => rfl
      | false => exact absurd rfl (apart rfl)
    · rw [holds_set_other _ delivers.single (physical_single mapped) own]
      exact holds
  have closed : after.session.closing = true → after.session.capture = .released := by
    intro closing
    rw [stepped.opened] at closing
    cases closing
  unfold App.finishPasteIfOver
  cases outcome : job.delivered.outcome with
  | none =>
      simp only [outcome]
      refine ⟨stepped.replayed, fun free => absurd stepped.captured free,
        fun _ => stepped.captured, closed, stepped.consumed, held _ delivers.held, owed, ?_⟩
      intro job' running'
      injection running' with same
      subst same
      refine delivers.next _ ?_ outcome
      rintro other ⟨physical, mapped, owes⟩
      obtain ⟨before, apart⟩ := stepped.owed physical other mapped owes
      exact ⟨⟨physical, mapped, before⟩, apart⟩
  | some outcome' =>
      simp only [outcome]
      refine ⟨stepped.replayed, fun free => absurd stepped.captured free,
        (fun active => by cases active), closed, stepped.consumed,
        held .idle (delivers.done outcome' outcome).symm, owed, ?_⟩
      intro job' running'
      cases running'

theorem finish_running {job : PasteJob} (running : app.paste = .running job)
    (unfinished : job.outcome = none) : app.finishPasteIfOver = app := by
  simp [App.finishPasteIfOver, running, unfinished]

theorem Owns.advanceRunning (owns : Owns none app) (answers : Answers) (due : Bool) :
    Owns none (app.advanceRunning answers due) := by
  unfold App.advanceRunning
  cases paste : app.paste with
  | idle =>
      split
      · simpa [App.failPaste, paste] using owns
      · exact owns
  | preparing text =>
      split
      · simpa [App.failPaste, paste] using owns
      · exact owns
  | running job =>
      have captured := owns.pasting (by rw [paste]; rfl)
      have fits := owns.job job paste
      obtain ⟨input, down, delivers⟩ := fits.delivers
      rw [if_neg (by simp [captured])]
      cases due with
      | false =>
          simp only [Bool.false_eq_true, if_false]
          rw [finish_running paste fits.running]
          exact owns
      | true =>
          simp only [if_true, delivers.step, delivers.trigger]
          rcases owns.feed_step answers captured delivers.single down with
            stepped | ⟨forwards, emptied⟩
          · rw [stepped.paste, paste]
            exact owns.deliver paste delivers stepped
          · rw [emptied.paste]
            exact emptied.owns

theorem Owns.advancePaste (owns : Owns none app) (answers : Answers) (polled : Polled)
    (due : Bool) : Owns none (app.advancePaste answers polled due) := by
  unfold App.advancePaste
  split
  · exact owns
  · exact owns.advancePreparing polled
  · exact owns.advanceRunning answers due

end Paste

/-! ## Each label -/

theorem Routed.owns_press {app after : App} {answers : Answers} {physical : Physical}
    (owns : Owns none app) (isDown : physical ∈ app.down)
    (routed : Routed app answers physical true after) : Owns none after := by
  cases routed with
  | kept owned => exact owns
  | fed input mapped free own =>
      exact owns.feed_host answers mapped (fun _ => ⟨isDown, free rfl⟩) (by simp)
  | released _ =>
      refine owns.feed_other answers ?_
      rintro event ⟨⟩
  | pasted _ clipboard => exact owns.startPaste clipboard

theorem Routed.owns_release {app after : App} {answers : Answers} {physical : Physical}
    (owns : Owns (some physical) app) (settled : ∀ input, ¬ Owed app.log physical input)
    (routed : Routed app answers physical false after) : Owns none after := by
  cases routed with
  | kept owned => exact owns.settled fun input mapped holds => owned input mapped rfl holds
  | fed input mapped free own =>
      have fed : Owns (some physical) (app.feed answers (.host physical) (input.trigger false)) :=
        owns.feed_host answers mapped (by simp) fun _ => settled input
      refine fed.settled ?_
      intro other mapped' holds
      obtain rfl := Option.some.inj (mapped.symm.trans mapped')
      rw [owns.feed_lifts answers _ (physical_single mapped)] at holds
      cases holds
  | released down => cases down
  | pasted down clipboard => cases down

/-- A mapped edge handled from its beginning. -/
theorem Owns.host_edge {app after : App} {answers : Answers} {physical : Physical}
    {pressed : Bool} (owns : Owns none app)
    (routed : Routed (app.edge physical pressed) answers physical pressed after) :
    Owns none after := by
  cases pressed with
  | true => exact routed.owns_press (owns.press_edge physical) List.mem_cons_self
  | false =>
      refine routed.owns_release (owns.release_edge physical) ?_
      intro input owed
      rcases owed_snoc.mp owed with pressed | ⟨_, unsettled⟩
      · cases pressed
      · exact unsettled ⟨rfl, rfl⟩

/-- Every label keeps the invariant. -/
theorem Owns.step {app after : App} {label : Label} (owns : Owns none app)
    (stepped : step label app = some after) : Owns none after := by
  cases step_handled stepped with
  | nothing => exact owns
  | edge routed => exact owns.host_edge routed
  | other motion => exact owns.feed_other _ motion
  | flip pointer popoverOpen modalOpen pointerOverChrome grab =>
      exact ⟨owns.replayed, owns.captured, owns.pasting, owns.closed, owns.consumed, owns.held,
        owns.owed, owns.job⟩
  | startPaste clipboard => exact owns.startPaste clipboard
  | advancePaste polled due => exact owns.advancePaste _ polled due

theorem reachable_owns {app : App} (reached : Reachable step start app) : Owns none app := by
  refine reachable_preserves ?_ (fun label state after owns stepped => owns.step stepped) reached
  rintro state ⟨pointer, layout, rfl⟩
  exact Owns.start pointer layout

end NanoKvm.Viewer
