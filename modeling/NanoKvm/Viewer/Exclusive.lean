import NanoKvm.Viewer.Menu
import NanoKvm.Viewer.Owed

/-!
# What the producer is sent while a paste runs

From the moment a job is running until it ends, the edges submitted are its
steps in order and releases by the host, whatever else happens in the loop; the
edges of a menu's shortcut come in between as they are asked for.
-/

set_option autoImplicit false

namespace NanoKvm.Viewer

open NanoKvm.Proto
open NanoKvm.Lib
open NanoKvm.Script
open NanoKvm.Input (Event ReleaseReason)

/-- The transitions a paste submitted. -/
def pasted (log : List Happening) : List Event :=
  log.filterMap fun happening =>
    match happening with
    | .forwarded .paste event => some event
    | _ => none

/-- Besides the paste's transitions and a menu's, only ups come from the host, and of
keys only those whose press it had forwarded in `before`. -/
def Exclusive (before since : List Happening) : Prop :=
  ∀ (origin : Origin) (input : Input) (down : Bool),
    .forwarded origin (input.event down) ∈ since →
    origin = .paste ∨ origin = .menu ∨
      down = false ∧ ∃ physical, origin = .host physical ∧ physical.input = some input ∧
        ∀ key, input = .key key → ∃ other, .forwarded (.host other) input.press ∈ before

/-- The states from the one a job begins in to the one it ends in. -/
inductive During (begun : App) : App → Prop where
  | begun : During begun begun
  | step {app after : App} {job : PasteJob} {label : MenuLabel} (during : During begun app)
      (running : app.paste = .running job) (stepped : menuStep label app = some after) :
      During begun after

/-! ## A job's ups are of its own keys -/

/-- The first edge of `input`, if there is one, is a press. -/
def Opens (input : Input) : List Event → Prop
  | [] => True
  | event :: rest => event = input.press ∨ event ≠ input.up ∧ Opens input rest

theorem opens_append {input : Input} {first second : List Event}
    (none : ∀ event ∈ first, event ≠ input.up) (opens : Opens input second) :
    Opens input (first ++ second) := by
  induction first with
  | nil => exact opens
  | cons event rest ih =>
      exact Or.inr ⟨none event (by simp), ih fun other member => none other (by simp [member])⟩

theorem press_ne_up (input other : Input) : input.press ≠ other.up := by
  intro same
  cases (event_injective same).2

theorem strokeEvents_opens {input : Input} {rest : List Event} (usage : U8) (shift : Bool)
    (apart : input ≠ .key (.modifier Modifier.leftShift)) (opens : Opens input rest) :
    Opens input (strokeEvents usage shift ++ rest) := by
  have shiftUp : Event.key (.modifier Modifier.leftShift) false ≠ input.up := by
    intro same
    exact apart (@event_injective (.key _) input false false same).1.symm
  by_cases own : input = .key (.usage usage)
  · subst own
    cases shift with
    | false => exact Or.inl rfl
    | true => exact Or.inr ⟨press_ne_up (.key _) _, Or.inl rfl⟩
  · apply opens_append _ opens
    have usageUp : Event.key (.usage usage) false ≠ input.up := by
      intro same
      exact own (@event_injective (.key _) input false false same).1.symm
    intro event member
    cases shift <;>
      simp only [strokeEvents, if_true, Bool.false_eq_true, if_false, List.nil_append,
        List.append_nil, List.cons_append, List.mem_cons, List.not_mem_nil, or_false] at member
    · rcases member with rfl | rfl
      · exact press_ne_up (.key _) _
      · exact usageUp
    · rcases member with rfl | rfl | rfl | rfl
      · exact press_ne_up (.key _) _
      · exact press_ne_up (.key _) _
      · exact usageUp
      · exact shiftUp

theorem body_opens (input : Input) (apart : input ≠ .key (.modifier Modifier.leftShift))
    (layout : Layout) (text : List Char) :
    Opens input (text.flatMap (keystrokes layout .off)) := by
  induction text with
  | nil => trivial
  | cons c rest ih =>
      rw [List.flatMap_cons]
      unfold keystrokes
      cases layout.stroke c with
      | none => exact ih
      | some stroke => exact strokeEvents_opens _ _ apart ih

theorem edge_ne_shift (edge : Edge) : edge.input ≠ .key (.modifier Modifier.leftShift) := by
  cases edge <;> decide

/-- A job begins by lifting what the target holds, and lifts nothing else it has not
pressed. -/
theorem new_opens {outstanding : Outstanding} {text : List Char} {layout : Layout}
    {capsLock : Option Bool} {body : List Event}
    (accepted : compile text layout capsLock = .ok body) (edge : Edge)
    (free : outstanding.holds edge.input = false) :
    Opens edge.input (PasteJob.new outstanding body).steps := by
  obtain ⟨script, compiled, rfl, _⟩ := compile_ok accepted
  simp only [PasteJob.new, releasePrelude_eq]
  apply opens_append
  · intro event member same
    obtain ⟨input, held, rfl⟩ := List.mem_map.mp member
    obtain ⟨rfl, _⟩ := event_injective same
    have holds := (mem_heldInputs.mp held).2
    rw [free] at holds
    cases holds
  · rw [transitions_ok compiled]
    exact body_opens _ (edge_ne_shift edge) layout _

/-! ## Whose presses the target holds -/

/-- What the target holds and the paste does not, the host pressed. -/
def Hosted (app : App) : Prop :=
  ∀ input : Input, input.Single → app.outstanding.holds input = true →
    app.paste.held.holds input = true ∨
      ∃ physical, .forwarded (.host physical) input.press ∈ app.log

section Hosted
variable {app after : App}

/-- Nothing is pressed, and what the paste holds it goes on holding. -/
theorem Hosted.mono (hosted : Hosted app)
    (held : ∀ input : Input, input.Single → after.outstanding.holds input = true →
      app.outstanding.holds input = true ∧
        (app.paste.held.holds input = true → after.paste.held.holds input = true))
    (log : ∃ chunk, after.log = app.log ++ chunk) : Hosted after := by
  obtain ⟨chunk, log⟩ := log
  intro input single holds
  obtain ⟨before, still⟩ := held input single holds
  rcases hosted input single before with paste | ⟨physical, member⟩
  · exact Or.inl (still paste)
  · exact Or.inr ⟨physical, by simp [log, member]⟩

theorem Emptied.hosted {forwards : List Happening} (emptied : Emptied app forwards after) :
    Hosted after := by
  intro input _ holds
  rw [emptied.outstanding, none_holds] at holds
  cases holds

/-- A trigger that is no edge presses nothing. -/
theorem Hosted.feed_other (hosted : Hosted app) (answers : Answers) {trigger : Trigger}
    (motion : trigger.Motion) : Hosted (app.feed answers .other trigger) := by
  have fed := feed_fed answers .other motion.proper app
  generalize app.feed answers .other trigger = after at fed ⊢
  cases fed with
  | calm session grab calm => exact hosted
  | passes passes =>
      rename_i event
      have same : app.outstanding.record event = app.outstanding := by
        cases event with
        | key code down => exact absurd rfl (motion _ passes.fires (.key code) down)
        | button mask down => exact absurd rfl (motion _ passes.fires (.button mask) down)
        | _ => rfl
      apply hosted.mono
      · intro input _ holds
        rw [same] at holds
        exact ⟨holds, id⟩
      · exact ⟨_, rfl⟩
  | emptied emptied => exact emptied.hosted

theorem Hosted.feed_host (hosted : Hosted app) (answers : Answers) {physical : Physical}
    {input : Input} (single : input.Single) (down : Bool) :
    Hosted (app.feed answers (.host physical) (input.trigger down)) := by
  have fed := feed_fed answers (.host physical) (trigger_proper input down) app
  generalize app.feed answers (.host physical) (input.trigger down) = after at fed ⊢
  cases fed with
  | calm session grab calm => exact hosted
  | passes passes =>
      obtain rfl := Option.some.inj ((trigger_event input down).symm.trans passes.fires)
      intro other single' holds
      rw [record_event] at holds
      by_cases same : input = other
      · subst same
        rw [holds_set_same _ single] at holds
        subst holds
        exact Or.inr ⟨physical, by simp⟩
      · rw [holds_set_other _ single single' same] at holds
        rcases hosted other single' holds with paste | ⟨physical', member⟩
        · exact Or.inl paste
        · exact Or.inr ⟨physical', by simp [member]⟩
  | emptied emptied => exact emptied.hosted

theorem Hosted.edge (hosted : Hosted app) (physical : Physical) (down : Bool) :
    Hosted (app.edge physical down) :=
  hosted.mono (fun _ _ holds => ⟨holds, id⟩) ⟨_, rfl⟩

/-- A paste that holds nothing turns into another; what it is to hold it has not pressed. -/
theorem Hosted.set_paste (hosted : Hosted app) (idle : app.paste.held = .none)
    (same : after.outstanding = app.outstanding) (log : after.log = app.log) : Hosted after := by
  apply hosted.mono
  · intro input _ holds
    rw [same] at holds
    refine ⟨holds, ?_⟩
    intro paste
    rw [idle, none_holds] at paste
    cases paste
  · exact ⟨[], by simp [log]⟩

theorem compileAndStart_outstanding (app : App) (text : List Char) (capsLock : Option Bool) :
    (app.compileAndStart text capsLock).outstanding = app.outstanding := by
  unfold App.compileAndStart
  split <;> rfl

theorem startPaste_outstanding (app : App) (clipboard : Except String Unit) :
    (app.startPaste clipboard).outstanding = app.outstanding := by
  unfold App.startPaste
  split
  · rfl
  · split
    · rfl
    · split <;> rfl

theorem advancePreparing_outstanding (app : App) (polled : Polled) :
    (app.advancePreparing polled).outstanding = app.outstanding := by
  unfold App.advancePreparing
  split
  · split
    · exact compileAndStart_outstanding _ _ _
    · split <;> rfl
  · split
    · rfl
    · dsimp only
      split
      · exact compileAndStart_outstanding _ _ _
      · split <;> rfl
    · split <;> rfl
  · rfl

end Hosted

/-! ## One step of a running paste -/

/-- No up is left that an edge the session swallowed could swallow too. -/
def Opened (app : App) : Prop :=
  ∀ job, app.paste = .running job → ∀ edge : Edge, app.session.consumed edge = true →
    Opens edge.input (job.steps.drop job.sent)

structure Keeps (app : App) : Prop where
  owns : Owns none app
  hosted : Hosted app
  opened : Opened app

/-- What a look at a running paste comes to. -/
inductive Advanced (app : App) (job : PasteJob) (after : App) : Prop where
  | waits (same : after = app)
  | submits {input : Input} {down : Bool} {session : Session}
      (delivers : Delivers
        (fun input => ∃ physical, physical.input = some input ∧ Owed app.log physical input)
        job input down)
      (passes : Passes app.session (input.trigger down) (input.event down) session)
      (same : after = App.finishPasteIfOver
        { app with
          session
          outstanding := app.outstanding.record (input.event down)
          log := app.log ++ [.forwarded .paste (input.event down)]
          paste := .running job.delivered })
  | ends {input : Input} {down : Bool} (next : job.nextStep = some (input.event down))
      (emptied : Emptied app [.forwarded .paste (input.event down)] after)

theorem nextStep_drop {job : PasteJob} {event : Event} (next : job.nextStep = some event) :
    job.outcome = none ∧ job.steps.drop job.sent = event :: job.steps.drop (job.sent + 1) := by
  unfold PasteJob.nextStep at next
  split at next
  · cases next
  · rename_i unfinished
    obtain ⟨within, here⟩ := List.getElem?_eq_some_iff.mp next
    refine ⟨by simpa using unfinished, ?_⟩
    rw [List.drop_eq_getElem_cons within, here]

theorem advanceRunning_advanced {app : App} (keeps : Keeps app) {job : PasteJob}
    (running : app.paste = .running job) (answers : Answers) (due : Bool) :
    Advanced app job (app.advanceRunning answers due) := by
  have captured := keeps.owns.pasting (by rw [running]; rfl)
  have fits := keeps.owns.job job running
  obtain ⟨input, down, delivers⟩ := fits.delivers
  unfold App.advanceRunning
  rw [if_neg (by simp [captured])]
  simp only [running]
  cases due with
  | false =>
      apply Advanced.waits
      simp only [Bool.false_eq_true, if_false]
      exact finish_running running fits.running
  | true =>
      simp only [if_true, delivers.step, delivers.trigger]
      have fed := feed_fed answers .paste (trigger_proper input down) app
      generalize app.feed answers .paste (input.trigger down) = after at fed ⊢
      cases fed with
      | calm session grab calm =>
          -- An up of a key the paste has pressed since the session swallowed its press.
          obtain ⟨rfl, edge, rfl, eaten⟩ :=
            calm.eaten captured (keeps.owns.opened captured) input down rfl
          have opens := keeps.opened job running edge eaten
          rw [(nextStep_drop delivers.step).2] at opens
          rcases opens with press | ⟨apart, _⟩
          · exact absurd press.symm (press_ne_up _ _)
          · exact absurd rfl apart
      | passes passes =>
          obtain rfl := Option.some.inj ((trigger_event input down).symm.trans passes.fires)
          simp only [running]
          exact Advanced.submits delivers passes rfl
      | emptied emptied =>
          simp only [emptied.paste]
          exact Advanced.ends delivers.step (by simpa [Trigger.forwards] using emptied)

theorem Delivers.delivered {owed : Input → Prop} {job : PasteJob} {input : Input} {down : Bool}
    (delivers : Delivers owed job input down) :
    job.delivered =
      { job with
        held := job.held.set input down
        sent := job.sent + 1
        outcome :=
          if job.sent + 1 = job.steps.length then some (.done (job.sent + 1)) else none } := by
  have unfinished := (nextStep_drop delivers.step).1
  have here : job.steps[job.sent]? = some (input.event down) := by
    have next := delivers.step
    rwa [PasteJob.nextStep, if_neg (by simp [unfinished])] at next
  have takes : stepHeld job.held (input.event down) = some (job.held.set input down) := by
    have trigger := delivers.trigger
    cases input with
    | key key => rfl
    | button mask =>
        cases down with
        | false => rfl
        | true => cases trigger
  exact delivered_eq unfinished here takes

/-! ## Every step keeps what the paste relies on -/

section Keeps
variable {app after : App}

/-- No job begins, and the session swallows nothing it did not. -/
theorem Opened.fed (opened : Opened app) {lifting : Option Physical} (owns : Owns lifting app)
    {origin : Origin} {trigger : Trigger} (fed : Fed app origin trigger after) : Opened after := by
  cases fed with
  | calm session grab calm =>
      intro job running edge set
      have captured := owns.pasting (show app.paste.isActive = true by rw [running]; rfl)
      rcases calm.consumed edge set with before | free
      · exact opened job running edge before
      · exact absurd captured free
  | passes passes =>
      intro job running edge set
      exact opened job running edge (passes.consumed edge set).1
  | emptied emptied =>
      intro job running
      rw [emptied.paste] at running
      cases running

theorem Keeps.feed_other (keeps : Keeps app) (answers : Answers) {trigger : Trigger}
    (motion : trigger.Motion) : Keeps (app.feed answers .other trigger) :=
  ⟨keeps.owns.feed_other answers motion, keeps.hosted.feed_other answers motion,
    keeps.opened.fed keeps.owns (feed_fed answers .other motion.proper app)⟩

theorem Opened.not_running (idle : ∀ job, after.paste ≠ .running job) : Opened after :=
  fun job running => absurd running (idle job)

theorem compileAndStart_opened
    (free : ∀ edge : Edge, app.session.consumed edge = true →
      app.outstanding.holds edge.input = false)
    (text : List Char) (capsLock : Option Bool) : Opened (app.compileAndStart text capsLock) := by
  unfold App.compileAndStart
  split
  · exact Opened.not_running fun job running => by cases running
  · rename_i body accepted
    intro job running edge set
    injection running with same
    subst same
    exact new_opens accepted edge (free edge set)

theorem startPaste_active (active : app.paste.isActive = true) (clipboard : Except String Unit) :
    app.startPaste clipboard = app := by
  unfold App.startPaste
  rw [if_pos active]

theorem startPaste_paste (app : App) (clipboard : Except String Unit) :
    app.startPaste clipboard = app ∨
      app.paste.isActive = false ∧ ∀ job, (app.startPaste clipboard).paste ≠ .running job := by
  by_cases active : app.paste.isActive = true
  · exact Or.inl (startPaste_active active clipboard)
  · unfold App.startPaste
    rw [if_neg active]
    refine Or.inr ⟨by simpa using active, ?_⟩
    intro job
    split
    · simp [App.refusePaste]
    · split <;> simp [App.refusePaste]

theorem held_of_inactive {paste : PasteState} (idle : paste.isActive = false) :
    paste.held = .none := by
  cases paste <;> simp_all [PasteState.isActive, PasteState.held]

theorem Keeps.startPaste (keeps : Keeps app) (clipboard : Except String Unit) :
    Keeps (app.startPaste clipboard) := by
  refine ⟨keeps.owns.startPaste clipboard, ?_, ?_⟩
  · rcases startPaste_paste app clipboard with same | ⟨idle, _⟩
    · rw [same]
      exact keeps.hosted
    · exact keeps.hosted.set_paste (held_of_inactive idle) (startPaste_outstanding app clipboard)
        (startPaste_log app clipboard)
  · rcases startPaste_paste app clipboard with same | ⟨_, idle⟩
    · rw [same]
      exact keeps.opened
    · exact Opened.not_running idle

/-- A preparing paste starts its job in one way only. -/
theorem advancePreparing_starts (polled : Polled) {fetched : Option (List Char)}
    (preparing : app.paste = .preparing fetched) :
    (∀ job, (app.advancePreparing polled).paste ≠ .running job) ∨
      ∃ paste text capsLock, app.advancePreparing polled =
        { app with paste }.compileAndStart text capsLock := by
  unfold App.advancePreparing
  rw [preparing]
  cases fetched with
  | some text =>
      dsimp only
      split
      · exact Or.inr ⟨app.paste, _, _, rfl⟩
      · split <;> simp [App.refusePaste, preparing]
  | none =>
      dsimp only
      split
      · simp [App.refusePaste]
      · split
        · exact Or.inr ⟨_, _, _, rfl⟩
        · split <;> simp [App.refusePaste]
      · split <;> simp [App.refusePaste, preparing]

theorem advancePreparing_opened (owns : Owns none app) (polled : Polled)
    {fetched : Option (List Char)} (preparing : app.paste = .preparing fetched) :
    Opened (app.advancePreparing polled) := by
  rcases advancePreparing_starts polled preparing with never | ⟨paste, text, capsLock, same⟩
  · exact Opened.not_running never
  · rw [same]
    exact compileAndStart_opened owns.consumed text capsLock

theorem Keeps.advanced (keeps : Keeps app) {job : PasteJob} (running : app.paste = .running job)
    (advanced : Advanced app job after) : Hosted after ∧ Opened after := by
  cases advanced with
  | waits same =>
      rw [same]
      exact ⟨keeps.hosted, keeps.opened⟩
  | ends next emptied =>
      refine ⟨emptied.hosted, Opened.not_running ?_⟩
      intro job' running'
      rw [emptied.paste] at running'
      cases running'
  | submits delivers passes same =>
      rename_i input down session
      have hosted : ∀ paste : PasteState, paste.held = job.held.set input down →
          ∀ other : Input, other.Single →
            (app.outstanding.record (input.event down)).holds other = true →
            paste.held.holds other = true ∨ ∃ physical, .forwarded (.host physical) other.press ∈
              app.log ++ [.forwarded .paste (input.event down)] := by
        intro paste held other single holds
        rw [record_event] at holds
        rw [held]
        by_cases own : input = other
        · subst own
          rw [holds_set_same _ single] at holds ⊢
          exact Or.inl holds
        · rw [holds_set_other _ delivers.single single own] at holds ⊢
          rcases keeps.hosted other single holds with paste | ⟨physical, member⟩
          · rw [running] at paste
            exact Or.inl paste
          · exact Or.inr ⟨physical, by simp [member]⟩
      subst same
      unfold App.finishPasteIfOver
      cases outcome : job.delivered.outcome with
      | some outcome' =>
          simp only [outcome]
          refine ⟨hosted .idle (delivers.done outcome' outcome).symm, Opened.not_running ?_⟩
          intro job' running'
          cases running'
      | none =>
          simp only [outcome]
          refine ⟨hosted (.running job.delivered) delivers.held, ?_⟩
          intro job' running' edge set
          injection running' with same
          subst same
          obtain ⟨before, apart⟩ := passes.consumed edge set
          have opens := keeps.opened job running edge before
          rw [(nextStep_drop delivers.step).2] at opens
          rw [delivers.delivered]
          rcases opens with press | ⟨_, later⟩
          · exact absurd press (apart true)
          · exact later

theorem Keeps.advancePaste (keeps : Keeps app) (answers : Answers) (polled : Polled)
    (due : Bool) : Keeps (app.advancePaste answers polled due) := by
  have owns := keeps.owns.advancePaste answers polled due
  unfold App.advancePaste at owns ⊢
  cases paste : app.paste with
  | idle => exact keeps
  | preparing text =>
      rw [paste] at owns
      refine ⟨owns, keeps.hosted.set_paste ?_ (advancePreparing_outstanding app polled)
        (advancePreparing_log app polled), advancePreparing_opened keeps.owns polled paste⟩
      rw [paste]
      rfl
  | running job =>
      rw [paste] at owns
      obtain ⟨hosted, opened⟩ :=
        keeps.advanced paste (advanceRunning_advanced keeps paste answers due)
      exact ⟨owns, hosted, opened⟩

/-- An edge of the host; that it keeps `Owns` is the concern of the routing. -/
theorem Routed.hosted_opened {answers : Answers} {physical : Physical} {pressed : Bool}
    {lifting : Option Physical} (owns : Owns lifting app) (hosted : Hosted app)
    (opened : Opened app) (routed : Routed app answers physical pressed after) :
    Hosted after ∧ Opened after := by
  cases routed with
  | kept owned => exact ⟨hosted, opened⟩
  | fed input mapped free own =>
      exact ⟨hosted.feed_host answers (physical_single mapped) pressed,
        opened.fed owns (feed_fed answers _ (trigger_proper input pressed) app)⟩
  | released down =>
      have motion : Trigger.Motion .releaseKey := by rintro event ⟨⟩
      exact ⟨hosted.feed_other answers motion,
        opened.fed owns (feed_fed answers .other motion.proper app)⟩
  | pasted down clipboard =>
      rcases startPaste_paste app clipboard with same | ⟨idle, never⟩
      · rw [same]
        exact ⟨hosted, opened⟩
      · exact ⟨hosted.set_paste (held_of_inactive idle) (startPaste_outstanding app clipboard)
          (startPaste_log app clipboard), Opened.not_running never⟩

/-- A host edge that keeps `Owns`. -/
theorem Keeps.host_edge (keeps : Keeps app) {answers : Answers} {physical : Physical}
    {pressed : Bool} (routed : Routed (app.edge physical pressed) answers physical pressed after) :
    Keeps after := by
  have hosted := keeps.hosted.edge physical pressed
  have opened : Opened (app.edge physical pressed) := keeps.opened
  have owns := keeps.owns.host_edge routed
  cases pressed with
  | true =>
      obtain ⟨hosted, opened⟩ :=
        routed.hosted_opened (keeps.owns.press_edge physical) hosted opened
      exact ⟨owns, hosted, opened⟩
  | false =>
      obtain ⟨hosted, opened⟩ :=
        routed.hosted_opened (keeps.owns.release_edge physical) hosted opened
      exact ⟨owns, hosted, opened⟩

theorem Keeps.sendShortcut (keeps : Keeps app) (builtin : Builtin) (answers : Nat → Answers) :
    Keeps (app.sendShortcut builtin answers) := by
  obtain ⟨owns, sends⟩ := keeps.owns.sendShortcut builtin answers
  refine ⟨owns, ?_, ?_⟩
  · obtain ⟨chunk, log, _⟩ := sends.log
    apply keeps.hosted.mono _ ⟨chunk, log⟩
    intro input single holds
    rcases sends.held input single holds with ⟨_, never, _⟩ | ⟨paste, before⟩
    · cases never
    · exact ⟨before, fun held => by rw [paste]; exact held⟩
  · intro job running edge set
    have before := sends.consumed (by rw [running]; rfl) edge set
    rcases sends.paste with same | idle
    · exact keeps.opened job (same.symm.trans running) edge before
    · rw [idle] at running
      cases running

theorem Keeps.step {label : Label} (keeps : Keeps app) (stepped : step label app = some after) :
    Keeps after := by
  cases step_handled stepped with
  | nothing => exact keeps
  | edge routed => exact keeps.host_edge routed
  | other motion => exact keeps.feed_other _ motion
  | flip pointer popoverOpen modalOpen pointerOverChrome grab =>
      have owns := keeps.owns
      exact ⟨⟨owns.replayed, owns.captured, owns.pasting, owns.closed, owns.consumed, owns.held,
        owns.owed, owns.job⟩, keeps.hosted, keeps.opened⟩
  | startPaste clipboard => exact keeps.startPaste clipboard
  | advancePaste polled due => exact keeps.advancePaste _ polled due

theorem menuStep_keeps {label : MenuLabel} (keeps : Keeps app)
    (stepped : menuStep label app = some after) : Keeps after := by
  cases label with
  | event label => exact keeps.step stepped
  | sendShortcut builtin answers =>
      cases Option.some.inj stepped
      exact keeps.sendShortcut builtin answers

theorem menu_keeps (reached : Reachable menuStep start app) : Keeps app := by
  refine reachable_preserves ?_ (fun _ _ _ keeps stepped => menuStep_keeps keeps stepped) reached
  rintro state ⟨pointer, layout, rfl⟩
  refine ⟨Owns.start pointer layout, ?_, Opened.not_running fun job running => by cases running⟩
  intro input _ holds
  rw [show (App.new pointer layout).outstanding = .none from rfl, none_holds] at holds
  cases holds

end Keeps

/-! ## What a step adds while a job runs -/

/-- A step that is none of the paste's: what it adds leaves the paste to itself, unless it
ends it. -/
structure Around (app after : App) : Prop where
  paste : after.paste = app.paste ∨ after.paste = .idle
  undone : ∀ total, after.pasteLast = some (.done total) → app.pasteLast = some (.done total)
  log : ∃ chunk, after.log = app.log ++ chunk ∧ Exclusive app.log chunk ∧ pasted chunk = []

theorem pasted_append (first second : List Happening) :
    pasted (first ++ second) = pasted first ++ pasted second := List.filterMap_append

theorem Exclusive.append {before first second : List Happening} (one : Exclusive before first)
    (two : Exclusive before second) : Exclusive before (first ++ second) := by
  intro origin input down member
  rcases List.mem_append.mp member with here | there
  · exact one origin input down here
  · exact two origin input down there

theorem exclusive_nil (before : List Happening) : Exclusive before [] := by
  intro origin input down member
  cases member

theorem exclusive_released (before : List Happening) (reason : ReleaseReason) :
    Exclusive before [.releaseAll reason] := by
  intro origin input down member
  cases List.mem_singleton.mp member

section Around
variable {app after : App} {job : PasteJob}

theorem Around.nothing (app : App) : Around app app :=
  ⟨Or.inl rfl, fun _ => id, [], by simp, exclusive_nil _, rfl⟩

/-- A trigger fed for the host or for no input at all. -/
theorem Fed.around {origin : Origin} {trigger : Trigger} (fed : Fed app origin trigger after)
    (unfinished : ∀ job, app.paste = .running job → job.outcome = none) (other : origin ≠ .paste)
    (exclusive : ∀ event, trigger.event = some event →
      Exclusive app.log [.forwarded origin event]) : Around app after := by
  have quiet : ∀ event, pasted [.forwarded origin event] = [] := by
    intro event
    cases origin with
    | paste => exact absurd rfl other
    | host physical => rfl
    | menu => rfl
    | other => rfl
  cases fed with
  | calm session grab calm =>
      exact ⟨Or.inl rfl, fun _ => id, [], by simp, exclusive_nil _, rfl⟩
  | passes passes =>
      exact ⟨Or.inl rfl, fun _ => id, _, rfl, exclusive _ passes.fires, quiet _⟩
  | emptied emptied =>
      obtain ⟨reason, log⟩ := emptied.log
      refine ⟨Or.inr emptied.paste, emptied.undone unfinished,
        trigger.forwards origin ++ [.releaseAll reason], by simp [log], ?_, ?_⟩
      · apply Exclusive.append _ (exclusive_released _ reason)
        cases fires : trigger.event with
        | none => simpa [Trigger.forwards, fires] using exclusive_nil _
        | some event => simpa [Trigger.forwards, fires] using exclusive event fires
      · rw [pasted_append, show pasted [.releaseAll reason] = [] from rfl, List.append_nil]
        cases fires : trigger.event with
        | none => simp [Trigger.forwards, fires, pasted]
        | some event => simpa [Trigger.forwards, fires] using quiet event

theorem Trigger.Motion.exclusive {trigger : Trigger} (motion : trigger.Motion)
    (before : List Happening) {event : Event} (fires : trigger.event = some event) :
    Exclusive before [.forwarded .other event] := by
  intro origin input down member
  injection List.mem_singleton.mp member with _ same
  exact absurd same.symm (motion event fires input down)

/-- An up the routing lets through is of a key the host pressed. -/
theorem Routed.around {answers : Answers} {physical : Physical} {pressed : Bool}
    (routed : Routed app answers physical pressed after) (hosted : Hosted app)
    (running : app.paste = .running job) (unfinished : job.outcome = none) :
    Around app after := by
  have active : app.paste.isActive = true := by
    rw [running]
    rfl
  have only : ∀ job, app.paste = .running job → job.outcome = none := by
    intro other running'
    obtain rfl := PasteState.running.inj (running.symm.trans running')
    exact unfinished
  cases routed with
  | kept owned => exact Around.nothing app
  | fed input mapped free own =>
      have released : pressed = false := by
        by_contra down
        have idle := free (by simpa using down)
        rw [active] at idle
        cases idle
      subst released
      apply (feed_fed answers (.host physical) (trigger_proper input false) app).around only
      · simp
      · intro event fires origin input' down member
        obtain rfl := Option.some.inj ((trigger_event input false).symm.trans fires)
        injection List.mem_singleton.mp member with same event
        obtain ⟨rfl, rfl⟩ := event_injective event
        refine Or.inr (Or.inr ⟨rfl, physical, same, mapped, ?_⟩)
        intro key isKey
        obtain ⟨holds, apart⟩ := own active key isKey
        rcases hosted _ (physical_single mapped) holds with paste | host
        · rw [apart] at paste
          cases paste
        · exact host
  | released down =>
      have motion : Trigger.Motion .releaseKey := by rintro event ⟨⟩
      apply (feed_fed answers .other motion.proper app).around only (by simp)
      exact fun event fires => motion.exclusive app.log fires
  | pasted down clipboard =>
      rw [startPaste_active active]
      exact Around.nothing app

theorem Around.after_edge {physical : Physical} {pressed : Bool}
    (around : Around (app.edge physical pressed) after) : Around app after := by
  obtain ⟨chunk, log, exclusive, quiet⟩ := around.log
  refine ⟨around.paste, around.undone, .edge physical pressed :: chunk, ?_, ?_, quiet⟩
  · simp [log, App.edge]
  · intro origin input down member
    rcases List.mem_cons.mp member with edge | later
    · cases edge
    · rcases exclusive origin input down later with paste | menu | ⟨up, host, same, mapped, owed⟩
      · exact Or.inl paste
      · exact Or.inr (Or.inl menu)
      · refine Or.inr (Or.inr ⟨up, host, same, mapped, ?_⟩)
        intro key isKey
        obtain ⟨other, pressed⟩ := owed key isKey
        refine ⟨other, ?_⟩
        simpa [App.edge] using pressed

theorem Sends.around (sends : Sends [] app after) (unfinished : job.outcome = none)
    (running : app.paste = .running job) : Around app after := by
  obtain ⟨chunk, log, plain⟩ := sends.log
  refine ⟨sends.paste, sends.undone ?_, chunk, log, ?_, ?_⟩
  · intro other running'
    obtain rfl := PasteState.running.inj (running.symm.trans running')
    exact unfinished
  · intro origin input down member
    rcases plain _ member with ⟨event, same⟩ | ⟨reason, same⟩
    · injection same with menu
      exact Or.inr (Or.inl menu)
    · cases same
  · apply List.filterMap_eq_nil_iff.mpr
    intro happening member
    rcases plain happening member with ⟨event, rfl⟩ | ⟨reason, rfl⟩ <;> rfl

/-- While a job runs, a step is the paste's or leaves it to itself. -/
theorem running_step {label : MenuLabel} (keeps : Keeps app) (running : app.paste = .running job)
    (stepped : menuStep label app = some after) : Around app after ∨ Advanced app job after := by
  have unfinished := (keeps.owns.job job running).running
  have only : ∀ job, app.paste = .running job → job.outcome = none :=
    fun job running => (keeps.owns.job job running).running
  cases label with
  | sendShortcut builtin answers =>
      cases Option.some.inj stepped
      exact Or.inl ((keeps.owns.sendShortcut builtin answers).2.around unfinished running)
  | event label =>
      cases step_handled stepped with
      | nothing => exact Or.inl (Around.nothing app)
      | edge routed =>
          exact Or.inl (routed.around (keeps.hosted.edge _ _) running unfinished).after_edge
      | other motion =>
          apply Or.inl ((feed_fed _ .other motion.proper app).around only (by simp) _)
          exact fun event fires => motion.exclusive app.log fires
      | flip pointer popoverOpen modalOpen pointerOverChrome grab =>
          exact Or.inl ⟨Or.inl rfl, fun _ => id, [], by simp, exclusive_nil _, rfl⟩
      | startPaste clipboard =>
          rw [startPaste_active (by rw [running]; rfl)]
          exact Or.inl (Around.nothing app)
      | advancePaste polled due =>
          rw [App.advancePaste, running]
          exact Or.inr (advanceRunning_advanced keeps running _ due)

end Around

/-! ## From the start of a job to its end -/

section Whole
variable {before begun app after : App} {job : PasteJob}

theorem Fed.paste {origin : Origin} {trigger : Trigger} (fed : Fed app origin trigger after) :
    after.paste = app.paste ∨ after.paste = .idle := by
  cases fed with
  | calm session grab calm => exact Or.inl rfl
  | passes passes => exact Or.inl rfl
  | emptied emptied => exact Or.inr emptied.paste

/-- A job begins at its first step, with no outcome to show. -/
theorem begun_fresh {label : MenuLabel} (keeps : Keeps before)
    (idle : ∀ job, before.paste ≠ .running job) (stepped : menuStep label before = some begun)
    (running : begun.paste = .running job) : job.sent = 0 ∧ begun.pasteLast = none := by
  have kept : ¬ (begun.paste = before.paste ∨ begun.paste = .idle) := by
    rintro (same | none)
    · exact idle job (same.symm.trans running)
    · rw [none] at running
      cases running
  cases label with
  | sendShortcut builtin answers =>
      cases Option.some.inj stepped
      exact absurd (keeps.owns.sendShortcut builtin answers).2.paste kept
  | event label =>
      cases step_handled stepped with
      | nothing => exact absurd (Or.inl rfl) kept
      | other motion => exact absurd (feed_fed _ .other motion.proper before).paste kept
      | flip pointer popoverOpen modalOpen pointerOverChrome grab => exact absurd (Or.inl rfl) kept
      | startPaste clipboard =>
          rcases startPaste_paste before clipboard with same | ⟨_, never⟩
          · rw [same] at kept
            exact absurd (Or.inl rfl) kept
          · exact absurd running (never job)
      | edge routed =>
          cases routed with
          | kept owned => exact absurd (Or.inl rfl) kept
          | fed input mapped free own =>
              exact absurd (feed_fed _ _ (trigger_proper input _) _).paste kept
          | released down =>
              have motion : Trigger.Motion .releaseKey := by rintro event ⟨⟩
              exact absurd (feed_fed _ .other motion.proper _).paste kept
          | pasted down clipboard =>
              rcases startPaste_paste (before.edge _ _) clipboard with same | ⟨_, never⟩
              · rw [same] at kept
                exact absurd (Or.inl rfl) kept
              · exact absurd running (never job)
      | advancePaste polled due =>
          cases paste : before.paste with
          | idle =>
              rw [App.advancePaste, paste] at kept
              exact absurd (Or.inl paste) kept
          | running job' => exact absurd paste (idle job')
          | preparing fetched =>
              rw [App.advancePaste, paste] at running ⊢
              rcases advancePreparing_starts polled paste with never | ⟨paste, text, caps, same⟩
              · exact absurd running (never job)
              · simp only [same] at running ⊢
                unfold App.compileAndStart at running ⊢
                split at running
                · cases running
                · injection running with same
                  subst same
                  exact ⟨rfl, rfl⟩

/-- A run of a job so far. -/
structure Mid (begun : App) (job : PasteJob) (app : App) : Prop where
  undone : ∀ job', app.paste = .running job' → ∀ total, app.pasteLast ≠ some (.done total)
  since : ∃ since, app.log = begun.log ++ since ∧ Exclusive begun.log since ∧
    pasted since <+: job.steps ∧
    (∀ job', app.paste = .running job' →
      job'.steps = job.steps ∧ pasted since = job.steps.take job'.sent) ∧
    ∀ total, app.pasteLast = some (.done total) → pasted since = job.steps

theorem mid_begun {label : MenuLabel} (keeps : Keeps before)
    (idle : ∀ job, before.paste ≠ .running job) (stepped : menuStep label before = some begun)
    (running : begun.paste = .running job) : Mid begun job begun := by
  obtain ⟨first, fresh⟩ := begun_fresh keeps idle stepped running
  refine ⟨fun _ _ => by simp [fresh], [], by simp, exclusive_nil _, List.nil_prefix, ?_,
    by simp [fresh]⟩
  intro job' running'
  obtain rfl := PasteState.running.inj (running.symm.trans running')
  exact ⟨rfl, by rw [first]; rfl⟩

/-- No press of the host is among what was added since. -/
theorem Exclusive.since {old since chunk : List Happening} (exclusive : Exclusive old since)
    (added : Exclusive (old ++ since) chunk) : Exclusive old (since ++ chunk) := by
  apply exclusive.append
  intro origin input down member
  rcases added origin input down member with paste | menu | ⟨up, host, same, mapped, owed⟩
  · exact Or.inl paste
  · exact Or.inr (Or.inl menu)
  · refine Or.inr (Or.inr ⟨up, host, same, mapped, ?_⟩)
    intro key isKey
    obtain ⟨other, pressed⟩ := owed key isKey
    rcases List.mem_append.mp pressed with here | there
    · exact ⟨other, here⟩
    · rcases exclusive (.host other) input true there with paste | menu | ⟨up, _⟩
      · cases paste
      · cases menu
      · cases up

theorem exclusive_paste (before : List Happening) (event : Event) :
    Exclusive before [.forwarded .paste event] := by
  intro origin input down member
  injection List.mem_singleton.mp member with paste
  exact Or.inl paste

theorem Mid.around {job' : PasteJob} (mid : Mid begun job app) (running : app.paste = .running job')
    (around : Around app after) : Mid begun job after := by
  obtain ⟨since, log, exclusive, fits, sofar, _⟩ := mid.since
  obtain ⟨chunk, log', added, quiet⟩ := around.log
  have undone : ∀ total, after.pasteLast ≠ some (.done total) :=
    fun total done => mid.undone job' running total (around.undone total done)
  refine ⟨fun _ _ => undone, since ++ chunk, by rw [log', log, List.append_assoc],
    exclusive.since (log ▸ added), ?_, ?_, fun total done => absurd done (undone total)⟩
  · rw [pasted_append, quiet, List.append_nil]
    exact fits
  · intro later running'
    rw [pasted_append, quiet, List.append_nil]
    rcases around.paste with same | idle
    · exact sofar later (same.symm.trans running')
    · rw [idle] at running'
      cases running'

theorem Mid.advanced {job' : PasteJob} (mid : Mid begun job app)
    (running : app.paste = .running job') (advanced : Advanced app job' after) :
    Mid begun job after := by
  obtain ⟨since, log, exclusive, fits, sofar, _⟩ := mid.since
  obtain ⟨steps, typed⟩ := sofar job' running
  have next : ∀ event, job'.nextStep = some event →
      pasted (since ++ [.forwarded .paste event]) = job.steps.take (job'.sent + 1) := by
    intro event found
    have split := (nextStep_drop found).2
    have within : job'.sent < job.steps.length := by
      rw [← steps]
      by_contra beyond
      rw [List.drop_eq_nil_of_le (by omega)] at split
      cases split
    rw [steps, List.drop_eq_getElem_cons within] at split
    rw [pasted_append, typed, List.take_succ_eq_append_getElem within, (List.cons.inj split).1]
    rfl
  cases advanced with
  | waits same =>
      rw [same]
      exact mid
  | ends found emptied =>
      rename_i input down
      obtain ⟨reason, log'⟩ := emptied.log
      have unfinished : ∀ job, app.paste = .running job → job.outcome = none := by
        intro other running'
        obtain rfl := PasteState.running.inj (running.symm.trans running')
        exact (nextStep_drop found).1
      have undone : ∀ total, after.pasteLast ≠ some (.done total) :=
        fun total done => mid.undone job' running total (emptied.undone unfinished total done)
      refine ⟨fun _ _ => undone,
        since ++ [Happening.forwarded .paste (input.event down)] ++ [Happening.releaseAll reason],
        ?_, (exclusive.append (exclusive_paste _ _)).append (exclusive_released _ _), ?_, ?_,
        fun total done => absurd done (undone total)⟩
      · simp [log', log]
      · rw [pasted_append, next _ found]
        simpa [pasted] using List.take_prefix _ _
      · intro later running'
        rw [emptied.paste] at running'
        cases running'
  | submits delivers passes same =>
      rename_i input down session
      have found := next _ delivers.step
      subst same
      have log' : begun.log ++ (since ++ [Happening.forwarded .paste (input.event down)]) =
          app.log ++ [Happening.forwarded .paste (input.event down)] := by
        rw [log, List.append_assoc]
      have exclusive' := exclusive.append (exclusive_paste begun.log (input.event down))
      have part : pasted (since ++ [Happening.forwarded .paste (input.event down)]) <+:
          job.steps := by
        rw [found]
        exact List.take_prefix _ _
      unfold App.finishPasteIfOver
      simp only [delivers.delivered]
      by_cases last : job'.sent + 1 = job'.steps.length
      · simp only [if_pos last]
        refine ⟨?_, _, log'.symm, exclusive', part, ?_, ?_⟩
        · intro later running'
          cases running'
        · intro later running'
          cases running'
        intro total _
        rw [found, last, steps, List.take_length]
      · simp only [if_neg last]
        have undone := mid.undone job' running
        refine ⟨fun _ _ => undone, _, log'.symm, exclusive', part, ?_,
          fun total done => absurd done (undone total)⟩
        intro later running'
        injection running' with same
        subst same
        exact ⟨steps, found⟩

end Whole

/-! ## A paste among other things -/

/-- The clipboard holds one letter, and the device has answered that CapsLock is off. -/
def letterReady : Polled := ⟨some (.ok ['a']), true, false, some false, false⟩

def pasteDue : MenuLabel := .event (granted (.advancePaste letterReady true))

/-- Capture, and a paste asked for. -/
def pasteAsked : List MenuLabel :=
  captureClick.map .event ++ [.event (granted (.key .pause true false true (.ok ())))]

/-- A step of the paste, a press and a release of the right button, a shortcut, a step. -/
def interrupted : List MenuLabel :=
  [pasteDue, .event (granted (.button .right true)), .event (granted (.button .right false)),
    .sendShortcut .winTab fun _ => ⟨true, none, true⟩, pasteDue]

/-- A job runs. -/
def App.pasting (app : App) : Bool :=
  match app.paste with
  | .running _ => true
  | _ => false

theorem pasting_running {app : App} (pasting : app.pasting = true) :
    ∃ job, app.paste = .running job := by
  unfold App.pasting at pasting
  split at pasting
  · exact ⟨_, by assumption⟩
  · cases pasting

/-- A run whose every step starts with the job running. -/
theorem During.run {begun app after : App} {labels : List MenuLabel} (during : During begun app)
    (running : Guarded menuStep (fun _ app => app.pasting = true) labels app)
    (success : run menuStep labels app = some after) : During begun after := by
  induction labels generalizing app with
  | nil =>
      cases Option.some.inj success
      exact during
  | cons label rest ih =>
      obtain ⟨next, stepped, rested⟩ := run_cons success
      obtain ⟨job, here⟩ := pasting_running running.1
      exact ih (during.step here stepped) (running.2 next stepped) rested

/-- The state before the paste's job begins, the one it begins in and the one it ends in. -/
def askedApp : App := (run menuStep pasteAsked (App.new .absolute .us)).getD (App.new .absolute .us)

def begunApp : App := (menuStep pasteDue askedApp).getD askedApp

def endedApp : App := (run menuStep interrupted begunApp).getD begunApp

theorem asked_reached : Reachable menuStep start askedApp := by
  refine ⟨App.new .absolute .us, pasteAsked, ⟨.absolute, .us, rfl⟩, ?_⟩
  have some : (run menuStep pasteAsked (App.new .absolute .us)).isSome = true := rfl
  exact (Option.some_get some).symm.trans (by rw [askedApp, Option.get_eq_getD])

theorem ended_during : menuStep pasteDue askedApp = some begunApp ∧ During begunApp endedApp := by
  have one : (menuStep pasteDue askedApp).isSome = true := rfl
  have two : (run menuStep interrupted begunApp).isSome = true := by decide +kernel
  refine ⟨(Option.some_get one).symm.trans (by rw [begunApp, Option.get_eq_getD]), ?_⟩
  have guarded : Guarded menuStep (fun _ app => app.pasting = true) interrupted begunApp := by
    decide +kernel
  apply During.begun.run guarded
  exact (Option.some_get two).symm.trans (by rw [endedApp, Option.get_eq_getD])

/-! ## Every run -/

/-- From a job's start to its end the producer is sent the job's steps in order, all of
them if it is done; the edges of menu shortcuts; and ups of the host, of keys only
those it had pressed before. -/
theorem paste_exclusive {before begun app : App} {label : MenuLabel} {job : PasteJob}
    (reached : Reachable menuStep start before) (idle : ∀ job, before.paste ≠ .running job)
    (stepped : menuStep label before = some begun) (running : begun.paste = .running job)
    (during : During begun app) :
    ∃ since, app.log = begun.log ++ since ∧ Exclusive begun.log since ∧
      pasted since <+: job.steps ∧
      ∀ total, app.pasteLast = some (.done total) → pasted since = job.steps := by
  have keeps := menu_keeps reached
  have mid : Keeps app ∧ Mid begun job app := by
    induction during with
    | begun => exact ⟨menuStep_keeps keeps stepped, mid_begun keeps idle stepped running⟩
    | step during running' stepped' ih =>
        obtain ⟨kept, mid⟩ := ih
        refine ⟨menuStep_keeps kept stepped', ?_⟩
        rcases running_step kept running' stepped' with around | advanced
        · exact mid.around running' around
        · exact mid.advanced running' advanced
  obtain ⟨since, log, exclusive, part, _, done⟩ := mid.2.since
  exact ⟨since, log, exclusive, part, done⟩

/-- A letter is pasted between other things. -/
theorem paste_exclusive_interrupted :
    ∃ since, endedApp.log = begunApp.log ++ since ∧ Exclusive begunApp.log since ∧
      pasted since = [.key (.usage 0x04#8) true, .key (.usage 0x04#8) false] := by
  have idle : ∀ job, askedApp.paste ≠ .running job := by
    intro job running
    have preparing : askedApp.paste = .preparing none := rfl
    rw [preparing] at running
    cases running
  have running : begunApp.paste = .running
      (PasteJob.new .none [.key (.usage 0x04#8) true, .key (.usage 0x04#8) false]) := by
    rfl
  have done : endedApp.pasteLast = some (.done 2) := rfl
  obtain ⟨since, log, exclusive, _, whole⟩ :=
    paste_exclusive asked_reached idle ended_during.1 running ended_during.2
  refine ⟨since, log, exclusive, (whole 2 done).trans ?_⟩
  decide

/-- Only the paste's transitions, and ups of what the host had pressed in `before`. -/
def Alone (before since : List Happening) : Prop :=
  ∀ (origin : Origin) (input : Input) (down : Bool),
    .forwarded origin (input.event down) ∈ since →
    origin = .paste ∨ down = false ∧ ∃ physical other,
      origin = .host physical ∧ .forwarded (.host other) input.press ∈ before

/-- The up of a button whose press was dropped reaches the target, and so does a shortcut. -/
theorem paste_not_alone :
    Reachable menuStep start askedApp ∧ menuStep pasteDue askedApp = some begunApp ∧
      During begunApp endedApp ∧ ∃ since, endedApp.log = begunApp.log ++ since ∧
        .forwarded (.host (.button .right)) (.button Button.right false) ∈ since ∧
        .forwarded .menu (.key (.modifier Modifier.leftMeta) true) ∈ since ∧
        ¬ Alone begunApp.log since := by
  obtain ⟨since, log, released, sent⟩ : ∃ since, endedApp.log = begunApp.log ++ since ∧
      .forwarded (.host (.button .right)) (.button Button.right false) ∈ since ∧
      .forwarded .menu (.key (.modifier Modifier.leftMeta) true) ∈ since := by
    refine ⟨endedApp.log.drop begunApp.log.length, ?_, ?_, ?_⟩ <;> decide
  have unpressed : ∀ happening ∈ begunApp.log, ∃ physical down, happening = .edge physical down := by
    have log : begunApp.log = [.edge (.button .left) true, .edge (.button .left) false,
      .edge (.key .pause) true] := rfl
    rw [log]
    simp
  refine ⟨asked_reached, ended_during.1, ended_during.2, since, log, released, sent, ?_⟩
  intro alone
  rcases alone (.host (.button .right)) (.button Button.right) false released with
    paste | ⟨_, _, other, _, pressed⟩
  · cases paste
  · obtain ⟨_, _, edge⟩ := unpressed _ pressed
    cases edge

end NanoKvm.Viewer
