import NanoKvm.Viewer.App
import NanoKvm.Viewer.Response

/-!
# What a trigger does to the event loop

The state machine answers a trigger in one of three ways: it forwards the event,
it releases everything, or it does neither.  `reduce_reaction` says so of the
reducer and `feed_fed` of the loop around it; nothing after them unfolds either.
-/

set_option autoImplicit false

namespace NanoKvm.Viewer

open NanoKvm.Proto
open NanoKvm.Input (Event ReleaseReason SubmitError)

/-! ## The reducer's three reactions -/

/-- Neither a forward nor a release. -/
structure Calm (session : Session) (trigger : Trigger) (after : Session) : Prop where
  kept : session.capture = .captured → after.capture = .captured
  closing : after.closing = session.closing
  closed : session.closing = true → after.capture = session.capture
  consumed : ∀ edge : Edge, after.consumed edge = true →
    session.consumed edge = true ∨ session.capture ≠ .captured
  eaten : session.capture = .captured → session.closing = false → ∀ (input : Input) (down : Bool),
    trigger = input.trigger down →
      down = false ∧ ∃ edge : Edge, edge.input = input ∧ session.consumed edge = true

/-- The event is forwarded. -/
structure Passes (session : Session) (trigger : Trigger) (event : Event) (after : Session) :
    Prop where
  opened : session.closing = false
  captured : session.capture = .captured
  still : after.capture = .captured
  closing : after.closing = session.closing
  fires : trigger.event = some event
  consumed : ∀ edge : Edge, after.consumed edge = true →
    session.consumed edge = true ∧ ∀ down, event ≠ edge.input.event down

/-- Everything is released. -/
structure Leaves (trigger : Trigger) (after : Session) : Prop where
  released : after.capture = .released
  consumed : ∀ edge : Edge, after.consumed edge = false
  silent : trigger.event = none

inductive Reaction (session : Session) (trigger : Trigger) : Session → List Action → Prop where
  | calm {after : Session} {actions : List Action} (calm : Calm session trigger after)
      (asks : actions = [] ∨ actions = [.tryEngage] ∧ after.capture ≠ .captured ∨
        actions = beginCapture ∧ after.capture ≠ .captured ∨ actions = [.exit]) :
      Reaction session trigger after actions
  | passes {after : Session} {event : Event} (passes : Passes session trigger event after) :
      Reaction session trigger after [.forward event]
  | leaves {after : Session} {reason : ReleaseReason} {exits : List Action}
      (leaves : Leaves trigger after) (asks : exits = [] ∨ exits = [.exit]) :
      Reaction session trigger after (leaveCapture reason ++ exits)

theorem Leaves.reaction {session after : Session} {trigger : Trigger}
    (leaves : Leaves trigger after) (reason : ReleaseReason) :
    Reaction session trigger after (leaveCapture reason) := by
  have whole : Reaction session trigger after (leaveCapture reason ++ []) :=
    Reaction.leaves leaves (Or.inl rfl)
  rwa [List.append_nil] at whole

/-- A motion trigger carries no edge. -/
def Trigger.Proper : Trigger → Prop
  | .motion event => ∀ (input : Input) (down : Bool), event ≠ input.event down
  | _ => True

theorem Trigger.Proper.input {trigger : Trigger} (proper : trigger.Proper) {input : Input}
    {down : Bool} (fires : trigger.event = some (input.event down)) :
    trigger = input.trigger down := by
  cases trigger with
  | motion event => exact absurd (Option.some.inj fires) (proper input down)
  | key code down' => cases input <;> simp_all [Trigger.event, Input.event, Input.trigger]
  | button mask down' => cases input <;> simp_all [Trigger.event, Input.event, Input.trigger]
  | _ => cases fires

theorem Response.reaction {session after : Session} {trigger : Trigger} {actions : List Action}
    (response : Response session trigger after actions) (proper : trigger.Proper) :
    Reaction session trigger after actions := by
  cases response with
  | closed closing exits =>
      refine .calm ⟨id, rfl, fun _ => rfl, fun _ set => Or.inl set, by simp [closing]⟩ ?_
      rcases exits with rfl | rfl
      · exact Or.inl rfl
      · exact Or.inr (Or.inr (Or.inr rfl))
  | closes opened asked =>
      exact .leaves ⟨rfl, fun edge => by cases edge <;> rfl, by simp [asked, Trigger.event]⟩
        (Or.inr rfl)
  | leaves opened busy reason asks notice =>
      exact Leaves.reaction ⟨rfl, fun edge => by cases edge <;> rfl, reason_silent asks⟩ reason
  | presses opened captured edge pressed =>
      refine .passes ⟨opened, captured, by simp [captured], by simp, ?_, ?_⟩
      · rw [pressed]
        cases edge <;> rfl
      · intro other set
        rw [consumed_setConsumed] at set
        by_cases same : other = edge
        · simp [same] at set
        · exact ⟨by simpa [same] using set, fun down' => edge_event_ne same true down'⟩
  | passes opened captured event fires spared =>
      refine .passes ⟨opened, captured, captured, rfl, fires, fun edge set => ⟨set, ?_⟩⟩
      rintro down rfl
      have clear := (spared edge down (proper.input fires)).2
      rw [clear] at set
      cases set
  | consumes opened edge pressed asks =>
      have free : session.capture ≠ .captured := by
        rcases asks with ⟨idle, -⟩ | ⟨engaging, -⟩ <;> simp [*]
      refine .calm ⟨fun held => absurd held free, by simp, by simp [opened],
        fun _ _ => Or.inr free, fun held => absurd held free⟩ ?_
      rcases asks with ⟨-, rfl⟩ | ⟨-, rfl⟩
      · exact Or.inr (Or.inr (Or.inl ⟨rfl, by simp⟩))
      · exact Or.inr (Or.inl ⟨rfl, by simp⟩)
  | eats opened edge lifted eaten =>
      refine .calm ⟨by simp, by simp, by simp, ?_, ?_⟩ (Or.inl rfl)
      · intro other set
        rw [consumed_setConsumed] at set
        by_cases same : other = edge
        · simp [same] at set
        · exact Or.inl (by simpa [same] using set)
      · intro _ _ input down same
        have own : edge.input = input ∧ false = down := by
          cases edge <;> cases input <;> simp_all [Edge.input, Input.trigger]
        exact ⟨own.2.symm, edge, own.1, eaten⟩
  | engages opened engaging asked =>
      refine .calm ⟨fun _ => rfl, rfl, by simp [opened], ?_, by simp [engaging]⟩ (Or.inl rfl)
      intro edge set
      cases edge <;> exact Or.inl set
  | waits opened free spared asks =>
      refine .calm ⟨id, rfl, fun _ => rfl, fun _ set => Or.inl set, ?_⟩ ?_
      · rintro held - input down same
        refine absurd held (free ?_)
        rw [same]
        cases input <;> simp [Input.trigger, Trigger.event]
      · rcases asks with rfl | ⟨engaging, rfl⟩
        · exact Or.inl rfl
        · exact Or.inr (Or.inl ⟨rfl, by simp [engaging]⟩)

theorem reduce_reaction (session : Session) {trigger : Trigger} (proper : trigger.Proper) :
    Reaction session trigger (reduce session trigger).1 (reduce session trigger).2 :=
  (reduce_responds session trigger).reaction proper

/-! ## The loop around it -/

/-- What is left of `app` once it forwarded and then released everything. -/
structure Emptied (app : App) (forwards : List Happening) (after : App) : Prop where
  released : after.session.capture = .released
  consumed : ∀ edge : Edge, after.session.consumed edge = false
  outstanding : after.outstanding = .none
  paste : after.paste = .idle
  down : after.down = app.down
  undone : (∀ job, app.paste = .running job → job.outcome = none) →
    ∀ total, after.pasteLast = some (.done total) → app.pasteLast = some (.done total)
  log : ∃ reason, after.log = app.log ++ forwards ++ [.releaseAll reason]

/-- What the trigger forwards before it releases. -/
def Trigger.forwards (trigger : Trigger) (origin : Origin) : List Happening :=
  (trigger.event.map (Happening.forwarded origin)).toList

inductive Fed (app : App) (origin : Origin) (trigger : Trigger) : App → Prop where
  | calm (session : Session) (grab : Bool) (calm : Calm app.session trigger session) :
      Fed app origin trigger { app with session, grab }
  | passes {session : Session} {event : Event}
      (passes : Passes app.session trigger event session) :
      Fed app origin trigger
        { app with
          session
          outstanding := app.outstanding.record event
          log := app.log ++ [.forwarded origin event] }
  | emptied {after : App} (emptied : Emptied app (trigger.forwards origin) after) :
      Fed app origin trigger after

@[simp] theorem cancelPaste_paste (app : App) (reason : ReleaseReason) :
    (app.cancelPaste reason).paste = .idle := by
  unfold App.cancelPaste
  split <;> simp_all

theorem cancelPaste_frame (app : App) (reason : ReleaseReason) :
    (app.cancelPaste reason).session = app.session ∧ (app.cancelPaste reason).down = app.down ∧
      (app.cancelPaste reason).log = app.log := by
  unfold App.cancelPaste
  split <;> exact ⟨rfl, rfl, rfl⟩

/-- A paste cancelled under way is not done. -/
theorem cancelPaste_undone {app : App} (reason : ReleaseReason)
    (unfinished : ∀ job, app.paste = .running job → job.outcome = none) {total : Nat}
    (done : (app.cancelPaste reason).pasteLast = some (.done total)) :
    app.pasteLast = some (.done total) := by
  unfold App.cancelPaste at done
  cases paste : app.paste with
  | idle => simpa only [paste] using done
  | preparing text => simp [paste] at done
  | running job =>
      have still := unfinished job paste
      cases ending : endingFor reason <;> simp [paste, PasteJob.finish, still, ending] at done

/-- Performing a release, whatever answers are fed to. -/
theorem perform_leave (feed : Trigger → App → App) (answers : Answers) (origin : Origin)
    (reason : ReleaseReason) {exits : List Action} (asks : exits = [] ∨ exits = [.exit])
    (app : App) (released : app.session.capture = .released)
    (consumed : ∀ edge, app.session.consumed edge = false) :
    Emptied app []
      ((leaveCapture reason ++ exits).foldl (App.perform feed answers origin) app) := by
  obtain ⟨session, down, log⟩ := cancelPaste_frame app reason
  have whole : (leaveCapture reason ++ exits).foldl (App.perform feed answers origin) app =
      { app.cancelPaste reason with
        outstanding := .none
        log := app.log ++ [.releaseAll reason]
        grab := false } := by
    rcases asks with rfl | rfl <;> simp [leaveCapture, App.perform, Outstanding.clear, log]
  rw [whole]
  exact ⟨by simp [session, released], by simp [session, consumed], rfl, by simp, down,
    fun unfinished _ done => cancelPaste_undone reason unfinished done, reason, by simp⟩

/-- What the answer of an engage is fed back as. -/
def engageTrigger (engaged : Bool) : Trigger :=
  if engaged then .engageSucceeded else .engageDeferred

theorem reduce_engaged (session : Session) (engaged : Bool) :
    Calm session (engageTrigger engaged) (reduce session (engageTrigger engaged)).1 ∧
      (reduce session (engageTrigger engaged)).2 = [] := by
  have silent : (engageTrigger engaged).event = none := by cases engaged <;> rfl
  have input : ∀ (input : Input) (down : Bool), engageTrigger engaged ≠ input.trigger down := by
    intro input down
    cases engaged <;> cases input <;> simp [engageTrigger, Input.trigger]
  by_cases moves : session.closing = false ∧ session.capture = .engaging ∧ engaged = true
  · obtain ⟨opened, engaging, rfl⟩ := moves
    have moved : reduce session (engageTrigger true) =
        ({ session with capture := .captured, notice := none }, []) := by
      simp [reduce, reduceOpen, engageTrigger, opened, engaging]
    rw [moved]
    refine ⟨⟨fun _ => rfl, rfl, by simp [opened], ?_, by simp [engaging]⟩, rfl⟩
    intro edge set
    cases edge <;> exact Or.inl set
  · have still : reduce session (engageTrigger engaged) = (session, []) := by
      cases opened : session.closing <;> cases engaged <;>
        simp_all [reduce, reduceOpen, engageTrigger]
    rw [still]
    exact ⟨⟨id, rfl, fun _ => rfl, fun _ set => Or.inl set,
      fun _ _ input' down same => absurd same (input input' down)⟩, rfl⟩

/-- The answer of an engage asks for nothing. -/
theorem feed_engaged (answers : Answers) (origin : Origin) (app : App) (engaged : Bool) :
    App.feedDepth answers origin 1 (engageTrigger engaged) app =
      { app with session := (reduce app.session (engageTrigger engaged)).1 } := by
  rw [App.feedDepth, (reduce_engaged app.session engaged).2]
  rfl

theorem reduce_refused {session : Session} (opened : session.closing = false)
    (captured : session.capture = .captured) (error : SubmitError) :
    (reduce session (.submitFailed error)).1.capture = .released ∧
      (∀ edge, (reduce session (.submitFailed error)).1.consumed edge = false) ∧
      (reduce session (.submitFailed error)).2 = leaveCapture (reasonFor error) := by
  cases notice : noticeFor error <;>
    simp only [reduce, opened, reduceOpen, captured, release, notice, reduceCtorEq, if_false,
      Bool.false_eq_true, ne_eq, not_false_eq_true, if_true, true_and, and_true] <;>
    intro edge <;> cases edge <;> rfl

/-- A refused submission releases everything. -/
theorem feed_refused (answers : Answers) (origin : Origin) (error : SubmitError) (app : App)
    (opened : app.session.closing = false) (captured : app.session.capture = .captured) :
    Emptied app [] (App.feedDepth answers origin 1 (.submitFailed error) app) := by
  obtain ⟨released, consumed, asks⟩ := reduce_refused opened captured error
  rw [App.feedDepth, asks, ← List.append_nil (leaveCapture _)]
  have left := perform_leave (App.feedDepth answers origin 0) answers origin (reasonFor error)
    (Or.inl rfl) { app with session := (reduce app.session (.submitFailed error)).1 }
    released consumed
  exact ⟨left.released, left.consumed, left.outstanding, left.paste, left.down, left.undone,
    left.log⟩

theorem Calm.trans {session middle after : Session} {trigger later : Trigger}
    (first : Calm session trigger middle) (second : Calm middle later after) :
    Calm session trigger after := by
  refine ⟨fun held => second.kept (first.kept held), second.closing.trans first.closing, ?_, ?_,
    first.eaten⟩
  · intro closing
    exact (second.closed (first.closing.trans closing)).trans (first.closed closing)
  · intro edge set
    rcases second.consumed edge set with before | free
    · exact first.consumed edge before
    · exact Or.inr fun held => free (first.kept held)

/-- One trigger through the loop. -/
theorem feed_fed (answers : Answers) (origin : Origin) {trigger : Trigger}
    (proper : trigger.Proper) (app : App) :
    Fed app origin trigger (app.feed answers origin trigger) := by
  have reaction := reduce_reaction app.session proper
  unfold App.feed
  rw [App.feedDepth]
  generalize (reduce app.session trigger).1 = after at reaction ⊢
  generalize (reduce app.session trigger).2 = actions at reaction ⊢
  cases reaction with
  | calm calm asks =>
      rcases asks with rfl | ⟨rfl, free⟩ | ⟨rfl, free⟩ | rfl
      · exact Fed.calm after app.grab calm
      · have engaged := feed_engaged answers origin { app with session := after } answers.engage
        rw [engageTrigger] at engaged
        simp only [List.foldl_cons, List.foldl_nil, App.perform, engaged]
        exact Fed.calm _ app.grab (calm.trans (reduce_engaged after answers.engage).1)
      · have engaged := fun grab => feed_engaged answers origin
          { app with session := after, grab } answers.engage
        simp only [engageTrigger] at engaged
        simp only [beginCapture, List.foldl_cons, List.foldl_nil, App.perform]
        by_cases granted : (decide (app.pointer = .relative) && answers.grab) = true
        · rw [if_pos granted, engaged true]
          exact Fed.calm _ true (calm.trans (reduce_engaged after answers.engage).1)
        · rw [if_neg granted, engaged app.grab]
          exact Fed.calm _ app.grab (calm.trans (reduce_engaged after answers.engage).1)
      · exact Fed.calm after app.grab calm
  | passes passes =>
      rename_i event
      simp only [List.foldl_cons, List.foldl_nil, App.perform]
      cases refusal : answers.submit with
      | none => exact Fed.passes passes
      | some error =>
          have left := feed_refused answers origin error
            { app with
              session := after
              outstanding := app.outstanding.record event
              log := app.log ++ [.forwarded origin event] }
            (passes.closing.trans passes.opened) passes.still
          refine Fed.emptied
            ⟨left.released, left.consumed, left.outstanding, left.paste, left.down, left.undone,
              ?_⟩
          simpa [Trigger.forwards, passes.fires] using left.log
  | leaves leaves asks =>
      rename_i reason exits
      have left := perform_leave (App.feedDepth answers origin 1) answers origin reason asks
        { app with session := after } leaves.released leaves.consumed
      refine Fed.emptied ⟨left.released, left.consumed, left.outstanding, left.paste, left.down,
        left.undone, ?_⟩
      simpa [Trigger.forwards, leaves.silent] using left.log

/-! ## Two levels are all -/

theorem answer_asks (session : Session) {trigger : Trigger}
    (answer : (∃ engaged, trigger = engageTrigger engaged) ∨
      ∃ error, trigger = .submitFailed error) :
    (reduce session trigger).2 = [] ∨
      ∃ reason, (reduce session trigger).2 = leaveCapture reason := by
  rcases answer with ⟨engaged, rfl⟩ | ⟨error, rfl⟩
  · exact Or.inl (reduce_engaged session engaged).2
  · by_cases moves : session.closing = false ∧ session.capture ≠ .released
    · obtain ⟨opened, busy⟩ := moves
      refine Or.inr ⟨reasonFor error, ?_⟩
      cases notice : noticeFor error <;>
        simp [reduce, opened, reduceOpen, busy, release, notice]
    · left
      cases opened : session.closing <;> simp_all [reduce, reduceOpen]

theorem feedDepth_answer (answers : Answers) (origin : Origin) (depth : Nat) {trigger : Trigger}
    (answer : (∃ engaged, trigger = engageTrigger engaged) ∨
      ∃ error, trigger = .submitFailed error) (app : App) :
    App.feedDepth answers origin (depth + 1) trigger app =
      App.feedDepth answers origin 1 trigger app := by
  rw [App.feedDepth, App.feedDepth]
  rcases answer_asks app.session answer with silent | ⟨reason, leaves⟩
  · rw [silent]
    rfl
  · rw [leaves]
    rfl

/-- However deep feeding may go, it is what two levels give. -/
theorem feedDepth_eq_feed (answers : Answers) (origin : Origin) (depth : Nat) (trigger : Trigger)
    (app : App) :
    App.feedDepth answers origin (depth + 2) trigger app = app.feed answers origin trigger := by
  have same : App.perform (App.feedDepth answers origin (depth + 1)) answers origin =
      App.perform (App.feedDepth answers origin 1) answers origin := by
    funext app action
    cases action with
    | tryEngage =>
        exact feedDepth_answer answers origin depth (Or.inl ⟨answers.engage, rfl⟩) app
    | forward event =>
        cases refusal : answers.submit with
        | none => simp only [App.perform, refusal]
        | some error =>
            simp only [App.perform, refusal]
            exact feedDepth_answer answers origin depth (Or.inr ⟨error, rfl⟩) _
    | _ => rfl
  rw [App.feed, App.feedDepth, App.feedDepth, same]

end NanoKvm.Viewer
