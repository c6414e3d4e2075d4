import NanoKvm.Viewer.Menu

/-!
# What a menu keeps from the target

While the chrome can be reached and a popover or modal is open, or the pointer
is over the chrome, the routing keeps host input from the target.  Every window
event asks it.  Raw device motion, which is the pointer in relative mode, does
not.  A `CursorMoved` that crosses the edge of the chrome is a `flip` before it
is a `cursor`: the hit test comes first.
-/

set_option autoImplicit false

namespace NanoKvm.Viewer

open NanoKvm.Proto
open NanoKvm.Lib
open NanoKvm.Input (Event)

/-- The host's input and the notifications of its window system; neither what the
chrome asks for nor the clock of a paste. -/
def Occurrence.fromHost : Occurrence → Bool
  | .key _ _ _ _ _ | .button _ _ | .cursor _ _ | .wheel _ | .deviceMotion _ _ | .control _ => true
  | .flip _ _ _ _ _ | .pasteCommand _ | .advancePaste _ _ => false

def MenuLabel.fromHost : MenuLabel → Bool
  | .event label => label.occurrence.fromHost
  | .sendShortcut _ _ => false

def Happening.submitted : Happening → Option Event
  | .forwarded _ event => some event
  | _ => none

/-- What was submitted to the target between two states of the loop. -/
def submitted (before after : App) : List Event :=
  (after.log.drop before.log.length).filterMap Happening.submitted

def App.menuOpen (app : App) : Bool := app.popoverOpen || app.modalOpen

/-- The chrome can be reached, and the host is using it. -/
def App.atChrome (app : App) : Bool :=
  !app.routeInputs.chromeUnreachable && (app.pointerOverChrome || app.menuOpen)

/-- What may pass: of the pointer, and under an open menu of the keyboard, only
the releases of what the target holds. -/
def App.Passable (app : App) : Event → Prop
  | .key key down =>
      app.menuOpen = true → down = false ∧ app.outstanding.holdsKey key = true
  | .button mask down => down = false ∧ app.outstanding.holdsButton mask = true
  | .pointerAbs _ _ | .pointerRel _ _ | .wheel _ => False

/-- The host submits nothing else while it uses the chrome. -/
def Shielded (label : MenuLabel) (app : App) : Prop :=
  label.fromHost = true → app.atChrome = true →
    ∀ after, menuStep label app = some after → ∀ event ∈ submitted app after, app.Passable event

/-- Raw motion in relative mode, captured, with the lock not in force and the chrome
in use: the one event that does not ask where it goes. -/
def exposed (label : MenuLabel) (app : App) : Bool :=
  match label with
  | .event ⟨.deviceMotion _ _, _⟩ =>
      app.session.capture = .captured && app.pointer = .relative && app.atChrome
  | _ => false

/-! ## What a trigger submits -/

section Submitted
variable {app after : App} {answers : Answers} {origin : Origin} {trigger : Trigger}

/-- The log only grew, by nothing but `ok` submissions and what is no submission. -/
def Submits (ok : Event → Prop) (app after : App) : Prop :=
  ∃ chunk, after.log = app.log ++ chunk ∧
    ∀ event ∈ chunk.filterMap Happening.submitted, ok event

variable {ok : Event → Prop}

theorem Submits.submitted (submits : Submits ok app after) :
    ∀ event ∈ submitted app after, ok event := by
  obtain ⟨chunk, grown, fine⟩ := submits
  unfold Viewer.submitted
  rw [grown, List.drop_left]
  exact fine

theorem Submits.same (same : after.log = app.log) : Submits ok app after :=
  ⟨[], by rw [same, List.append_nil], nofun⟩

theorem Submits.edge {physical : Physical} {pressed : Bool}
    (submits : Submits ok (app.edge physical pressed) after) : Submits ok app after := by
  obtain ⟨chunk, grown, fine⟩ := submits
  exact ⟨.edge physical pressed :: chunk, by rw [grown]; exact List.append_assoc _ _ _, fine⟩

theorem Fed.submits (fed : Fed app origin trigger after)
    (fine : ∀ event, trigger.event = some event → ok event) : Submits ok app after := by
  cases fed with
  | calm session grab calm => exact .same rfl
  | passes passes =>
      refine ⟨_, rfl, ?_⟩
      rintro event (_ | ⟨_, ⟨⟩⟩)
      exact fine _ passes.fires
  | emptied emptied =>
      obtain ⟨reason, log⟩ := emptied.log
      refine ⟨trigger.forwards origin ++ [.releaseAll reason], by rw [log, List.append_assoc], ?_⟩
      intro event member
      unfold Trigger.forwards at member
      cases fires : trigger.event with
      | none => simp [fires, Happening.submitted] at member
      | some fired =>
          simp only [fires, Option.map_some, Option.toList_some, List.cons_append,
            List.nil_append, List.filterMap_cons, Happening.submitted, List.filterMap_nil,
            List.mem_singleton] at member
          rw [member]
          exact fine fired fires

theorem feed_submits (answers : Answers) (origin : Origin) (proper : trigger.Proper) (app : App)
    (fine : ∀ event, trigger.event = some event → ok event) :
    Submits ok app (app.feed answers origin trigger) :=
  (feed_fed answers origin proper app).submits fine

/-- A motion reaches the producer whenever the session is captured. -/
theorem feed_motion {event : Event} (captured : app.session.capture = .captured)
    (opened : app.session.closing = false) :
    ∃ rest, (app.feed answers origin (.motion event)).log =
      app.log ++ .forwarded origin event :: rest := by
  have fires : reduce app.session (.motion event) = (app.session, [.forward event]) := by
    simp [reduce, reduceOpen, plainInput, opened, captured]
  unfold App.feed
  rw [App.feedDepth, fires]
  simp only [List.foldl_cons, List.foldl_nil, App.perform]
  cases refusal : answers.submit with
  | none => exact ⟨[], rfl⟩
  | some error =>
      have left := feed_refused answers origin error
        { app with
          outstanding := app.outstanding.record event
          log := app.log ++ [.forwarded origin event] } opened captured
      obtain ⟨reason, log⟩ := left.log
      exact ⟨[.releaseAll reason], by simpa using log⟩

/-- And no motion does while it is not. -/
theorem motion_free {event : Event} (free : app.session.capture ≠ .captured) :
    (app.feed answers origin (.motion event)).log = app.log := by
  have asks : (reduce app.session (.motion event)).1 = app.session ∧
      ((reduce app.session (.motion event)).2 = [] ∨
        (reduce app.session (.motion event)).2 = [.tryEngage]) := by
    cases closing : app.session.closing <;> cases capture : app.session.capture <;>
      simp_all [reduce, reduceOpen, plainInput]
  unfold App.feed
  rw [App.feedDepth, asks.1]
  rcases asks.2 with none | engage
  · rw [none]
    rfl
  · have engaged := feed_engaged answers origin app answers.engage
    rw [engageTrigger] at engaged
    simp only [engage, List.foldl_cons, List.foldl_nil, App.perform, engaged]

end Submitted

/-! ## What the routing lets through -/

section Routing
variable {app : App}

theorem routeKey_shields {key : HidKey} {down : Bool} (used : app.atChrome = true)
    (target : routeKey app.routeInputs (.forward key down) = .target) :
    app.Passable (.key key down) := by
  intro opened
  have reachable : app.routeInputs.chromeUnreachable = false := by
    unfold App.atChrome at used
    simp only [Bool.and_eq_true, Bool.not_eq_true'] at used
    exact used.1
  have shown : (app.routeInputs.popoverOpen || app.routeInputs.modalOpen) = true := opened
  unfold routeKey at target
  rw [reachable, if_pos shown] at target
  dsimp only at target
  split at target
  · rename_i owned
    simp only [Bool.and_eq_true, Bool.not_eq_true'] at owned
    exact owned.1
  · split at target <;> simp at target

theorem routePointer_shields {kind : PointerKind} (used : app.atChrome = true)
    (target : routePointer app.routeInputs kind = .target) :
    app.routeInputs.ownedUp kind = true := by
  by_contra free
  unfold routePointer at target
  rw [if_neg free, if_pos] at target
  · cases target
  · unfold App.atChrome App.menuOpen at used
    rw [← Bool.or_assoc] at used
    exact used

theorem keyboardInput_shields (used : app.atChrome = true) (answers : Answers)
    (code : KeyCode) (pressed repeated shift : Bool) (clipboard : Except String Unit) :
    Submits app.Passable app
      (app.keyboardInput answers code pressed repeated shift clipboard) := by
  unfold App.keyboardInput
  dsimp only
  generalize resolvePasteChord (mapKey code pressed repeated shift) app.paste.isActive = action
  cases sink : routeKey app.routeInputs action with
  | chrome => exact .same rfl
  | dropped => exact .same rfl
  | target =>
      cases action with
      | forward key down =>
          refine feed_submits _ _ (trigger_proper (.key key) down) _ fun event fires => ?_
          cases fires
          exact routeKey_shields used sink
      | release =>
          have proper : Trigger.releaseKey.Proper := trivial
          exact feed_submits answers .other proper app nofun
      | paste => exact .same (startPaste_log app clipboard)
      | swallowed => exact .same rfl
      | unmapped => exact .same rfl

theorem mouseInput_shields (used : app.atChrome = true) (answers : Answers)
    (which : MouseButton) (pressed : Bool) :
    Submits app.Passable app (app.mouseInput answers which pressed) := by
  unfold App.mouseInput
  dsimp only
  generalize (mapButton which).getD 0#8 = mask
  cases sink : routePointer app.routeInputs (.button mask pressed) with
  | chrome => exact .same rfl
  | dropped => exact .same rfl
  | target =>
      have owned := routePointer_shields used sink
      dsimp only
      split
      · refine feed_submits _ _ (trigger_proper (.button mask) pressed) _ fun event fires => ?_
        cases fires
        cases pressed with
        | false => exact ⟨rfl, owned⟩
        | true => cases owned
      · exact .same rfl

/-- Neither motion nor the wheel is ever owed. -/
theorem pointerMoved_shields (used : app.atChrome = true) (answers : Answers)
    {kind : PointerKind} (unowned : app.routeInputs.ownedUp kind = false) (event : Event) :
    Submits app.Passable app (app.pointerMoved answers kind event) := by
  unfold App.pointerMoved
  cases sink : routePointer app.routeInputs kind with
  | chrome => exact .same rfl
  | dropped => exact .same rfl
  | target => simp [routePointer_shields used sink] at unowned

end Routing

/-! ## The one event that does not ask -/

section Exposed
variable {app after : App} {label : MenuLabel}

/-- Every other host event is routed. -/
theorem unexposed_shields (host : label.fromHost = true) (used : app.atChrome = true)
    (covered : exposed label app = false) (stepped : menuStep label app = some after) :
    Submits app.Passable app after := by
  cases label with
  | sendShortcut builtin answers => cases host
  | event label =>
      obtain ⟨occurrence, answers⟩ := label
      change Viewer.step ⟨occurrence, answers⟩ app = some after at stepped
      unfold Viewer.step at stepped
      split at stepped
      swap
      · cases stepped
      rename_i allowed
      obtain rfl := Option.some.inj stepped
      cases occurrence with
      | key code pressed repeated shift clipboard =>
          cases repeated with
          | true => exact keyboardInput_shields used answers code pressed true shift clipboard
          | false =>
              have edge : (app.edge (.key code) pressed).atChrome = true := used
              exact .edge (keyboardInput_shields edge answers code pressed false shift clipboard)
      | button which pressed =>
          have edge : (app.edge (.button which) pressed).atChrome = true := used
          exact .edge (mouseInput_shields edge answers which pressed)
      | cursor x y =>
          dsimp only [App.handle]
          split
          · exact pointerMoved_shields used answers rfl _
          · exact .same rfl
      | wheel delta => exact pointerMoved_shields used answers rfl _
      | deviceMotion dx dy =>
          simp only [exposed, used, Bool.and_true, Bool.and_eq_false_iff,
            decide_eq_false_iff_not] at covered
          dsimp only [App.handle]
          split
          · rename_i relative
            have free := covered.resolve_right (absurd relative)
            exact .same (motion_free free)
          · exact .same rfl
      | control trigger =>
          have silent := control_silent (by simpa [App.allows] using allowed)
          refine feed_submits _ _ ?_ _ fun event fires => ?_
          · cases trigger <;> trivial
          · rw [silent] at fires
            cases fires
      | flip pointer popoverOpen modalOpen pointerOverChrome grab => cases host
      | pasteCommand clipboard => cases host
      | advancePaste polled due => cases host

/-- Exposed motion is a host event, and the loop takes it. -/
theorem exposed_moves (uncovered : exposed label app = true) :
    label.fromHost = true ∧ app.atChrome = true ∧ ∃ after, menuStep label app = some after := by
  unfold exposed at uncovered
  split at uncovered
  · simp only [Bool.and_eq_true] at uncovered
    exact ⟨rfl, uncovered.2, _, rfl⟩
  · cases uncovered

/-- Exposed motion reaches the target. -/
theorem exposed_submits (owns : Owns none app) (uncovered : exposed label app = true)
    (stepped : menuStep label app = some after) :
    ∃ dx dy, Event.pointerRel dx dy ∈ submitted app after := by
  unfold exposed at uncovered
  split at uncovered
  swap
  · cases uncovered
  rename_i dx dy answers
  simp only [Bool.and_eq_true, decide_eq_true_eq] at uncovered
  obtain ⟨⟨captured, relative⟩, -⟩ := uncovered
  have opened : app.session.closing = false := by
    by_contra closing
    simp [owns.closed (by simpa using closing)] at captured
  have fed : after = app.feed answers .other (.motion (.pointerRel dx dy)) := by
    have handled := (Option.some.inj stepped).symm
    rwa [App.handle, if_pos relative] at handled
  have grown : ∃ rest, (app.feed answers .other (.motion (.pointerRel dx dy))).log =
      app.log ++ .forwarded .other (.pointerRel dx dy) :: rest := feed_motion captured opened
  obtain ⟨rest, grown⟩ := grown
  refine ⟨dx, dy, ?_⟩
  unfold Viewer.submitted
  rw [fed, grown, List.drop_left]
  exact List.mem_cons_self

theorem shielded_iff (owns : Owns none app) :
    Shielded label app ↔ exposed label app = false := by
  constructor
  · intro shielded
    by_contra uncovered
    have uncovered : exposed label app = true := by simpa using uncovered
    obtain ⟨host, used, after, stepped⟩ := exposed_moves uncovered
    obtain ⟨dx, dy, member⟩ := exposed_submits owns uncovered stepped
    exact shielded host used after stepped _ member
  · intro covered host used after stepped
    exact (unexposed_shields host used covered stepped).submitted

end Exposed

/-- A run shields the target from the host's use of the chrome exactly as long as
no raw motion comes in relative mode, captured, with the lock not in force. -/
theorem run_shielded_iff {labels : List MenuLabel} {app : App} (started : start app) :
    (∀ first label rest reached, labels = first ++ label :: rest →
      run menuStep first app = some reached → Shielded label reached) ↔
      Guarded menuStep (fun label app => exposed label app = false) labels app := by
  rw [guarded_iff]
  have each : ∀ (first : List MenuLabel) label reached, run menuStep first app = some reached →
      (Shielded label reached ↔ exposed label reached = false) :=
    fun first label reached success => shielded_iff (menu_owns ⟨app, first, started, success⟩)
  constructor
  · exact fun shielded first label rest reached shape success =>
      (each first label reached success).mp (shielded first label rest reached shape success)
  · exact fun covered first label rest reached shape success =>
      (each first label reached success).mpr (covered first label rest reached shape success)

/-- Every request is granted, but for the pointer lock. -/
def unlocked : Answers := ⟨true, none, false⟩

/-- Relative mode: a click engages, the compositor refuses the lock, and the
keyboard popover is opened. -/
def menuUnlocked : List MenuLabel :=
  [.event ⟨.button .left true, unlocked⟩, .event ⟨.button .left false, unlocked⟩,
    .event ⟨.flip .relative true false true false, unlocked⟩]

def rawMotion : MenuLabel := .event ⟨.deviceMotion 5 0, unlocked⟩

def unlockedStart : App := App.new .relative .us

def unlockedApp : App := (run menuStep menuUnlocked unlockedStart).getD unlockedStart

def movedApp : App := (menuStep rawMotion unlockedApp).getD unlockedApp

theorem run_shielded_iff_unlocked :
    Guarded menuStep (fun label app => exposed label app = false) menuUnlocked unlockedStart ∧
      ∀ first label rest reached, menuUnlocked = first ++ label :: rest →
        run menuStep first unlockedStart = some reached → Shielded label reached := by
  have covered : Guarded menuStep (fun label app => exposed label app = false) menuUnlocked
      unlockedStart := by decide
  exact ⟨covered, (run_shielded_iff ⟨.relative, .us, rfl⟩).mpr covered⟩

/-- Under the open popover the host's motion moves the target's pointer. -/
theorem raw_motion_under_menu :
    run menuStep menuUnlocked unlockedStart = some unlockedApp ∧
      unlockedApp.routeInputs.chromeUnreachable = false ∧ unlockedApp.popoverOpen = true ∧
      menuStep rawMotion unlockedApp = some movedApp ∧
      submitted unlockedApp movedApp = [.pointerRel 5 0] ∧
      ¬ ∀ first label rest reached, menuUnlocked ++ [rawMotion] = first ++ label :: rest →
        run menuStep first unlockedStart = some reached → Shielded label reached := by
  have opened : (run menuStep menuUnlocked unlockedStart).isSome = true := rfl
  have moves : (menuStep rawMotion unlockedApp).isSome = true := rfl
  have reached : run menuStep menuUnlocked unlockedStart = some unlockedApp :=
    (Option.some_get opened).symm.trans (by rw [unlockedApp, Option.get_eq_getD])
  have moved : menuStep rawMotion unlockedApp = some movedApp :=
    (Option.some_get moves).symm.trans (by rw [movedApp, Option.get_eq_getD])
  have sent : submitted unlockedApp movedApp = [.pointerRel 5 0] := rfl
  refine ⟨reached, rfl, rfl, moved, sent, fun shielded => ?_⟩
  have used : unlockedApp.atChrome = true := rfl
  have passable := shielded menuUnlocked rawMotion [] unlockedApp rfl reached rfl used movedApp
    moved (.pointerRel 5 0) (by rw [sent]; exact List.mem_cons_self)
  exact passable

end NanoKvm.Viewer
