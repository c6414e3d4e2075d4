import NanoKvm.Lib.Transition
import NanoKvm.Viewer.Inhibit

/-!
# Who holds the inhibitor

Between two actions the compositor's inhibitors are those the event loop holds, and
what is left to perform brings them in line with the session.  The dispatch thread
moves nothing that this is about; it is over before an orderly exit closes the display.
-/

set_option autoImplicit false

namespace NanoKvm.Viewer.Inhibit

open NanoKvm.Lib

/-! ## What is left to perform -/

/-- Whether there is an inhibitor once the action is performed. -/
def armedBy (armed : Bool) : Action → Bool
  | .armInhibitor => true
  | .disarmInhibitor => false
  | _ => armed

/-- The answer to these is fed back. -/
def asks : Action → Bool
  | .tryEngage | .forward _ => true
  | _ => false

/-- The actions bring the host in line with the session. -/
structure Settles (session after : Session) (actions : List Action) : Prop where
  armed : actions.foldl armedBy (decide (session.capture ≠ .released)) =
    decide (after.capture ≠ .released)
  last : ∀ action ∈ actions.dropLast, asks action = false
  freed : after.capture = .released → session.capture = .released ∨ .releasePointer ∈ actions
  calm : after.capture = .released → .grabPointer ∉ actions

theorem response_settles {session after : Session} {trigger : Trigger} {actions : List Action}
    (response : Response session trigger after actions) : Settles session after actions := by
  cases response with
  | closed closing exits => rcases exits with rfl | rfl <;> exact ⟨rfl, by simp, Or.inl, by simp⟩
  | closes opened asked =>
      exact ⟨rfl, by simp [leaveCapture, asks], by simp [leaveCapture], by simp [leaveCapture]⟩
  | leaves opened busy reason why notice =>
      exact ⟨rfl, by simp [leaveCapture, asks], by simp [leaveCapture], by simp [leaveCapture]⟩
  | presses opened captured edge pressed =>
      refine ⟨?_, by simp, ?_, by simp⟩
      · simp [armedBy]
      · simp [captured]
  | passes opened captured event fires spared => exact ⟨rfl, by simp, Or.inl, by simp⟩
  | consumes opened edge pressed wants =>
      rcases wants with ⟨idle, rfl⟩ | ⟨engaging, rfl⟩
      · exact ⟨rfl, by simp [beginCapture, asks], by simp, by simp⟩
      · exact ⟨by simp [engaging, armedBy], by simp, by simp, by simp⟩
  | eats opened edge lifted eaten =>
      exact ⟨by simp, by simp, by simp, by simp⟩
  | engages opened engaging asked =>
      exact ⟨by simp [engaging], by simp, by simp, by simp⟩
  | waits opened free spared wants =>
      rcases wants with rfl | ⟨engaging, rfl⟩
      · exact ⟨rfl, by simp, Or.inl, by simp⟩
      · exact ⟨rfl, by simp, Or.inl, by simp⟩

theorem reduce_settles (session : Session) (trigger : Trigger) :
    Settles session (reduce session trigger).1 (reduce session trigger).2 :=
  response_settles (reduce_responds session trigger)

/-- Only input begins a capture. -/
theorem reduce_released {session : Session} {trigger : Trigger} (silent : trigger.event = none)
    (released : session.capture = .released) :
    (reduce session trigger).1.capture = .released := by
  have response := reduce_responds session trigger
  generalize (reduce session trigger).1 = after at response ⊢
  generalize (reduce session trigger).2 = actions at response
  cases response with
  | closed | passes | waits => exact released
  | closes | leaves => rfl
  | presses opened captured edge pressed => simp [captured] at released
  | consumes opened edge pressed wants =>
      rw [pressed, trigger_event] at silent
      cases silent
  | eats => rw [setConsumed_capture]; exact released
  | engages opened engaging asked => simp [engaging] at released

theorem reduce_closing {session : Session} {trigger : Trigger}
    (kept : session.closing = true → session.capture = .released)
    (closing : (reduce session trigger).1.closing = true) :
    (reduce session trigger).1.capture = .released := by
  have response := reduce_responds session trigger
  generalize (reduce session trigger).1 = after at response closing ⊢
  generalize (reduce session trigger).2 = actions at response
  cases response with
  | closed shut exits => exact kept shut
  | closes | leaves => rfl
  | presses opened captured edge pressed => simp [opened] at closing
  | passes opened => simp [opened] at closing
  | consumes opened edge pressed wants => simp [opened] at closing
  | eats opened => simp [opened] at closing
  | engages opened => simp [opened] at closing
  | waits opened => simp [opened] at closing

/-! ## The event loop between two triggers -/

structure Desk.Due (desk : Desk) : Prop where
  armed : desk.inhibit.isSome = true → desk.agenda.foldl armedBy desk.held.isSome =
    decide (desk.session.capture ≠ .released)
  last : ∀ action ∈ desk.agenda.dropLast, asks action = false
  freed : desk.session.capture = .released → desk.grab = true → .releasePointer ∈ desk.agenda
  calm : desk.session.capture = .released → .grabPointer ∉ desk.agenda

theorem Desk.Due.feed {desk : Desk} (due : desk.Due) (settled : desk.agenda = [])
    (trigger : Trigger) : (desk.feed trigger).Due := by
  have settles := reduce_settles desk.session trigger
  have whole : (desk.feed trigger).agenda = (reduce desk.session trigger).2 := by
    rw [Desk.feed, settled, List.append_nil]
  refine ⟨?_, ?_, ?_, ?_⟩
  · intro there
    have before := due.armed there
    rw [settled, List.foldl_nil] at before
    rw [whole]
    change List.foldl armedBy desk.held.isSome _ = _
    rw [before]
    exact settles.armed
  · rw [whole]
    exact settles.last
  · intro released grabbed
    rw [whole]
    rcases settles.freed released with before | gives
    · have still := due.freed before grabbed
      rw [settled] at still
      cases still
    · exact gives
  · rw [whole]
    exact settles.calm

def Dispatch.Over (dispatch : Dispatch) : Prop := dispatch = .absent ∨ dispatch = .ended

/-- What holds between any two actions. -/
structure Desk.Kept (desk : Desk) : Prop where
  closing : desk.session.closing = true → desk.session.capture = .released
  unseen : desk.window = false →
    desk.session.capture = .released ∧ desk.inhibit = none ∧ desk.grab = false
  display : desk.display =
    decide (desk.stage = .running ∨ desk.stage = .exiting ∨ desk.stage = .exited)
  live : desk.display = true → desk.live = desk.held.toList
  dead : desk.display = false → desk.live = []
  torn : desk.tornDown = true → desk.inhibit = none ∧ desk.grab = false
  whole : desk.stage = .running → desk.tornDown = false
  tearing : desk.stage = .exiting ∨ desk.stage = .exited → desk.tornDown = true
  near : desk.display = true → ∀ inhibit, desk.inhibit = some inhibit → inhibit.displayGone = false
  gone : desk.stage = .abandoned →
    ∀ inhibit, desk.inhibit = some inhibit → inhibit.displayGone = true
  joined : desk.inhibit = none → desk.stage ≠ .exiting → desk.stage ≠ .dropping →
    desk.dispatch.Over
  dropped : desk.stage = .dropping → desk.tornDown = true
  done : desk.stage = .done → desk.tornDown = true
  spared : .eventLoop ∉ desk.fouls
  ran : desk.exitingRan = true → desk.tornDown = true
  finished : desk.exitingRan = true → desk.display = false → desk.dispatch.Over
  clean : desk.display = true ∨ desk.exitingRan = true → desk.fouls = []

structure Desk.Sound (desk : Desk) : Prop extends desk.Kept where
  due : desk.stage = .running → desk.Due
  settled : desk.stage ≠ .running → desk.agenda = []

section Steps
variable {desk : Desk}

theorem start_sound (pointer : PointerMode) : (Desk.start pointer).Sound where
  due := fun _ => ⟨nofun, nofun, nofun, nofun⟩
  settled := fun _ => rfl
  closing := nofun
  unseen := fun _ => ⟨rfl, rfl, rfl⟩
  display := rfl
  live := fun _ => rfl
  dead := fun _ => rfl
  torn := nofun
  whole := fun _ => rfl
  tearing := nofun
  near := nofun
  gone := nofun
  joined := fun _ _ _ => Or.inl rfl
  dropped := nofun
  done := nofun
  spared := nofun
  ran := nofun
  finished := nofun
  clean := fun _ => rfl

theorem Desk.Kept.shows (sound : desk.Kept) (running : desk.stage = .running) :
    desk.display = true := by
  rw [sound.display, running]
  rfl

theorem Desk.Kept.untorn (kept : desk.Kept) (running : desk.stage = .running) :
    desk.tornDown ≠ true := by
  rw [kept.whole running]
  nofun

/-- What the dispatch thread and the compositor move. -/
theorem Desk.Sound.aside (sound : desk.Sound) {dispatch : Dispatch} (active : Bool)
    (mail : List InhibitEvent) (queued : List (Nat × InhibitEvent)) (fouls : List Caller)
    (finished : desk.dispatch.Over → dispatch.Over)
    (spared : .eventLoop ∉ fouls)
    (clean : desk.display = true ∨ desk.exitingRan = true → fouls = []) :
    ({ desk with active, dispatch, mail, queued, fouls } : Desk).Sound :=
  { sound with
    due := fun running => { sound.due running with }
    joined := fun free near apart => finished (sound.joined free near apart)
    finished := fun ran dark => finished (sound.finished ran dark)
    spared
    clean }

/-- The dispatch thread uses the display. -/
theorem Desk.Sound.uses (sound : desk.Sound) (reading : desk.dispatch = .reading)
    (dispatch : Dispatch) (queued : List (Nat × InhibitEvent)) :
    ({ desk.calls .dispatchThread with dispatch, queued } : Desk).Sound := by
  refine sound.aside desk.active desk.mail queued (desk.calls .dispatchThread).fouls ?_ ?_ ?_
  · rw [reading]
    rintro (finished | finished) <;> cases finished
  · unfold Desk.calls
    dsimp only
    split
    · exact sound.spared
    · simpa using sound.spared
  · intro shown
    -- After an orderly exit the thread is over before the display is closed.
    have shows : desk.display = true := by
      rcases shown with shows | ran
      · exact shows
      by_contra dark
      have finished := sound.finished ran (eq_false_of_ne_true dark)
      rw [reading] at finished
      rcases finished with finished | finished <;> cases finished
    simp only [Desk.calls, shows, if_true]
    exact sound.clean shown

/-- The dispatch thread goes on. -/
theorem Desk.Sound.goes (sound : desk.Sound)
    (busy : desk.dispatch ≠ .absent ∧ desk.dispatch ≠ .ended) (dispatch : Dispatch)
    (active : Bool) (mail : List InhibitEvent) :
    ({ desk with dispatch, active, mail } : Desk).Sound :=
  sound.aside active mail desk.queued desk.fouls
    (fun finished => (finished.elim busy.1 busy.2).elim) sound.spared sound.clean

theorem Desk.Kept.fed (kept : desk.Kept) {trigger : Trigger}
    (heard : desk.window = true ∨ trigger.event = none) : (desk.feed trigger).Kept :=
  { kept with
    closing := reduce_closing kept.closing
    unseen := fun unseen => by
      obtain ⟨released, absent, free⟩ := kept.unseen unseen
      refine ⟨reduce_released ?_ released, absent, free⟩
      rcases heard with seen | silent
      · rw [show desk.window = false from unseen] at seen
        cases seen
      · exact silent }

theorem Desk.Kept.sound (kept : desk.Kept) (running : desk.stage = .running) (due : desk.Due) :
    desk.Sound :=
  { kept with
    due := fun _ => due
    settled := fun stopped => absurd running stopped }

/-- With its head taken off, the agenda is due from what the head leaves. -/
structure Desk.Rest (desk : Desk) (action : Action) : Prop where
  armed : desk.inhibit.isSome = true →
    desk.agenda.foldl armedBy (armedBy desk.held.isSome action) =
      decide (desk.session.capture ≠ .released)
  last : ∀ action ∈ desk.agenda.dropLast, asks action = false
  alone : asks action = true → desk.agenda = []
  freed : desk.session.capture = .released → desk.grab = true →
    action = .releasePointer ∨ .releasePointer ∈ desk.agenda
  calm : desk.session.capture = .released → action ≠ .grabPointer ∧ .grabPointer ∉ desk.agenda

theorem Desk.Due.rest {action : Action} {rest : List Action} (due : desk.Due)
    (next : desk.agenda = action :: rest) : ({ desk with agenda := rest } : Desk).Rest action := by
  obtain ⟨armed, last, freed, calm⟩ := due
  rw [next] at armed last freed calm
  refine ⟨armed, fun other inside => last other ?_, fun asking => ?_, ?_, ?_⟩
  · change other ∈ rest.dropLast at inside
    cases rest with
    | nil => cases inside
    | cons second rest => exact List.mem_cons_of_mem _ inside
  · change rest = []
    cases rest with
    | nil => rfl
    | cons second rest =>
        rw [last action List.mem_cons_self] at asking
        cases asking
  · intro released grabbed
    rcases List.mem_cons.mp (freed released grabbed) with here | later
    · exact Or.inl here.symm
    · exact Or.inr later
  · intro released
    have both := List.mem_cons.not.mp (calm released)
    rw [not_or] at both
    exact ⟨fun same => both.1 same.symm, both.2⟩

/-- An action that moves neither the inhibitor nor the pointer. -/
theorem Desk.Rest.due {action : Action} (rest : desk.Rest action)
    (same : armedBy desk.held.isSome action = desk.held.isSome)
    (other : action ≠ .releasePointer) : desk.Due where
  armed := by
    have armed := rest.armed
    rwa [same] at armed
  last := rest.last
  freed := fun released grabbed => (rest.freed released grabbed).resolve_left other
  calm := fun released => (rest.calm released).2

theorem Desk.Sound.popped {action : Action} {rest : List Action} (sound : desk.Sound)
    (next : desk.agenda = action :: rest) :
    desk.stage = .running ∧ ({ desk with agenda := rest } : Desk).Rest action := by
  have running : desk.stage = .running := by
    by_contra stopped
    rw [sound.settled stopped] at next
    cases next
  exact ⟨running, (sound.due running).rest next⟩

section Acts
variable (kept : desk.Kept) (running : desk.stage = .running)
include kept running

/-- One inhibitor in the place of another. -/
theorem Desk.Kept.swapped {inhibit : ShortcutInhibit} (there : desk.inhibit = some inhibit)
    (held : Option Nat) (active : Bool) (made : Nat) :
    ({ desk.calls .eventLoop with
        active
        made
        inhibit := some ⟨held, false⟩
        live := held.toList } : Desk).Kept := by
  have shows := kept.shows running
  have quiet : (desk.calls .eventLoop).fouls = desk.fouls := if_pos shows
  exact { kept with
    unseen := fun unseen => by
      have absent := (kept.unseen unseen).2.1
      rw [there] at absent
      cases absent
    live := fun _ => rfl
    dead := fun dark => absurd (shows.symm.trans dark) nofun
    torn := fun torn => absurd torn (kept.untorn running)
    near := fun _ other same => by
      cases same
      rfl
    gone := fun abandoned => absurd (running.symm.trans abandoned) nofun
    joined := nofun
    spared := by
      rw [quiet]
      exact kept.spared
    clean := fun shown => by
      rw [quiet]
      exact kept.clean shown }

theorem arm_sound (rest : desk.Rest .armInhibitor) : desk.arm.Sound := by
  have shows := kept.shows running
  unfold Desk.arm
  split
  · next absent =>
      refine kept.sound running { rest with armed := ?_, freed := ?_, calm := ?_ }
      · intro there
        rw [absent] at there
        cases there
      · exact fun released grabbed => (rest.freed released grabbed).resolve_left nofun
      · exact fun released => (rest.calm released).2
  next inhibit there =>
  have near := kept.near shows inhibit there
  obtain ⟨inhibitor, displayGone⟩ := inhibit
  cases near
  cases inhibitor with
  -- Arming twice changes nothing.
  | some id =>
      refine kept.sound running (rest.due ?_ nofun)
      rw [Desk.held, there]
      rfl
  | none =>
      have none_live : desk.live = [] := by
        rw [kept.live shows, Desk.held, there]
        rfl
      dsimp only
      rw [if_neg nofun, none_live, List.nil_append]
      exact (kept.swapped running there (some desk.made) desk.active (desk.made + 1)).sound running
        ⟨fun _ => rest.armed (by rw [there]; rfl), rest.last, fun released grabbed =>
          (rest.freed released grabbed).resolve_left nofun, fun released => (rest.calm released).2⟩

theorem disarm_sound (rest : desk.Rest .disarmInhibitor) : desk.disarm.Sound := by
  have shows := kept.shows running
  have freed : desk.session.capture = .released → desk.grab = true →
      .releasePointer ∈ desk.agenda :=
    fun released grabbed => (rest.freed released grabbed).resolve_left nofun
  have calm : desk.session.capture = .released → .grabPointer ∉ desk.agenda :=
    fun released => (rest.calm released).2
  unfold Desk.disarm
  split
  · next absent =>
      refine kept.sound running ⟨fun there => ?_, rest.last, freed, calm⟩
      rw [absent] at there
      cases there
  · next displayGone there =>
      refine kept.sound running ⟨fun present => ?_, rest.last, freed, calm⟩
      have armed := rest.armed present
      rwa [show desk.held = none by rw [Desk.held, there]; rfl]
  · next id displayGone there =>
      cases kept.near shows _ there
      have one : desk.live = [id] := by
        rw [kept.live shows, Desk.held, there]
        rfl
      dsimp only
      rw [if_neg nofun, one, List.erase_cons_head]
      exact (kept.swapped running there none false desk.made).sound running
        ⟨fun _ => rest.armed (by rw [there]; rfl), rest.last, freed, calm⟩

theorem Desk.Kept.grabbed (seen : desk.window = true) :
    ({ desk with grab := true } : Desk).Kept :=
  { kept with
    unseen := fun unseen => absurd (seen.symm.trans unseen) nofun
    torn := fun torn => absurd torn (kept.untorn running) }

theorem grabPointer_sound (busy : desk.session.capture ≠ .released) (due : desk.Due)
    (granted : Bool) : (desk.grabPointer granted).Sound := by
  unfold Desk.grabPointer
  split
  · next may =>
      rw [Bool.and_eq_true, Bool.and_eq_true] at may
      exact (kept.grabbed running may.1.2).sound running
        { due with freed := fun released => absurd released busy }
  · exact kept.sound running due

end Acts

theorem Desk.Kept.ungrabbed (kept : desk.Kept) : desk.ungrab.Kept ∧ desk.ungrab.grab = false := by
  unfold Desk.ungrab
  split
  · exact ⟨{ kept with
      unseen := fun unseen => ⟨(kept.unseen unseen).1, (kept.unseen unseen).2.1, rfl⟩
      torn := fun torn => ⟨(kept.torn torn).1, rfl⟩ }, rfl⟩
  · next unseen => exact ⟨kept, (kept.unseen (eq_false_of_ne_true unseen)).2.2⟩

theorem ungrab_eq (desk : Desk) : desk.ungrab = { desk with grab := desk.ungrab.grab } := by
  unfold Desk.ungrab
  split <;> rfl

theorem ungrab_sound (kept : desk.Kept) (running : desk.stage = .running)
    (armed : desk.inhibit.isSome = true → desk.agenda.foldl armedBy desk.held.isSome =
      decide (desk.session.capture ≠ .released))
    (last : ∀ action ∈ desk.agenda.dropLast, asks action = false)
    (calm : desk.session.capture = .released → .grabPointer ∉ desk.agenda) :
    desk.ungrab.Sound := by
  obtain ⟨after, free⟩ := kept.ungrabbed
  rw [ungrab_eq] at after ⊢
  refine after.sound running ⟨armed, last, fun _ grabbed => ?_, calm⟩
  rw [show desk.ungrab.grab = true from grabbed] at free
  cases free

theorem feed_sound (kept : desk.Kept) (running : desk.stage = .running) (due : desk.Due)
    (settled : desk.agenda = []) {trigger : Trigger}
    (heard : desk.window = true ∨ trigger.event = none) : (desk.feed trigger).Sound :=
  (kept.fed heard).sound running (due.feed settled trigger)

theorem perform_sound (kept : desk.Kept) (running : desk.stage = .running) {action : Action}
    (rest : desk.Rest action) (answer : Answer) : (desk.perform answer action).Sound := by
  cases action with
  | armInhibitor => exact arm_sound kept running rest
  | disarmInhibitor => exact disarm_sound kept running rest
  | grabPointer =>
      have busy : desk.session.capture ≠ .released := fun released => (rest.calm released).1 rfl
      exact grabPointer_sound kept running busy (rest.due rfl nofun) answer.granted
  | releasePointer =>
      exact ungrab_sound kept running rest.armed rest.last fun released => (rest.calm released).2
  | tryEngage =>
      refine feed_sound kept running (rest.due rfl nofun) (rest.alone rfl) (Or.inr ?_)
      split <;> rfl
  | releaseAll reason => exact kept.sound running (rest.due rfl nofun)
  | exit => exact kept.sound running (rest.due rfl nofun)
  | forward event =>
      unfold Desk.perform
      cases answer.submit with
      | none => exact kept.sound running (rest.due rfl nofun)
      | some error =>
          exact feed_sound kept running (rest.due rfl nofun) (rest.alone rfl) (Or.inr rfl)

/-! ## The way out -/

theorem disarm_leaves (kept : desk.Kept)
    (reached : desk.display = true ∨ desk.stage = .abandoned) :
    ∃ active, desk.disarm =
      { desk with
        active
        live := []
        inhibit := desk.inhibit.map fun inhibit => { inhibit with inhibitor := none } } := by
  have none_live : desk.held = none → desk.live = [] := by
    intro free
    cases shows : desk.display with
    | true =>
        rw [kept.live shows, free]
        rfl
    | false => exact kept.dead shows
  obtain ⟨session, agenda, pointer, window, grab, inhibit, tornDown, stage, active, stop, dispatch,
    mail, display, live, made, queued, exitingRan, fouls⟩ := desk
  cases inhibit with
  | none =>
      refine ⟨active, ?_⟩
      cases none_live rfl
      rfl
  | some inhibit =>
      obtain ⟨inhibitor, displayGone⟩ := inhibit
      cases inhibitor with
      | none =>
          refine ⟨active, ?_⟩
          cases none_live rfl
          rfl
      | some id =>
          refine ⟨false, ?_⟩
          rcases reached with shows | abandoned
          -- The object is the compositor's only one, and goes.
          · cases shows
            cases kept.near rfl _ rfl
            cases kept.live rfl
            simp [Desk.disarm, Desk.calls]
          -- The object went with the display, and nothing is asked of it.
          · cases abandoned
            cases kept.gone rfl _ rfl
            cases kept.display
            cases kept.dead rfl
            rfl

theorem disarm_torn (desk : Desk) : (({ desk with tornDown := true } : Desk).ungrab).disarm =
    { desk.ungrab.disarm with tornDown := true } := by
  obtain ⟨session, agenda, pointer, window, grab, inhibit, tornDown, stage, active, stop, dispatch,
    mail, display, live, made, queued, exitingRan, fouls⟩ := desk
  cases window <;> cases inhibit with
  | none => rfl
  | some inhibit =>
      obtain ⟨inhibitor, displayGone⟩ := inhibit
      cases inhibitor <;> cases displayGone <;> rfl

/-- Torn down, up to the join. -/
theorem teardown_leaves (kept : desk.Kept) (fresh : desk.tornDown = false)
    (reached : desk.display = true ∨ desk.stage = .abandoned) (joining finished : Stage) :
    ∃ active, desk.teardown joining finished =
      { desk with
        active
        tornDown := true
        grab := false
        live := []
        inhibit := none
        stop := desk.inhibit.isSome || desk.stop
        stage := if desk.inhibit.isSome then joining else finished } := by
  have free : desk.ungrab = { desk with grab := false } := by
    rw [ungrab_eq, kept.ungrabbed.2]
  obtain ⟨active, disarmed⟩ := disarm_leaves kept.ungrabbed.1 (by rw [free]; exact reached)
  refine ⟨active, ?_⟩
  unfold Desk.teardown
  rw [fresh, if_neg nofun]
  dsimp only
  rw [disarm_torn, disarmed, free]
  cases desk.inhibit <;> rfl

/-! ## Every step -/

theorem resumed_sound (sound : desk.Sound) (running : desk.stage = .running)
    (settled : desk.agenda = []) (unseen : desk.window = false) :
    ({ desk with window := true } : Desk).Sound ∧
      ({ desk with
          window := true
          inhibit := some ⟨none, false⟩
          dispatch := .looking } : Desk).Sound := by
  obtain ⟨released, absent, free⟩ := sound.unseen unseen
  have due := sound.due running
  have armed : desk.agenda.foldl armedBy false = decide (desk.session.capture ≠ .released) := by
    rw [settled, released]
    rfl
  refine ⟨{ sound with due := fun _ => { due with }, unseen := nofun },
    { sound with
      due := fun _ => ⟨fun _ => armed, due.last, due.freed, due.calm⟩
      unseen := nofun
      live := fun shows => ?_
      torn := fun torn => absurd torn (sound.untorn running)
      near := fun _ inhibit same => ?_
      gone := fun abandoned => absurd (running.symm.trans abandoned) nofun
      joined := nofun
      finished := fun ran => absurd (sound.ran ran) (sound.untorn running) }⟩
  · change desk.live = []
    rw [sound.live shows, Desk.held, absent]
    rfl
  · cases same
    rfl

theorem setMouseMode_sound (sound : desk.Sound) (running : desk.stage = .running)
    (mode : PointerMode) (granted : Bool) : (desk.setMouseMode mode granted).Sound := by
  have kept : ({ desk with pointer := mode } : Desk).Kept := { sound.toKept with }
  have due : ({ desk with pointer := mode } : Desk).Due := { sound.due running with }
  unfold Desk.setMouseMode
  dsimp only
  split
  · next captured =>
      have busy : desk.session.capture ≠ .released := by rw [captured]; nofun
      cases mode with
      | relative => exact grabPointer_sound kept running busy due granted
      | absolute => exact ungrab_sound kept running due.armed due.last due.calm
  · exact kept.sound running due

/-- Torn down, with the dispatch thread over or still to be joined. -/
theorem torn_sound (kept : desk.Kept) (settled : desk.agenda = []) (stage : Stage)
    (shows : desk.display = decide (stage = .exiting ∨ stage = .exited))
    (past : stage ≠ .running ∧ stage ≠ .abandoned)
    (finished : stage ≠ .exiting → stage ≠ .dropping → desk.dispatch.Over) (active stop : Bool)
    {exitingRan : Bool}
    (ran : exitingRan = true → desk.display = true ∨ desk.exitingRan = true) :
    ({ desk with
        active
        exitingRan
        tornDown := true
        grab := false
        live := []
        inhibit := none
        stop
        stage } : Desk).Sound :=
  { kept with
    due := fun running => absurd running past.1
    settled := fun _ => settled
    unseen := fun unseen => ⟨(kept.unseen unseen).1, rfl, rfl⟩
    display := by
      rw [shows]
      simp [past.1]
    live := fun _ => rfl
    dead := fun _ => rfl
    torn := fun _ => ⟨rfl, rfl⟩
    whole := fun running => absurd running past.1
    tearing := fun _ => rfl
    near := nofun
    gone := fun abandoned => absurd abandoned past.2
    joined := fun _ => finished
    dropped := fun _ => rfl
    done := fun _ => rfl
    ran := fun _ => rfl
    finished := fun now dark => (ran now).elim (fun shows => absurd (dark.symm.trans shows) nofun)
      fun before => kept.finished before dark
    clean := fun shown => kept.clean (shown.elim Or.inl ran) }

theorem exiting_sound (sound : desk.Sound) (running : desk.stage = .running)
    (settled : desk.agenda = []) :
    ({ desk.teardown .exiting .exited with exitingRan := true } : Desk).Sound := by
  have shows := sound.shows running
  obtain ⟨active, torn⟩ :=
    teardown_leaves sound.toKept (sound.whole running) (Or.inl shows) .exiting .exited
  rw [torn]
  cases there : desk.inhibit with
  | none =>
      exact torn_sound sound.toKept settled .exited shows ⟨nofun, nofun⟩
        (fun _ _ => sound.joined there (by rw [running]; nofun) (by rw [running]; nofun)) _ _
        fun _ => Or.inl shows
  | some inhibit =>
      exact torn_sound sound.toKept settled .exiting shows ⟨nofun, nofun⟩
        (fun apart => absurd rfl apart) _ _ fun _ => Or.inl shows

theorem teardown_sound (sound : desk.Sound) (abandoned : desk.stage = .abandoned) :
    (desk.teardown .dropping .done).Sound := by
  have dark : desk.display = false := by
    rw [sound.display, abandoned]
    rfl
  have settled : desk.agenda = [] := sound.settled (by rw [abandoned]; nofun)
  have joined : desk.inhibit = none → desk.dispatch.Over := fun absent =>
    sound.joined absent (by rw [abandoned]; nofun) (by rw [abandoned]; nofun)
  cases fresh : desk.tornDown with
  | true =>
      obtain ⟨absent, free⟩ := sound.torn fresh
      unfold Desk.teardown
      rw [if_pos fresh]
      exact { sound with
        due := nofun
        settled := fun _ => settled
        display := dark
        whole := nofun
        tearing := fun _ => fresh
        gone := nofun
        joined := fun _ _ _ => joined absent
        dropped := nofun
        done := fun _ => fresh }
  | false =>
      obtain ⟨active, torn⟩ :=
        teardown_leaves sound.toKept fresh (Or.inr abandoned) .dropping .done
      rw [torn]
      cases there : desk.inhibit with
      | none =>
          exact torn_sound sound.toKept settled .done dark ⟨nofun, nofun⟩
            (fun _ _ => joined there) _ _ Or.inr
      | some inhibit =>
          exact torn_sound sound.toKept settled .dropping dark ⟨nofun, nofun⟩
            (fun _ apart => absurd rfl apart) _ _ Or.inr

theorem joined_sound (sound : desk.Sound) (ended : desk.dispatch = .ended) :
    (desk.stage = .exiting → ({ desk with stage := .exited } : Desk).Sound) ∧
      (desk.stage = .dropping → ({ desk with stage := .done } : Desk).Sound) := by
  constructor
  · intro exiting
    have shows : desk.display = true := by
      rw [sound.display, exiting]
      rfl
    exact { sound with
      due := nofun
      settled := fun _ => sound.settled (by rw [exiting]; nofun)
      display := shows
      whole := nofun
      tearing := fun _ => sound.tearing (Or.inl exiting)
      gone := nofun
      joined := fun _ _ _ => Or.inr ended
      dropped := nofun
      done := nofun }
  · intro dropping
    have dark : desk.display = false := by
      rw [sound.display, dropping]
      rfl
    exact { sound with
      due := nofun
      settled := fun _ => sound.settled (by rw [dropping]; nofun)
      display := dark
      whole := nofun
      tearing := nofun
      gone := nofun
      joined := fun _ _ _ => Or.inr ended
      dropped := nofun
      done := fun _ => sound.dropped dropping }

theorem returned_sound (sound : desk.Sound)
    (may : desk.stage = .running ∧ desk.agenda = [] ∨ desk.stage = .exited) :
    ({ desk with stage := .returned, display := false, live := [] } : Desk).Sound := by
  have apart : desk.stage ≠ .exiting ∧ desk.stage ≠ .dropping := by
    rcases may with ⟨running, -⟩ | exited
    · rw [running]
      exact ⟨nofun, nofun⟩
    · rw [exited]
      exact ⟨nofun, nofun⟩
  have settled : desk.agenda = [] := by
    rcases may with ⟨-, settled⟩ | exited
    · exact settled
    · exact sound.settled (by rw [exited]; nofun)
  exact { sound with
    due := nofun
    settled := fun _ => settled
    display := rfl
    live := nofun
    dead := fun _ => rfl
    whole := nofun
    tearing := nofun
    near := nofun
    gone := nofun
    joined := fun absent _ _ => sound.joined absent apart.1 apart.2
    dropped := nofun
    done := nofun
    finished := fun ran _ => sound.joined (sound.torn (sound.ran ran)).1 apart.1 apart.2
    clean := fun shown => sound.clean (shown.elim nofun Or.inr) }

theorem abandon_sound (sound : desk.Sound) (returned : desk.stage = .returned) :
    ({ desk with
        stage := .abandoned
        inhibit := desk.inhibit.map fun inhibit => { inhibit with displayGone := true } } :
      Desk).Sound := by
  have dark : desk.display = false := by
    rw [sound.display, returned]
    rfl
  have lit : desk.display ≠ true := by rw [dark]; nofun
  exact { sound with
    due := nofun
    settled := fun _ => sound.settled (by rw [returned]; nofun)
    unseen := fun unseen => by
      obtain ⟨released, absent, free⟩ := sound.unseen unseen
      exact ⟨released, by rw [absent]; rfl, free⟩
    display := dark
    live := fun shows => absurd shows lit
    torn := fun torn => by
      obtain ⟨absent, free⟩ := sound.torn torn
      exact ⟨by rw [absent]; rfl, free⟩
    whole := nofun
    tearing := nofun
    near := fun shows => absurd shows lit
    gone := fun _ inhibit there => by
      obtain ⟨before, -, rfl⟩ := Option.map_eq_some_iff.mp there
      rfl
    joined := fun absent _ _ => sound.joined (Option.map_eq_none_iff.mp absent)
      (by rw [returned]; nofun) (by rw [returned]; nofun)
    dropped := nofun
    done := nofun }

theorem idle_iff : desk.idle = true ↔ desk.stage = .running ∧ desk.agenda = [] :=
  decide_eq_true_iff

/-- A step that goes only if it may. -/
theorem may_step {may : Prop} [Decidable may] {after next : Desk}
    (stepped : (if may then some after else none) = some next) : may ∧ after = next := by
  split at stepped
  · next allowed => exact ⟨allowed, Option.some.inj stepped⟩
  · cases stepped

theorem step_sound {label : Label} {next : Desk} (sound : desk.Sound)
    (stepped : desk.step label = some next) : next.Sound := by
  cases label with
  | resumed made =>
      simp only [Desk.step] at stepped
      split at stepped
      · next may =>
          rw [Bool.and_eq_true, idle_iff, Bool.not_eq_true'] at may
          obtain ⟨⟨running, settled⟩, unseen⟩ := may
          have both := resumed_sound sound running settled unseen
          -- The loop fails, there is no inhibition, or there is.
          rcases made with _ | _ | _ <;> cases stepped
          · exact sound
          · exact both.1
          · exact both.2
      · cases stepped
  | trigger trigger =>
      obtain ⟨may, rfl⟩ := may_step stepped
      rw [Bool.and_eq_true, idle_iff, Bool.or_eq_true, Option.isNone_iff_eq_none] at may
      exact feed_sound sound.toKept may.1.1 (sound.due may.1.1) may.1.2 may.2
  | perform answer =>
      simp only [Desk.step] at stepped
      split at stepped
      · cases stepped
      · next action rest agenda =>
          cases stepped
          obtain ⟨running, left⟩ := sound.popped agenda
          have kept : ({ desk with agenda := rest } : Desk).Kept := { sound.toKept with }
          exact perform_sound kept running left answer
  | userEvent =>
      simp only [Desk.step] at stepped
      split at stepped
      · cases stepped
      next event rest mail =>
      split at stepped
      · next may =>
          rw [idle_iff] at may
          have read : ({ desk with mail := rest } : Desk).Sound :=
            sound.aside desk.active rest desk.queued desk.fouls id sound.spared sound.clean
          cases event with
          | active =>
              cases stepped
              exact read
          | inactive =>
              cases stepped
              exact feed_sound read.toKept may.1 (read.due may.1) may.2 (Or.inr rfl)
      · cases stepped
  | setMouseMode mode granted =>
      obtain ⟨may, rfl⟩ := may_step stepped
      rw [Bool.and_eq_true, idle_iff] at may
      exact setMouseMode_sound sound may.1.1 mode granted
  | exiting =>
      obtain ⟨may, rfl⟩ := may_step stepped
      rw [idle_iff] at may
      exact exiting_sound sound may.1 may.2
  | joined =>
      simp only [Desk.step] at stepped
      split at stepped
      · next ended =>
          split at stepped
          · next exiting =>
              cases stepped
              exact (joined_sound sound ended).1 exiting
          · next dropping =>
              cases stepped
              exact (joined_sound sound ended).2 dropping
          · cases stepped
      · cases stepped
  | returned =>
      obtain ⟨may, rfl⟩ := may_step stepped
      rw [Bool.or_eq_true, idle_iff, decide_eq_true_iff] at may
      exact returned_sound sound may
  | abandonDisplay =>
      obtain ⟨returned, rfl⟩ := may_step stepped
      exact abandon_sound sound returned
  | teardown =>
      obtain ⟨abandoned, rfl⟩ := may_step stepped
      exact teardown_sound sound abandoned
  | look =>
      obtain ⟨looking, rfl⟩ := may_step stepped
      exact sound.goes (by rw [looking]; exact ⟨nofun, nofun⟩) _ _ _
  | round =>
      obtain ⟨reading, rfl⟩ := may_step stepped
      exact sound.uses reading _ _
  | deliver =>
      simp only [Desk.step] at stepped
      split at stepped
      · next id event rest reading queued =>
          cases stepped
          exact sound.uses reading _ _
      · cases stepped
  | discard =>
      simp only [Desk.step] at stepped
      split at stepped
      · next id event rest reading queued =>
          split at stepped
          · cases stepped
          · cases stepped
            exact sound.uses reading desk.dispatch _
      · cases stepped
  | fail =>
      obtain ⟨reading, rfl⟩ := may_step stepped
      exact sound.uses reading _ _
  | store =>
      simp only [Desk.step] at stepped
      split at stepped
      · next reported storing =>
          cases stepped
          exact sound.goes (by rw [storing]; exact ⟨nofun, nofun⟩) _ _ _
      · cases stepped
  | notify =>
      simp only [Desk.step] at stepped
      split at stepped
      · next reported notifying =>
          cases stepped
          exact sound.goes (by rw [notifying]; exact ⟨nofun, nofun⟩) _ _ _
      · cases stepped
  | say id event =>
      obtain ⟨-, rfl⟩ := may_step stepped
      exact sound.aside desk.active desk.mail _ desk.fouls (fun finished => finished) sound.spared
        sound.clean

theorem inactive_releases (session : Session)
    (closing : session.closing = true → session.capture = .released) :
    (reduce session .inhibitorInactive).1.capture = .released := by
  unfold reduce
  rw [if_neg nofun]
  split
  · next shut => exact closing shut
  · dsimp only [reduceOpen]
    split
    · rfl
    · next free => exact not_not.mp free

/-! ## What the compositor is left with -/

structure Desk.Follows (desk : Desk) : Prop where
  /-- The window's only inhibitor is the one the event loop holds. -/
  one : desk.display = true → desk.live = desk.held.toList
  captured : desk.idle = true → desk.inhibit.isSome = true →
    (desk.held.isSome = true ↔ desk.session.capture ≠ .released)
  freed : desk.idle = true → desk.session.capture = .released → desk.grab = false
  letOut : ∀ next, desk.mail.head? = some .inactive → desk.step .userEvent = some next →
    next.session.capture = .released
  torn : desk.tornDown = true → desk.live = [] ∧ desk.held = none ∧ desk.grab = false
  joined : desk.stage = .exited ∨ desk.stage = .done → desk.dispatch.Over
  spared : .eventLoop ∉ desk.fouls
  orderly : desk.exitingRan = true → desk.fouls = []

theorem Desk.Sound.follows (sound : desk.Sound) : desk.Follows where
  one := sound.live
  captured := by
    intro idle there
    obtain ⟨running, settled⟩ := idle_iff.mp idle
    have armed := (sound.due running).armed there
    rw [settled, List.foldl_nil] at armed
    rw [armed, decide_eq_true_iff]
  freed := by
    intro idle released
    obtain ⟨running, settled⟩ := idle_iff.mp idle
    by_contra grabbed
    have still := (sound.due running).freed released (eq_true_of_ne_false grabbed)
    rw [settled] at still
    cases still
  letOut := by
    intro next heard stepped
    simp only [Desk.step] at stepped
    split at stepped
    · cases stepped
    next event rest mail =>
    rw [mail, List.head?_cons] at heard
    cases heard
    split at stepped
    · cases stepped
      exact inactive_releases desk.session sound.closing
    · cases stepped
  torn := by
    intro torn
    obtain ⟨absent, free⟩ := sound.torn torn
    have none_held : desk.held = none := by
      rw [Desk.held, absent]
      rfl
    refine ⟨?_, none_held, free⟩
    cases shows : desk.display with
    | true =>
        rw [sound.live shows, none_held]
        rfl
    | false => exact sound.dead shows
  joined := by
    rintro (exited | done)
    · exact sound.joined (sound.torn (sound.tearing (Or.inr exited))).1
        (by rw [exited]; nofun) (by rw [exited]; nofun)
    · exact sound.joined (sound.torn (sound.done done)).1 (by rw [done]; nofun)
        (by rw [done]; nofun)
  spared := sound.spared
  orderly := fun ran => sound.clean (Or.inr ran)

end Steps

/-- While the display is open the compositor inhibits exactly while capture is engaged, and
nothing uses it afterwards. -/
theorem inhibitor_follows_capture (pointer : PointerMode) {labels : List Label} {desk : Desk}
    (ran : run Desk.step labels (.start pointer) = some desk) : desk.Follows :=
  (run_preserves (fun _ _ _ sound stepped => step_sound sound stepped) (start_sound pointer)
    ran).follows

/-- A click captures; the compositor lets out while the pointer is grabbed, and the loop leaves. -/
def letOutRun : List Label :=
  let yes : Label := .perform ⟨true, none, true⟩
  [.resumed (some true), .trigger (.button Proto.Button.left true), yes, yes, .look, yes,
    .say 0 .active, .say 0 .inactive, .deliver, .store, .notify, .deliver, .userEvent, .store,
    .notify, .userEvent, yes, yes, yes, .exiting, .round, .look, .joined]

def leftDesk : Desk := (run Desk.step letOutRun (.start .relative)).getD (.start .relative)

theorem inhibitor_follows_capture_let_out :
    leftDesk.made = 1 ∧ leftDesk.live = [] ∧ leftDesk.grab = false ∧ leftDesk.fouls = [] ∧
      leftDesk.dispatch.Over := by
  have ran : run Desk.step letOutRun (.start .relative) = some leftDesk :=
    run_getD rfl
  have follows := inhibitor_follows_capture .relative ran
  obtain ⟨gone, -, free⟩ := follows.torn rfl
  exact ⟨by decide, gone, free, follows.orderly (by decide),
    follows.joined (Or.inl (by decide))⟩

end NanoKvm.Viewer.Inhibit
