import NanoKvm.Input.Motion
import NanoKvm.Lib.Mask
import Mathlib.Data.List.Induction

/-!
# Two mice behind one button mask

The writer keeps one button mask and one pointer mode; the bridge shows the
target a relative and an absolute mouse.  `Desk` runs the writer's entries over
a link that accepts every report and keeps the last report of each device.
`Pointing` says, from the entries alone, what each mouse was last told:
whichever mouse the mode names carries the held mask, and the other still
carries the mask of the moment the pointer left it.
-/

set_option autoImplicit false

namespace NanoKvm.Input

open NanoKvm.Proto
open NanoKvm.Lib

structure Desk where
  held : HeldState
  mode : PointerMode
  devices : Devices

def Desk.start (devices : Devices) : Desk := ⟨HeldState.new, .rel, devices⟩

/-- One entry, abandoned after `limit` reports if it needs more. -/
def Desk.write (desk : Desk) (limit : Nat) (kind : EntryKind) : Desk :=
  match startEntry desk.held desk.mode kind with
  | (held, .nothing) => { desk with held := held }
  | (held, .report frame) => { desk with held := held, devices := desk.devices.receive frame }
  | (held, .flush loop) =>
      let (mode, frames, _) := loop.frames held.buttons limit desk.mode
      ⟨held, mode, desk.devices.receiveAll frames⟩

/-- Reports that complete an entry. -/
def EntryKind.size : EntryKind → Nat
  | .motion run => ((startFlush run).map Flush.size).getD 0
  | .key _ _ => 1
  | .button _ _ => 1

def Desk.entries (desk : Desk) (kinds : List EntryKind) : Desk :=
  kinds.foldl (fun desk kind => desk.write kind.size kind) desk

/-- A cancellation sequence whose every frame was handed to the link. -/
def Desk.release (desk : Desk) : Desk :=
  ⟨desk.held.clear, .rel, desk.devices.receiveAll (releaseFrames desk.mode)⟩

/-! ## What the entries alone say -/

structure Pointing where
  absolute : Bool
  held : U8
  /-- The mask held when the pointer last left the other mouse. -/
  left : U8
  deriving DecidableEq, Repr

def Pointing.start : Pointing := ⟨false, 0#8, 0#8⟩

def Pointing.toAbs (pointing : Pointing) : Pointing :=
  if pointing.absolute then pointing else ⟨true, pointing.held, pointing.held⟩

def Pointing.toRel (pointing : Pointing) : Pointing :=
  if pointing.absolute then ⟨false, pointing.held, pointing.held⟩ else pointing

/-- The first `limit` reports of a run: its position, then its deltas. -/
def Pointing.flush (pointing : Pointing) (limit : Nat) : Flush → Pointing
  | .abs _ _ dx dy _ =>
      if limit = 0 then pointing
      else if hasRel dx dy && limit ≠ 1 then pointing.toAbs.toRel
      else pointing.toAbs
  | .rel _ _ _ => if limit = 0 then pointing else pointing.toRel
  | .wheel _ => pointing

def Pointing.entry (pointing : Pointing) (limit : Nat) : EntryKind → Pointing
  | .motion motion =>
      match startFlush motion with
      | none => pointing
      | some loop => pointing.flush limit loop
  | .key _ _ => pointing
  | .button mask down =>
      { pointing with
        held := if down then pointing.held ||| mask else pointing.held &&& ~~~mask }

def Pointing.entries (pointing : Pointing) (kinds : List EntryKind) : Pointing :=
  kinds.foldl (fun pointing kind => pointing.entry kind.size kind) pointing

def PointerMode.isAbs : PointerMode → Bool
  | .rel => false
  | .abs _ _ => true

/-- The mouse the mode names carries the held mask, the other one `left`. -/
structure Agrees (pointing : Pointing) (mode : PointerMode) (buttons : U8) (devices : Devices) :
    Prop where
  absolute : pointing.absolute = mode.isAbs
  held : pointing.held = buttons
  abs : buttonByte devices.abs = if pointing.absolute then pointing.held else pointing.left
  rel : buttonByte devices.rel = if pointing.absolute then pointing.left else pointing.held

theorem start_agrees {devices : Devices} (released : devices.Released) :
    Agrees Pointing.start .rel 0#8 devices :=
  ⟨rfl, rfl, released.abs, released.rel⟩

theorem abs_report_agrees {pointing : Pointing} {mode : PointerMode} {buttons : U8}
    {devices : Devices} (agrees : Agrees pointing mode buttons devices) (x y : U16) (w : I8) :
    Agrees pointing.toAbs (.abs x y) buttons
      (devices.receive (MouseAbsReport.mk buttons x y w).frame) := by
  obtain ⟨absolute, held, -, rel⟩ := agrees
  unfold Pointing.toAbs
  cases was : pointing.absolute with
  | true =>
      rw [was] at rel
      exact ⟨was, held, by simp [was, held], by simpa [was] using rel⟩
  | false =>
      rw [was] at rel
      exact ⟨rfl, held, by simp [held], by simpa using rel⟩

theorem rel_report_agrees {pointing : Pointing} {mode : PointerMode} {buttons : U8}
    {devices : Devices} (agrees : Agrees pointing mode buttons devices) (dx dy w : I8) :
    Agrees pointing.toRel .rel buttons
      (devices.receive (MouseRelReport.mk buttons dx dy w).frame) := by
  obtain ⟨absolute, held, abs, -⟩ := agrees
  unfold Pointing.toRel
  cases was : pointing.absolute with
  | true =>
      rw [was] at abs
      exact ⟨rfl, held, by simpa using abs, by simp [held]⟩
  | false =>
      rw [was] at abs
      exact ⟨was, held, by simpa [was] using abs, by simp [was, held]⟩

/-- A report that carries no position goes to the mouse in use. -/
theorem pointerFrame_agrees {pointing : Pointing} {mode : PointerMode} {before buttons : U8}
    {devices : Devices} (agrees : Agrees pointing mode before devices) (w : I8) :
    Agrees { pointing with held := buttons } mode buttons
      (devices.receive (mode.pointerFrame buttons w)) := by
  obtain ⟨absolute, held, abs, rel⟩ := agrees
  cases mode with
  | rel =>
      have was : pointing.absolute = false := absolute
      simp only [was, Bool.false_eq_true, if_false] at abs rel
      exact ⟨was, rfl, by simpa [PointerMode.pointerFrame, was] using abs,
        by simp [PointerMode.pointerFrame, was]⟩
  | abs x y =>
      have was : pointing.absolute = true := absolute
      simp only [was, if_true] at abs rel
      exact ⟨was, rfl, by simp [PointerMode.pointerFrame, was],
        by simpa [PointerMode.pointerFrame, was] using rel⟩

theorem toRel_toRel (pointing : Pointing) : pointing.toRel.toRel = pointing.toRel := by
  unfold Pointing.toRel
  cases was : pointing.absolute <;> simp [was]

theorem toAbs_toAbs (pointing : Pointing) : pointing.toAbs.toAbs = pointing.toAbs := by
  unfold Pointing.toAbs
  cases was : pointing.absolute <;> simp [was]

/-- One report of a loop, and what `Pointing` makes of the reports after it. -/
theorem emit_agrees {pointing : Pointing} {mode after : PointerMode} {buttons : U8}
    {devices : Devices} {loop : Flush} {frame : HidFrame} {next : Option Flush}
    (agrees : Agrees pointing mode buttons devices)
    (emitted : loop.emit mode buttons = (after, frame, next)) :
    Agrees (pointing.flush 1 loop) after buttons (devices.receive frame) ∧
      ∀ more limit, next = some more →
        pointing.flush (limit + 1) loop = (pointing.flush 1 loop).flush limit more := by
  cases loop with
  | abs x y dx dy dw =>
      simp only [Flush.emit] at emitted
      by_cases rel : hasRel dx dy = true
      · rw [if_pos rel] at emitted
        cases emitted
        refine ⟨by simpa [Pointing.flush] using abs_report_agrees agrees x y 0#8, ?_⟩
        intro more limit isNext
        cases isNext
        cases limit <;> simp [Pointing.flush, rel]
      · rw [if_neg rel] at emitted
        cases emitted
        refine ⟨by simpa [Pointing.flush] using abs_report_agrees agrees x y _, ?_⟩
        intro more limit isNext
        split at isNext
        · cases isNext
        · cases isNext
          cases limit <;> simp [Pointing.flush, rel, toAbs_toAbs]
  | rel dx dy dw =>
      simp only [Flush.emit] at emitted
      cases emitted
      refine ⟨by simpa [Pointing.flush] using rel_report_agrees agrees _ _ _, ?_⟩
      intro more limit isNext
      unfold relFlush at isNext
      split at isNext
      · cases isNext
        cases limit <;> simp [Pointing.flush, toRel_toRel]
      · cases isNext
  | wheel dw =>
      simp only [Flush.emit] at emitted
      cases emitted
      have same : ({ pointing with held := buttons } : Pointing) = pointing := by
        rw [← agrees.held]
      have told : Agrees { pointing with held := buttons } mode buttons
          (devices.receive (mode.pointerFrame buttons (takeStep dw).1)) :=
        pointerFrame_agrees agrees _
      rw [same] at told
      refine ⟨told, ?_⟩
      intro more limit isNext
      split at isNext
      · cases isNext
      · cases isNext
        simp [Pointing.flush]

/-- A loop with no report left to write has told the mice all it will. -/
theorem flush_last {pointing : Pointing} {mode after : PointerMode} {buttons : U8}
    {loop : Flush} {frame : HidFrame} (emitted : loop.emit mode buttons = (after, frame, none))
    (limit : Nat) : pointing.flush (limit + 1) loop = pointing.flush 1 loop := by
  cases loop with
  | abs x y dx dy dw =>
      simp only [Flush.emit] at emitted
      by_cases rel : hasRel dx dy = true
      · rw [if_pos rel] at emitted
        cases emitted
      · simp [Pointing.flush, rel]
  | rel dx dy dw => simp [Pointing.flush]
  | wheel dw => simp [Pointing.flush]

theorem frames_agrees {pointing : Pointing} {mode : PointerMode} {buttons : U8}
    {devices : Devices} (agrees : Agrees pointing mode buttons devices) (limit : Nat)
    (loop : Flush) :
    Agrees (pointing.flush limit loop) (loop.frames buttons limit mode).1 buttons
      (devices.receiveAll (loop.frames buttons limit mode).2.1) := by
  induction limit generalizing pointing mode devices loop with
  | zero =>
      cases loop <;> simpa [Pointing.flush, Flush.frames] using agrees
  | succ limit ih =>
      rw [Flush.frames]
      rcases emitted : loop.emit mode buttons with ⟨after, frame, _ | next⟩
      · rw [flush_last emitted]
        exact (emit_agrees agrees emitted).1
      · obtain ⟨one, split⟩ := emit_agrees agrees emitted
        rw [split next limit rfl]
        exact ih one next

/-- The writer's devices are what the entries alone say they are. -/
theorem write_agrees {pointing : Pointing} {desk : Desk}
    (agrees : Agrees pointing desk.mode desk.held.buttons desk.devices) (limit : Nat)
    (kind : EntryKind) :
    Agrees (pointing.entry limit kind) (desk.write limit kind).mode
      (desk.write limit kind).held.buttons (desk.write limit kind).devices := by
  cases kind with
  | motion motion =>
      simp only [Pointing.entry, Desk.write, startEntry]
      cases startFlush motion with
      | none => exact agrees
      | some loop => exact frames_agrees agrees limit loop
  | key key down =>
      simp only [Pointing.entry, Desk.write, startEntry]
      have buttons := applyKey_buttons desk.held key down
      rcases applied : desk.held.applyKey key down with ⟨held, _ | report⟩
      · rw [applied] at buttons
        rw [← buttons] at agrees
        exact agrees
      · rw [applied] at buttons
        obtain ⟨absolute, same, abs, rel⟩ := agrees
        exact ⟨absolute, same.trans buttons.symm, by simpa using abs, by simpa using rel⟩
  | button mask down =>
      simp only [Pointing.entry, Desk.write, startEntry]
      have next := applyButton_buttons desk.held mask down
      rw [agrees.held]
      cases changed : (desk.held.applyButton mask down).2 with
      | none =>
          have unchanged := applyButton_none changed
          rw [unchanged] at next
          have shape : desk.held.applyButton mask down = (desk.held, none) :=
            Prod.ext unchanged changed
          simp only [shape, ← next]
          have same : ({ pointing with held := desk.held.buttons } : Pointing) = pointing := by
            rw [← agrees.held]
          rw [same]
          exact agrees
      | some buttons =>
          have applied := applyButton_some changed
          have shape : desk.held.applyButton mask down =
              ((desk.held.applyButton mask down).1, some buttons) := Prod.ext rfl changed
          rw [shape]
          simp only [← next, applied]
          exact pointerFrame_agrees agrees 0#8

theorem entries_agrees {pointing : Pointing} {desk : Desk}
    (agrees : Agrees pointing desk.mode desk.held.buttons desk.devices)
    (kinds : List EntryKind) :
    Agrees (pointing.entries kinds) (desk.entries kinds).mode (desk.entries kinds).held.buttons
      (desk.entries kinds).devices := by
  induction kinds generalizing pointing desk with
  | nil => exact agrees
  | cons kind rest ih => exact ih (write_agrees agrees kind.size kind)

/-! ## Releasing both mice -/

/-- The entries of one capture session, and the one its cancellation abandoned
after some of its reports. -/
structure Session where
  kinds : List EntryKind
  cut : Option (EntryKind × Nat)
  deriving DecidableEq, Repr

def Desk.play (desk : Desk) (session : Session) : Desk :=
  match session.cut with
  | none => (desk.entries session.kinds).release
  | some (kind, limit) => ((desk.entries session.kinds).write limit kind).release

def Desk.playAll (desk : Desk) (sessions : List Session) : Desk := sessions.foldl Desk.play desk

def Session.pointing (session : Session) : Pointing :=
  match session.cut with
  | none => Pointing.start.entries session.kinds
  | some (kind, limit) => (Pointing.start.entries session.kinds).entry limit kind

/-- The session ends in absolute mode, or last left it with no button held. -/
def Session.EndsClean (session : Session) : Prop :=
  session.pointing.absolute = true ∨ session.pointing.left = 0#8

instance (session : Session) : Decidable session.EndsClean :=
  inferInstanceAs (Decidable (_ ∨ _))

instance (devices : Devices) : Decidable devices.Released :=
  decidable_of_iff
    (keyboardIdle devices.keyboard ∧ buttonByte devices.abs = 0#8 ∧ buttonByte devices.rel = 0#8)
    ⟨fun ⟨keyboard, abs, rel⟩ => ⟨keyboard, abs, rel⟩,
      fun released => ⟨released.keyboard, released.abs, released.rel⟩⟩

/-- The release clears the mouse in use and the relative one; the absolute
mouse, when it is the other one, keeps what it was left with. -/
theorem release_released_iff {pointing : Pointing} {desk : Desk}
    (agrees : Agrees pointing desk.mode desk.held.buttons desk.devices) :
    desk.release.devices.Released ↔ pointing.absolute = true ∨ pointing.left = 0#8 := by
  obtain ⟨absolute, -, abs, -⟩ := agrees
  unfold Desk.release
  cases mode : desk.mode with
  | rel =>
      have was : pointing.absolute = false := by simpa [mode, PointerMode.isAbs] using absolute
      simp only [was, Bool.false_eq_true, if_false, false_or] at abs ⊢
      constructor
      · intro released
        have := released.abs
        simpa [releaseFrames, abs] using this
      · intro clean
        exact ⟨by simpa [releaseFrames] using keyboardIdle_releaseAll,
          by simp [releaseFrames, abs, clean], by simp [releaseFrames, mouseReleaseAll]⟩
  | abs x y =>
      have was : pointing.absolute = true := by simpa [mode, PointerMode.isAbs] using absolute
      refine iff_of_true ?_ (Or.inl was)
      exact ⟨by simpa [releaseFrames] using keyboardIdle_releaseAll, by simp [releaseFrames],
        by simp [releaseFrames, mouseReleaseAll]⟩

theorem play_released_iff {devices : Devices} (released : devices.Released) (session : Session) :
    ((Desk.start devices).play session).devices.Released ↔ session.EndsClean := by
  have agrees : Agrees (Pointing.start.entries session.kinds)
      ((Desk.start devices).entries session.kinds).mode
      ((Desk.start devices).entries session.kinds).held.buttons
      ((Desk.start devices).entries session.kinds).devices :=
    entries_agrees (start_agrees released) session.kinds
  unfold Desk.play Session.EndsClean Session.pointing
  cases session.cut with
  | none => exact release_released_iff agrees
  | some cut =>
      obtain ⟨kind, limit⟩ := cut
      exact release_released_iff (write_agrees agrees limit kind)

theorem play_start (desk : Desk) (session : Session) :
    desk.play session = Desk.start (desk.play session).devices := by
  unfold Desk.play
  split <;> rfl

/-- Every release leaves the three devices released exactly when every session
ended in absolute mode or last left it with no button held. -/
theorem every_release_clears_iff (sessions : List Session) :
    (∀ earlier later, sessions = earlier ++ later →
        ((Desk.start Devices.untouched).playAll earlier).devices.Released) ↔
      ∀ session ∈ sessions, session.EndsClean := by
  have fromReleased : ∀ (devices : Devices), devices.Released →
      ((∀ earlier later, sessions = earlier ++ later →
          ((Desk.start devices).playAll earlier).devices.Released) ↔
        ∀ session ∈ sessions, session.EndsClean) := by
    induction sessions with
    | nil =>
        intro devices released
        refine iff_of_true ?_ (by simp)
        intro earlier later split
        have none : earlier = [] := (List.append_eq_nil_iff.mp split.symm).1
        subst none
        exact released
    | cons session rest ih =>
        intro devices released
        have first := play_released_iff released session
        constructor
        · intro all
          have played := all [session] rest rfl
          simp only [Desk.playAll, List.foldl_cons, List.foldl_nil] at played
          have others := (ih _ played).mp fun earlier later split => by
            have := all (session :: earlier) later (by rw [split]; rfl)
            rw [← play_start]
            exact this
          intro other member
          rcases List.mem_cons.mp member with rfl | member
          · exact first.mp played
          · exact others other member
        · intro clean earlier later split
          cases earlier with
          | nil => exact released
          | cons head earlier =>
              obtain ⟨rfl, tail⟩ := List.cons.inj split
              have played := first.mpr (clean session (List.mem_cons_self ..))
              have := (ih _ played).mpr
                (fun other member => clean other (List.mem_cons_of_mem _ member)) earlier later tail
              rw [← play_start] at this
              exact this
  exact fromReleased Devices.untouched (by decide)

/-- A button put down on the absolute mouse, then relative motion, then a
release: the absolute mouse still holds the button. -/
theorem absolute_button_survives_release :
    ¬ ∀ sessions : List Session, ∀ earlier later, sessions = earlier ++ later →
        ((Desk.start Devices.untouched).playAll earlier).devices.Released := by
  intro all
  have released := all
    [⟨[.motion ⟨some (100#16, 100#16), 0, 0, 0⟩, .button Button.left true,
      .motion ⟨none, 5, 0, 0⟩], none⟩] _ [] (List.append_nil _).symm
  revert released
  decide

/-! ## Buttons the user has let go of -/

/-- Each mouse was last told only of buttons that are still held. -/
def Desk.NoneStale (desk : Desk) : Prop :=
  Within (buttonByte desk.devices.abs) desk.held.buttons ∧
    Within (buttonByte desk.devices.rel) desk.held.buttons

instance (desk : Desk) : Decidable desk.NoneStale := inferInstanceAs (Decidable (_ ∧ _))

theorem noneStale_iff {pointing : Pointing} {desk : Desk}
    (agrees : Agrees pointing desk.mode desk.held.buttons desk.devices) :
    desk.NoneStale ↔ Within pointing.left pointing.held := by
  obtain ⟨-, held, abs, rel⟩ := agrees
  unfold Desk.NoneStale
  rw [abs, rel, ← held]
  cases pointing.absolute <;> simp [within_self]

theorem toAbs_clean {pointing : Pointing} (clean : Within pointing.left pointing.held) :
    Within pointing.toAbs.left pointing.toAbs.held := by
  unfold Pointing.toAbs
  split
  · exact clean
  · exact within_self _

theorem toRel_clean {pointing : Pointing} (clean : Within pointing.left pointing.held) :
    Within pointing.toRel.left pointing.toRel.held := by
  unfold Pointing.toRel
  split
  · exact within_self _
  · exact clean

theorem flush_clean {pointing : Pointing} (clean : Within pointing.left pointing.held)
    (limit : Nat) (loop : Flush) :
    Within (pointing.flush limit loop).left (pointing.flush limit loop).held := by
  cases loop with
  | abs x y dx dy dw =>
      simp only [Pointing.flush]
      split
      · exact clean
      · split
        · exact toRel_clean (toAbs_clean clean)
        · exact toAbs_clean clean
  | rel dx dy dw =>
      simp only [Pointing.flush]
      split
      · exact clean
      · exact toRel_clean clean
  | wheel dw => exact clean

/-- Only letting go of a button can leave the other mouse behind. -/
theorem entry_clean {pointing : Pointing} (clean : Within pointing.left pointing.held)
    (limit : Nat) (kind : EntryKind) (notUp : ∀ mask, kind ≠ .button mask false) :
    Within (pointing.entry limit kind).left (pointing.entry limit kind).held := by
  cases kind with
  | motion motion =>
      simp only [Pointing.entry]
      cases startFlush motion with
      | none => exact clean
      | some loop => exact flush_clean clean limit loop
  | key key down => exact clean
  | button mask down =>
      cases down with
      | true => exact within_or mask clean
      | false => exact absurd rfl (notUp mask)

theorem entries_snoc (pointing : Pointing) (kinds : List EntryKind) (kind : EntryKind) :
    pointing.entries (kinds ++ [kind]) = (pointing.entries kinds).entry kind.size kind := by
  simp [Pointing.entries]

/-- After every entry each mouse carries only held buttons, exactly when no
button is let go that was held when the pointer last changed mice. -/
theorem no_stale_button_iff {devices : Devices} (released : devices.Released)
    (kinds : List EntryKind) :
    (∀ earlier later, kinds = earlier ++ later →
        ((Desk.start devices).entries earlier).NoneStale) ↔
      ∀ earlier mask later, kinds = earlier ++ .button mask false :: later →
        (Pointing.start.entries earlier).left &&& mask = 0#8 := by
  have stale : ∀ earlier, ((Desk.start devices).entries earlier).NoneStale ↔
      Within (Pointing.start.entries earlier).left (Pointing.start.entries earlier).held :=
    fun earlier => noneStale_iff (entries_agrees (start_agrees released) earlier)
  simp only [stale]
  constructor
  · intro all earlier mask later split
    have before := all earlier _ split
    have after := all (earlier ++ [.button mask false]) later (by simp [split])
    rw [entries_snoc] at after
    exact (within_clear_iff mask before).mp after
  · intro apart earlier
    induction earlier using List.reverseRecOn with
    | nil => exact fun _ _ => within_zero_left _
    | append_singleton earlier kind ih =>
        intro later split
        have rest : kinds = earlier ++ kind :: later := by simpa using split
        have clean := ih _ rest
        rw [entries_snoc]
        by_cases up : ∃ mask, kind = .button mask false
        · obtain ⟨mask, rfl⟩ := up
          exact (within_clear_iff mask clean).mpr (apart earlier mask later rest)
        · exact entry_clean clean kind.size kind fun mask same => up ⟨mask, same⟩

/-- A drag that never lets go across a change of mice, on a bridge fresh from power-up. -/
theorem no_stale_button_drag :
    Devices.untouched.Released ∧
      ((∀ earlier later,
          [EntryKind.button Button.left true, .motion ⟨none, 5, 0, 0⟩,
            .button Button.left false] = earlier ++ later →
          ((Desk.start Devices.untouched).entries earlier).NoneStale) ↔
        ∀ earlier mask later,
          [EntryKind.button Button.left true, .motion ⟨none, 5, 0, 0⟩,
            .button Button.left false] = earlier ++ .button mask false :: later →
          (Pointing.start.entries earlier).left &&& mask = 0#8) :=
  ⟨by decide, no_stale_button_iff (by decide) _⟩

/-- A button pressed before the session's first absolute motion and let go after
it stays down on the relative mouse. -/
theorem relative_button_left_behind :
    ¬ ∀ (kinds earlier later : List EntryKind), kinds = earlier ++ later →
        ((Desk.start Devices.untouched).entries earlier).NoneStale := by
  intro all
  have stale := all
    [.button Button.left true, .motion ⟨some (100#16, 100#16), 0, 0, 0⟩,
      .button Button.left false] _ [] (List.append_nil _).symm
  revert stale
  decide

end NanoKvm.Input
