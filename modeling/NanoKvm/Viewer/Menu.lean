import NanoKvm.Viewer.Steps

/-!
# Shortcuts of the keyboard popover

`viewer/chrome/shortcut.rs` and `send_shortcut` of `viewer/app.rs`: a built-in
chord is fed to the session edge by edge, past the routing.  Of the grammar of
chords only what the built-in ones read as is kept.
-/

set_option autoImplicit false

namespace NanoKvm.Viewer

open NanoKvm.Proto
open NanoKvm.Lib
open NanoKvm.Script
open NanoKvm.Input (Event)

inductive Builtin where
  | winTab
  | ctrlAltDel
  deriving DecidableEq, Repr

def Builtin.chord : Builtin → String
  | .winTab => "super+tab"
  | .ctrlAltDel => "ctrl+alt+delete"

/-- What `parse_chord_with` reads in the chord. -/
def Builtin.parsed : Builtin → Chord
  | .winTab => ⟨Modifier.leftMeta, some .tab⟩
  | .ctrlAltDel => ⟨Modifier.leftCtrl ||| Modifier.leftAlt, some .delete⟩

def Builtin.events (builtin : Builtin) : Except CompileError (List Event) :=
  (pushChord ⟨[]⟩ builtin.parsed (.key builtin.chord)).map transitions

/-- Each key edge is fed with the answers that come to it. -/
def App.sendEvents : List Event → (Nat → Answers) → App → App
  | [], _, app => app
  | .key key down :: rest, answers, app =>
      App.sendEvents rest (fun i => answers (i + 1)) (app.feed (answers 0) .menu (.key key down))
  | _ :: rest, answers, app => App.sendEvents rest (fun i => answers (i + 1)) app

def App.sendShortcut (app : App) (builtin : Builtin) (answers : Nat → Answers) : App :=
  match builtin.events with
  | .error _ => app
  | .ok events => app.sendEvents events answers

/-! ## The loop with its menu -/

inductive MenuLabel where
  | event (label : Label)
  | sendShortcut (builtin : Builtin) (answers : Nat → Answers)

def menuStep (label : MenuLabel) (app : App) : Option App :=
  match label with
  | .event label => step label app
  | .sendShortcut builtin answers => some (app.sendShortcut builtin answers)

/-! ## The edges of a shortcut -/

/-- The keys of a host that would press it. -/
def Builtin.keys : Builtin → List Physical
  | .winTab => [.key .superLeft, .key .tab]
  | .ctrlAltDel => [.key .controlLeft, .key .altLeft, .key .delete]

/-- Its inputs, in the order it lifts them. -/
def Builtin.lifts : Builtin → List HidKey
  | .winTab => [.usage 0x2b#8, .modifier Modifier.leftMeta]
  | .ctrlAltDel => [.usage 0x4c#8, .modifier Modifier.leftCtrl, .modifier Modifier.leftAlt]

/-- Its inputs, in the order it presses them. -/
def Builtin.presses : Builtin → List HidKey
  | .winTab => [.modifier Modifier.leftMeta, .usage 0x2b#8]
  | .ctrlAltDel => [.modifier Modifier.leftCtrl, .modifier Modifier.leftAlt, .usage 0x4c#8]

/-- A shortcut presses its keys and lifts every one of them. -/
theorem shortcut_events (builtin : Builtin) :
    builtin.events = .ok (builtin.presses.map (fun key => .key key true) ++
      builtin.lifts.map fun key => .key key false) := by
  cases builtin <;> decide

theorem presses_mapped {builtin : Builtin} {key : HidKey} (member : key ∈ builtin.presses) :
    ∃ physical ∈ builtin.keys, physical.input = some (.key key) := by
  cases builtin <;> revert key <;> decide

theorem presses_lifted {builtin : Builtin} {key : HidKey} (member : key ∈ builtin.presses) :
    key ∈ builtin.lifts := by
  cases builtin <;> revert key <;> decide

theorem lifts_mapped {builtin : Builtin} {key : HidKey} (member : key ∈ builtin.lifts) :
    ∃ physical ∈ builtin.keys, physical.input = some (.key key) := by
  cases builtin <;> revert key <;> decide

theorem keys_lifted {builtin : Builtin} {physical : Physical} {input : Input}
    (member : physical ∈ builtin.keys) (mapped : physical.input = some input) :
    ∃ key ∈ builtin.lifts, input = .key key := by
  cases builtin
  all_goals
    simp only [Builtin.keys, List.mem_cons, List.not_mem_nil, or_false] at member
    rcases member with rfl | rfl | rfl <;> cases mapped <;> exact ⟨_, by decide, rfl⟩

/-! ## What a shortcut leaves behind -/

/-- What feeding edges of `keys` past the routing does to the rest of the loop. -/
structure Sends (keys : List HidKey) (app after : App) : Prop where
  down : after.down = app.down
  owed : ∀ physical input, Owed after.log physical input → Owed app.log physical input
  held : ∀ input : Input, input.Single → after.outstanding.holds input = true →
    (∃ key ∈ keys, input = .key key) ∨ after.paste = app.paste ∧ app.outstanding.holds input = true
  paste : after.paste = app.paste ∨ after.paste = .idle
  undone : (∀ job, app.paste = .running job → job.outcome = none) →
    ∀ total, after.pasteLast = some (.done total) → app.pasteLast = some (.done total)
  consumed : after.paste.isActive = true → ∀ edge : Edge,
    after.session.consumed edge = true → app.session.consumed edge = true
  log : ∃ chunk, after.log = app.log ++ chunk ∧ ∀ happening ∈ chunk,
    (∃ event, happening = .forwarded .menu event) ∨ ∃ reason, happening = .releaseAll reason

theorem Sends.refl (keys : List HidKey) (app : App) : Sends keys app app :=
  ⟨rfl, fun _ _ => id, fun _ _ holds => Or.inr ⟨rfl, holds⟩, Or.inl rfl, fun _ _ => id,
    fun _ _ => id, [], by simp, by simp⟩

theorem Sends.trans {keys : List HidKey} {app middle after : App} (first : Sends keys app middle)
    (second : Sends keys middle after) : Sends keys app after where
  down := second.down.trans first.down
  owed physical input owed := first.owed physical input (second.owed physical input owed)
  held input single holds := by
    rcases second.held input single holds with pressed | ⟨paste, before⟩
    · exact Or.inl pressed
    · rcases first.held input single before with pressed | ⟨paste', earlier⟩
      · exact Or.inl pressed
      · exact Or.inr ⟨paste.trans paste', earlier⟩
  paste := by
    rcases second.paste with same | idle
    · rcases first.paste with same' | idle
      · exact Or.inl (same.trans same')
      · exact Or.inr (same.trans idle)
    · exact Or.inr idle
  undone unfinished total done := by
    apply first.undone unfinished total
    apply second.undone _ total done
    intro job running
    rcases first.paste with same | idle
    · exact unfinished job (same.symm.trans running)
    · rw [idle] at running
      cases running
  consumed active edge set := by
    apply first.consumed _ edge (second.consumed active edge set)
    rcases second.paste with same | idle
    · exact same ▸ active
    · rw [idle] at active
      cases active
  log := by
    obtain ⟨chunk, log, plain⟩ := first.log
    obtain ⟨chunk', log', plain'⟩ := second.log
    refine ⟨chunk ++ chunk', by rw [log', log, List.append_assoc], ?_⟩
    intro happening member
    rcases List.mem_append.mp member with here | there
    · exact plain happening here
    · exact plain' happening there

section Feed
variable {app : App} {extra : List Physical}

theorem Owns.more_down (owns : Owns none app) (extra : List Physical) :
    Owns none { app with down := extra ++ app.down } := by
  refine ⟨owns.replayed, owns.captured, owns.pasting, owns.closed, owns.consumed, ?_, ?_, owns.job⟩
  · intro input single holds
    rcases owns.held input single holds with paste | ⟨physical, here | never, mapped⟩
    · exact Or.inl paste
    · exact Or.inr ⟨physical, Or.inl (List.mem_append_right extra here), mapped⟩
    · cases never
  · intro physical input mapped owed
    obtain ⟨here, holds⟩ := owns.owed physical input mapped owed
    exact ⟨List.mem_append_right extra here, holds⟩

/-- One edge of a shortcut, among what the host could be holding to press it. -/
theorem Owns.feed_menu (owns : Owns none { app with down := extra ++ app.down })
    (answers : Answers) {keys : List HidKey} {key : HidKey} (among : key ∈ keys)
    {physical : Physical} (member : physical ∈ extra)
    (mapped : physical.input = some (.key key)) (down : Bool) :
    Owns none { app.feed answers .menu (.key key down) with
        down := extra ++ (app.feed answers .menu (.key key down)).down } ∧
      Sends keys app (app.feed answers .menu (.key key down)) := by
  have single := physical_single mapped
  have fed := feed_fed answers .menu (trigger_proper (.key key) down) app
  change Fed app .menu ((Input.key key).trigger down) (app.feed answers .menu (.key key down)) at fed
  generalize app.feed answers .menu (.key key down) = after at fed ⊢
  cases fed with
  | calm session grab calm =>
      refine ⟨owns.calm calm grab, rfl, fun _ _ => id, fun _ _ holds => Or.inr ⟨rfl, holds⟩,
        Or.inl rfl, fun _ _ => id, ?_, [], by simp, by simp⟩
      intro active edge set
      rcases calm.consumed edge set with before | free
      · exact before
      · exact absurd (owns.pasting active) free
  | passes passes =>
      obtain rfl := Option.some.inj ((trigger_event (.key key) down).symm.trans passes.fires)
      refine ⟨owns.forward single passes ?_ ?_, rfl, ?_, ?_, Or.inl rfl, fun _ _ => id, ?_, ?_⟩
      · exact fun _ => ⟨physical, List.mem_append_left _ member, mapped⟩
      · rintro other ⟨⟩
      · intro other input owed
        rcases owed_forwarded owed with ⟨never, _⟩ | ⟨before, _⟩
        · cases never
        · exact before
      · intro input single' holds
        rw [record_event] at holds
        by_cases same : Input.key key = input
        · exact Or.inl ⟨key, among, same.symm⟩
        · rw [holds_set_other _ single single' same] at holds
          exact Or.inr ⟨rfl, holds⟩
      · exact fun _ edge set => (passes.consumed edge set).1
      · refine ⟨[_], rfl, ?_⟩
        intro happening here
        exact Or.inl ⟨_, List.mem_singleton.mp here⟩
  | emptied emptied =>
      obtain ⟨reason, log⟩ := emptied.log
      refine ⟨emptied.owns.more_down extra, emptied.down, ?_, ?_, Or.inr emptied.paste,
        emptied.undone, ?_, ?_⟩
      · intro other input owed
        rw [log] at owed
        rcases owed_snoc.mp owed with released | ⟨_, unsettled⟩
        · cases released
        · exact absurd trivial unsettled
      · intro input _ holds
        rw [emptied.outstanding, none_holds] at holds
        cases holds
      · intro active
        rw [emptied.paste] at active
        cases active
      · refine ⟨[.forwarded .menu (.key key down), .releaseAll reason], ?_, ?_⟩
        · simp [log, Trigger.forwards, Input.event]
        · intro happening here
          simp only [List.mem_cons, List.not_mem_nil, or_false] at here
          rcases here with rfl | rfl
          · exact Or.inl ⟨_, rfl⟩
          · exact Or.inr ⟨_, rfl⟩

/-- An up lifts its key and presses none. -/
theorem Owns.feed_menu_lifts (owns : Owns none { app with down := extra ++ app.down })
    (answers : Answers) {key : HidKey} (single : (Input.key key).Single) :
    (app.feed answers .menu (.key key false)).outstanding.holds (.key key) = false ∧
      ∀ input : Input, input.Single →
        (app.feed answers .menu (.key key false)).outstanding.holds input = true →
        app.outstanding.holds input = true := by
  have fed := feed_fed answers .menu (trigger_proper (.key key) false) app
  change Fed app .menu ((Input.key key).trigger false)
    (app.feed answers .menu (.key key false)) at fed
  generalize app.feed answers .menu (.key key false) = after at fed ⊢
  cases fed with
  | calm session grab calm =>
      refine ⟨?_, fun _ _ => id⟩
      change app.outstanding.holds (.key key) = false
      by_cases captured : app.session.capture = .captured
      · obtain ⟨_, edge, same, consumed⟩ :=
          calm.eaten captured (owns.opened captured) (.key key) false rfl
        rw [← same]
        exact owns.consumed edge consumed
      · have empty : app.outstanding = .none := owns.captured captured
        rw [empty, none_holds]
  | passes passes =>
      obtain rfl := Option.some.inj ((trigger_event (.key key) false).symm.trans passes.fires)
      rw [record_event]
      refine ⟨holds_set_same _ single false, ?_⟩
      intro input single' holds
      by_cases same : Input.key key = input
      · subst same
        rw [holds_set_same _ single] at holds
        cases holds
      · rwa [holds_set_other _ single single' same] at holds
  | emptied emptied =>
      rw [emptied.outstanding]
      refine ⟨none_holds _, ?_⟩
      intro input _ holds
      rw [none_holds] at holds
      cases holds

theorem sendEvents_append (first second : List Event) (answers : Nat → Answers) (app : App) :
    app.sendEvents (first ++ second) answers =
      (app.sendEvents first answers).sendEvents second fun i => answers (i + first.length) := by
  induction first generalizing answers app with
  | nil => rfl
  | cons event rest ih =>
      cases event <;>
        simp only [List.cons_append, App.sendEvents, ih, List.length_cons, Nat.add_assoc]

/-- Edges of one kind, one after another. -/
theorem Owns.send (owns : Owns none { app with down := extra ++ app.down })
    {keys sent : List HidKey} (among : ∀ key ∈ sent, key ∈ keys)
    (mapped : ∀ key ∈ sent, ∃ physical ∈ extra, physical.input = some (.key key)) (down : Bool)
    (answers : Nat → Answers) :
    Owns none { app.sendEvents (sent.map fun key => .key key down) answers with
        down := extra ++ (app.sendEvents (sent.map fun key => .key key down) answers).down } ∧
      Sends keys app (app.sendEvents (sent.map fun key => .key key down) answers) := by
  induction sent generalizing app answers with
  | nil => exact ⟨owns, Sends.refl keys app⟩
  | cons key rest ih =>
      obtain ⟨physical, member, found⟩ := mapped key (by simp)
      obtain ⟨kept, sends⟩ := owns.feed_menu (answers 0) (among key (by simp)) member found down
      obtain ⟨owned, later⟩ := ih kept (fun other there => among other (by simp [there]))
        (fun other there => mapped other (by simp [there])) fun i => answers (i + 1)
      exact ⟨owned, sends.trans later⟩

theorem Owns.send_lifts (owns : Owns none { app with down := extra ++ app.down })
    {keys : List HidKey}
    (mapped : ∀ key ∈ keys, ∃ physical ∈ extra, physical.input = some (.key key))
    (answers : Nat → Answers) (input : Input) (single : input.Single)
    (holds : (app.sendEvents (keys.map fun key => .key key false) answers).outstanding.holds
      input = true) : app.outstanding.holds input = true ∧ ∀ key ∈ keys, input ≠ .key key := by
  induction keys generalizing app answers with
  | nil => exact ⟨holds, by simp⟩
  | cons key rest ih =>
      obtain ⟨physical, member, found⟩ := mapped key (by simp)
      obtain ⟨kept, _⟩ := owns.feed_menu (answers 0) (List.mem_singleton_self key) member found
        false
      obtain ⟨before, apart⟩ := ih kept (fun other there => mapped other (by simp [there]))
        (fun i => answers (i + 1)) holds
      obtain ⟨lifted, mono⟩ := owns.feed_menu_lifts (answers 0) (physical_single found)
      refine ⟨mono input single before, ?_⟩
      intro other here
      rcases List.mem_cons.mp here with rfl | there
      · rintro rfl
        rw [lifted] at before
        cases before
      · exact apart other there

/-- A shortcut presses nothing for good: it leaves the loop as it found it, or released. -/
theorem Owns.sendShortcut (owns : Owns none app) (builtin : Builtin) (answers : Nat → Answers) :
    Owns none (app.sendShortcut builtin answers) ∧
      Sends [] app (app.sendShortcut builtin answers) := by
  simp only [App.sendShortcut, shortcut_events, sendEvents_append]
  obtain ⟨pressed, first⟩ := (owns.more_down builtin.keys).send (fun _ => presses_lifted)
    (fun _ => presses_mapped) true answers
  generalize app.sendEvents (builtin.presses.map fun key => .key key true) answers = middle
    at pressed first ⊢
  generalize (fun i => answers (i + (builtin.presses.map fun key => Event.key key true).length)) =
    later
  obtain ⟨lifted, second⟩ := pressed.send (fun _ => id) (fun _ => lifts_mapped) false later
  have sends := first.trans second
  have up := pressed.send_lifts (fun _ => lifts_mapped) later
  generalize middle.sendEvents (builtin.lifts.map fun key => .key key false) later = after
    at lifted sends up ⊢
  refine ⟨⟨lifted.replayed, lifted.captured, lifted.pasting, lifted.closed, lifted.consumed, ?_, ?_,
    lifted.job⟩, { sends with held := ?_ }⟩
  · intro input single holds
    rcases lifted.held input single holds with paste | ⟨physical, here | never, mapped⟩
    · exact Or.inl paste
    · rcases List.mem_append.mp here with borrowed | own
      · obtain ⟨key, member, same⟩ := keys_lifted borrowed mapped
        exact absurd same ((up input single holds).2 key member)
      · exact Or.inr ⟨physical, Or.inl own, mapped⟩
    · cases never
  · intro physical input mapped owed
    refine ⟨?_, (lifted.owed physical input mapped owed).2⟩
    rw [sends.down]
    exact (owns.owed physical input mapped (sends.owed physical input owed)).1
  · intro input single holds
    rcases sends.held input single holds with ⟨key, member, same⟩ | kept
    · exact absurd same ((up input single holds).2 key member)
    · exact Or.inr kept

end Feed

theorem menuStep_owns {app after : App} {label : MenuLabel} (owns : Owns none app)
    (stepped : menuStep label app = some after) : Owns none after := by
  cases label with
  | event label => exact owns.step stepped
  | sendShortcut builtin answers =>
      cases Option.some.inj stepped
      exact (owns.sendShortcut builtin answers).1

theorem menu_owns {app : App} (reached : Reachable menuStep start app) : Owns none app := by
  refine reachable_preserves ?_ (fun _ _ _ owns stepped => menuStep_owns owns stepped) reached
  rintro state ⟨pointer, layout, rfl⟩
  exact Owns.start pointer layout

end NanoKvm.Viewer
