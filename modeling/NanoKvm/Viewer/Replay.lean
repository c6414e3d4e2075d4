import NanoKvm.Script.Taps
import NanoKvm.Viewer.Typing

/-!
# Replaying a script's transitions

`transitions` turns a list of full reports into edges, and `apply_key` turns the
edges back into reports.  Between nothing down and a tap every edge changes the
report, and where a tap begins and ends the held keys project to its reports.
-/

set_option autoImplicit false

namespace NanoKvm.Viewer

open NanoKvm.Proto
open NanoKvm.Lib
open NanoKvm.Script
open NanoKvm.Input (Event HeldState)

/-- Feed key edges to `apply_key`; the reports it sends.  A no-op is a stop. -/
def replay (held : HeldState) : List Event → Option (HeldState × List KeyboardReport)
  | [] => some (held, [])
  | .key key down :: rest =>
      match held.applyKey key down with
      | (_, none) => none
      | (after, some report) =>
          (replay after rest).map fun (last, shown) => (last, report :: shown)
  | _ :: _ => none

/-- A step of a script of taps: a wait, or a tap of a usage under modifiers.  Usage
zero is a chord of modifiers only. -/
inductive TapItem where
  | wait (millis : Nat)
  | tap (usage modifiers : U8) (label : StepLabel)
  deriving DecidableEq, Repr

def TapItem.steps : TapItem → List Step
  | .wait millis => [.wait millis]
  | .tap usage modifiers label => tapSteps usage modifiers label

def tapScript (items : List TapItem) : Script := ⟨items.flatMap TapItem.steps⟩

/-- Every report with a usage in it is `report`. -/
def OnlyUnder (report : KeyboardReport) (shown : List KeyboardReport) : Prop :=
  ∀ other ∈ shown, ∀ usage ∈ other.keys.toList, usage ≠ 0#8 → other = report

/-! ## Replays compose -/

theorem replay_append {held middle last : HeldState} {first second : List Event}
    {shown later : List KeyboardReport} (left : replay held first = some (middle, shown))
    (right : replay middle second = some (last, later)) :
    replay held (first ++ second) = some (last, shown ++ later) := by
  induction first generalizing held shown with
  | nil =>
      cases left
      exact right
  | cons event rest ih =>
      cases event with
      | key key down =>
          rw [List.cons_append, replay]
          rw [replay] at left
          rcases applied : held.applyKey key down with ⟨after, _ | report⟩
          · simp [applied] at left
          · simp only [applied, Option.map_eq_some_iff] at left
            obtain ⟨⟨last', shown'⟩, replayed, same⟩ := left
            cases same
            simp [ih replayed]
      | button | pointerAbs | pointerRel | wheel => cases left

theorem replay_one {held after : HeldState} {key : HidKey} {down : Bool} {report : KeyboardReport}
    (applied : held.applyKey key down = (after, some report)) :
    replay held [.key key down] = some (after, [report]) := by
  rw [replay, applied]
  rfl

/-! ## The modifiers of a tap -/

section Modifiers
variable {mask : U8} {bits : List U8}

theorem tapReport_keys (modifiers usage : U8)
    (member : usage ∈ (tapReport 0#8 modifiers).keys.toList) : usage = 0#8 := by
  simpa [tapReport] using member

theorem onlyUnder_none {report : KeyboardReport} {shown : List KeyboardReport}
    (empty : ∀ other ∈ shown, ∃ modifiers, other = tapReport 0#8 modifiers) :
    OnlyUnder report shown := by
  intro other member usage used real
  obtain ⟨modifiers, rfl⟩ := empty other member
  exact absurd (tapReport_keys modifiers usage used) real

/-- One more edge in front, which leaves modifiers alone down. -/
theorem replay_modifier {after : U8} {bit : U8} {down : Bool} {edges : List Event}
    {last : HeldState}
    (applied : (lone none mask).applyKey (.modifier bit) down =
      (lone none after, some (tapReport 0#8 after)))
    (later : ∃ shown, replay (lone none after) edges = some (last, shown) ∧
      ∀ other ∈ shown, ∃ modifiers, other = tapReport 0#8 modifiers) :
    ∃ shown, replay (lone none mask) (.key (.modifier bit) down :: edges) = some (last, shown) ∧
      ∀ other ∈ shown, ∃ modifiers, other = tapReport 0#8 modifiers := by
  obtain ⟨shown, replayed, empty⟩ := later
  refine ⟨tapReport 0#8 after :: shown, replay_append (replay_one applied) replayed, ?_⟩
  intro other member
  rcases List.mem_cons.mp member with rfl | member
  · exact ⟨after, rfl⟩
  · exact empty other member

/-- Bits that are not down are pressed one by one, each changing the report. -/
theorem replay_press (single : ∀ bit ∈ bits, IsBit bit) (distinct : bits.Nodup)
    (absent : ∀ bit ∈ bits, mask &&& bit = 0#8) :
    ∃ shown, replay (lone none mask) (bits.map fun bit => .key (.modifier bit) true) =
        some (lone none (bits.foldl (· ||| ·) mask), shown) ∧
      ∀ other ∈ shown, ∃ modifiers, other = tapReport 0#8 modifiers := by
  induction bits generalizing mask with
  | nil => exact ⟨[], rfl, by simp⟩
  | cons bit rest ih =>
      have here := single bit List.mem_cons_self
      have moves := or_ne_self here (absent bit List.mem_cons_self)
      have applied : (lone none mask).applyKey (.modifier bit) true =
          (lone none (mask ||| bit), some (tapReport 0#8 (mask ||| bit))) := by
        unfold HeldState.applyKey
        dsimp only
        rw [if_pos rfl]
        exact if_neg moves
      have later : ∀ other ∈ rest, (mask ||| bit) &&& other = 0#8 := by
        intro other member
        have apart : bit ≠ other := by
          rintro rfl
          exact (List.nodup_cons.mp distinct).1 member
        have kept := and_ne_zero_other (a := mask) here
          (single other (List.mem_cons_of_mem _ member)) apart true
        rw [if_pos rfl] at kept
        by_contra shared
        exact kept.mp shared (absent other (List.mem_cons_of_mem _ member))
      exact replay_modifier applied (ih (fun other member =>
        single other (List.mem_cons_of_mem _ member)) (List.nodup_cons.mp distinct).2 later)

/-- And bits that are down are let go one by one. -/
theorem replay_release (single : ∀ bit ∈ bits, IsBit bit) (distinct : bits.Nodup)
    (present : ∀ bit ∈ bits, mask &&& bit ≠ 0#8) :
    ∃ shown, replay (lone none mask) (bits.map fun bit => .key (.modifier bit) false) =
        some (lone none (bits.foldl (fun mask bit => mask &&& ~~~bit) mask), shown) ∧
      ∀ other ∈ shown, ∃ modifiers, other = tapReport 0#8 modifiers := by
  induction bits generalizing mask with
  | nil => exact ⟨[], rfl, by simp⟩
  | cons bit rest ih =>
      have here := single bit List.mem_cons_self
      have moves := clear_ne_self here (present bit List.mem_cons_self)
      have applied : (lone none mask).applyKey (.modifier bit) false =
          (lone none (mask &&& ~~~bit), some (tapReport 0#8 (mask &&& ~~~bit))) := by
        simp only [HeldState.applyKey, Bool.false_eq_true, if_false]
        exact if_neg moves
      have later : ∀ other ∈ rest, (mask &&& ~~~bit) &&& other ≠ 0#8 := by
        intro other member
        have apart : bit ≠ other := by
          rintro rfl
          exact (List.nodup_cons.mp distinct).1 member
        have kept := and_ne_zero_other (a := mask) here
          (single other (List.mem_cons_of_mem _ member)) apart false
        rw [if_neg (by decide)] at kept
        exact kept.mpr (present other (List.mem_cons_of_mem _ member))
      exact replay_modifier applied (ih (fun other member =>
        single other (List.mem_cons_of_mem _ member)) (List.nodup_cons.mp distinct).2 later)

end Modifiers

theorem replay_press_all (modifiers : U8) :
    ∃ shown, replay HeldState.new
        ((setBits modifiers).map fun bit => .key (.modifier bit) true) =
          some (lone none modifiers, shown) ∧
      ∀ other ∈ shown, ∃ modifiers, other = tapReport 0#8 modifiers := by
  have pressed := @replay_press 0#8 (setBits modifiers)
    (fun bit member => (mem_setBits.mp member).1) (setBits_nodup modifiers)
    (fun bit _ => BitVec.zero_and)
  rwa [gather_setBits, lone_none] at pressed

theorem replay_release_all (modifiers : U8) :
    ∃ shown, replay (lone none modifiers)
        ((setBits modifiers).map fun bit => .key (.modifier bit) false) =
          some (HeldState.new, shown) ∧
      ∀ other ∈ shown, ∃ modifiers, other = tapReport 0#8 modifiers := by
  have released := @replay_release modifiers (setBits modifiers)
    (fun bit member => (mem_setBits.mp member).1) (setBits_nodup modifiers)
    (fun bit member => (mem_setBits.mp member).2)
  rwa [clear_setBits, lone_none] at released

/-! ## A tap -/

/-- What is held between the press and the release of a tap. -/
def tapHeld (usage modifiers : U8) : HeldState :=
  lone (if usage = 0#8 then none else some usage) modifiers

theorem tapHeld_report (usage modifiers : U8) :
    (tapHeld usage modifiers).report = tapReport usage modifiers := by
  unfold tapHeld
  by_cases none : usage = 0#8
  · rw [if_pos none, none]
    rfl
  · rw [if_neg none]
    rfl

/-- The report differences of a tap of modifiers only. -/
theorem reportDifference_chord (modifiers : U8) :
    reportDifference KeyboardReport.releaseAll (tapReport 0#8 modifiers) =
        (setBits modifiers).map (fun bit => .key (.modifier bit) true) ∧
      reportDifference (tapReport 0#8 modifiers) KeyboardReport.releaseAll =
        (setBits modifiers).map fun bit => .key (.modifier bit) false := by
  have none : usagesNotIn (tapReport 0#8 modifiers) KeyboardReport.releaseAll = [] := rfl
  have edges := reportDifference_presses none
  rwa [List.map_nil, List.append_nil, List.map_nil, List.nil_append] at edges

theorem replay_down (usage modifiers : U8) :
    ∃ shown, replay HeldState.new
        (reportDifference KeyboardReport.releaseAll (tapReport usage modifiers)) =
          some (tapHeld usage modifiers, shown) ∧
      OnlyUnder (tapReport usage modifiers) shown := by
  obtain ⟨shown, pressed, empty⟩ := replay_press_all modifiers
  unfold tapHeld
  by_cases none : usage = 0#8
  · rw [if_pos none, none, (reportDifference_chord modifiers).1]
    exact ⟨shown, pressed, onlyUnder_none empty⟩
  · rw [if_neg none, (reportDifference_tap none modifiers).1]
    refine ⟨_, replay_append pressed (replay_one (lone_press usage modifiers)), ?_⟩
    intro other member used occurs real
    rcases List.mem_append.mp member with member | last
    · exact onlyUnder_none empty other member used occurs real
    · exact List.mem_singleton.mp last

theorem replay_up (usage modifiers : U8) :
    ∃ shown, replay (tapHeld usage modifiers)
        (reportDifference (tapReport usage modifiers) KeyboardReport.releaseAll) =
          some (HeldState.new, shown) ∧
      OnlyUnder KeyboardReport.releaseAll shown := by
  obtain ⟨shown, released, empty⟩ := replay_release_all modifiers
  unfold tapHeld
  by_cases none : usage = 0#8
  · rw [if_pos none, none, (reportDifference_chord modifiers).2]
    exact ⟨shown, released, onlyUnder_none empty⟩
  · rw [if_neg none, (reportDifference_tap none modifiers).2]
    refine ⟨_, replay_append (replay_one (lone_release usage modifiers)) released, ?_⟩
    refine onlyUnder_none fun other member => ?_
    rcases List.mem_append.mp member with first | member
    · exact ⟨modifiers, List.mem_singleton.mp first⟩
    · exact empty other member

/-! ## A script of taps -/

/-- The report a run of steps leaves the target with. -/
def lastReport (held : KeyboardReport) (steps : List Step) : KeyboardReport :=
  steps.foldl (fun held step => match step with
    | .send outgoing => outgoing.report
    | .wait _ => held) held

theorem transitionsFrom_append (held : KeyboardReport) (first second : List Step) :
    transitionsFrom held (first ++ second) =
      transitionsFrom held first ++ transitionsFrom (lastReport held first) second := by
  induction first generalizing held with
  | nil => rfl
  | cons step rest ih =>
      cases step with
      | send outgoing =>
          rw [List.cons_append, transitionsFrom, transitionsFrom, ih, List.append_assoc]
          rfl
      | wait millis =>
          rw [List.cons_append, transitionsFrom, transitionsFrom, ih]
          rfl

theorem lastReport_append (held : KeyboardReport) (first second : List Step) :
    lastReport held (first ++ second) = lastReport (lastReport held first) second :=
  List.foldl_append

/-- The edges a step adds lead from what was held to the step's report, each of them
changes the report, and no usage is shown but in the step's own report. -/
def Reproduces (before : List Step) (outgoing : Outgoing) : Prop :=
  ∃ held earlier edges next shown,
    replay HeldState.new (transitions ⟨before⟩) = some (held, earlier) ∧
    transitions ⟨before ++ [.send outgoing]⟩ = transitions ⟨before⟩ ++ edges ∧
    replay held edges = some (next, shown) ∧ next.report = outgoing.report ∧
    OnlyUnder outgoing.report shown

theorem item_released (item : TapItem) :
    lastReport KeyboardReport.releaseAll item.steps = KeyboardReport.releaseAll := by
  cases item <;> rfl

theorem items_released (items : List TapItem) :
    lastReport KeyboardReport.releaseAll (tapScript items).steps = KeyboardReport.releaseAll := by
  induction items with
  | nil => rfl
  | cons item rest ih =>
      change lastReport _ (item.steps ++ (tapScript rest).steps) = _
      rw [lastReport_append, item_released, ih]

theorem item_replay (item : TapItem) :
    ∃ shown, replay HeldState.new (transitions ⟨item.steps⟩) = some (HeldState.new, shown) := by
  cases item with
  | wait millis => exact ⟨[], rfl⟩
  | tap usage modifiers label =>
      obtain ⟨pressed, down, -⟩ := replay_down usage modifiers
      obtain ⟨released, up, -⟩ := replay_up usage modifiers
      refine ⟨pressed ++ released, ?_⟩
      have both := replay_append down up
      rwa [← List.append_nil (reportDifference (tapReport usage modifiers) _)] at both

/-- From nothing held to nothing held, without a no-op. -/
theorem items_replay (items : List TapItem) :
    ∃ shown, replay HeldState.new (transitions (tapScript items)) =
      some (HeldState.new, shown) := by
  induction items with
  | nil => exact ⟨[], rfl⟩
  | cons item rest ih =>
      obtain ⟨first, here⟩ := item_replay item
      obtain ⟨second, later⟩ := ih
      refine ⟨first ++ second, ?_⟩
      change replay _ (transitionsFrom _ (item.steps ++ (tapScript rest).steps)) = _
      rw [transitionsFrom_append, item_released]
      exact replay_append here later

/-- A report of a script of taps presses a tap, or lets it go. -/
theorem items_split {items : List TapItem} {before after : List Step} {outgoing : Outgoing}
    (split : (tapScript items).steps = before ++ .send outgoing :: after) :
    ∃ earlier usage modifiers,
      before = (tapScript earlier).steps ∧ outgoing.report = tapReport usage modifiers ∨
      ∃ label, before =
          (tapScript earlier).steps ++ [.send ⟨label, tapReport usage modifiers⟩] ∧
        outgoing.report = KeyboardReport.releaseAll := by
  induction items generalizing before with
  | nil => cases before <;> cases split
  | cons item rest ih =>
      change item.steps ++ (tapScript rest).steps = _ at split
      cases item with
      | wait millis =>
          cases before with
          | nil => cases split
          | cons step before =>
              injection split with same split
              obtain ⟨earlier, usage, modifiers, found⟩ := ih split
              refine ⟨.wait millis :: earlier, usage, modifiers, ?_⟩
              rcases found with ⟨rfl, report⟩ | ⟨label, rfl, report⟩
              · exact .inl ⟨congrArg (· :: _) same.symm, report⟩
              · exact .inr ⟨label, congrArg (· :: _) same.symm, report⟩
      | tap usage modifiers label =>
          rcases before with _ | ⟨press, _ | ⟨release, before⟩⟩
          · injection split with same
            injection same with same
            exact ⟨[], usage, modifiers, .inl ⟨rfl, by rw [← same]; rfl⟩⟩
          · injection split with press same
            injection same with same
            injection same with same
            exact ⟨[], usage, modifiers, .inr ⟨label, by rw [← press]; rfl, by rw [← same]⟩⟩
          · injection split with press split
            injection split with release split
            subst press release
            obtain ⟨earlier, usage', modifiers', found⟩ := ih split
            refine ⟨.tap usage modifiers label :: earlier, usage', modifiers', ?_⟩
            rcases found with ⟨rfl, report⟩ | ⟨label', rfl, report⟩
            · exact .inl ⟨rfl, report⟩
            · exact .inr ⟨label', rfl, report⟩

theorem items_reproduce {items : List TapItem} {before after : List Step} {outgoing : Outgoing}
    (split : (tapScript items).steps = before ++ .send outgoing :: after) :
    Reproduces before outgoing := by
  obtain ⟨earlier, usage, modifiers, found⟩ := items_split split
  obtain ⟨seen, replayed⟩ := items_replay earlier
  have released := items_released earlier
  rcases found with ⟨rfl, report⟩ | ⟨label, rfl, report⟩
  · obtain ⟨shown, down, under⟩ := replay_down usage modifiers
    rw [← report] at down under
    refine ⟨HeldState.new, seen, _, tapHeld usage modifiers, shown, replayed, ?_, down, ?_, under⟩
    · rw [transitions, transitionsFrom_append, released, transitionsFrom, transitionsFrom,
        List.append_nil]
      rfl
    · rw [tapHeld_report, report]
  · obtain ⟨pressed, down, -⟩ := replay_down usage modifiers
    obtain ⟨shown, up, under⟩ := replay_up usage modifiers
    rw [← report] at up under
    have press : transitions ⟨(tapScript earlier).steps ++
        [.send ⟨label, tapReport usage modifiers⟩]⟩ = transitions (tapScript earlier) ++
          reportDifference KeyboardReport.releaseAll (tapReport usage modifiers) := by
      rw [transitions, transitionsFrom_append, released, transitionsFrom, transitionsFrom,
        List.append_nil]
      rfl
    refine ⟨tapHeld usage modifiers, seen ++ pressed, _, HeldState.new, shown, ?_, ?_, up, ?_,
      under⟩
    · rw [press]
      exact replay_append replayed down
    · rw [transitions, transitionsFrom_append, lastReport_append, released, transitionsFrom,
        transitionsFrom, List.append_nil]
      rfl
    · rw [report]
      rfl

/-- The transitions of a script of taps replay without a no-op from nothing held to
nothing held, and every step of it is reproduced. -/
theorem transitions_replay (items : List TapItem) :
    (∃ shown, replay HeldState.new (transitions (tapScript items)) =
      some (HeldState.new, shown)) ∧
    ∀ before outgoing after, (tapScript items).steps = before ++ .send outgoing :: after →
      Reproduces before outgoing :=
  ⟨items_replay items, fun _ _ _ split => items_reproduce split⟩

/-- A shifted letter, a chord of a modifier alone, and its letting go. -/
theorem transitions_replay_mixed :
    Reproduces [] ⟨.typed 'A', tapReport 0x04#8 0x02#8⟩ ∧
      Reproduces (tapSteps 0x04#8 0x02#8 (.typed 'A') ++ [.wait 5])
        ⟨.key "super", tapReport 0#8 0x08#8⟩ :=
  have items := transitions_replay [.tap 0x04#8 0x02#8 (.typed 'A'), .wait 5,
    .tap 0#8 0x08#8 (.key "super")]
  ⟨items.2 _ _ _ rfl, items.2 (tapSteps 0x04#8 0x02#8 (.typed 'A') ++ [.wait 5]) _ _ rfl⟩

/-! ## Compiled scripts -/

/-- The taps of a compiled script. -/
theorem tapped_items {steps : List Step} (tapped : Tapped steps) :
    ∃ items, steps = (tapScript items).steps := by
  induction tapped with
  | done => exact ⟨[], rfl⟩
  | @wait millis rest _ ih =>
      obtain ⟨items, rfl⟩ := ih
      exact ⟨.wait millis :: items, rfl⟩
  | @tap usage modifiers rest label _ _ ih =>
      obtain ⟨items, rfl⟩ := ih
      exact ⟨.tap usage modifiers label :: items, rfl⟩

theorem tapped_replay {script : Script} (tapped : Tapped script.steps) :
    ∃ shown, replay HeldState.new (transitions script) = some (HeldState.new, shown) := by
  obtain ⟨items, same⟩ := tapped_items tapped
  have whole : script = tapScript items := congrArg Script.mk same
  rw [whole]
  exact items_replay items

/-- Whatever the viewer compiles replays from nothing held to nothing held. -/
theorem compiled_replay (layout : Layout) (caps : CapsLock) {script : Script}
    (compiled : (∃ chords, compileKey chords layout = .ok script) ∨
      ∃ text, compileType text layout caps = .ok script) :
    ∃ shown, replay HeldState.new (transitions script) = some (HeldState.new, shown) := by
  rcases compiled with ⟨chords, compiled⟩ | ⟨text, compiled⟩
  · exact tapped_replay (compileKey_tapped compiled)
  · exact tapped_replay (compileType_tapped compiled)

end NanoKvm.Viewer
