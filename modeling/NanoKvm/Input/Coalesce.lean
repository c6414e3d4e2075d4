import NanoKvm.Lib.Blocks
import NanoKvm.Lib.Transition
import NanoKvm.Input.Shared

/-!
# What coalescing keeps

Within a session producers submit and the writer pops, in any order.  A popped
run holds what consecutive motion came to; how much motion one run takes up
depends on when the writer pops, but no motion passes a transition.
-/

set_option autoImplicit false

namespace NanoKvm.Input

open NanoKvm.Proto NanoKvm.Lib

/-! ## The traffic of one session -/

inductive Transfer where
  | submit (event : Event)
  | pop
  deriving DecidableEq, Repr

/-- The shared state, what was submitted to it and what was popped from it. -/
structure Traffic where
  shared : Shared
  submitted : List Event
  popped : List Entry
  deriving DecidableEq, Repr

/-- A refused submission is no move: an overflow ends the session. -/
def Traffic.step : Transfer → Traffic → Option Traffic
  | .submit event, traffic =>
      match traffic.shared.submit event with
      | .ok shared => some { traffic with
          shared := shared
          submitted := traffic.submitted ++ [event] }
      | .error _ => none
  | .pop, traffic =>
      match traffic.shared.queue.pop with
      | some (entry, queue) => some { traffic with
          shared := { traffic.shared with queue := queue }
          popped := traffic.popped ++ [entry] }
      | none => none

/-- A session begins with an empty queue. -/
def Traffic.start (shared : Shared) : Traffic := ⟨shared, [], []⟩

/-- Everything that left or is to leave the queue. -/
def Traffic.entries (traffic : Traffic) : List Entry :=
  traffic.popped ++ traffic.shared.queue.entries

/-! ## One run of motion -/

def Event.position : Event → Option (U16 × U16)
  | .pointerAbs x y => some (clampAbs x, clampAbs y)
  | _ => none

def Event.deltaX : Event → Int
  | .pointerRel dx _ => dx
  | _ => 0

def Event.deltaY : Event → Int
  | .pointerRel _ dy => dy
  | _ => 0

def Event.deltaWheel : Event → Int
  | .wheel delta => delta
  | _ => 0

/-- The run an event starts. -/
def Event.run (event : Event) : MotionRun := ⟨event.position, event.deltaX, event.deltaY, event.deltaWheel⟩

/-- A run after one more event. -/
def MotionRun.absorb (motion : MotionRun) : Event → MotionRun
  | .pointerAbs x y => { motion with abs := some (clampAbs x, clampAbs y) }
  | .pointerRel dx dy => { motion with
      dx := saturatingAdd motion.dx dx
      dy := saturatingAdd motion.dy dy }
  | .wheel delta => { motion with wheel := saturatingAdd motion.wheel delta }
  | _ => motion

/-- What consecutive motion comes to. -/
def coalesce (first : Event) (rest : List Event) : MotionRun :=
  rest.foldl MotionRun.absorb first.run

/-- No `i32` accumulation saturates while the events are absorbed. -/
def MotionRun.Sums : MotionRun → List Event → Prop
  | _, [] => True
  | motion, event :: rest =>
      (motion.absorb event).dx = motion.dx + event.deltaX ∧
        (motion.absorb event).dy = motion.dy + event.deltaY ∧
        (motion.absorb event).wheel = motion.wheel + event.deltaWheel ∧
        (motion.absorb event).Sums rest

def total (values : List Int) : Int := values.foldr (· + ·) 0

@[simp] theorem total_nil : total [] = 0 := rfl

@[simp] theorem total_cons (value : Int) (values : List Int) :
    total (value :: values) = value + total values := rfl

@[simp] theorem total_append (first second : List Int) :
    total (first ++ second) = total first + total second := by
  induction first with
  | nil => simp
  | cons value first ih =>
      rw [List.cons_append, total_cons, ih, total_cons]
      omega

theorem submit_motion {shared after : Shared} {event : Event} (plain : event.transition = none)
    (taken : shared.submit event = .ok after) :
    after = { shared with
      queue := shared.queue.pushMotion shared.requestedEpoch (fun motion => motion.absorb event)
        event.run } := by
  unfold Shared.submit at taken
  split at taken
  · cases taken
  split at taken
  · cases taken
  split at taken
  · cases taken
  cases event with
  | key key down => cases plain
  | button mask down => cases plain
  | pointerAbs x y => exact (Except.ok.inj taken).symm
  | pointerRel dx dy => exact (Except.ok.inj taken).symm
  | wheel delta => exact (Except.ok.inj taken).symm

theorem absorb_abs (motion : MotionRun) (event : Event) :
    (motion.absorb event).abs = event.position.or motion.abs := by
  cases event <;> rfl

theorem absorbs_abs (motion : MotionRun) (events : List Event) :
    (events.foldl MotionRun.absorb motion).abs =
      ((events.filterMap Event.position).getLast?).or motion.abs := by
  induction events generalizing motion with
  | nil => rfl
  | cons event rest ih =>
      rw [List.foldl_cons, ih, absorb_abs]
      cases here : event.position with
      | none => simp [here]
      | some position =>
          rw [List.filterMap_cons_some here, List.getLast?_cons]
          cases (rest.filterMap Event.position).getLast? <;> simp

theorem absorbs_sums {motion : MotionRun} {events : List Event} (sums : motion.Sums events) :
    (events.foldl MotionRun.absorb motion).dx = motion.dx + total (events.map Event.deltaX) ∧
      (events.foldl MotionRun.absorb motion).dy = motion.dy + total (events.map Event.deltaY) ∧
      (events.foldl MotionRun.absorb motion).wheel =
        motion.wheel + total (events.map Event.deltaWheel) := by
  induction events generalizing motion with
  | nil => simp
  | cons event rest ih =>
      obtain ⟨dx, dy, wheel, later⟩ := sums
      obtain ⟨dxs, dys, wheels⟩ := ih later
      simp only [List.foldl_cons, List.map_cons, total_cons, dxs, dys, wheels, dx, dy, wheel]
      omega

/-! ## The pieces the entries hold -/

/-- The entry holds what its piece of the submissions came to. -/
inductive Holds : List Event → EntryKind → Prop where
  | motion (first : Event) (rest : List Event)
      (plain : ∀ event ∈ first :: rest, event.transition = none) :
      Holds (first :: rest) (.motion (coalesce first rest))
  | transition (event : Event) (kind : EntryKind) (barrier : kind.isBarrier = true)
      (same : event.transition = some kind) : Holds [event] kind

/-- The submissions in pieces, one for each entry. -/
def Traffic.Pieces (traffic : Traffic) : Prop :=
  ∃ pieces : List (List Event), pieces.flatten = traffic.submitted ∧
    List.Forall₂ Holds pieces (traffic.entries.map Entry.kind)

theorem forall₂_snoc {pieces : List (List Event)} {kinds : List EntryKind} {kind : EntryKind}
    (held : List.Forall₂ Holds pieces (kinds ++ [kind])) :
    ∃ earlier last, pieces = earlier ++ [last] ∧ List.Forall₂ Holds earlier kinds ∧
      Holds last kind := by
  have first := List.forall₂_take_append _ _ _ held
  have second := List.forall₂_drop_append _ _ _ held
  rw [List.forall₂_cons_right_iff] at second
  obtain ⟨last, rest, holds, none, shape⟩ := second
  rw [List.forall₂_nil_right_iff] at none
  subst none
  exact ⟨_, last, by rw [← shape, List.take_append_drop], first, holds⟩

section Step
variable {traffic after : Traffic}

theorem Holds.absorb {piece : List Event} {motion : MotionRun} {event : Event}
    (holds : Holds piece (.motion motion)) (plain : event.transition = none) :
    Holds (piece ++ [event]) (.motion (motion.absorb event)) := by
  cases holds with
  | motion first rest all =>
      have grown : (coalesce first rest).absorb event = coalesce first (rest ++ [event]) := by
        simp [coalesce]
      rw [grown, List.cons_append]
      apply Holds.motion
      intro other member
      rcases List.mem_append.mp (List.cons_append ▸ member) with earlier | new
      · exact all other earlier
      · rw [List.mem_singleton.mp new]
        exact plain
  | transition event kind barrier same => cases barrier

/-- A transition queues one entry; motion starts a run or joins the last one. -/
theorem step_pieces {transfer : Transfer} (pieces : traffic.Pieces)
    (stepped : traffic.step transfer = some after) : after.Pieces := by
  obtain ⟨pieces, whole, held⟩ := pieces
  unfold Traffic.step at stepped
  cases transfer with
  | pop =>
      dsimp only at stepped
      split at stepped
      · rename_i entry queue popped
        cases stepped
        refine ⟨pieces, whole, ?_⟩
        rw [Traffic.entries, pop_entries popped] at held
        simpa [Traffic.entries] using held
      · cases stepped
  | submit event =>
      dsimp only at stepped
      split at stepped
      · rename_i shared taken
        cases stepped
        have outcome := submit_submits traffic.shared event
        rw [taken] at outcome
        cases plain : event.transition with
        | none =>
            obtain rfl := submit_motion plain taken
            unfold QueueState.pushMotion
            cases found : tailRun traffic.shared.queue.entries traffic.shared.requestedEpoch with
            | none =>
                have starts : Holds [event] (.motion event.run) :=
                  .motion event [] (by simpa using plain)
                refine ⟨pieces ++ [[event]], by simp [whole], ?_⟩
                simpa [Traffic.entries] using List.rel_append held (.cons starts .nil)
            | some tail =>
                obtain ⟨before, motion⟩ := tail
                have shape : traffic.entries.map Entry.kind =
                    (traffic.popped ++ before).map Entry.kind ++ [.motion motion] := by
                  rw [Traffic.entries, tailRun_some found]
                  simp
                rw [shape] at held
                obtain ⟨earlier, last, rfl, kept, joined⟩ := forall₂_snoc held
                refine ⟨earlier ++ [last ++ [event]], by simp [← whole], ?_⟩
                simpa [Traffic.entries] using
                  List.rel_append kept (.cons (joined.absorb plain) .nil)
        | some kind =>
            cases outcome with
            | motion _ plain' => rw [plain] at plain'; cases plain'
            | transition _ barrier same pushed =>
                refine ⟨pieces ++ [[event]], by simp [whole], ?_⟩
                have queued := Holds.transition event _ barrier same
                rw [Traffic.entries, pushBarrier_entries pushed]
                simpa [Traffic.entries] using List.rel_append held (.cons queued .nil)
      · cases stepped

end Step

/-! ## Block by block -/

/-- The transition an entry is. -/
def EntryKind.separator (kind : EntryKind) : Option EntryKind :=
  if kind.isBarrier then some kind else none

def EntryKind.position : EntryKind → Option (U16 × U16)
  | .motion run => run.abs
  | _ => none

def EntryKind.deltaX : EntryKind → Int
  | .motion run => run.dx
  | _ => 0

def EntryKind.deltaY : EntryKind → Int
  | .motion run => run.dy
  | _ => 0

def EntryKind.deltaWheel : EntryKind → Int
  | .motion run => run.wheel
  | _ => 0

/-- No accumulation of the piece saturates. -/
def Unsaturated : List Event → Prop
  | [] => True
  | first :: rest => first.run.Sums rest

/-- What a block of submissions and the entries it was popped as have in common: the
last position, and the totals if no accumulation saturates. -/
structure Carries (block : List Event) (runs : List EntryKind) : Prop where
  position : (runs.filterMap EntryKind.position).getLast? =
    (block.filterMap Event.position).getLast?
  totals : ∃ pieces : List (List Event), pieces.flatten = block ∧
    List.Forall₂ Holds pieces runs ∧
    ((∀ piece ∈ pieces, Unsaturated piece) →
      total (runs.map EntryKind.deltaX) = total (block.map Event.deltaX) ∧
        total (runs.map EntryKind.deltaY) = total (block.map Event.deltaY) ∧
        total (runs.map EntryKind.deltaWheel) = total (block.map Event.deltaWheel))

theorem carries_nil : Carries [] [] :=
  ⟨rfl, [], rfl, .nil, fun _ => ⟨rfl, rfl, rfl⟩⟩

theorem coalesce_position (first : Event) (rest : List Event) :
    (coalesce first rest).abs = ((first :: rest).filterMap Event.position).getLast? := by
  rw [coalesce, absorbs_abs]
  cases here : first.position with
  | none => simp [here, Event.run]
  | some position =>
      rw [List.filterMap_cons_some here, List.getLast?_cons, Event.run, here]
      cases (rest.filterMap Event.position).getLast? <;> rfl

theorem coalesce_sums {first : Event} {rest : List Event}
    (unsaturated : Unsaturated (first :: rest)) :
    (coalesce first rest).dx = total ((first :: rest).map Event.deltaX) ∧
      (coalesce first rest).dy = total ((first :: rest).map Event.deltaY) ∧
      (coalesce first rest).wheel = total ((first :: rest).map Event.deltaWheel) := by
  simpa [coalesce, Event.run] using absorbs_sums unsaturated

/-- One more run, before the others of the block. -/
theorem Carries.grow {first : Event} {rest block : List Event} {runs : List EntryKind}
    (carries : Carries block runs)
    (plain : ∀ event ∈ first :: rest, event.transition = none) :
    Carries ((first :: rest) ++ block) (.motion (coalesce first rest) :: runs) := by
  obtain ⟨position, pieces, whole, held, totals⟩ := carries
  refine ⟨?_, (first :: rest) :: pieces, by simp [whole], .cons (.motion first rest plain) held, ?_⟩
  · have run : EntryKind.position (.motion (coalesce first rest)) =
        ((first :: rest).filterMap Event.position).getLast? := coalesce_position first rest
    rw [List.filterMap_append, List.getLast?_append, ← position, List.filterMap_cons, run]
    cases ((first :: rest).filterMap Event.position).getLast? with
    | none => simp
    | some position => simp [List.getLast?_cons, Option.or_some]
  · intro unsaturated
    obtain ⟨dx, dy, wheel⟩ := coalesce_sums (unsaturated (first :: rest) (by simp))
    obtain ⟨dxs, dys, wheels⟩ := totals fun piece member => unsaturated piece (by simp [member])
    simp only [List.map_cons, total_cons, List.map_append, total_append, dxs, dys, wheels,
      EntryKind.deltaX, EntryKind.deltaY, EntryKind.deltaWheel, dx, dy, wheel]
    exact ⟨trivial, trivial, trivial⟩

/-- Pieces held entry by entry make blocks that correspond. -/
theorem holds_blocks {pieces : List (List Event)} {kinds : List EntryKind}
    (held : List.Forall₂ Holds pieces kinds) :
    (blocks Event.transition pieces.flatten).Match Carries (blocks EntryKind.separator kinds) := by
  induction held with
  | nil => exact ⟨.nil, carries_nil⟩
  | @cons piece kind pieces kinds holds _ ih =>
      rw [List.flatten_cons]
      cases holds with
      | motion first rest plain =>
          rw [blocks_append plain]
          exact ih.prepend fun block runs carries => carries.grow plain
      | transition event _ barrier same =>
          have separates : kind.separator = some kind := by simp [EntryKind.separator, barrier]
          rw [List.singleton_append, blocks, blocks, same, separates]
          exact ⟨.cons ⟨carries_nil, rfl⟩ ih.closed, ih.rest⟩

/-! ## A session's traffic -/

theorem start_pieces {shared : Shared} (fresh : shared.queue.entries = []) :
    (Traffic.start shared).Pieces := by
  refine ⟨[], rfl, ?_⟩
  simp [Traffic.entries, Traffic.start, fresh]

/-- However the pops fall, the entries are the submitted transitions, in order, and
between two of them what the motion submitted there came to; the blocks already
popped are the first of them. -/
theorem traffic_coalesces {shared : Shared} {transfers : List Transfer} {traffic : Traffic}
    (fresh : shared.queue.entries = [])
    (success : run Traffic.step transfers (Traffic.start shared) = some traffic) :
    (blocks Event.transition traffic.submitted).Match Carries
        (blocks EntryKind.separator (traffic.entries.map Entry.kind)) ∧
      traffic.submitted.filterMap Event.transition =
        (traffic.entries.map Entry.kind).filterMap EntryKind.separator ∧
      (blocks EntryKind.separator (traffic.popped.map Entry.kind)).1 <+:
        (blocks EntryKind.separator (traffic.entries.map Entry.kind)).1 := by
  obtain ⟨pieces, whole, held⟩ :=
    run_preserves (fun _ _ _ => step_pieces) (start_pieces fresh) success
  have matched := holds_blocks held
  rw [whole] at matched
  refine ⟨matched, ?_, ?_⟩
  · rw [← blocks_separators, ← blocks_separators]
    exact matched.separators
  · rw [Traffic.entries, List.map_append]
    exact blocks_prefix _ _ _

/-- Motion on both sides of a press, the first of it popped before the rest came. -/
theorem traffic_coalesces_split :
    ∃ traffic, run Traffic.step
        [.submit (.pointerRel 3 4), .pop, .submit (.pointerRel 5 6), .submit (.pointerAbs 7#16 8#16),
          .submit (.button 1#8 true), .submit (.wheel 2), .pop, .pop, .pop]
        (Traffic.start (Shared.new 8)) = some traffic ∧
      (blocks Event.transition traffic.submitted).Match Carries
        (blocks EntryKind.separator (traffic.entries.map Entry.kind)) ∧
      traffic.submitted.filterMap Event.transition =
        (traffic.entries.map Entry.kind).filterMap EntryKind.separator ∧
      (blocks EntryKind.separator (traffic.popped.map Entry.kind)).1 <+:
        (blocks EntryKind.separator (traffic.entries.map Entry.kind)).1 := by
  obtain ⟨traffic, success⟩ := Option.isSome_iff_exists.mp (show (run Traffic.step
    [.submit (.pointerRel 3 4), .pop, .submit (.pointerRel 5 6), .submit (.pointerAbs 7#16 8#16),
      .submit (.button 1#8 true), .submit (.wheel 2), .pop, .pop, .pop]
    (Traffic.start (Shared.new 8))).isSome = true by decide)
  exact ⟨traffic, success, traffic_coalesces (by decide) success⟩

/-- A position outside the coordinate range is not the one that is popped. -/
theorem traffic_clamps :
    (run Traffic.step [.submit (.pointerAbs 5000#16 0#16), .pop]
      (Traffic.start (Shared.new 8))).map (fun traffic =>
        (traffic.submitted, traffic.popped.map Entry.kind, traffic.shared.queue.entries)) =
      some ([.pointerAbs 5000#16 0#16], [.motion ⟨some (4095#16, 0#16), 0, 0, 0⟩], []) ∧
    some (4095#16, 0#16) ≠ some (5000#16, 0#16) := by
  decide

end NanoKvm.Input
