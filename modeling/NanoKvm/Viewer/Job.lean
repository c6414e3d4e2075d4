import NanoKvm.Viewer.Ownership

/-!
# A paste job keeps its promise

A new job fits: its prelude lifts everything outstanding and its body, made of
whole keystrokes, ends with nothing down.  Each delivered step keeps that.
-/

set_option autoImplicit false

namespace NanoKvm.Viewer

open NanoKvm.Proto
open NanoKvm.Lib
open NanoKvm.Script
open NanoKvm.Input (Event)

/-! ## The body -/

theorem keystrokes_edges {layout : Layout} {caps : CapsLock} {c : Char} :
    ∀ event ∈ keystrokes layout caps c, KeyEdge event := by
  have shiftSingle : (Input.key (.modifier Modifier.leftShift)).Single := by
    change IsBit Modifier.leftShift
    decide
  intro event member
  unfold keystrokes at member
  cases found : layout.stroke c with
  | none => simp [found] at member
  | some stroke =>
      obtain ⟨usage, shift⟩ := stroke
      simp only [found] at member
      cases pressed : caps.shiftFor c shift <;>
        simp only [strokeEvents, pressed, if_true, Bool.false_eq_true, if_false, List.nil_append,
          List.append_nil, List.cons_append, List.mem_cons, List.not_mem_nil, or_false] at member
      · rcases member with rfl | rfl <;> exact ⟨_, _, rfl, trivial⟩
      · rcases member with rfl | rfl | rfl | rfl
        · exact ⟨_, _, rfl, shiftSingle⟩
        · exact ⟨_, _, rfl, trivial⟩
        · exact ⟨_, _, rfl, trivial⟩
        · exact ⟨_, _, rfl, shiftSingle⟩

/-- Pressing and lifting one key from nothing leaves nothing. -/
theorem keystrokes_balanced (layout : Layout) (caps : CapsLock) (c : Char) :
    (keystrokes layout caps c).foldl Outstanding.record .none = .none := by
  unfold keystrokes
  cases layout.stroke c with
  | none => rfl
  | some stroke =>
      obtain ⟨usage, shift⟩ := stroke
      cases pressed : caps.shiftFor c shift <;>
        simp [strokeEvents, pressed, Outstanding.record, Outstanding.setKey, Outstanding.none]

theorem body_balanced (layout : Layout) (caps : CapsLock) (text : List Char) :
    (text.flatMap (keystrokes layout caps)).foldl Outstanding.record .none = .none := by
  induction text with
  | nil => rfl
  | cons c rest ih => rw [List.flatMap_cons, List.foldl_append, keystrokes_balanced, ih]

theorem keystrokes_ne_nil {layout : Layout} (caps : CapsLock) {c : Char}
    (reached : (layout.stroke c).isSome = true) : keystrokes layout caps c ≠ [] := by
  obtain ⟨⟨usage, shift⟩, found⟩ := Option.isSome_iff_exists.mp reached
  simp [keystrokes, found, strokeEvents]

/-! ## The job -/

/-- A job started over what the target owns. -/
theorem Fits.new {owed : Input → Prop} {outstanding : Outstanding} {text : List Char}
    {layout : Layout} {capsLock : Option Bool} {body : List Event}
    (accepted : compile text layout capsLock = .ok body)
    (holds : ∀ input, owed input → input.Single ∧ outstanding.holds input = true) :
    Fits owed (PasteJob.new outstanding body) := by
  obtain ⟨script, compiled, rfl, _⟩ := compile_ok accepted
  have typed := transitions_ok compiled
  obtain ⟨reached, _⟩ := compileType_ok compiled
  refine ⟨rfl, ?_, heldInputs outstanding, transitions script, ?_, ?_, ?_, ?_, fun _ => rfl, ?_⟩
  · cases found : normalise text with
    | nil => exact absurd found (compileType_ne_nil compiled)
    | cons c rest =>
        have := keystrokes_ne_nil .off (reached c (by simp [found]))
        have : 0 < (transitions script).length := by
          rw [typed, found, List.flatMap_cons, List.length_append]
          have := List.length_pos_of_ne_nil this
          omega
        simp only [PasteJob.new, List.length_append]
        omega
  · simp [PasteJob.new, releasePrelude_eq]
  · exact fun input member => (mem_heldInputs.mp member).1
  · exact fun input owes => mem_heldInputs.mpr (holds input owes)
  · intro event member
    rw [typed, List.mem_flatMap] at member
    obtain ⟨c, _, member⟩ := member
    exact keystrokes_edges event member
  · rw [typed]
    exact body_balanced layout .off (normalise text)

/-- What delivering one step of a job does. -/
structure Delivers (owed : Input → Prop) (job : PasteJob) (input : Input) (down : Bool) : Prop where
  step : job.nextStep = some (input.event down)
  single : input.Single
  trigger : stepTrigger (input.event down) = some (input.trigger down)
  held : job.delivered.held = job.held.set input down
  next : ∀ owed' : Input → Prop,
    (∀ other, owed' other → owed other ∧ (down = false → other ≠ input)) →
    job.delivered.outcome = none → Fits owed' job.delivered
  done : ∀ outcome, job.delivered.outcome = some outcome → job.held.set input down = .none

theorem delivered_eq {job : PasteJob} {event : Event} {held : Outstanding}
    (running : job.outcome = none) (here : job.steps[job.sent]? = some event)
    (takes : stepHeld job.held event = some held) :
    job.delivered =
      { job with
        held
        sent := job.sent + 1
        outcome :=
          if job.sent + 1 = job.steps.length then some (.done (job.sent + 1)) else none } := by
  simp [PasteJob.delivered, running, here, takes]

theorem none_set_up (input : Input) : Outstanding.none.set input false = .none := by
  cases input with
  | button mask => simp [Outstanding.set, Outstanding.setButton, Outstanding.none]
  | key key =>
      cases key <;> simp [Outstanding.set, Outstanding.setKey, Outstanding.none]

/-- A job that fits delivers a step: an up of its prelude, or a key of its body. -/
theorem Fits.delivers {owed : Input → Prop} {job : PasteJob} (fits : Fits owed job) :
    ∃ input down, Delivers owed job input down := by
  obtain ⟨running, unfinished, ups, body, remaining, singles, lifts, edges, fresh, balanced⟩ := fits
  have split := List.drop_eq_getElem_cons unfinished
  rw [remaining] at split
  have here : job.steps[job.sent]? = some job.steps[job.sent] := List.getElem?_eq_getElem unfinished
  have unfinish : ∀ held, (PasteJob.outcome
      { job with
        held
        sent := job.sent + 1
        outcome :=
          if job.sent + 1 = job.steps.length then some (.done (job.sent + 1)) else none }) = none →
      job.sent + 1 < job.steps.length := by
    intro held outcome
    have : job.sent + 1 ≠ job.steps.length := by
      intro last
      simp [last] at outcome
    omega
  cases ups with
  | cons input rest =>
      obtain ⟨event, later⟩ := List.cons.inj split
      have takes : stepHeld job.held job.steps[job.sent] = some (job.held.set input false) := by
        rw [← event]
        cases input <;> rfl
      have whole := delivered_eq running here takes
      have empty : job.held.set input false = .none := by
        rw [fresh (by simp), none_set_up]
      refine ⟨input, false, ?_, singles input (by simp), by cases input <;> rfl, by rw [whole], ?_,
        fun _ _ => empty⟩
      · rw [PasteJob.nextStep, running, here, ← event]
        rfl
      · intro owed' kept outcome
        rw [whole] at outcome ⊢
        refine ⟨outcome, unfinish _ outcome, rest, body, later.symm,
          fun other member => singles other (by simp [member]), ?_, edges, fun _ => empty, ?_⟩
        · intro other owes
          obtain ⟨before, apart⟩ := kept other owes
          rcases List.mem_cons.mp (lifts other before) with same | member
          · exact absurd same (apart rfl)
          · exact member
        · change body.foldl Outstanding.record (job.held.set input false) = .none
          rw [fresh (by simp)] at balanced
          rw [empty]
          exact balanced
  | nil =>
      rw [List.map_nil, List.nil_append] at split
      obtain ⟨key, down, event, single⟩ :=
        edges job.steps[job.sent] (split ▸ List.mem_cons_self)
      have takes : stepHeld job.held job.steps[job.sent] = some (job.held.set (.key key) down) := by
        rw [event]
        rfl
      have whole := delivered_eq running here takes
      rw [split, List.foldl_cons, event] at balanced
      refine ⟨.key key, down, ?_, single, rfl, by rw [whole], ?_, ?_⟩
      · rw [PasteJob.nextStep, running, here, event]
        rfl
      · intro owed' kept outcome
        rw [whole] at outcome ⊢
        refine ⟨outcome, unfinish _ outcome, [], job.steps.drop (job.sent + 1), rfl, by simp,
          ?_, ?_, by simp, balanced⟩
        · intro other owes
          exact lifts other (kept other owes).1
        · intro later member
          exact edges later (split ▸ List.mem_cons_of_mem _ member)
      · intro outcome finished
        rw [whole] at finished
        have last : job.sent + 1 = job.steps.length := by
          by_contra more
          simp [more] at finished
        rw [last, List.drop_length, List.foldl_nil] at balanced
        exact balanced

end NanoKvm.Viewer
