import NanoKvm.Viewer.Feed
import NanoKvm.Viewer.Strokes

/-!
# Who owns what the target holds

A press forwarded from the host is owed a release until the host releases it,
everything is released, or another source forwards the up of the same input.
`Owns` ties the set of outstanding presses to the log, to what the host holds
and to what a running paste holds; every label keeps it.
-/

set_option autoImplicit false

namespace NanoKvm.Viewer

open NanoKvm.Proto
open NanoKvm.Lib
open NanoKvm.Script (Layout)
open NanoKvm.Input (Event ReleaseReason)

/-! ## What the log says -/

/-- What was forwarded as pressed and not as released since the last release-all. -/
def heldBy (log : List Happening) : Outstanding :=
  log.foldl
    (fun outstanding happening =>
      match happening with
      | .releaseAll _ => .none
      | .forwarded _ event => outstanding.record event
      | .edge _ _ => outstanding)
    .none

/-- Ends what the target owes for a press of `physical`. -/
def Settles (physical : Physical) (input : Input) : Happening → Prop
  | .releaseAll _ => True
  | .edge other down => other = physical ∧ down = false
  | .forwarded origin event => event = input.up ∧ origin ≠ .host physical

/-- A press of `physical` was forwarded and nothing after it settles it. -/
def Owed (log : List Happening) (physical : Physical) (input : Input) : Prop :=
  ∃ before middle, log = before ++ .forwarded (.host physical) input.press :: middle ∧
    ∀ happening ∈ middle, ¬ Settles physical input happening

@[simp] theorem heldBy_snoc (log : List Happening) (happening : Happening) :
    heldBy (log ++ [happening]) =
      match happening with
      | .releaseAll _ => .none
      | .forwarded _ event => (heldBy log).record event
      | .edge _ _ => heldBy log := by
  rw [heldBy, List.foldl_append]
  rfl

theorem owed_snoc {log : List Happening} {happening : Happening} {physical : Physical}
    {input : Input} :
    Owed (log ++ [happening]) physical input ↔
      happening = .forwarded (.host physical) input.press ∨
        Owed log physical input ∧ ¬ Settles physical input happening := by
  constructor
  · rintro ⟨before, middle, split, unsettled⟩
    rcases List.eq_nil_or_concat middle with rfl | ⟨middle', last, rfl⟩
    · obtain ⟨_, same⟩ := List.append_inj' split rfl
      exact Or.inl (List.singleton_inj.mp same)
    · rw [List.concat_eq_append, ← List.cons_append, ← List.append_assoc] at split
      obtain ⟨shorter, same⟩ := List.append_inj' split rfl
      obtain rfl := List.singleton_inj.mp same
      refine Or.inr ⟨⟨before, middle', shorter, ?_⟩, unsettled happening (by simp)⟩
      intro other member
      exact unsettled other (by simp [member])
  · rintro (rfl | ⟨⟨before, middle, rfl, unsettled⟩, last⟩)
    · exact ⟨log, [], rfl, by simp⟩
    · refine ⟨before, middle ++ [happening], by simp, ?_⟩
      intro other member
      rcases List.mem_append.mp member with earlier | here
      · exact unsettled other earlier
      · rwa [List.mem_singleton.mp here]

theorem not_owed_nil (physical : Physical) (input : Input) : ¬ Owed [] physical input := by
  rintro ⟨before, middle, split, _⟩
  simp at split

theorem record_event (outstanding : Outstanding) (input : Input) (down : Bool) :
    outstanding.record (input.event down) = outstanding.set input down := by
  cases input <;> rfl

theorem event_injective {input other : Input} {down down' : Bool}
    (same : input.event down = other.event down') : input = other ∧ down = down' := by
  cases input <;> cases other <;> simp_all [Input.event]

/-- Forwarding one edge owes its own press and may settle its input's. -/
theorem owed_forwarded {log : List Happening} {origin : Origin} {input input' : Input}
    {down : Bool} {physical : Physical}
    (owed : Owed (log ++ [.forwarded origin (input.event down)]) physical input') :
    origin = .host physical ∧ input' = input ∧ down = true ∨
      Owed log physical input' ∧ (down = false → input' = input → origin = .host physical) := by
  rcases owed_snoc.mp owed with now | ⟨before, unsettled⟩
  · injection now with same event
    obtain ⟨rfl, rfl⟩ := event_injective event
    exact Or.inl ⟨same, rfl, rfl⟩
  · refine Or.inr ⟨before, ?_⟩
    rintro rfl rfl
    by_contra other
    exact unsettled ⟨rfl, other⟩

theorem edge_single (edge : Edge) : edge.input.Single := by
  cases edge
  · change IsBit Button.left
    decide
  · trivial

/-! ## The invariant -/

/-- An edge of one key. -/
def KeyEdge (event : Event) : Prop :=
  ∃ (key : HidKey) (down : Bool), event = .key key down ∧ (Input.key key).Single

/-- A job between two steps: what is left of its prelude lifts everything still
owed, and what is left of its body ends with nothing down. -/
structure Fits (owed : Input → Prop) (job : PasteJob) : Prop where
  running : job.outcome = none
  unfinished : job.sent < job.steps.length
  remaining : ∃ (ups : List Input) (body : List Event),
    job.steps.drop job.sent = ups.map Input.up ++ body ∧ (∀ input ∈ ups, input.Single) ∧
      (∀ input, owed input → input ∈ ups) ∧
      (∀ event ∈ body, KeyEdge event) ∧
      (ups ≠ [] → job.held = .none) ∧ body.foldl Outstanding.record job.held = .none

/-- A job fits all the more where less is owed. -/
theorem Fits.mono {owed fewer : Input → Prop} {job : PasteJob} (fits : Fits owed job)
    (within : ∀ input, fewer input → owed input) : Fits fewer job := by
  obtain ⟨running, unfinished, ups, body, remaining, single, lifts, rest⟩ := fits
  exact ⟨running, unfinished, ups, body, remaining, single,
    fun input owed => lifts input (within input owed), rest⟩

/-- `lifting` is a physical input whose release is being handled. -/
structure Owns (lifting : Option Physical) (app : App) : Prop where
  replayed : app.outstanding = heldBy app.log
  captured : app.session.capture ≠ .captured → app.outstanding = .none
  pasting : app.paste.isActive = true → app.session.capture = .captured
  closed : app.session.closing = true → app.session.capture = .released
  consumed : ∀ edge : Edge, app.session.consumed edge = true →
    app.outstanding.holds edge.input = false
  held : ∀ input : Input, input.Single → app.outstanding.holds input = true →
    app.paste.held.holds input = true ∨
      ∃ physical, (physical ∈ app.down ∨ lifting = some physical) ∧ physical.input = some input
  owed : ∀ physical input, physical.input = some input → Owed app.log physical input →
    physical ∈ app.down ∧ app.outstanding.holds input = true
  job : ∀ job, app.paste = .running job →
    Fits (fun input => ∃ physical, physical.input = some input ∧ Owed app.log physical input) job

theorem Owns.start (pointer : PointerMode) (layout : Layout) :
    Owns none (App.new pointer layout) where
  replayed := rfl
  captured _ := rfl
  pasting active := by cases active
  closed closing := by cases closing
  consumed edge _ := none_holds edge.input
  held input _ holds := by
    rw [show (App.new pointer layout).outstanding = .none from rfl, none_holds] at holds
    cases holds
  owed physical input _ owed := absurd owed (not_owed_nil physical input)
  job job running := by cases running

section Preserved

variable {lifting : Option Physical} {app : App}

theorem Owns.calm (owns : Owns lifting app) {trigger : Trigger} {session : Session}
    (calm : Calm app.session trigger session) (grab : Bool) :
    Owns lifting { app with session, grab } where
  replayed := owns.replayed
  captured free := owns.captured fun held => free (calm.kept held)
  pasting active := calm.kept (owns.pasting active)
  closed closing := by
    have before := calm.closing.symm.trans closing
    exact (calm.closed before).trans (owns.closed before)
  consumed edge set := by
    rcases calm.consumed edge set with before | free
    · exact owns.consumed edge before
    · change app.outstanding.holds edge.input = false
      rw [owns.captured free, none_holds]
  held := owns.held
  owed := owns.owed
  job := owns.job

theorem Emptied.owns {forwards : List Happening} {after : App}
    (emptied : Emptied app forwards after) : Owns none after where
  replayed := by
    obtain ⟨reason, log⟩ := emptied.log
    rw [emptied.outstanding, log, heldBy_snoc]
  captured _ := emptied.outstanding
  pasting active := by
    rw [emptied.paste] at active
    cases active
  closed _ := emptied.released
  consumed edge set := by
    rw [emptied.outstanding, none_holds]
  held input _ holds := by
    rw [emptied.outstanding, none_holds] at holds
    cases holds
  owed physical input _ owed := by
    obtain ⟨reason, log⟩ := emptied.log
    rw [log, owed_snoc] at owed
    rcases owed with pressed | ⟨_, unsettled⟩
    · cases pressed
    · exact absurd trivial unsettled
  job job running := by
    rw [emptied.paste] at running
    cases running

/-- Motion holds nothing. -/
theorem Owns.motion (owns : Owns lifting app) {trigger : Trigger} {session : Session}
    {event : Event} (passes : Passes app.session trigger event session)
    (motion : ∀ (input : Input) (down : Bool), event ≠ input.event down) :
    Owns lifting
      { app with
        session
        outstanding := app.outstanding.record event
        log := app.log ++ [.forwarded .other event] } := by
  have same : app.outstanding.record event = app.outstanding := by
    cases event with
    | key code down => exact absurd rfl (motion (.key code) down)
    | button mask down => exact absurd rfl (motion (.button mask) down)
    | _ => rfl
  have still : ∀ physical input,
      Owed (app.log ++ [Happening.forwarded .other event]) physical input →
        Owed app.log physical input := by
    intro physical input owed
    rcases owed_snoc.mp owed with pressed | ⟨before, _⟩
    · cases pressed
    · exact before
  constructor
  · rw [heldBy_snoc, ← owns.replayed]
  · exact fun free => absurd passes.still free
  · exact fun _ => passes.still
  · intro closing
    rw [passes.closing, passes.opened] at closing
    cases closing
  · intro edge set
    rw [same]
    exact owns.consumed edge (passes.consumed edge set).1
  · intro input single holds
    rw [same] at holds
    exact owns.held input single holds
  · intro physical input mapped owed
    rw [same]
    exact owns.owed physical input mapped (still physical input owed)
  · intro job running
    apply (owns.job job running).mono
    rintro input ⟨physical, mapped, owed⟩
    exact ⟨physical, mapped, still physical input owed⟩

/-- An edge of an input is forwarded, of a key the host holds if it is a press. -/
theorem Owns.forward (owns : Owns lifting app) {trigger : Trigger} {session : Session}
    {origin : Origin} {input : Input} {down : Bool} (single : input.Single)
    (passes : Passes app.session trigger (input.event down) session)
    (pressed : down = true → ∃ physical ∈ app.down, physical.input = some input)
    (hosted : ∀ physical, origin = .host physical →
      (down = true → physical ∈ app.down ∧ app.paste.isActive = false) ∧
      (down = false → ¬ Owed app.log physical input)) :
    Owns lifting
      { app with
        session
        outstanding := app.outstanding.record (input.event down)
        log := app.log ++ [.forwarded origin (input.event down)] } := by
  rw [record_event]
  constructor
  · rw [heldBy_snoc, ← owns.replayed]
    exact (record_event app.outstanding input down).symm
  · exact fun free => absurd passes.still free
  · exact fun _ => passes.still
  · intro closing
    rw [passes.closing, passes.opened] at closing
    cases closing
  · intro edge set
    obtain ⟨before, apart⟩ := passes.consumed edge set
    have distinct : input ≠ edge.input := by
      rintro rfl
      exact apart down rfl
    rw [holds_set_other _ single (edge_single edge) distinct]
    exact owns.consumed edge before
  · intro other single' holds
    by_cases same : input = other
    · subst same
      rw [holds_set_same _ single] at holds
      obtain ⟨physical, here, mapped⟩ := pressed holds
      exact Or.inr ⟨physical, Or.inl here, mapped⟩
    · rw [holds_set_other _ single single' same] at holds
      exact owns.held other single' holds
  · intro other input' mapped' owed
    rcases owed_forwarded owed with ⟨same, rfl, rfl⟩ | ⟨before, settled⟩
    · exact ⟨((hosted other same).1 rfl).1, holds_set_same _ single true⟩
    · obtain ⟨isDown, holds⟩ := owns.owed other input' mapped' before
      refine ⟨isDown, ?_⟩
      by_cases same : input = input'
      · subst same
        rw [holds_set_same _ single]
        cases down with
        | true => rfl
        | false => exact absurd before ((hosted other (settled rfl rfl)).2 rfl)
      · rw [holds_set_other _ single (physical_single mapped') same]
        exact holds
  · intro job running
    apply (owns.job job running).mono
    rintro input' ⟨other, mapped', owed⟩
    rcases owed_forwarded owed with ⟨same, _, rfl⟩ | ⟨before, _⟩
    · have idle := ((hosted other same).1 rfl).2
      change app.paste = .running job at running
      rw [running] at idle
      cases idle
    · exact ⟨other, mapped', before⟩

/-- An edge of the host is forwarded. -/
theorem Owns.host (owns : Owns lifting app) {trigger : Trigger} {session : Session}
    {physical : Physical} {input : Input} {down : Bool} (mapped : physical.input = some input)
    (passes : Passes app.session trigger (input.event down) session)
    (pressed : down = true → physical ∈ app.down ∧ app.paste.isActive = false)
    (released : down = false → ¬ Owed app.log physical input) :
    Owns lifting
      { app with
        session
        outstanding := app.outstanding.record (input.event down)
        log := app.log ++ [.forwarded (.host physical) (input.event down)] } := by
  apply owns.forward (physical_single mapped) passes
  · exact fun held => ⟨physical, (pressed held).1, mapped⟩
  · intro other same
    obtain rfl := Origin.host.inj same
    exact ⟨pressed, released⟩

theorem Owns.weaken (owns : Owns none app) : Owns lifting app := by
  refine ⟨owns.replayed, owns.captured, owns.pasting, owns.closed, owns.consumed, ?_, owns.owed,
    owns.job⟩
  intro input single holds
  rcases owns.held input single holds with paste | ⟨physical, here | never, mapped⟩
  · exact Or.inl paste
  · exact Or.inr ⟨physical, Or.inl here, mapped⟩
  · cases never

/-- A press of the host begins. -/
theorem Owns.press_edge (owns : Owns none app) (physical : Physical) :
    Owns none (app.edge physical true) := by
  have still : ∀ other input, Owed (app.log ++ [Happening.edge physical true]) other input →
      Owed app.log other input := by
    intro other input owed
    rcases owed_snoc.mp owed with pressed | ⟨before, _⟩
    · cases pressed
    · exact before
  refine ⟨?_, owns.captured, owns.pasting, owns.closed, owns.consumed, ?_, ?_, ?_⟩
  · exact owns.replayed.trans (heldBy_snoc app.log (.edge physical true)).symm
  · intro input single holds
    rcases owns.held input single holds with paste | ⟨other, here | never, mapped⟩
    · exact Or.inl paste
    · exact Or.inr ⟨other, Or.inl (List.mem_cons_of_mem _ here), mapped⟩
    · cases never
  · intro other input mapped owed
    obtain ⟨here, holds⟩ := owns.owed other input mapped (still other input owed)
    exact ⟨List.mem_cons_of_mem _ here, holds⟩
  · intro job running
    apply (owns.job job running).mono
    rintro input ⟨other, mapped, owed⟩
    exact ⟨other, mapped, still other input owed⟩

/-- A release of the host begins: nothing is owed to it any longer, but the
target may still hold it. -/
theorem Owns.release_edge (owns : Owns none app) (physical : Physical) :
    Owns (some physical) (app.edge physical false) := by
  have still : ∀ other input, Owed (app.log ++ [Happening.edge physical false]) other input →
      Owed app.log other input ∧ other ≠ physical := by
    intro other input owed
    rcases owed_snoc.mp owed with pressed | ⟨before, unsettled⟩
    · cases pressed
    · refine ⟨before, ?_⟩
      rintro rfl
      exact unsettled ⟨rfl, rfl⟩
  refine ⟨?_, owns.captured, owns.pasting, owns.closed, owns.consumed, ?_, ?_, ?_⟩
  · exact owns.replayed.trans (heldBy_snoc app.log (.edge physical false)).symm
  · intro input single holds
    rcases owns.held input single holds with paste | ⟨other, here | never, mapped⟩
    · exact Or.inl paste
    · refine Or.inr ⟨other, ?_, mapped⟩
      by_cases same : other = physical
      · exact Or.inr (by rw [same])
      · exact Or.inl (by simpa [App.edge, same] using here)
    · cases never
  · intro other input mapped owed
    obtain ⟨before, apart⟩ := still other input owed
    obtain ⟨here, holds⟩ := owns.owed other input mapped before
    exact ⟨by simpa [App.edge, apart] using here, holds⟩
  · intro job running
    apply (owns.job job running).mono
    rintro input ⟨other, mapped, owed⟩
    exact ⟨other, mapped, (still other input owed).1⟩

/-- The release is handled once the target no longer holds it for the host. -/
theorem Owns.settled {physical : Physical} (owns : Owns (some physical) app)
    (lifted : ∀ input, physical.input = some input → app.outstanding.holds input = true →
      app.paste.held.holds input = true) : Owns none app := by
  refine ⟨owns.replayed, owns.captured, owns.pasting, owns.closed, owns.consumed, ?_, owns.owed,
    owns.job⟩
  intro input single holds
  rcases owns.held input single holds with paste | ⟨other, here | lifting, mapped⟩
  · exact Or.inl paste
  · exact Or.inr ⟨other, Or.inl here, mapped⟩
  · injection lifting with same
    exact Or.inl (lifted input (same ▸ mapped) holds)

theorem trigger_proper (input : Input) (down : Bool) : (input.trigger down).Proper := by
  cases input <;> trivial

theorem Owns.feed_host (owns : Owns lifting app) (answers : Answers) {physical : Physical}
    {input : Input} {down : Bool} (mapped : physical.input = some input)
    (pressed : down = true → physical ∈ app.down ∧ app.paste.isActive = false)
    (released : down = false → ¬ Owed app.log physical input) :
    Owns lifting (app.feed answers (.host physical) (input.trigger down)) := by
  have fed := feed_fed answers (.host physical) (trigger_proper input down) app
  generalize app.feed answers (.host physical) (input.trigger down) = after at fed ⊢
  cases fed with
  | calm session grab calm => exact owns.calm calm grab
  | passes passes =>
      obtain rfl := Option.some.inj ((trigger_event input down).symm.trans passes.fires)
      exact owns.host mapped passes pressed released
  | emptied emptied => exact emptied.owns.weaken

/-- A trigger that is no edge of an input. -/
theorem Owns.feed_other (owns : Owns lifting app) (answers : Answers) {trigger : Trigger}
    (motion : ∀ event, trigger.event = some event →
      ∀ (input : Input) (down : Bool), event ≠ input.event down) :
    Owns lifting (app.feed answers .other trigger) := by
  have proper : trigger.Proper := by
    cases trigger with
    | motion event => exact motion event rfl
    | _ => trivial
  have fed := feed_fed answers .other proper app
  generalize app.feed answers .other trigger = after at fed ⊢
  cases fed with
  | calm session grab calm => exact owns.calm calm grab
  | passes passes => exact owns.motion passes (motion _ passes.fires)
  | emptied emptied => exact emptied.owns.weaken

/-- Feeding an up leaves the target not holding the input. -/
theorem Owns.feed_lifts (owns : Owns lifting app) (answers : Answers) (origin : Origin)
    {input : Input} (single : input.Single) :
    (app.feed answers origin (input.trigger false)).outstanding.holds input = false := by
  have fed := feed_fed answers origin (trigger_proper input false) app
  generalize app.feed answers origin (input.trigger false) = after at fed ⊢
  cases fed with
  | calm session grab calm =>
      change app.outstanding.holds input = false
      by_cases captured : app.session.capture = .captured
      · have opened : app.session.closing = false := by
          by_contra closing
          have := owns.closed (by simpa using closing)
          rw [captured] at this
          cases this
        obtain ⟨_, edge, rfl, consumed⟩ := calm.eaten captured opened input false rfl
        exact owns.consumed edge consumed
      · rw [owns.captured captured, none_holds]
  | passes passes =>
      obtain rfl := Option.some.inj ((trigger_event input false).symm.trans passes.fires)
      change (app.outstanding.record (input.event false)).holds input = false
      rw [record_event, holds_set_same _ single]
  | emptied emptied => rw [emptied.outstanding, none_holds]

end Preserved

end NanoKvm.Viewer
