import NanoKvm.Lib.Log
import NanoKvm.Input.Session

/-!
# Whose reading a snapshot shows

A caller waits for the generation to move past the one its request returned.
Beside the threads stands a watcher who writes down every request, every
`GET_INFO` transaction that begins and every outcome put into the link state.
-/

set_option autoImplicit false

namespace NanoKvm.Input

open NanoKvm.Proto NanoKvm.Lib

inductive Mark where
  /-- A request, with the generation it returned. -/
  | requested (generation : BitVec 64)
  /-- A `GET_INFO` transaction begins. -/
  | began
  | published (info : DeviceInfo)
  | failed
  deriving DecidableEq, Repr

/-- The threads, and what the watcher has written down. -/
structure Watch where
  sys : Sys
  marks : List Mark

def markOf (label : Label) (sys : Sys) : Option Mark :=
  match label with
  | .refreshDeviceInfo => some (.requested sys.shared.requestInfoRefresh.1)
  | .writer .none =>
      match sys.pc with
      | .refreshAsk _ | .commissionAsk _ _ _ => some .began
      | .refreshNote _ (some info) | .commissionUp _ _ info => some (.published info)
      | .refreshNote _ none => some .failed
      | _ => none
  | _ => none

def Watch.step (label : Label) (watch : Watch) : Option Watch :=
  (Input.step label watch.sys).map fun next =>
    ⟨next, watch.marks ++ (markOf label watch.sys).toList⟩

def Watch.start (maxBarriers : Nat) (reconnect : Bool) : Watch :=
  ⟨Sys.start maxBarriers reconnect, []⟩

/-- What a snapshot shows of the last reading. -/
def LinkState.reading (state : LinkState) : Option DeviceInfo × BitVec 64 × Bool :=
  (state.deviceInfo, state.infoGeneration, state.infoStale)

/-- A reading that moved past the generation of a request and is not stale was read by
a transaction that began after the request. -/
def Watch.Fresh (watch : Watch) : Prop :=
  ∀ before generation after, watch.marks = before ++ .requested generation :: after →
    watch.sys.shared.linkState.infoGeneration ≠ generation →
    watch.sys.shared.linkState.infoStale = false →
    ∃ info earlier between later, watch.sys.shared.linkState.deviceInfo = some info ∧
      after = earlier ++ .began :: (between ++ .published info :: later) ∧
      .began ∉ between ∧ ∀ other, .published other ∉ later

/-! ## What a step does to the readings -/

/-- A transaction has begun that may still be published. -/
def Pc.inFlight : Pc → Bool
  | .refreshAwait _ | .refreshNote _ (some _) | .commissionAwait _ _ _
  | .commissionRecord _ _ _ (some _) | .commissionUp _ _ _ => true
  | _ => false

/-- The step shows in no snapshot and begins nothing. -/
structure Unread (sys next : Sys) : Prop where
  reading : next.shared.linkState.reading = sys.shared.linkState.reading
  landed : next.pc.inFlight = true → sys.pc.inFlight = true

/-- What a step does to the readings, by the mark it leaves. -/
inductive Reads (sys next : Sys) : Option Mark → Prop where
  | unread (unread : Unread sys next) : Reads sys next none
  | requested (unread : Unread sys next) :
      Reads sys next (some (.requested sys.shared.linkState.infoGeneration))
  | began (reading : next.shared.linkState.reading = sys.shared.linkState.reading) :
      Reads sys next (some .began)
  | published (info : DeviceInfo) (flying : sys.pc.inFlight = true)
      (reading : next.shared.linkState.reading =
        (some info, sys.shared.linkState.infoGeneration + 1, false))
      (landed : next.pc.inFlight = false) : Reads sys next (some (.published info))
  | failed (reading : next.shared.linkState.reading =
        (sys.shared.linkState.deviceInfo, sys.shared.linkState.infoGeneration + 1, true))
      (landed : next.pc.inFlight = false) : Reads sys next (some .failed)

section Steps
variable {sys next : Sys} {answer : Answer}

theorem transact_unread {origin : Origin} {frame : HidFrame} {unlinked failed sent : Pc}
    (stepped : sys.transact origin frame answer unlinked failed sent = some next)
    (one : unlinked.inFlight = false) (two : failed.inFlight = false)
    (three : sent.inFlight = false) : Unread sys next := by
  unfold Sys.transact at stepped
  split at stepped
  · cases Option.some.inj stepped
    exact ⟨rfl, by simp [Sys.go, one]⟩
  · rename_i result _
    cases Option.some.inj stepped
    refine ⟨rfl, ?_⟩
    cases handed result <;> simp [Sys.go, two, three]
  · cases stepped

theorem startWrite_unread (entry : Entry) : Unread sys (sys.startWrite entry) := by
  unfold Sys.startWrite
  split <;> exact ⟨rfl, by simp [Pc.inFlight]⟩

theorem runStep_unread (stepped : sys.runStep answer = some next) : Unread sys next := by
  unfold Sys.runStep at stepped
  repeat' split at stepped
  all_goals first
    | cases stepped; done
    | (cases Option.some.inj stepped; exact ⟨rfl, by simp [Sys.go, Pc.inFlight]⟩)
    | skip
  · cases Option.some.inj stepped
    exact startWrite_unread _
  · exact transact_unread stepped rfl rfl rfl
  · unfold Sys.flushReport at stepped
    split at stepped
    have unread := transact_unread stepped rfl rfl rfl
    exact ⟨unread.reading, unread.landed⟩

theorem nextEntryStep_unread (stepped : sys.nextEntryStep answer = some next) :
    Unread sys next := by
  unfold Sys.nextEntryStep at stepped
  repeat' split at stepped
  all_goals first
    | cases stepped; done
    | (cases Option.some.inj stepped; exact ⟨rfl, by simp [Sys.go, Pc.inFlight]⟩)

theorem resume_landed (caller : Caller) : caller.resume.inFlight = false := by
  cases caller <;> rfl

theorem finished_landed (owner : Release) (outcome : ReleaseOutcome) :
    (owner.finished outcome).inFlight = false := by
  cases owner <;> cases outcome <;> rfl

theorem cancellationStep_unread (stepped : sys.cancellationStep answer = some next) :
    Unread sys next := by
  unfold Sys.cancellationStep at stepped
  repeat' split at stepped
  all_goals first
    | cases stepped; done
    | exact transact_unread stepped (finished_landed _ _) rfl rfl
    | (cases Option.some.inj stepped
       refine ⟨rfl, ?_⟩
       first
         | simp [Sys.go, Pc.inFlight]; done
         | simp [Sys.go, resume_landed, finished_landed])

theorem acquireStep_unread (stepped : sys.acquireStep answer = some next) :
    Unread sys next := by
  unfold Sys.acquireStep at stepped
  repeat' split at stepped
  all_goals first
    | cases stepped; done
    | (cases Option.some.inj stepped; exact ⟨rfl, by simp [Sys.go, Pc.inFlight]⟩)

theorem refreshStep_reads (stepped : sys.refreshStep answer = some next) :
    Reads sys next (markOf (.writer answer) sys) := by
  unfold Sys.refreshStep at stepped
  split at stepped
  · rename_i point
    cases Option.some.inj stepped
    simp only [markOf, point]
    exact .unread ⟨rfl, by simp [Sys.go, Pc.inFlight]⟩
  · rename_i point
    cases Option.some.inj stepped
    simp only [markOf, point]
    refine .unread ⟨rfl, ?_⟩
    simp only [Sys.go]
    split <;> simp [Pc.inFlight]
  · rename_i point
    cases Option.some.inj stepped
    simp only [markOf, point]
    exact .began rfl
  · rename_i point
    cases Option.some.inj stepped
    simp only [markOf]
    exact .unread ⟨rfl, by simp [point, Pc.inFlight]⟩
  · rename_i caller info point
    split at stepped
    · cases Option.some.inj stepped
      simp only [markOf, point]
      exact .published _ (by rw [point]; rfl) rfl (resume_landed caller)
    · cases Option.some.inj stepped
      simp only [markOf, point]
      exact .failed rfl (resume_landed caller)
  · cases stepped

theorem commissionStep_reads (stepped : sys.commissionStep answer = some next) :
    Reads sys next (markOf (.writer answer) sys) := by
  unfold Sys.commissionStep at stepped
  split at stepped
  · rename_i point
    cases Option.some.inj stepped
    simp only [markOf, point]
    exact .unread ⟨rfl, by simp [Sys.go, Pc.inFlight]⟩
  · rename_i point
    cases Option.some.inj stepped
    simp only [markOf]
    refine .unread ⟨rfl, ?_⟩
    simp only [Sys.go]
    split <;> simp [Pc.inFlight]
  · rename_i point
    cases Option.some.inj stepped
    simp only [markOf, point]
    exact .unread ⟨rfl, by simp [Sys.go, Pc.inFlight]⟩
  · rename_i point
    cases Option.some.inj stepped
    simp only [markOf, point]
    exact .began rfl
  · rename_i point
    cases Option.some.inj stepped
    simp only [markOf]
    exact .unread ⟨rfl, by simp [point, Pc.inFlight]⟩
  · rename_i info point
    cases Option.some.inj stepped
    simp only [markOf, point]
    refine .unread ⟨rfl, ?_⟩
    cases info <;> simp [point, Pc.inFlight]
  · rename_i point
    cases Option.some.inj stepped
    simp only [markOf, point]
    exact .published _ (by rw [point]; rfl) rfl rfl
  · rename_i accepted point
    dsimp only at stepped
    split at stepped <;>
    · cases Option.some.inj stepped
      simp only [markOf, point]
      exact .unread ⟨rfl, by simp [Sys.go, Pc.inFlight]⟩
  · cases stepped

/-- The writer's points at which something is marked. -/
def Pc.marks : Pc → Bool
  | .refreshAsk _ | .commissionAsk _ _ _ | .refreshNote _ _ | .commissionUp _ _ _ => true
  | _ => false

theorem unmarked {pc : Pc} (point : sys.pc = pc) (plain : pc.marks = false)
    (unread : Unread sys next) : Reads sys next (markOf (.writer answer) sys) := by
  have none : markOf (.writer answer) sys = none := by
    subst point
    unfold markOf
    cases answer <;> try rfl
    dsimp only
    split <;> simp_all [Pc.marks]
  rw [none]
  exact .unread unread

theorem published_steps {label : Label} {info : DeviceInfo}
    (marked : markOf label sys = some (.published info)) : ∃ next, step label sys = some next := by
  unfold markOf at marked
  split at marked
  · cases marked
  · split at marked
    all_goals first
      | cases marked; done
      | skip
    · rename_i point
      simp [step, Sys.writerStep, Sys.refreshStep, point]
    · rename_i point
      simp [step, Sys.writerStep, Sys.commissionStep, point]
  · cases marked

theorem writerStep_reads (stepped : sys.writerStep answer = some next) :
    Reads sys next (markOf (.writer answer) sys) := by
  unfold Sys.writerStep at stepped
  split at stepped
  all_goals rename_i point
  all_goals first
    | exact refreshStep_reads stepped
    | exact commissionStep_reads stepped
    | exact unmarked point rfl (runStep_unread stepped)
    | exact unmarked point rfl (nextEntryStep_unread stepped)
    | exact unmarked point rfl (cancellationStep_unread stepped)
    | exact unmarked point rfl (acquireStep_unread stepped)

theorem submit_unread (thread : Nat) (event : Event) : Unread sys (sys.submit thread event) := by
  unfold Sys.submit
  dsimp only
  split
  · rename_i shared taken
    obtain ⟨-, -, -, queue, rfl, -⟩ := submit_session taken
    exact ⟨rfl, id⟩
  · exact ⟨rfl, id⟩
  · exact ⟨rfl, id⟩

theorem engage_unread : Unread sys sys.engage := by
  unfold Sys.engage
  split
  · rename_i shared taken
    obtain ⟨-, -, rfl⟩ := engage_session taken
    exact ⟨rfl, id⟩
  · exact ⟨rfl, id⟩

theorem step_reads (label : Label) (stepped : step label sys = some next) :
    Reads sys next (markOf label sys) := by
  cases label with
  | submit thread event =>
      simp only [step] at stepped
      split at stepped
      · cases stepped
      · cases Option.some.inj stepped
        exact .unread (submit_unread thread event)
  | overflowTrigger thread =>
      simp only [step] at stepped
      split at stepped
      · cases Option.some.inj stepped
        exact .unread ⟨rfl, id⟩
      · cases stepped
  | requestReleaseAll reason =>
      cases Option.some.inj stepped
      exact .unread ⟨rfl, id⟩
  | engage =>
      cases Option.some.inj stepped
      exact .unread engage_unread
  | refreshDeviceInfo =>
      cases Option.some.inj stepped
      exact .requested ⟨rfl, id⟩
  | beginShutdown =>
      cases Option.some.inj stepped
      exact .unread ⟨rfl, id⟩
  | helperSends opened =>
      simp only [step, Sys.helperSends] at stepped
      split at stepped
      · cases Option.some.inj stepped
        exact .unread ⟨rfl, id⟩
      · cases Option.some.inj stepped
        exact .unread ⟨rfl, id⟩
      · cases stepped
  | helperDies =>
      simp only [step, Sys.helperDies] at stepped
      split at stepped
      · cases Option.some.inj stepped
        exact .unread ⟨rfl, id⟩
      · cases Option.some.inj stepped
        exact .unread ⟨rfl, id⟩
      · cases stepped
  | writer answer => exact writerStep_reads stepped

end Steps

/-! ## What the watcher's marks say of the state -/

/-- What became of a transaction, or of a request that started none. -/
def Mark.outcome : Mark → Option (Option DeviceInfo)
  | .published info => some (some info)
  | .failed => some none
  | _ => none

def outcomes (marks : List Mark) : List (Option DeviceInfo) := marks.filterMap Mark.outcome

@[simp] theorem outcomes_append (first second : List Mark) :
    outcomes (first ++ second) = outcomes first ++ outcomes second := by
  simp [outcomes]

theorem outcomes_snoc (marks : List Mark) (mark : Mark) :
    outcomes (marks ++ [mark]) = outcomes marks ++ mark.outcome.toList := by
  cases mark <;> simp [outcomes, Mark.outcome]

/-- The request a mark is. -/
def Mark.request : Mark → Option (BitVec 64)
  | .requested generation => some generation
  | _ => none

/-- Every request returned the number of outcomes before it. -/
def Asked (marks : List Mark) : Prop :=
  ∀ before generation after, marks = before ++ .requested generation :: after →
    generation = BitVec.ofNat 64 (outcomes before).length

theorem Asked.snoc {marks : List Mark} {mark : Mark} (asked : Asked marks)
    (plain : mark.request = none) : Asked (marks ++ [mark]) := by
  intro before generation later shape
  rcases snoc_split shape with ⟨-, -, own⟩ | ⟨rest, -, earlier⟩
  · rw [← own] at plain
    cases plain
  · exact asked before generation rest earlier

/-- What the marks say of the link state and of the writer. -/
structure Watch.Tracks (watch : Watch) : Prop where
  generation : watch.sys.shared.linkState.infoGeneration =
    BitVec.ofNat 64 (outcomes watch.marks).length
  answered : ∀ info, (outcomes watch.marks).getLast? = some (some info) →
    watch.sys.shared.linkState.deviceInfo = some info
  stale : (outcomes watch.marks).getLast? = some none →
    watch.sys.shared.linkState.infoStale = true
  asked : Asked watch.marks
  flying : watch.sys.pc.inFlight = true → ∃ before after,
    watch.marks = before ++ .began :: after ∧ ∀ mark ∈ after, mark.request ≠ none

theorem tracks_start (maxBarriers : Nat) (reconnect : Bool) :
    (Watch.start maxBarriers reconnect).Tracks := by
  constructor <;>
    cases reconnect <;> simp [Watch.start, Sys.start, Shared.new, Shared.markLinkDown, outcomes,
      Asked, Pc.inFlight]

theorem reading_parts {state other : LinkState} (same : state.reading = other.reading) :
    state.deviceInfo = other.deviceInfo ∧ state.infoGeneration = other.infoGeneration ∧
      state.infoStale = other.infoStale := by
  simpa [LinkState.reading] using same

section Tracking
variable {watch after : Watch} {label : Label}

/-- A step that leaves the reading alone and marks no outcome keeps what the outcomes say. -/
theorem Watch.Tracks.still {next : Sys} {marks : List Mark} (tracks : watch.Tracks)
    (reading : next.shared.linkState.reading = watch.sys.shared.linkState.reading)
    (same : outcomes marks = outcomes watch.marks) :
    next.shared.linkState.infoGeneration = BitVec.ofNat 64 (outcomes marks).length ∧
      (∀ info, (outcomes marks).getLast? = some (some info) →
        next.shared.linkState.deviceInfo = some info) ∧
      ((outcomes marks).getLast? = some none → next.shared.linkState.infoStale = true) := by
  obtain ⟨info, count, old⟩ := reading_parts reading
  rw [same]
  refine ⟨count.trans tracks.generation, fun reading last => ?_, fun last => ?_⟩
  · exact info.trans (tracks.answered reading last)
  · exact old.trans (tracks.stale last)

/-- A mark that is no outcome. -/
theorem outcomes_plain (marks : List Mark) (mark : Mark) (plain : mark.outcome = none) :
    outcomes (marks ++ [mark]) = outcomes marks := by
  rw [outcomes_snoc, plain]
  exact List.append_nil _

theorem tracks_step (tracks : watch.Tracks) (stepped : watch.step label = some after) :
    after.Tracks := by
  obtain ⟨next, moved, rfl⟩ := Option.map_eq_some_iff.mp stepped
  have reads := step_reads label moved
  generalize markOf label watch.sys = mark at reads
  have tracked := tracks
  obtain ⟨generation, -, -, asked, flying⟩ := tracks
  cases reads with
  | unread unread =>
      obtain ⟨counted, told, old⟩ := tracked.still unread.reading rfl
      simp only [Option.toList_none, List.append_nil]
      exact ⟨counted, told, old, asked, fun flies => flying (unread.landed flies)⟩
  | requested unread =>
      obtain ⟨counted, told, old⟩ := tracked.still unread.reading (outcomes_plain watch.marks
        (.requested watch.sys.shared.linkState.infoGeneration) rfl)
      simp only [Option.toList_some]
      refine ⟨counted, told, old, ?_, ?_⟩
      · intro before returned later shape
        rcases snoc_split shape with ⟨-, rfl, own⟩ | ⟨rest, -, earlier⟩
        · rw [Mark.requested.inj own]
          exact generation
        · exact asked before returned rest earlier
      · intro flies
        obtain ⟨before, later, shape, requests⟩ := flying (unread.landed flies)
        refine ⟨before, later ++ [.requested watch.sys.shared.linkState.infoGeneration],
          by simp [shape], ?_⟩
        intro mark member
        rcases List.mem_append.mp member with earlier | new
        · exact requests mark earlier
        · simp [List.mem_singleton.mp new, Mark.request]
  | began reading =>
      obtain ⟨counted, told, old⟩ := tracked.still reading (outcomes_plain watch.marks .began rfl)
      simp only [Option.toList_some]
      refine ⟨counted, told, old, asked.snoc rfl, ?_⟩
      intro _
      exact ⟨watch.marks, [], rfl, by simp⟩
  | published info flew reading landed =>
      simp only [LinkState.reading, Prod.mk.injEq] at reading
      obtain ⟨answer, count, fresh⟩ := reading
      have grown : outcomes (watch.marks ++ [Mark.published info]) =
          outcomes watch.marks ++ [some info] := outcomes_snoc _ _
      simp only [Option.toList_some]
      refine ⟨?_, ?_, ?_, ?_, by simp [landed]⟩
      · rw [grown, count, generation, List.length_append, BitVec.ofNat_add]
        rfl
      · intro other last
        rw [grown, List.getLast?_append] at last
        simp only [List.getLast?_singleton, Option.some_or, Option.some.injEq] at last
        rw [answer, last]
      · intro last
        rw [grown, List.getLast?_append] at last
        simp at last
      · exact asked.snoc rfl
  | failed reading landed =>
      simp only [LinkState.reading, Prod.mk.injEq] at reading
      obtain ⟨answer, count, old⟩ := reading
      have grown : outcomes (watch.marks ++ [Mark.failed]) = outcomes watch.marks ++ [none] :=
        outcomes_snoc _ _
      simp only [Option.toList_some]
      refine ⟨?_, ?_, fun _ => old, ?_, by simp [landed]⟩
      · rw [grown, count, generation, List.length_append, BitVec.ofNat_add]
        rfl
      · intro other last
        rw [grown, List.getLast?_append] at last
        simp at last
      · exact asked.snoc rfl

end Tracking

/-! ## Readings overtaken by a request -/

/-- A request was made since the last transaction began. -/
def overtaken (marks : List Mark) : Bool :=
  marks.foldl (fun late mark =>
    match mark with
    | .began => false
    | .requested _ => true
    | _ => late) false

/-- No reading is published that a request has overtaken. -/
def Watch.Guard (label : Label) (watch : Watch) : Prop :=
  match markOf label watch.sys with
  | some (.published _) => overtaken watch.marks = false
  | _ => True

instance (label : Label) (watch : Watch) : Decidable (watch.Guard label) := by
  unfold Watch.Guard
  split <;> infer_instance

/-- Every reading was published right after its transaction began, as the watcher saw it. -/
def Prompt (marks : List Mark) : Prop :=
  ∀ before info after, marks = before ++ .published info :: after →
    ∃ earlier, before = earlier ++ [.began]

theorem overtaken_requests {before later : List Mark} (requests : ∀ mark ∈ later, mark.request ≠ none)
    (some : later ≠ []) : overtaken (before ++ .began :: later) = true := by
  obtain ⟨rest, last, rfl⟩ := (List.eq_nil_or_concat later).resolve_left some
  have own := requests last (by simp)
  rw [List.concat_eq_append, ← List.cons_append, ← List.append_assoc, overtaken, List.foldl_append]
  cases last with
  | requested generation => rfl
  | _ => simp [Mark.request] at own

theorem requests_outcomes {marks : List Mark} (requests : ∀ mark ∈ marks, mark.request ≠ none) :
    outcomes marks = [] := by
  rw [outcomes, List.filterMap_eq_nil_iff]
  intro mark member
  have own := requests mark member
  cases mark <;> simp_all [Mark.request, Mark.outcome]

section Fresh
variable {watch after : Watch} {label : Label}

theorem prompt_step (tracks : watch.Tracks) (prompt : Prompt watch.marks)
    (guarded : watch.Guard label) (stepped : watch.step label = some after) :
    Prompt after.marks := by
  obtain ⟨next, moved, rfl⟩ := Option.map_eq_some_iff.mp stepped
  have reads := step_reads label moved
  unfold Watch.Guard at guarded
  generalize markOf label watch.sys = mark at reads guarded
  cases mark with
  | none => simpa using prompt
  | some mark =>
      intro before info later shape
      rcases snoc_split shape with ⟨-, rfl, own⟩ | ⟨rest, -, earlier⟩
      · subst own
        cases reads with
        | published _ flew reading landed =>
            obtain ⟨before, later, began, requests⟩ := tracks.flying flew
            have clear : later = [] := by
              by_contra some
              simp only [began, overtaken_requests requests some] at guarded
              cases guarded
            exact ⟨before, by rw [began, clear]⟩
      · exact prompt before info rest earlier

/-- Prompt readings are fresh. -/
theorem prompt_fresh (tracks : watch.Tracks) (prompt : Prompt watch.marks) : watch.Fresh := by
  intro before generation later shape moved fresh
  have asked := tracks.asked before generation later shape
  have whole : outcomes watch.marks = outcomes before ++ outcomes later := by
    rw [shape, outcomes_append]
    rfl
  rcases List.eq_nil_or_concat (outcomes later) with none | ⟨earlier, last, some⟩
  · refine absurd ?_ moved
    rw [asked, tracks.generation, whole, none, List.append_nil]
  · rw [List.concat_eq_append] at some
    have final : (outcomes watch.marks).getLast? = .some last := by
      rw [whole, some, ← List.append_assoc, List.getLast?_append]
      rfl
    cases last with
    | none =>
        rw [tracks.stale final] at fresh
        cases fresh
    | some info =>
        obtain ⟨first, second, rfl, -, closes⟩ := List.filterMap_eq_append_iff.mp some
        obtain ⟨quiet, mark, rest, rfl, -, own, after⟩ := List.filterMap_eq_cons_iff.mp closes
        obtain rfl : mark = .published info := by
          cases mark <;> simp_all [Mark.outcome]
        have place : watch.marks =
            (before ++ .requested generation :: (first ++ quiet)) ++ .published info :: rest := by
          rw [shape]
          simp
        obtain ⟨sooner, began⟩ := prompt _ info rest place
        rcases snoc_split began.symm with ⟨-, -, other⟩ | ⟨between, ends, -⟩
        · cases other
        · refine ⟨info, between, [], rest, tracks.answered info final, ?_, by simp, ?_⟩
          · rw [← List.append_assoc, ends]
            simp
          · intro other member
            have none := List.filterMap_eq_nil_iff.mp after _ member
            cases none

/-- A reading that a request has overtaken is not fresh. -/
theorem overtaken_unfresh (tracks : watch.Tracks) (unguarded : ¬ watch.Guard label) :
    ∃ after, watch.step label = some after ∧ ¬ after.Fresh := by
  unfold Watch.Guard at unguarded
  split at unguarded
  · rename_i info marked
    obtain ⟨next, moved⟩ := published_steps marked
    have stepped : watch.step label = some ⟨next, watch.marks ++ [Mark.published info]⟩ := by
      simp [Watch.step, moved, marked]
    refine ⟨_, stepped, ?_⟩
    have reads := step_reads label moved
    rw [marked] at reads
    cases reads with
    | published _ flew reading landed =>
        obtain ⟨before, later, began, requests⟩ := tracks.flying flew
        cases later with
        | nil => simp [began, overtaken] at unguarded
        | cons first more =>
            obtain ⟨generation, own⟩ := Option.ne_none_iff_exists'.mp (requests first (by simp))
            obtain rfl : first = .requested generation := by
              cases first <;> simp_all [Mark.request]
            have asked := tracks.asked (before ++ [Mark.began]) generation more (by simp [began])
            have current : watch.sys.shared.linkState.infoGeneration = generation := by
              have quiet : outcomes (.began :: .requested generation :: more) = [] :=
                show outcomes (.requested generation :: more) = [] from requests_outcomes requests
              rw [tracks.generation, asked, began, outcomes_append, outcomes_append, quiet]
              rfl
            simp only [LinkState.reading, Prod.mk.injEq] at reading
            obtain ⟨-, count, fresh⟩ := reading
            have moved : next.shared.linkState.infoGeneration ≠ generation := by
              rw [count, current]
              bv_omega
            intro claimed
            obtain ⟨_, earlier, between, rest, _, shape, _⟩ :=
              claimed (before ++ [Mark.began]) generation (more ++ [Mark.published info])
                (by simp [began]) moved fresh
            have member : Mark.began ∈ more ++ [Mark.published info] := by
              rw [shape]
              simp
            rcases List.mem_append.mp member with request | other
            · exact requests .began (by simp [request]) rfl
            · simp at other
  · exact absurd trivial unguarded

end Fresh

/-- In a run every snapshot is fresh, all along, exactly when no reading is published
that a request has overtaken. -/
theorem info_fresh_iff (maxBarriers : Nat) (reconnect : Bool) (labels : List Label) :
    (∀ first rest watch, labels = first ++ rest →
      run Watch.step first (Watch.start maxBarriers reconnect) = some watch → watch.Fresh) ↔
    Guarded Watch.step Watch.Guard labels (Watch.start maxBarriers reconnect) := by
  let Q := fun watch : Watch => watch.Tracks ∧ Prompt watch.marks
  have keep : ∀ label watch next, Q watch → watch.Guard label →
      watch.step label = some next → Q next := by
    rintro label watch next ⟨tracks, prompt⟩ guarded stepped
    exact ⟨tracks_step tracks stepped, prompt_step tracks prompt guarded stepped⟩
  have shows : ∀ watch, Q watch → watch.Fresh := fun watch both => prompt_fresh both.1 both.2
  have breaks : ∀ label watch, Q watch → ¬ watch.Guard label →
      ∃ next, watch.step label = some next ∧ ¬ next.Fresh :=
    fun label watch both unguarded => overtaken_unfresh both.1 unguarded
  have holds : Q (Watch.start maxBarriers reconnect) := by
    refine ⟨tracks_start maxBarriers reconnect, ?_⟩
    intro before info after shape
    cases before <;> cases shape
  exact always_iff_guarded keep shows breaks holds

/-- A second request while the transaction of the first is on the wire. -/
def requestedMidRead : List Label :=
  [.writer (.opened (.ok 0)), .refreshDeviceInfo] ++ List.replicate 7 (.writer .none) ++
    [.refreshDeviceInfo, .writer (.replied (.ok ⟨0x81#8, [0x31#8, 1#8, 0#8]⟩)), .writer .none]

/-- The reading the second caller is shown as new began before its request. -/
theorem reading_overtaken :
    ∃ watch, run Watch.step requestedMidRead (Watch.start 8 false) = some watch ∧
      ¬ watch.Fresh := by
  have shown : (run Watch.step requestedMidRead (Watch.start 8 false)).map (fun watch =>
      (watch.marks, watch.sys.shared.linkState.infoGeneration,
        watch.sys.shared.linkState.infoStale)) =
      some ([.requested 0#64, .began, .requested 0#64, .published ⟨1#8, true, false, false, false⟩],
        1#64, false) := by
    decide
  obtain ⟨watch, success, same⟩ := Option.map_eq_some_iff.mp shown
  simp only [Prod.mk.injEq] at same
  obtain ⟨marks, generation, stale⟩ := same
  refine ⟨watch, success, fun fresh => ?_⟩
  obtain ⟨_, earlier, between, later, _, shape, _⟩ := fresh [.requested 0#64, .began] 0#64
    [.published ⟨1#8, true, false, false, false⟩] marks (by rw [generation]; decide) stale
  cases earlier with
  | nil => cases shape
  | cons first rest => simp at shape

end NanoKvm.Input
