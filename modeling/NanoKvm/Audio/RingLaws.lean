import NanoKvm.Audio.Ring
import NanoKvm.Lib.Lossy
import NanoKvm.Lib.Spacing

/-!
# What a ring keeps

Whatever the policy and the order of the calls: the bound, the account of every
period, their order, whole silence where there is none, and corrections that are a
streak apart.
-/

set_option autoImplicit false

namespace NanoKvm.Audio

open NanoKvm.Lib

/-! ## What is read off a log -/

abbrev RingEntry := RingCall × RingResult

def RingEntry.pushes (entry : RingEntry) : Option Period :=
  match entry.1 with
  | .push period => some period
  | .pop => none

def RingEntry.plays (entry : RingEntry) : Option Period :=
  match entry.2 with
  | .popped period .period => some period
  | _ => none

def RingEntry.isPush (entry : RingEntry) : Bool := entry.1 ≠ .pop
def RingEntry.isPop (entry : RingEntry) : Bool := entry.1 = .pop

inductive Loss where
  | overrun
  | underrun
  | driftDrop
  | driftInsert
  deriving DecidableEq, Repr

/-- The loss an outcome names. -/
def RingResult.loss : RingResult → Option Loss
  | .pushed .queued => none
  | .pushed .driftDropped => some .driftDrop
  | .pushed .overran => some .overrun
  | .popped _ .period => none
  | .popped _ .underran => some .underrun
  | .popped _ .driftInserted => some .driftInsert

def RingCounts.lost (counts : RingCounts) : Loss → Nat
  | .overrun => counts.overruns
  | .underrun => counts.underruns
  | .driftDrop => counts.driftDrops
  | .driftInsert => counts.driftInserts

def RingEntry.drops (entry : RingEntry) : Bool := entry.2.loss = some .driftDrop
def RingEntry.inserts (entry : RingEntry) : Bool := entry.2.loss = some .driftInsert

def pushedIn (log : List RingEntry) : List Period := log.filterMap RingEntry.pushes
def playedIn (log : List RingEntry) : List Period := log.filterMap RingEntry.plays

/-! ## The policy -/

section Policy
variable (drift : DriftPolicy) (level : Nat)

theorem onPush_keeps : (drift.onPush level).2.hold = drift.hold ∧
    (drift.onPush level).2.lowStreak = drift.lowStreak ∧
    (drift.onPush level).2.highStreak ≤ drift.highStreak + 1 := by
  unfold DriftPolicy.onPush
  split
  · exact ⟨rfl, rfl, Nat.zero_le _⟩
  split
  · exact ⟨rfl, rfl, Nat.zero_le _⟩
  · exact ⟨rfl, rfl, Nat.le_refl _⟩

theorem onPop_keeps : (drift.onPop level).2.hold = drift.hold ∧
    (drift.onPop level).2.highStreak = drift.highStreak ∧
    (drift.onPop level).2.lowStreak ≤ drift.lowStreak + 1 := by
  unfold DriftPolicy.onPop
  split
  · exact ⟨rfl, rfl, Nat.zero_le _⟩
  split
  · exact ⟨rfl, rfl, Nat.zero_le _⟩
  · exact ⟨rfl, rfl, Nat.le_refl _⟩

variable {drift level}

theorem onPush_fires (wanted : (drift.onPush level).1 = .dropOne) :
    drift.hold ≤ drift.highStreak + 1 ∧ (drift.onPush level).2.highStreak = 0 := by
  unfold DriftPolicy.onPush at wanted ⊢
  by_cases low : level < drift.highWater
  · rw [if_pos low] at wanted
    cases wanted
  rw [if_neg low] at wanted ⊢
  by_cases long : drift.highStreak + 1 ≥ drift.hold
  · rw [if_pos long]
    exact ⟨long, rfl⟩
  · rw [if_neg long] at wanted
    cases wanted

theorem onPop_fires (wanted : (drift.onPop level).1 = .insertOne) :
    drift.hold ≤ drift.lowStreak + 1 ∧ (drift.onPop level).2.lowStreak = 0 := by
  unfold DriftPolicy.onPop at wanted ⊢
  by_cases high : level > drift.lowWater
  · rw [if_pos high] at wanted
    cases wanted
  rw [if_neg high] at wanted ⊢
  by_cases long : drift.lowStreak + 1 ≥ drift.hold
  · rw [if_pos long]
    exact ⟨long, rfl⟩
  · rw [if_neg long] at wanted
    cases wanted

end Policy

/-! ## One call -/

section Turns
variable {ring next : PeriodRing} {call : RingCall} {result : RingResult}

theorem Turn.config (turn : Turn ring call result next) : next.config = ring.config := by
  cases turn <;> rfl

theorem Turn.bounded (turn : Turn ring call result next) (deep : 1 ≤ ring.config.periods)
    (bounded : ring.queue.length ≤ ring.config.periods) :
    next.queue.length ≤ next.config.periods := by
  cases turn with
  | queued whole room calm =>
      simp only [List.length_append, List.length_singleton]
      omega
  | driftDropped whole room held wanted =>
      rw [held, List.length_cons] at room
      simp only [List.length_append, List.length_singleton]
      omega
  | overran whole full =>
      simp only [List.length_append, List.length_singleton, List.length_drop]
      omega
  | period held calm =>
      rw [held, List.length_cons] at bounded
      exact Nat.le_of_succ_le bounded
  | driftInserted held wanted => exact bounded
  | underran empty => exact bounded

/-- Every period that went in is still held, was played or is counted as dropped. -/
theorem Turn.conserved (turn : Turn ring call result next) (deep : 1 ≤ ring.config.periods)
    (conserved : ring.counts.pushed = ring.counts.popped + ring.counts.overruns +
      ring.counts.driftDrops + ring.queue.length) :
    next.counts.pushed = next.counts.popped + next.counts.overruns + next.counts.driftDrops +
      next.queue.length := by
  cases turn with
  | queued whole room calm =>
      simp only [List.length_append, List.length_singleton]
      omega
  | driftDropped whole room held wanted =>
      rw [held, List.length_cons] at conserved
      simp only [List.length_append, List.length_singleton]
      omega
  | overran whole full =>
      simp only [List.length_append, List.length_singleton, List.length_drop]
      omega
  | period held calm =>
      rw [held, List.length_cons] at conserved
      dsimp only
      omega
  | driftInserted held wanted => exact conserved
  | underran empty => exact conserved

theorem Turn.lost (turn : Turn ring call result next) (loss : Loss) :
    next.counts.lost loss = ring.counts.lost loss + if result.loss = some loss then 1 else 0 := by
  cases turn <;> cases loss <;> rfl

section Log
variable (log : List RingEntry) (period : Period)

@[simp] theorem pushedIn_push (result : RingResult) :
    pushedIn (log ++ [(.push period, result)]) = pushedIn log ++ [period] := by
  simp [pushedIn, RingEntry.pushes]

@[simp] theorem pushedIn_pop (result : RingResult) :
    pushedIn (log ++ [(.pop, result)]) = pushedIn log := by
  simp [pushedIn, RingEntry.pushes]

@[simp] theorem playedIn_pushed (call : RingCall) (outcome : PushOutcome) :
    playedIn (log ++ [(call, .pushed outcome)]) = playedIn log := by
  simp [playedIn, RingEntry.plays]

@[simp] theorem playedIn_period (call : RingCall) :
    playedIn (log ++ [(call, .popped period .period)]) = playedIn log ++ [period] := by
  simp [playedIn, RingEntry.plays]

@[simp] theorem playedIn_underran (call : RingCall) :
    playedIn (log ++ [(call, .popped period .underran)]) = playedIn log := by
  simp [playedIn, RingEntry.plays]

@[simp] theorem playedIn_inserted (call : RingCall) :
    playedIn (log ++ [(call, .popped period .driftInserted)]) = playedIn log := by
  simp [playedIn, RingEntry.plays]

end Log

/-- The queue is what is under way from the pushes to the plays. -/
theorem Turn.ordered {log : List RingEntry} (turn : Turn ring call result next)
    (lossy : Lossy id (playedIn log) ring.queue (pushedIn log)) :
    Lossy id (playedIn (log ++ [(call, result)])) next.queue
      (pushedIn (log ++ [(call, result)])) := by
  cases turn with
  | @queued period whole room calm =>
      rw [pushedIn_push, playedIn_pushed]
      exact lossy.enter period
  | @driftDropped period oldest rest whole room held wanted =>
      rw [held] at lossy
      rw [pushedIn_push, playedIn_pushed]
      exact (lossy.lose (List.Sublist.refl _) (List.sublist_cons_self oldest rest)).enter period
  | @overran period whole full =>
      rw [pushedIn_push, playedIn_pushed]
      exact (lossy.lose (List.Sublist.refl _) (List.drop_sublist 1 _)).enter period
  | @period period rest held calm =>
      rw [held] at lossy
      rw [pushedIn_pop, playedIn_period]
      exact lossy.emerge
  | driftInserted held wanted =>
      rw [pushedIn_pop, playedIn_inserted]
      exact lossy
  | underran empty =>
      rw [pushedIn_pop, playedIn_underran]
      exact lossy

theorem silence_whole (config : RingConfig) : config.silence.length = config.periodSamples :=
  List.length_replicate

theorem Turn.whole (turn : Turn ring call result next)
    (whole : ∀ period ∈ ring.queue, period.length = ring.config.periodSamples) :
    ∀ period ∈ next.queue, period.length = ring.config.periodSamples := by
  cases turn with
  | @queued period pushed room calm =>
      intro other member
      rcases List.mem_append.mp member with held | last
      · exact whole other held
      · rw [List.mem_singleton.mp last]
        exact pushed
  | @driftDropped period oldest rest pushed room held wanted =>
      intro other member
      rcases List.mem_append.mp member with left | last
      · exact whole other (held ▸ List.mem_cons_of_mem oldest left)
      · rw [List.mem_singleton.mp last]
        exact pushed
  | @overran period pushed full =>
      intro other member
      rcases List.mem_append.mp member with left | last
      · exact whole other (List.mem_of_mem_drop left)
      · rw [List.mem_singleton.mp last]
        exact pushed
  | @period period rest held calm =>
      exact fun other left => whole other (held ▸ List.mem_cons_of_mem period left)
  | driftInserted held wanted => exact whole
  | underran empty => exact whole

/-- A pop gives a whole period, and silence unless it is one that was queued. -/
def Silent (config : RingConfig) (result : RingResult) : Prop :=
  ∀ period outcome, result = .popped period outcome →
    period.length = config.periodSamples ∧ (outcome ≠ .period → period = config.silence)

theorem Turn.silent (turn : Turn ring call result next)
    (whole : ∀ period ∈ ring.queue, period.length = ring.config.periodSamples) :
    Silent ring.config result := by
  intro other outcome same
  cases turn with
  | queued pushed room calm => cases same
  | driftDropped pushed room held wanted => cases same
  | overran pushed full => cases same
  | @period period rest held calm =>
      cases same
      exact ⟨whole other (held ▸ List.mem_cons_self), fun other => absurd rfl other⟩
  | driftInserted held wanted =>
      cases same
      exact ⟨silence_whole _, fun _ => rfl⟩
  | underran empty =>
      cases same
      exact ⟨silence_whole _, fun _ => rfl⟩

/-- The streaks grow by one a push and a pop, and a correction spends its own. -/
theorem Turn.streaks (turn : Turn ring call result next) :
    next.drift.hold = ring.drift.hold ∧
    next.drift.highStreak ≤
      ring.drift.highStreak + (if RingEntry.isPush (call, result) = true then 1 else 0) ∧
    next.drift.lowStreak ≤
      ring.drift.lowStreak + (if RingEntry.isPop (call, result) = true then 1 else 0) ∧
    (RingEntry.drops (call, result) = true →
      ring.drift.hold ≤ ring.drift.highStreak + 1 ∧ next.drift.highStreak = 0) ∧
    (RingEntry.inserts (call, result) = true →
      ring.drift.hold ≤ ring.drift.lowStreak + 1 ∧ next.drift.lowStreak = 0) := by
  have push := onPush_keeps ring.drift ring.queue.length
  have pop := onPop_keeps ring.drift ring.queue.length
  cases turn with
  | queued pushed room calm => exact ⟨push.1, push.2.2, Nat.le_of_eq push.2.1, nofun, nofun⟩
  | driftDropped pushed room held wanted =>
      exact ⟨push.1, push.2.2, Nat.le_of_eq push.2.1, fun _ => onPush_fires wanted, nofun⟩
  | overran pushed full => exact ⟨push.1, Nat.zero_le _, Nat.zero_le _, nofun, nofun⟩
  | period held calm => exact ⟨pop.1, Nat.le_of_eq pop.2.1, pop.2.2, nofun, nofun⟩
  | driftInserted held wanted =>
      exact ⟨pop.1, Nat.le_of_eq pop.2.1, pop.2.2, nofun, fun _ => onPop_fires wanted⟩
  | underran empty => exact ⟨pop.1, Nat.zero_le _, Nat.zero_le _, nofun, nofun⟩

end Turns

/-! ## Any run -/

/-- What holds of a ring and its log after any calls. -/
structure Lawful (config : RingConfig) (hold : Nat) (history : RingHistory) : Prop where
  shape : history.ring.config = config
  patience : history.ring.drift.hold = hold
  bounded : history.ring.queue.length ≤ history.ring.config.periods
  conserved : history.ring.counts.pushed =
    history.ring.counts.popped + history.ring.counts.overruns +
      history.ring.counts.driftDrops + history.ring.queue.length
  ordered : Lossy id (playedIn history.log) history.ring.queue (pushedIn history.log)
  whole : ∀ period ∈ history.ring.queue, period.length = history.ring.config.periodSamples
  silent : ∀ entry ∈ history.log, Silent config entry.2
  drops : Spaced RingEntry.drops RingEntry.isPush hold history.ring.drift.highStreak history.log
  inserts : Spaced RingEntry.inserts RingEntry.isPop hold history.ring.drift.lowStreak history.log

section Runs
variable {config : RingConfig} {drift : DriftPolicy} {history next : RingHistory}
  {call : RingCall} {calls : List RingCall}

theorem step_turn (stepped : history.step call = some next) :
    ∃ result, Turn history.ring call result next.ring ∧
      next.log = history.log ++ [(call, result)] := by
  obtain ⟨⟨result, ring⟩, called, same⟩ := Option.map_eq_some_iff.mp stepped
  cases same
  exact ⟨result, call_turn called, rfl⟩

theorem lawful_start (config : RingConfig) (drift : DriftPolicy) :
    Lawful config drift.hold ⟨.withDrift config drift, []⟩ :=
  ⟨rfl, rfl, Nat.zero_le _, rfl, lossy_nil, nofun, nofun, spaced_nil, spaced_nil⟩

theorem step_lawful {hold : Nat} (deep : 1 ≤ config.periods)
    (lawful : Lawful config hold history) (stepped : history.step call = some next) :
    Lawful config hold next := by
  obtain ⟨ring, log⟩ := history
  obtain ⟨ring', log'⟩ := next
  obtain ⟨result, turn, logged⟩ := step_turn stepped
  obtain ⟨rfl, rfl, bounded, conserved, ordered, whole, silent, drops, inserts⟩ := lawful
  dsimp only at *
  subst logged
  obtain ⟨held, high, low, dropped, inserted⟩ := turn.streaks
  refine ⟨turn.config, held, turn.bounded deep bounded, turn.conserved deep conserved,
    turn.ordered ordered, turn.config ▸ turn.whole whole, ?_, drops.snoc high dropped,
    inserts.snoc low inserted⟩
  intro entry member
  rcases List.mem_append.mp member with earlier | last
  · exact silent entry earlier
  · rw [List.mem_singleton.mp last]
    exact turn.silent whole

theorem run_lawful (deep : 1 ≤ config.periods)
    (ran : run RingHistory.step calls ⟨.withDrift config drift, []⟩ = some history) :
    Lawful config drift.hold history :=
  run_preserves (fun _ _ _ lawful stepped => step_lawful deep lawful stepped)
    (lawful_start config drift) ran

theorem run_calls {start : RingHistory} (ran : run RingHistory.step calls start = some history) :
    history.log.map Prod.fst = start.log.map Prod.fst ++ calls := by
  induction calls generalizing start with
  | nil =>
      cases ran
      exact (List.append_nil _).symm
  | cons call rest ih =>
      obtain ⟨middle, stepped, rested⟩ := run_cons ran
      obtain ⟨result, -, logged⟩ := step_turn stepped
      rw [ih rested, logged, List.map_append, List.append_assoc]
      rfl

/-- For every policy and every calls: the bound, the account, the order, whole silence
otherwise, one loss at most for a call and the outcome names it, and corrections on one
side at least `hold` calls of that side apart. -/
theorem ring_laws (deep : 1 ≤ config.periods)
    (ran : run RingHistory.step calls ⟨.withDrift config drift, []⟩ = some history) :
    history.log.map Prod.fst = calls ∧
    history.ring.queue.length ≤ config.periods ∧
    history.ring.counts.pushed =
      history.ring.counts.popped + history.ring.counts.overruns +
        history.ring.counts.driftDrops + history.ring.queue.length ∧
    (playedIn history.log).Sublist (pushedIn history.log) ∧
    (∀ entry ∈ history.log, ∀ period outcome, entry.2 = .popped period outcome →
      period.length = config.periodSamples ∧ (outcome ≠ .period → period = config.silence)) ∧
    (∀ call result next, history.ring.call call = some (result, next) → ∀ loss,
      next.counts.lost loss =
        history.ring.counts.lost loss + if result.loss = some loss then 1 else 0) ∧
    (∀ earlier first between second later,
      history.log = earlier ++ first :: between ++ second :: later →
        first.2.loss = some .driftDrop → second.2.loss = some .driftDrop →
          drift.hold ≤ between.countP RingEntry.isPush + 1) ∧
    ∀ earlier first between second later,
      history.log = earlier ++ first :: between ++ second :: later →
        first.2.loss = some .driftInsert → second.2.loss = some .driftInsert →
          drift.hold ≤ between.countP RingEntry.isPop + 1 := by
  have lawful := run_lawful deep ran
  obtain ⟨sources, kept, images⟩ := lawful.ordered.sources
  rw [List.map_id] at images
  refine ⟨run_calls ran, lawful.shape ▸ lawful.bounded, lawful.conserved, images ▸ kept,
    fun entry member => lawful.silent entry member, ?_, ?_, ?_⟩
  · exact fun call result next called loss => (call_turn called).lost loss
  · intro earlier first between second later shape fired fired'
    exact lawful.drops.apart earlier first between second later shape
      (decide_eq_true fired) (decide_eq_true fired')
  · intro earlier first between second later shape fired fired'
    exact lawful.inserts.apart earlier first between second later shape
      (decide_eq_true fired) (decide_eq_true fired')

/-- Two periods of one frame, a policy that waits for two observations. -/
def shallow : RingConfig := ⟨2, 1⟩

def fullRing : List RingCall :=
  [.push [1#16, 1#16], .push [2#16, 2#16], .push [3#16, 3#16], .pop, .pop, .pop]

theorem ring_laws_full :
    ∃ history, run RingHistory.step fullRing ⟨.withDrift shallow (.withMarks 2 0 2), []⟩ =
        some history ∧
      history.ring.queue.length ≤ 2 ∧ (playedIn history.log).Sublist (pushedIn history.log) := by
  have reached : (run RingHistory.step fullRing
      ⟨.withDrift shallow (.withMarks 2 0 2), []⟩).isSome = true := by decide
  obtain ⟨history, ran⟩ := Option.isSome_iff_exists.mp reached
  have laws := @ring_laws shallow _ _ _ (by decide) ran
  exact ⟨history, ran, laws.2.1, laws.2.2.2.1⟩

end Runs

end NanoKvm.Audio
