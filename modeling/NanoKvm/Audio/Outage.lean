import NanoKvm.Audio.RingLaws

/-!
# One side stopped

An outage is pops alone or pushes alone, after any calls on a ring of the default
policy.  It is counted as drift exactly when the ring stands one period from the
wall it runs into with a streak one observation short, or passes that place while
the policy waits for one observation only.
-/

set_option autoImplicit false

namespace NanoKvm.Audio

open NanoKvm.Lib

/-- The capture side has stopped for `n` pops: no correction, and underruns in the
end. -/
def CaptureOutage (history : RingHistory) (n : Nat) : Prop :=
  ∃ after, run RingHistory.step (List.replicate n .pop) history = some after ∧
    after.ring.counts.driftDrops = history.ring.counts.driftDrops ∧
    after.ring.counts.driftInserts = history.ring.counts.driftInserts ∧
    (history.ring.config.periods < n →
      history.ring.counts.underruns < after.ring.counts.underruns)

/-- The playback side has stopped while `stream` arrives: no correction, and overruns
in the end. -/
def PlaybackOutage (history : RingHistory) (stream : List Period) : Prop :=
  ∃ after, run RingHistory.step (stream.map .push) history = some after ∧
    after.ring.counts.driftDrops = history.ring.counts.driftDrops ∧
    after.ring.counts.driftInserts = history.ring.counts.driftInserts ∧
    (history.ring.config.periods < stream.length →
      history.ring.counts.overruns < after.ring.counts.overruns)

/-- `n` pops reach the last period, where the policy inserts. -/
def PopsCorrect (ring : PeriodRing) (n : Nat) : Prop :=
  1 ≤ ring.queue.length ∧ ring.queue.length ≤ n ∧
    (ring.drift.hold = 1 ∨ ring.queue.length = 1 ∧ ring.drift.hold ≤ ring.drift.lowStreak + 1)

/-- `n` pushes come to the last free place, where the policy drops. -/
def PushesCorrect (ring : PeriodRing) (n : Nat) : Prop :=
  2 ≤ ring.config.periods ∧ ring.queue.length < ring.config.periods ∧
    ring.config.periods ≤ ring.queue.length + n ∧
    (ring.drift.hold = 1 ∨ ring.queue.length + 1 = ring.config.periods ∧
      ring.drift.hold ≤ ring.drift.highStreak + 1)

instance (ring : PeriodRing) (n : Nat) : Decidable (PopsCorrect ring n) :=
  inferInstanceAs (Decidable (_ ∧ _ ∧ _))

instance (ring : PeriodRing) (n : Nat) : Decidable (PushesCorrect ring n) :=
  inferInstanceAs (Decidable (_ ∧ _ ∧ _ ∧ _))

/-- The marks of the default policy, and a hold of one at least. -/
structure DefaultMarks (ring : PeriodRing) : Prop where
  high : ring.drift.highWater = max (ring.config.periods - 1) 1
  low : ring.drift.lowWater = 1
  hold : 1 ≤ ring.drift.hold

section Marks
variable {ring next : PeriodRing} {call : RingCall} {result : RingResult}

theorem onPush_marks (drift : DriftPolicy) (level : Nat) :
    (drift.onPush level).2.highWater = drift.highWater ∧
      (drift.onPush level).2.lowWater = drift.lowWater := by
  unfold DriftPolicy.onPush
  split
  · exact ⟨rfl, rfl⟩
  split <;> exact ⟨rfl, rfl⟩

theorem onPop_marks (drift : DriftPolicy) (level : Nat) :
    (drift.onPop level).2.highWater = drift.highWater ∧
      (drift.onPop level).2.lowWater = drift.lowWater := by
  unfold DriftPolicy.onPop
  split
  · exact ⟨rfl, rfl⟩
  split <;> exact ⟨rfl, rfl⟩

theorem Turn.marks (turn : Turn ring call result next) (marks : DefaultMarks ring) :
    DefaultMarks next := by
  obtain ⟨high, low, hold⟩ := marks
  have patience := turn.streaks.1
  have shape := turn.config
  have push := onPush_marks ring.drift ring.queue.length
  have pop := onPop_marks ring.drift ring.queue.length
  have kept : next.drift.highWater = ring.drift.highWater ∧
      next.drift.lowWater = ring.drift.lowWater := by
    cases turn with
    | queued | driftDropped | overran => exact push
    | period | driftInserted | underran => exact pop
  exact ⟨by rw [kept.1, shape, high], by rw [kept.2, low], by rw [patience]; exact hold⟩

/-- No call takes a correction back. -/
theorem Turn.corrections (turn : Turn ring call result next) :
    ring.counts.driftInserts ≤ next.counts.driftInserts ∧
      ring.counts.driftDrops ≤ next.counts.driftDrops := by
  cases turn with
  | queued | overran | period | underran => exact ⟨Nat.le_refl _, Nat.le_refl _⟩
  | driftDropped => exact ⟨Nat.le_refl _, Nat.le_succ _⟩
  | driftInserted => exact ⟨Nat.le_succ _, Nat.le_refl _⟩

theorem run_corrections {calls : List RingCall} {history after : RingHistory}
    (ran : run RingHistory.step calls history = some after) :
    history.ring.counts.driftInserts ≤ after.ring.counts.driftInserts ∧
      history.ring.counts.driftDrops ≤ after.ring.counts.driftDrops := by
  induction calls generalizing history with
  | nil =>
      cases ran
      exact ⟨Nat.le_refl _, Nat.le_refl _⟩
  | cons call rest ih =>
      obtain ⟨next, stepped, rested⟩ := run_cons ran
      obtain ⟨result, turn, -⟩ := step_turn stepped
      have first := turn.corrections
      have later := ih rested
      exact ⟨Nat.le_trans first.1 later.1, Nat.le_trans first.2 later.2⟩

theorem newMarks (config : RingConfig) : DefaultMarks (.new config) :=
  ⟨rfl, rfl, Nat.le_max_right _ 1⟩

end Marks

/-! ## Pops alone -/

section Pops
variable {ring next : PeriodRing} {result : RingResult}

/-- What a pop does at each level. -/
inductive PopView (ring next : PeriodRing) : Prop where
  | empty (level : ring.queue.length = 0) (after : next.queue.length = 0)
      (inserts : next.counts.driftInserts = ring.counts.driftInserts)
      (underruns : next.counts.underruns = ring.counts.underruns + 1)
  | last (level : ring.queue.length = 1) (short : ring.drift.lowStreak + 1 < ring.drift.hold)
      (after : next.queue.length = 0)
      (inserts : next.counts.driftInserts = ring.counts.driftInserts)
      (underruns : next.counts.underruns = ring.counts.underruns)
  | corrected (level : ring.queue.length = 1)
      (long : ring.drift.hold ≤ ring.drift.lowStreak + 1)
      (inserts : next.counts.driftInserts = ring.counts.driftInserts + 1)
  | deep (level : 2 ≤ ring.queue.length) (after : next.queue.length + 1 = ring.queue.length)
      (streak : next.drift.lowStreak = 0)
      (inserts : next.counts.driftInserts = ring.counts.driftInserts)
      (underruns : next.counts.underruns = ring.counts.underruns)

theorem onPop_above {drift : DriftPolicy} {level : Nat} (above : drift.lowWater < level) :
    drift.onPop level = (.hold, { drift with lowStreak := 0 }) := if_pos above

theorem onPop_calm {drift : DriftPolicy} {level : Nat} (low : level ≤ drift.lowWater)
    (calm : (drift.onPop level).1 ≠ .insertOne) : drift.lowStreak + 1 < drift.hold := by
  unfold DriftPolicy.onPop at calm
  rw [if_neg (by omega)] at calm
  by_cases long : drift.lowStreak + 1 ≥ drift.hold
  · rw [if_pos long] at calm
    exact absurd rfl calm
  · omega

theorem pop_view (turn : Turn ring .pop result next) (marks : DefaultMarks ring) :
    PopView ring next := by
  have low := marks.low
  cases turn with
  | @period period rest held calm =>
      have length : ring.queue.length = rest.length + 1 := by rw [held]; rfl
      by_cases one : rest.length = 0
      · exact .last (by omega) (onPop_calm (by omega) calm) one rfl rfl
      · refine .deep (by omega) length.symm ?_ rfl rfl
        rw [onPop_above (by omega)]
  | driftInserted held wanted =>
      have some := List.length_pos_iff.mpr held
      have level : ring.queue.length = 1 := by
        by_contra other
        rw [onPop_above (by omega)] at wanted
        cases wanted
      exact .corrected level (onPop_fires wanted).1 rfl
  | underran empty => exact .empty (by rw [empty]; rfl) (by rw [empty]; rfl) rfl rfl

theorem pop_drops (turn : Turn ring .pop result next) :
    next.counts.driftDrops = ring.counts.driftDrops := by
  cases turn <;> rfl

end Pops

theorem pop_step (history : RingHistory) :
    ∃ result next, history.step .pop = some next ∧ Turn history.ring .pop result next.ring := by
  have stepped : (history.step .pop).isSome = true := rfl
  obtain ⟨next, stepped⟩ := Option.isSome_iff_exists.mp stepped
  obtain ⟨result, turn, -⟩ := step_turn stepped
  exact ⟨result, next, stepped, turn⟩

theorem run_next {call : RingCall} {calls : List RingCall} {history next : RingHistory}
    (stepped : history.step call = some next) :
    run RingHistory.step (call :: calls) history = run RingHistory.step calls next := by
  change (history.step call).bind _ = _
  rw [stepped]
  rfl

/-- Pops that reach no correction leave the drift counts alone, and underrun once the
ring is empty. -/
theorem pops_clean {n : Nat} {history : RingHistory} (marks : DefaultMarks history.ring)
    (clean : ¬ PopsCorrect history.ring n) :
    ∃ after, run RingHistory.step (List.replicate n .pop) history = some after ∧
      after.ring.counts.driftDrops = history.ring.counts.driftDrops ∧
      after.ring.counts.driftInserts = history.ring.counts.driftInserts ∧
      after.ring.counts.underruns =
        history.ring.counts.underruns + (n - history.ring.queue.length) := by
  induction n generalizing history with
  | zero => exact ⟨history, rfl, rfl, rfl, by omega⟩
  | succ n ih =>
      obtain ⟨result, next, stepped, turn⟩ := pop_step history
      have patience := turn.streaks.1
      have some := marks.hold
      unfold PopsCorrect at clean ih
      have onward : ¬ (1 ≤ next.ring.queue.length ∧ next.ring.queue.length ≤ n ∧
          (next.ring.drift.hold = 1 ∨ next.ring.queue.length = 1 ∧
            next.ring.drift.hold ≤ next.ring.drift.lowStreak + 1)) := by
        cases pop_view turn marks <;> omega
      obtain ⟨after, ran, drops, inserts, underruns⟩ := ih (turn.marks marks) onward
      refine ⟨after, ?_, drops.trans (pop_drops turn), ?_, ?_⟩
      · rw [List.replicate_succ, run_next stepped]
        exact ran
      · cases pop_view turn marks <;> omega
      · cases pop_view turn marks <;> omega

/-- Pops that reach a correction count one. -/
theorem pops_correct {n : Nat} {history after : RingHistory} (marks : DefaultMarks history.ring)
    (correct : PopsCorrect history.ring n)
    (ran : run RingHistory.step (List.replicate n .pop) history = some after) :
    history.ring.counts.driftInserts < after.ring.counts.driftInserts := by
  induction n generalizing history with
  | zero =>
      obtain ⟨held, none, -⟩ := correct
      omega
  | succ n ih =>
      obtain ⟨next, stepped, rested⟩ := run_cons ran
      obtain ⟨result, popped, stepped', turn⟩ := pop_step history
      rw [stepped] at stepped'
      cases stepped'
      have patience := turn.streaks.1
      obtain ⟨held, reached, long⟩ := correct
      cases pop_view turn marks with
      | empty level => omega
      | last level short => omega
      | corrected level long inserts =>
          have := (run_corrections rested).1
          omega
      | deep level left streak inserts =>
          have onward : PopsCorrect next.ring n := by
            unfold PopsCorrect
            omega
          have := ih (turn.marks marks) onward rested
          omega

theorem captureOutage_iff {history : RingHistory} (marks : DefaultMarks history.ring)
    (bounded : history.ring.queue.length ≤ history.ring.config.periods) (n : Nat) :
    CaptureOutage history n ↔ ¬ PopsCorrect history.ring n := by
  constructor
  · rintro ⟨after, ran, -, inserts, -⟩ correct
    have := pops_correct marks correct ran
    omega
  · intro clean
    obtain ⟨after, ran, drops, inserts, underruns⟩ := pops_clean marks clean
    exact ⟨after, ran, drops, inserts, by omega⟩

/-! ## Pushes alone -/

section Pushes
variable {ring next : PeriodRing} {period : Period} {result : RingResult}

/-- What a push does at each level. -/
inductive PushView (ring next : PeriodRing) : Prop where
  | full (level : ring.queue.length = ring.config.periods)
      (after : next.queue.length = ring.config.periods)
      (drops : next.counts.driftDrops = ring.counts.driftDrops)
      (overruns : next.counts.overruns = ring.counts.overruns + 1)
  | last (level : ring.queue.length + 1 = ring.config.periods)
      (calm : ring.config.periods = 1 ∨ ring.drift.highStreak + 1 < ring.drift.hold)
      (after : next.queue.length = ring.config.periods)
      (drops : next.counts.driftDrops = ring.counts.driftDrops)
      (overruns : next.counts.overruns = ring.counts.overruns)
  | corrected (level : ring.queue.length + 1 = ring.config.periods)
      (some : 2 ≤ ring.config.periods) (long : ring.drift.hold ≤ ring.drift.highStreak + 1)
      (drops : next.counts.driftDrops = ring.counts.driftDrops + 1)
  | low (level : ring.queue.length + 2 ≤ ring.config.periods)
      (after : next.queue.length = ring.queue.length + 1) (streak : next.drift.highStreak = 0)
      (drops : next.counts.driftDrops = ring.counts.driftDrops)
      (overruns : next.counts.overruns = ring.counts.overruns)

theorem onPush_below {drift : DriftPolicy} {level : Nat} (below : level < drift.highWater) :
    drift.onPush level = (.hold, { drift with highStreak := 0 }) := if_pos below

theorem onPush_calm {drift : DriftPolicy} {level : Nat} (high : drift.highWater ≤ level)
    (calm : (drift.onPush level).1 ≠ .dropOne) : drift.highStreak + 1 < drift.hold := by
  unfold DriftPolicy.onPush at calm
  rw [if_neg (by omega)] at calm
  by_cases long : drift.highStreak + 1 ≥ drift.hold
  · rw [if_pos long] at calm
    exact absurd rfl calm
  · omega

theorem push_view (turn : Turn ring (.push period) result next) (marks : DefaultMarks ring)
    (deep : 1 ≤ ring.config.periods) (bounded : ring.queue.length ≤ ring.config.periods) :
    PushView ring next := by
  have high := marks.high
  cases turn with
  | queued whole room calm =>
      by_cases below : ring.queue.length + 2 ≤ ring.config.periods
      · refine .low below (List.length_append ..) ?_ rfl rfl
        rw [onPush_below (by omega)]
      · refine .last (by omega) ?_ ?_ rfl rfl
        · by_cases one : ring.config.periods = 1
          · exact .inl one
          · have stays : (ring.drift.onPush ring.queue.length).1 ≠ .dropOne := by
              intro drop
              have empty := congrArg List.length (calm drop)
              rw [List.length_nil] at empty
              omega
            exact .inr (onPush_calm (by omega) stays)
        · rw [List.length_append, List.length_singleton]
          omega
  | @driftDropped period oldest rest whole room held wanted =>
      have some : ring.queue.length = rest.length + 1 := by rw [held]; rfl
      have level : ring.queue.length + 1 = ring.config.periods := by
        by_contra other
        rw [onPush_below (by omega)] at wanted
        cases wanted
      exact .corrected level (by omega) (onPush_fires wanted).1 rfl
  | overran whole full =>
      have level : ring.queue.length = ring.config.periods := by omega
      refine .full level ?_ rfl rfl
      rw [List.length_append, List.length_singleton, List.length_drop]
      omega

theorem push_inserts (turn : Turn ring (.push period) result next) :
    next.counts.driftInserts = ring.counts.driftInserts := by
  cases turn <;> rfl

theorem push_whole {history : RingHistory}
    (whole : period.length = history.ring.config.periodSamples) :
    ∃ result next, history.step (.push period) = some next ∧
      Turn history.ring (.push period) result next.ring := by
  have stepped : (history.step (.push period)).isSome = true := by
    have fits : ¬ period.length ≠ history.ring.config.periodSamples := not_not_intro whole
    unfold RingHistory.step PeriodRing.call PeriodRing.push
    simp only [if_neg fits]
    rfl
  obtain ⟨next, stepped⟩ := Option.isSome_iff_exists.mp stepped
  obtain ⟨result, turn, -⟩ := step_turn stepped
  exact ⟨result, next, stepped, turn⟩

end Pushes

section PushRuns
variable {stream : List Period} {history : RingHistory}

/-- Pushes that come to no correction leave the drift counts alone, and overrun once the
ring is full. -/
theorem pushes_clean (marks : DefaultMarks history.ring) (deep : 1 ≤ history.ring.config.periods)
    (bounded : history.ring.queue.length ≤ history.ring.config.periods)
    (whole : ∀ period ∈ stream, period.length = history.ring.config.periodSamples)
    (clean : ¬ PushesCorrect history.ring stream.length) :
    ∃ after, run RingHistory.step (stream.map .push) history = some after ∧
      after.ring.counts.driftDrops = history.ring.counts.driftDrops ∧
      after.ring.counts.driftInserts = history.ring.counts.driftInserts ∧
      after.ring.counts.overruns = history.ring.counts.overruns +
        (history.ring.queue.length + stream.length - history.ring.config.periods) := by
  induction stream generalizing history with
  | nil => exact ⟨history, rfl, rfl, rfl, by rw [List.length_nil]; omega⟩
  | cons period rest ih =>
      obtain ⟨result, next, stepped, turn⟩ := push_whole (whole period List.mem_cons_self)
      have patience := turn.streaks.1
      have shape := turn.config
      have some := marks.hold
      have view := push_view turn marks deep bounded
      rw [List.length_cons] at clean ⊢
      unfold PushesCorrect at clean ih
      have onward : ¬ (2 ≤ next.ring.config.periods ∧
          next.ring.queue.length < next.ring.config.periods ∧
          next.ring.config.periods ≤ next.ring.queue.length + rest.length ∧
          (next.ring.drift.hold = 1 ∨ next.ring.queue.length + 1 = next.ring.config.periods ∧
            next.ring.drift.hold ≤ next.ring.drift.highStreak + 1)) := by
        rw [shape]
        cases view <;> omega
      have later : ∀ other ∈ rest, other.length = next.ring.config.periodSamples := by
        rw [shape]
        exact fun other member => whole other (List.mem_cons_of_mem period member)
      obtain ⟨after, ran, drops, inserts, overruns⟩ :=
        ih (turn.marks marks) (shape ▸ deep) (turn.bounded deep bounded) later onward
      rw [shape] at overruns
      refine ⟨after, ?_, ?_, inserts.trans (push_inserts turn), ?_⟩
      · rw [List.map_cons, run_next stepped]
        exact ran
      · cases view <;> omega
      · cases view <;> omega

/-- Pushes that come to a correction count one. -/
theorem pushes_correct {after : RingHistory} (marks : DefaultMarks history.ring)
    (deep : 1 ≤ history.ring.config.periods)
    (bounded : history.ring.queue.length ≤ history.ring.config.periods)
    (correct : PushesCorrect history.ring stream.length)
    (ran : run RingHistory.step (stream.map .push) history = some after) :
    history.ring.counts.driftDrops < after.ring.counts.driftDrops := by
  induction stream generalizing history with
  | nil =>
      obtain ⟨-, room, none, -⟩ := correct
      rw [List.length_nil] at none
      omega
  | cons period rest ih =>
      obtain ⟨next, stepped, rested⟩ := run_cons ran
      obtain ⟨result, turn, -⟩ := step_turn stepped
      have patience := turn.streaks.1
      have shape := turn.config
      have sofar := (run_corrections rested).2
      obtain ⟨some, room, reached, long⟩ := correct
      rw [List.length_cons] at reached
      cases push_view turn marks deep bounded with
      | full level => omega
      | last level calm => omega
      | corrected level two long drops => omega
      | low level after streak drops =>
          have onward : PushesCorrect next.ring rest.length := by
            unfold PushesCorrect
            rw [shape]
            omega
          have := ih (turn.marks marks) (shape ▸ deep) (turn.bounded deep bounded) onward rested
          omega

theorem playbackOutage_iff (marks : DefaultMarks history.ring)
    (deep : 1 ≤ history.ring.config.periods)
    (bounded : history.ring.queue.length ≤ history.ring.config.periods)
    (whole : ∀ period ∈ stream, period.length = history.ring.config.periodSamples) :
    PlaybackOutage history stream ↔ ¬ PushesCorrect history.ring stream.length := by
  constructor
  · rintro ⟨after, ran, drops, -, -⟩ correct
    have := pushes_correct marks deep bounded correct ran
    omega
  · intro clean
    obtain ⟨after, ran, drops, inserts, overruns⟩ :=
      pushes_clean marks deep bounded whole clean
    exact ⟨after, ran, drops, inserts, by omega⟩

end PushRuns

/-! ## After any calls -/

section Outages
variable {config : RingConfig} {calls : List RingCall} {history : RingHistory}

theorem run_marks (ran : run RingHistory.step calls ⟨.new config, []⟩ = some history) :
    DefaultMarks history.ring := by
  refine run_preserves (P := fun history => DefaultMarks history.ring) ?_ (newMarks config) ran
  intro call history next marks stepped
  obtain ⟨result, turn, -⟩ := step_turn stepped
  exact turn.marks marks

/-- An outage of `n` pops is none of drift exactly when it does not reach the last
period with a streak that completes there, and likewise for pushes and the last free
place. -/
theorem outage_exact (deep : 1 ≤ config.periods)
    (ran : run RingHistory.step calls ⟨.new config, []⟩ = some history) :
    (∀ n, CaptureOutage history n ↔ ¬ PopsCorrect history.ring n) ∧
    ∀ stream, (∀ period ∈ stream, period.length = config.periodSamples) →
      (PlaybackOutage history stream ↔ ¬ PushesCorrect history.ring stream.length) := by
  have lawful : Lawful config (DriftPolicy.new config).hold history := run_lawful deep ran
  have marks := run_marks ran
  have shape := lawful.shape
  refine ⟨captureOutage_iff marks lawful.bounded, fun stream whole => ?_⟩
  exact playbackOutage_iff marks (shape ▸ deep) lawful.bounded (shape ▸ whole)

/-- The default depth, in periods of one frame. -/
def eight : RingConfig := ⟨8, 1⟩

/-- Thirty-one pushes each popped at once, and one push more. -/
def almost : List RingCall :=
  (List.replicate 31 [.push [1#16, 1#16], .pop]).flatten ++ [.push [2#16, 2#16]]

def almostHistory : RingHistory :=
  (run RingHistory.step almost ⟨.new eight, []⟩).getD ⟨.new eight, []⟩

theorem almost_runs :
    run RingHistory.step almost ⟨.new eight, []⟩ = some almostHistory := by
  have reached : (run RingHistory.step almost ⟨.new eight, []⟩).isSome = true := by
    rfl
  obtain ⟨history, ran⟩ := Option.isSome_iff_exists.mp reached
  rw [almostHistory, ran, Option.getD_some]

/-- The streak is one observation short, and the first pop of an outage completes it. -/
theorem outage_counted_as_drift :
    run RingHistory.step almost ⟨.new eight, []⟩ = some almostHistory ∧
      ¬ CaptureOutage almostHistory 1 := by
  refine ⟨almost_runs, ?_⟩
  have lawful : Lawful eight (DriftPolicy.new eight).hold almostHistory :=
    run_lawful (by decide) almost_runs
  have correct : PopsCorrect almostHistory.ring 1 := by decide
  exact fun clean => (captureOutage_iff (run_marks almost_runs) lawful.bounded 1).mp clean correct

/-- From an empty ring an outage is no drift, on either side. -/
theorem outage_exact_fresh :
    CaptureOutage ⟨.new eight, []⟩ 100 ∧
      PlaybackOutage ⟨.new eight, []⟩ (List.replicate 20 [1#16, 1#16]) := by
  have exact := @outage_exact eight [] ⟨.new eight, []⟩ (by decide) rfl
  refine ⟨(exact.1 100).mpr (by decide), (exact.2 _ ?_).mpr (by decide)⟩
  intro period member
  rw [List.eq_of_mem_replicate member]
  rfl

end Outages

end NanoKvm.Audio
