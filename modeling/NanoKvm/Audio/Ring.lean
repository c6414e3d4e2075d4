import NanoKvm.Lib.Transition

/-!
# The period ring

`audio/ring.rs`.  Counts and streaks are natural numbers; only the product in
`DriftPolicy::new` can leave its type.  A push of anything but a whole period is
a failed assertion, and no step.  Each call does one of six things.
-/

set_option autoImplicit false

namespace NanoKvm.Audio

/-- One 16-bit sample. -/
abbrev Sample := BitVec 16

abbrev Period := List Sample

def channels : Nat := 2

structure RingConfig where
  periods : Nat
  periodFrames : Nat
  deriving DecidableEq, Repr

def RingConfig.default : RingConfig := ⟨8, 480⟩

def RingConfig.periodSamples (config : RingConfig) : Nat := config.periodFrames * channels

def RingConfig.silence (config : RingConfig) : Period :=
  List.replicate config.periodSamples 0#16

inductive DriftAction where
  | hold
  | dropOne
  | insertOne
  deriving DecidableEq, Repr

structure DriftPolicy where
  highWater : Nat
  lowWater : Nat
  hold : Nat
  highStreak : Nat
  lowStreak : Nat
  deriving DecidableEq, Repr

def u32Size : Nat := 4294967296

/-- The depth is cast to `u32` and multiplied there, where a release build wraps. -/
def DriftPolicy.new (config : RingConfig) : DriftPolicy where
  highWater := max (config.periods - 1) 1
  lowWater := 1
  hold := max (config.periods % u32Size * 4 % u32Size) 1
  highStreak := 0
  lowStreak := 0

def DriftPolicy.withMarks (highWater lowWater hold : Nat) : DriftPolicy where
  highWater := max highWater lowWater
  lowWater := min lowWater highWater
  hold := max hold 1
  highStreak := 0
  lowStreak := 0

/-- One observation before queueing a period. -/
def DriftPolicy.onPush (drift : DriftPolicy) (level : Nat) : DriftAction × DriftPolicy :=
  if level < drift.highWater then (.hold, { drift with highStreak := 0 })
  else if drift.highStreak + 1 ≥ drift.hold then (.dropOne, { drift with highStreak := 0 })
  else (.hold, { drift with highStreak := drift.highStreak + 1 })

/-- And one before taking one. -/
def DriftPolicy.onPop (drift : DriftPolicy) (level : Nat) : DriftAction × DriftPolicy :=
  if level > drift.lowWater then (.hold, { drift with lowStreak := 0 })
  else if drift.lowStreak + 1 ≥ drift.hold then (.insertOne, { drift with lowStreak := 0 })
  else (.hold, { drift with lowStreak := drift.lowStreak + 1 })

def DriftPolicy.reset (drift : DriftPolicy) : DriftPolicy :=
  { drift with highStreak := 0, lowStreak := 0 }

structure RingCounts where
  pushed : Nat
  popped : Nat
  overruns : Nat
  underruns : Nat
  driftDrops : Nat
  driftInserts : Nat
  deriving DecidableEq, Repr

def RingCounts.default : RingCounts := ⟨0, 0, 0, 0, 0, 0⟩

inductive PushOutcome where
  | queued
  | driftDropped
  | overran
  deriving DecidableEq, Repr

inductive PopOutcome where
  | period
  | underran
  | driftInserted
  deriving DecidableEq, Repr

structure PeriodRing where
  config : RingConfig
  drift : DriftPolicy
  queue : List Period
  counts : RingCounts
  deriving DecidableEq, Repr

namespace PeriodRing

def new (config : RingConfig) : PeriodRing := ⟨config, .new config, [], .default⟩

def withDrift (config : RingConfig) (drift : DriftPolicy) : PeriodRing :=
  { new config with drift := drift }

variable (ring : PeriodRing)

def isFull : Bool := ring.queue.length ≥ ring.config.periods

/-- The oldest period, dropped because the policy asks for it. -/
def driftDrop : PeriodRing :=
  { ring with
    queue := ring.queue.drop 1
    counts := { ring.counts with driftDrops := ring.counts.driftDrops + 1 } }

/-- The oldest period, dropped because there is no room. -/
def overrun : PeriodRing :=
  { ring with
    queue := ring.queue.drop 1
    drift := ring.drift.reset
    counts := { ring.counts with overruns := ring.counts.overruns + 1 } }

def append (period : Period) : PeriodRing :=
  { ring with
    queue := ring.queue ++ [period]
    counts := { ring.counts with pushed := ring.counts.pushed + 1 } }

/-- A drop the policy asks for, unless the ring is empty or full. -/
def relieve (wanted : DriftAction) : PushOutcome × PeriodRing :=
  if wanted = .dropOne ∧ ring.queue ≠ [] ∧ ring.isFull = false then
    (.driftDropped, ring.driftDrop)
  else (.queued, ring)

def makeRoom (outcome : PushOutcome) : PushOutcome × PeriodRing :=
  if ring.isFull then (.overran, ring.overrun) else (outcome, ring)

/-- `none` is the failed assertion that the period is whole. -/
def push (period : Period) : Option (PushOutcome × PeriodRing) :=
  if period.length ≠ ring.config.periodSamples then none
  else
    let (wanted, drift) := ring.drift.onPush ring.queue.length
    let (outcome, relieved) := { ring with drift := drift }.relieve wanted
    let (outcome, roomy) := relieved.makeRoom outcome
    some (outcome, roomy.append period)

def pop : (Period × PopOutcome) × PeriodRing :=
  let (wanted, drift) := ring.drift.onPop ring.queue.length
  let observed := { ring with drift := drift }
  if wanted = .insertOne ∧ observed.queue ≠ [] then
    ((observed.config.silence, .driftInserted),
      { observed with
        counts := { observed.counts with driftInserts := observed.counts.driftInserts + 1 } })
  else
    match observed.queue with
    | period :: rest =>
        ((period, .period),
          { observed with
            queue := rest
            counts := { observed.counts with popped := observed.counts.popped + 1 } })
    | [] =>
        ((observed.config.silence, .underran),
          { observed with
            drift := observed.drift.reset
            counts := { observed.counts with underruns := observed.counts.underruns + 1 } })

end PeriodRing

/-! ## Calls -/

inductive RingCall where
  | push (period : Period)
  | pop
  deriving DecidableEq, Repr

inductive RingResult where
  | pushed (outcome : PushOutcome)
  | popped (period : Period) (outcome : PopOutcome)
  deriving DecidableEq, Repr

def PeriodRing.call (ring : PeriodRing) : RingCall → Option (RingResult × PeriodRing)
  | .push period => (ring.push period).map fun (outcome, next) => (.pushed outcome, next)
  | .pop =>
      let ((period, outcome), next) := ring.pop
      some (.popped period outcome, next)

/-- A ring and the calls made on it, each with what it returned. -/
structure RingHistory where
  ring : PeriodRing
  log : List (RingCall × RingResult)
  deriving DecidableEq, Repr

def RingHistory.step (call : RingCall) (history : RingHistory) : Option RingHistory :=
  (history.ring.call call).map fun (result, next) => ⟨next, history.log ++ [(call, result)]⟩

/-- What a call does.  A drop the policy asks for is made unless the ring is empty or
full, an insert unless it is empty. -/
inductive Turn (ring : PeriodRing) : RingCall → RingResult → PeriodRing → Prop where
  | queued {period : Period} (whole : period.length = ring.config.periodSamples)
      (room : ring.queue.length < ring.config.periods)
      (calm : (ring.drift.onPush ring.queue.length).1 = .dropOne → ring.queue = []) :
      Turn ring (.push period) (.pushed .queued)
        { ring with
          drift := (ring.drift.onPush ring.queue.length).2
          queue := ring.queue ++ [period]
          counts := { ring.counts with pushed := ring.counts.pushed + 1 } }
  | driftDropped {period oldest : Period} {rest : List Period}
      (whole : period.length = ring.config.periodSamples)
      (room : ring.queue.length < ring.config.periods) (held : ring.queue = oldest :: rest)
      (wanted : (ring.drift.onPush ring.queue.length).1 = .dropOne) :
      Turn ring (.push period) (.pushed .driftDropped)
        { ring with
          drift := (ring.drift.onPush ring.queue.length).2
          queue := rest ++ [period]
          counts := { ring.counts with
            pushed := ring.counts.pushed + 1, driftDrops := ring.counts.driftDrops + 1 } }
  | overran {period : Period} (whole : period.length = ring.config.periodSamples)
      (full : ring.config.periods ≤ ring.queue.length) :
      Turn ring (.push period) (.pushed .overran)
        { ring with
          drift := (ring.drift.onPush ring.queue.length).2.reset
          queue := ring.queue.drop 1 ++ [period]
          counts := { ring.counts with
            pushed := ring.counts.pushed + 1, overruns := ring.counts.overruns + 1 } }
  | period {period : Period} {rest : List Period} (held : ring.queue = period :: rest)
      (calm : (ring.drift.onPop ring.queue.length).1 ≠ .insertOne) :
      Turn ring .pop (.popped period .period)
        { ring with
          drift := (ring.drift.onPop ring.queue.length).2
          queue := rest
          counts := { ring.counts with popped := ring.counts.popped + 1 } }
  | driftInserted (held : ring.queue ≠ [])
      (wanted : (ring.drift.onPop ring.queue.length).1 = .insertOne) :
      Turn ring .pop (.popped ring.config.silence .driftInserted)
        { ring with
          drift := (ring.drift.onPop ring.queue.length).2
          counts := { ring.counts with driftInserts := ring.counts.driftInserts + 1 } }
  | underran (empty : ring.queue = []) :
      Turn ring .pop (.popped ring.config.silence .underran)
        { ring with
          drift := (ring.drift.onPop ring.queue.length).2.reset
          counts := { ring.counts with underruns := ring.counts.underruns + 1 } }

section Turns
variable {ring next : PeriodRing}

theorem isFull_iff : ring.isFull = true ↔ ring.config.periods ≤ ring.queue.length :=
  decide_eq_true_iff

theorem relieve_stays (ring : PeriodRing) {wanted : DriftAction}
    (stays : wanted = .dropOne → ring.queue = [] ∨ ring.config.periods ≤ ring.queue.length) :
    ring.relieve wanted = (.queued, ring) := by
  refine if_neg ?_
  rintro ⟨drop, held, room⟩
  rcases stays drop with empty | full
  · exact held empty
  · rw [isFull_iff.mpr full] at room
    cases room

theorem relieve_drops (ring : PeriodRing) (held : ring.queue ≠ [])
    (room : ring.queue.length < ring.config.periods) :
    ring.relieve .dropOne = (.driftDropped, ring.driftDrop) := by
  refine if_pos ⟨rfl, held, ?_⟩
  rw [Bool.eq_false_iff, Ne, isFull_iff]
  omega

theorem makeRoom_stays (ring : PeriodRing) {outcome : PushOutcome}
    (room : ring.queue.length < ring.config.periods) :
    ring.makeRoom outcome = (outcome, ring) := by
  refine if_neg ?_
  rw [isFull_iff]
  omega

theorem makeRoom_overruns (ring : PeriodRing) {outcome : PushOutcome}
    (full : ring.config.periods ≤ ring.queue.length) :
    ring.makeRoom outcome = (.overran, ring.overrun) := if_pos (isFull_iff.mpr full)

theorem push_turn {period : Period} {outcome : PushOutcome}
    (pushed : ring.push period = some (outcome, next)) :
    Turn ring (.push period) (.pushed outcome) next := by
  unfold PeriodRing.push at pushed
  by_cases short : period.length ≠ ring.config.periodSamples
  · rw [if_pos short] at pushed
    cases pushed
  have whole := not_not.mp short
  rw [if_neg short] at pushed
  rcases observed : ring.drift.onPush ring.queue.length with ⟨wanted, drift⟩
  have asked : (ring.drift.onPush ring.queue.length).1 = wanted := by rw [observed]
  have kept : (ring.drift.onPush ring.queue.length).2 = drift := by rw [observed]
  simp only [observed] at pushed
  by_cases full : ring.config.periods ≤ ring.queue.length
  · rw [relieve_stays { ring with drift := drift } fun _ => .inr full,
      makeRoom_overruns { ring with drift := drift } full] at pushed
    cases pushed
    exact kept ▸ Turn.overran whole full
  have room : ring.queue.length < ring.config.periods := Nat.lt_of_not_le full
  by_cases drops : wanted = .dropOne ∧ ring.queue ≠ []
  · obtain ⟨rfl, held⟩ := drops
    obtain ⟨oldest, rest, shape⟩ := List.exists_cons_of_ne_nil held
    rw [relieve_drops { ring with drift := drift } held room] at pushed
    have less : (ring.queue.drop 1).length < ring.config.periods := by
      rw [List.length_drop]
      omega
    rw [makeRoom_stays (PeriodRing.driftDrop { ring with drift := drift }) less] at pushed
    cases pushed
    have turn := Turn.driftDropped whole room shape asked
    rw [kept] at turn
    have dropped : ring.queue.drop 1 = rest := by rw [shape]; rfl
    rw [← dropped] at turn
    exact turn
  · have calm : wanted = .dropOne → ring.queue = [] := by
      intro drop
      by_contra held
      exact drops ⟨drop, held⟩
    rw [relieve_stays { ring with drift := drift } fun drop => .inl (calm drop),
      makeRoom_stays { ring with drift := drift } room] at pushed
    cases pushed
    exact kept ▸ Turn.queued whole room (fun drop => calm (asked ▸ drop))

theorem pop_turn {period : Period} {outcome : PopOutcome}
    (popped : ring.pop = ((period, outcome), next)) :
    Turn ring .pop (.popped period outcome) next := by
  unfold PeriodRing.pop at popped
  rcases observed : ring.drift.onPop ring.queue.length with ⟨wanted, drift⟩
  have asked : (ring.drift.onPop ring.queue.length).1 = wanted := by rw [observed]
  have kept : (ring.drift.onPop ring.queue.length).2 = drift := by rw [observed]
  simp only [observed] at popped
  by_cases inserts : wanted = .insertOne ∧ ring.queue ≠ []
  · rw [if_pos inserts] at popped
    cases popped
    exact kept ▸ Turn.driftInserted inserts.2 (asked.trans inserts.1)
  rw [if_neg inserts] at popped
  cases shape : ring.queue with
  | nil =>
      simp only [shape, Prod.mk.injEq] at popped
      obtain ⟨⟨rfl, rfl⟩, rfl⟩ := popped
      have turn := Turn.underran shape
      rw [kept, shape] at turn
      exact turn
  | cons oldest rest =>
      have held : ring.queue ≠ [] := by rw [shape]; nofun
      have calm : wanted ≠ .insertOne := fun insert => inserts ⟨insert, held⟩
      simp only [shape, Prod.mk.injEq] at popped
      obtain ⟨⟨rfl, rfl⟩, rfl⟩ := popped
      exact kept ▸ Turn.period shape (asked ▸ calm)

/-- Every call is one of the six turns. -/
theorem call_turn {call : RingCall} {result : RingResult}
    (called : ring.call call = some (result, next)) : Turn ring call result next := by
  cases call with
  | push period =>
      obtain ⟨⟨outcome, after⟩, pushed, same⟩ := Option.map_eq_some_iff.mp called
      cases same
      exact push_turn pushed
  | pop =>
      cases called
      exact pop_turn rfl

end Turns

end NanoKvm.Audio
