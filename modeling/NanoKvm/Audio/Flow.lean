import NanoKvm.Audio.RingLaws
import NanoKvm.Audio.Stats
import NanoKvm.Lib.Published

/-!
# From the capture device to the sink

The data path of `capture_loop` and `playback_loop` in `audio/mod.rs`: the shared
ring, the mute flag, what the sink was given, and the counters.  A call on the ring
is one lock section; the counts it returns are published outside it, one slot at a
time, by either worker.  Opens and failed reads move no period and are left out, and
so is the stop flag: either worker may stop between any two steps.
-/

set_option autoImplicit false

namespace NanoKvm.Audio

open NanoKvm.Lib

/-! ## The counters of the ring, published -/

inductive Counter where
  | pushed
  | popped
  | overruns
  | underruns
  | driftDrops
  | driftInserts
  deriving DecidableEq, Repr

/-- The order of `absorb`. -/
def Counter.all : List Counter :=
  [.pushed, .popped, .overruns, .underruns, .driftDrops, .driftInserts]

def RingCounts.get (counts : RingCounts) : Counter → Nat
  | .pushed => counts.pushed
  | .popped => counts.popped
  | .overruns => counts.overruns
  | .underruns => counts.underruns
  | .driftDrops => counts.driftDrops
  | .driftInserts => counts.driftInserts

/-- `fetch_max` on one slot. -/
def RingCounts.raise (counts : RingCounts) (value : Nat) : Counter → RingCounts
  | .pushed => { counts with pushed := max counts.pushed value }
  | .popped => { counts with popped := max counts.popped value }
  | .overruns => { counts with overruns := max counts.overruns value }
  | .underruns => { counts with underruns := max counts.underruns value }
  | .driftDrops => { counts with driftDrops := max counts.driftDrops value }
  | .driftInserts => { counts with driftInserts := max counts.driftInserts value }

theorem mem_all (counter : Counter) : counter ∈ Counter.all := by
  cases counter <;> decide

theorem get_raise (counts : RingCounts) (value : Nat) (slot counter : Counter) :
    (counts.raise value slot).get counter =
      if counter = slot then max (counts.get counter) value else counts.get counter := by
  cases slot <;> cases counter <;> rfl

theorem RingCounts.ext_get {counts other : RingCounts}
    (same : ∀ counter, counts.get counter = other.get counter) : counts = other := by
  cases counts
  cases other
  have pushed := same .pushed
  have popped := same .popped
  have overruns := same .overruns
  have underruns := same .underruns
  have driftDrops := same .driftDrops
  have driftInserts := same .driftInserts
  simp only [RingCounts.get] at *
  simp only [*]

/-! ## The two loops -/

inductive CapturePlace where
  | reading
  /-- A period is read; `periods_captured` is next. -/
  | counting (period : Period)
  | pushing (period : Period)
  /-- In `absorb`, with these slots left. -/
  | publishing (counts : RingCounts) (slot : Counter) (left : List Counter)
  deriving DecidableEq, Repr

inductive PlaybackPlace where
  | popping
  | publishing (taken : Period) (outcome : PopOutcome) (counts : RingCounts) (slot : Counter)
      (left : List Counter)
  /-- The mute flag is next. -/
  | choosing (taken : Period) (outcome : PopOutcome)
  | writing (taken : Period) (outcome : PopOutcome) (muted : Bool)
  /-- The sink took the period; one of the three counters is next. -/
  | counting (outcome : PopOutcome) (muted : Bool)
  deriving DecidableEq, Repr

/-- What a written period is counted as. -/
inductive Heard where
  | played
  | silent
  | muted
  deriving DecidableEq, Repr

def heardAs (muted : Bool) (outcome : PopOutcome) : Heard :=
  match muted, outcome with
  | true, _ => .muted
  | false, .period => .played
  | false, _ => .silent

/-- One call of `write_period`: what was popped, what the sink was given, and whether it
took it. -/
structure Write where
  taken : Period
  outcome : PopOutcome
  muted : Bool
  given : Period
  ok : Bool
  deriving DecidableEq, Repr

structure Heards where
  played : Nat
  silent : Nat
  muted : Nat
  deriving DecidableEq, Repr

def Heards.get (heards : Heards) : Heard → Nat
  | .played => heards.played
  | .silent => heards.silent
  | .muted => heards.muted

def Heards.add (heards : Heards) : Heard → Heards
  | .played => { heards with played := heards.played + 1 }
  | .silent => { heards with silent := heards.silent + 1 }
  | .muted => { heards with muted := heards.muted + 1 }

theorem get_add (heards : Heards) (heard other : Heard) :
    (heards.add heard).get other = heards.get other + if other = heard then 1 else 0 := by
  cases heard <;> cases other <;> rfl

/-- The periods read and the writes are kept whole, for nothing to read but the proofs. -/
structure Flow where
  history : RingHistory
  capture : CapturePlace
  playback : PlaybackPlace
  muted : Bool
  closed : Bool
  published : RingCounts
  periodsCaptured : Nat
  heards : Heards
  captured : List Period
  writes : List Write
  deriving DecidableEq, Repr

inductive FlowLabel where
  | read (period : Period)
  | countCaptured
  | push
  | publishCaptured
  | pop
  | publishPlayed
  | loadMute
  | write (ok : Bool)
  | countPlayed
  | setMuted (muted : Bool)
  | close
  deriving DecidableEq, Repr

def Flow.start (config : RingConfig) : Flow where
  history := ⟨.new config, []⟩
  capture := .reading
  playback := .popping
  muted := false
  closed := false
  published := .default
  periodsCaptured := 0
  heards := ⟨0, 0, 0⟩
  captured := []
  writes := []

/-- Where a worker is with slots left to publish. -/
def CapturePlace.absorb (counts : RingCounts) : List Counter → CapturePlace
  | [] => .reading
  | slot :: left => .publishing counts slot left

def PlaybackPlace.absorb (taken : Period) (outcome : PopOutcome) (counts : RingCounts) :
    List Counter → PlaybackPlace
  | [] => .choosing taken outcome
  | slot :: left => .publishing taken outcome counts slot left

def Flow.config (flow : Flow) : RingConfig := flow.history.ring.config

def Flow.captures (flow : Flow) (label : FlowLabel) : Option Flow :=
  match label, flow.capture with
  -- The device fills a buffer of one period.
  | .read period, .reading =>
      if period.length = flow.config.periodSamples then
        some { flow with capture := .counting period, captured := flow.captured ++ [period] }
      else none
  | .countCaptured, .counting period =>
      some { flow with capture := .pushing period, periodsCaptured := flow.periodsCaptured + 1 }
  | .push, .pushing period =>
      (flow.history.step (.push period)).map fun history =>
        { flow with history, capture := .absorb history.ring.counts Counter.all }
  | .publishCaptured, .publishing counts slot left =>
      some { flow with
        capture := .absorb counts left
        published := flow.published.raise (counts.get slot) slot }
  | _, _ => none

def Flow.plays (flow : Flow) (label : FlowLabel) : Option Flow :=
  match label, flow.playback with
  | .pop, .popping =>
      -- Closed and empty is the end of the loop.
      if flow.closed = true ∧ flow.history.ring.queue = [] then some flow
      else
        let ((taken, outcome), ring) := flow.history.ring.pop
        some { flow with
          history := ⟨ring, flow.history.log ++ [(.pop, .popped taken outcome)]⟩
          playback := .absorb taken outcome ring.counts Counter.all }
  | .publishPlayed, .publishing taken outcome counts slot left =>
      some { flow with
        playback := .absorb taken outcome counts left
        published := flow.published.raise (counts.get slot) slot }
  | .loadMute, .choosing taken outcome =>
      some { flow with playback := .writing taken outcome flow.muted }
  | .write ok, .writing taken outcome muted =>
      let given := if muted then flow.config.silence else taken
      some { flow with
        playback := if ok then .counting outcome muted else .popping
        writes := flow.writes ++ [⟨taken, outcome, muted, given, ok⟩] }
  | .countPlayed, .counting outcome muted =>
      some { flow with
        playback := .popping
        heards := flow.heards.add (heardAs muted outcome) }
  | _, _ => none

def Flow.step (label : FlowLabel) (flow : Flow) : Option Flow :=
  match label with
  | .read _ | .countCaptured | .push | .publishCaptured => flow.captures label
  | .setMuted muted => some { flow with muted }
  | .close => some { flow with closed := true }
  | _ => flow.plays label

/-! ## What the workers hold -/

/-- A period that is read and not pushed. -/
def CapturePlace.held : CapturePlace → List Period
  | .counting period | .pushing period => [period]
  | _ => []

def CapturePlace.uncounted : CapturePlace → Nat
  | .counting _ => 1
  | _ => 0

/-- A period that is popped and not written. -/
def PlaybackPlace.held : PlaybackPlace → List (Period × PopOutcome)
  | .publishing taken outcome .. | .choosing taken outcome | .writing taken outcome _ =>
      [(taken, outcome)]
  | _ => []

def PlaybackPlace.uncounted (heard : Heard) : PlaybackPlace → Nat
  | .counting outcome muted => if heardAs muted outcome = heard then 1 else 0
  | _ => 0

/-- The slots a worker has left to publish. -/
def CapturePlace.left : CapturePlace → List Counter
  | .publishing _ slot left => slot :: left
  | _ => []

def PlaybackPlace.left : PlaybackPlace → List Counter
  | .publishing _ _ _ slot left => slot :: left
  | _ => []

/-- The counts it publishes them from. -/
def CapturePlace.taken : CapturePlace → Counter → Nat
  | .publishing counts _ _ => counts.get
  | _ => fun _ => 0

def PlaybackPlace.taken : PlaybackPlace → Counter → Nat
  | .publishing _ _ counts _ _ => counts.get
  | _ => fun _ => 0

def Flow.left (flow : Flow) : AudioSide → List Counter
  | .capture => flow.capture.left
  | .playback => flow.playback.left

def Flow.taken (flow : Flow) : AudioSide → Counter → Nat
  | .capture => flow.capture.taken
  | .playback => flow.playback.taken

/-- What a pop of the ring returned. -/
def RingEntry.popped (entry : RingEntry) : Option (Period × PopOutcome) :=
  match entry.2 with
  | .popped period outcome => some (period, outcome)
  | .pushed _ => none

def poppedIn (log : List RingEntry) : List (Period × PopOutcome) :=
  log.filterMap RingEntry.popped

def Write.popped (write : Write) : Period × PopOutcome := (write.taken, write.outcome)

/-- A captured period, popped as one. -/
def real (popped : Period × PopOutcome) : Option Period :=
  if popped.2 = .period then some popped.1 else none

structure Flow.Sound (config : RingConfig) (hold : Nat) (flow : Flow) : Prop where
  lawful : Lawful config hold flow.history
  published : Published flow.history.ring.counts.get flow.published.get flow.left flow.taken
  pushes : flow.history.ring.counts.pushed = (pushedIn flow.history.log).length
  plays : flow.history.ring.counts.popped = (playedIn flow.history.log).length
  entered : flow.captured = pushedIn flow.history.log ++ flow.capture.held
  whole : ∀ period ∈ flow.capture.held, period.length = config.periodSamples
  counted : flow.periodsCaptured + flow.capture.uncounted = flow.captured.length
  popped : poppedIn flow.history.log = flow.writes.map Write.popped ++ flow.playback.held
  given : ∀ write ∈ flow.writes,
    write.given = if write.muted then config.silence else write.taken
  heard : ∀ heard, flow.heards.get heard + flow.playback.uncounted heard =
    flow.writes.countP fun write => write.ok && decide (heardAs write.muted write.outcome = heard)

section Turns
variable {ring next : PeriodRing} {call : RingCall} {result : RingResult}

theorem Turn.grows (turn : Turn ring call result next) (counter : Counter) :
    ring.counts.get counter ≤ next.counts.get counter := by
  cases turn <;> cases counter <;> simp [RingCounts.get]

theorem Turn.tallied {log : List RingEntry} (turn : Turn ring call result next)
    (pushes : ring.counts.pushed = (pushedIn log).length)
    (plays : ring.counts.popped = (playedIn log).length) :
    next.counts.pushed = (pushedIn (log ++ [(call, result)])).length ∧
      next.counts.popped = (playedIn (log ++ [(call, result)])).length := by
  cases turn <;> simp [pushes, plays]

theorem Turn.pushes_nothing_popped (turn : Turn ring call result next) (push : call ≠ .pop) :
    RingEntry.popped (call, result) = none := by
  cases turn <;> first | rfl | exact absurd rfl push

end Turns

theorem poppedIn_snoc (log : List RingEntry) (entry : RingEntry) :
    poppedIn (log ++ [entry]) = poppedIn log ++ entry.popped.toList := by
  cases h : entry.popped <;> simp [poppedIn, h]

theorem playedIn_eq (log : List RingEntry) : playedIn log = (poppedIn log).filterMap real := by
  unfold playedIn poppedIn
  rw [List.filterMap_filterMap]
  congr 1
  funext entry
  obtain ⟨call, result⟩ := entry
  cases result with
  | pushed outcome => rfl
  | popped period outcome => cases outcome <;> rfl

@[simp] theorem absorb_left (counts : RingCounts) (left : List Counter) :
    (CapturePlace.absorb counts left).left = left := by
  cases left <;> rfl

@[simp] theorem absorb_held (counts : RingCounts) (left : List Counter) :
    (CapturePlace.absorb counts left).held = [] := by
  cases left <;> rfl

@[simp] theorem absorb_uncounted (counts : RingCounts) (left : List Counter) :
    (CapturePlace.absorb counts left).uncounted = 0 := by
  cases left <;> rfl

theorem absorb_taken (counts : RingCounts) {left : List Counter} {counter : Counter}
    (inside : counter ∈ left) : (CapturePlace.absorb counts left).taken counter =
      counts.get counter := by
  cases left with
  | nil => cases inside
  | cons => rfl

section Playback
variable (taken : Period) (outcome : PopOutcome) (counts : RingCounts) (left : List Counter)

@[simp] theorem absorbs_left : (PlaybackPlace.absorb taken outcome counts left).left = left := by
  cases left <;> rfl

@[simp] theorem absorbs_held :
    (PlaybackPlace.absorb taken outcome counts left).held = [(taken, outcome)] := by
  cases left <;> rfl

@[simp] theorem absorbs_uncounted (heard : Heard) :
    (PlaybackPlace.absorb taken outcome counts left).uncounted heard = 0 := by
  cases left <;> rfl

theorem absorbs_taken {counter : Counter} (inside : counter ∈ left) :
    (PlaybackPlace.absorb taken outcome counts left).taken counter = counts.get counter := by
  cases left with
  | nil => cases inside
  | cons => rfl

end Playback

section Steps
variable {config : RingConfig} {hold : Nat} {flow next : Flow}

/-- A step that leaves what both workers publish as it was. -/
theorem published_same {after : Flow} (sound : flow.Sound config hold)
    (ring : after.history.ring.counts = flow.history.ring.counts)
    (shown : after.published = flow.published)
    (capture : after.capture.left = flow.capture.left ∧ after.capture.taken = flow.capture.taken)
    (playback : after.playback.left = flow.playback.left ∧
      after.playback.taken = flow.playback.taken) :
    Published after.history.ring.counts.get after.published.get after.left after.taken := by
  have left : after.left = flow.left := by
    funext side
    cases side
    · exact capture.1
    · exact playback.1
  have taken : after.taken = flow.taken := by
    funext side
    cases side
    · exact capture.2
    · exact playback.2
  rw [ring, shown, left, taken]
  exact sound.published

theorem captures_sound (deep : 1 ≤ config.periods) (sound : flow.Sound config hold)
    {label : FlowLabel} (stepped : flow.captures label = some next) : next.Sound config hold := by
  have entered := sound.entered
  have counted := sound.counted
  have whole := sound.whole
  unfold Flow.captures at stepped
  split at stepped
  next period place =>
    split_ifs at stepped with fits
    cases stepped
    rw [place] at entered counted
    refine { sound with
      published := published_same sound rfl rfl (by rw [place]; exact ⟨rfl, rfl⟩) ⟨rfl, rfl⟩
      entered := ?_, whole := ?_, counted := ?_ }
    · rw [entered]
      simp [CapturePlace.held]
    · intro other inside
      rw [List.mem_singleton.mp inside, ← sound.lawful.shape]
      exact fits
    · rw [List.length_append, ← counted]
      rfl
  next period place =>
    cases stepped
    rw [place] at entered counted whole
    exact { sound with
      published := published_same sound rfl rfl (by rw [place]; exact ⟨rfl, rfl⟩) ⟨rfl, rfl⟩
      entered := entered
      whole := whole
      counted := counted }
  next period place =>
    obtain ⟨history, pushed, same⟩ := Option.map_eq_some_iff.mp stepped
    cases same
    obtain ⟨result, turn, logged⟩ := step_turn pushed
    obtain ⟨pushes, plays⟩ := turn.tallied sound.pushes sound.plays
    rw [place] at entered counted
    rw [← logged] at pushes plays
    have nothing := turn.pushes_nothing_popped nofun
    refine ⟨step_lawful deep sound.lawful pushed, ?_, pushes, plays, ?_, ?_, ?_, ?_, sound.given,
      sound.heard⟩
    · refine sound.published.take .capture turn.grows ?_ ?_ ?_
      · intro slot
        simp only [Flow.left, absorb_left]
        exact mem_all slot
      · exact fun slot => absorb_taken _ (mem_all slot)
      · rintro (_ | _) other
        · exact absurd rfl other
        · exact ⟨rfl, rfl⟩
    · dsimp only
      rw [logged, pushedIn_push, absorb_held, List.append_nil, entered]
      rfl
    · dsimp only
      rw [absorb_held]
      nofun
    · dsimp only
      rw [absorb_uncounted]
      exact counted
    · dsimp only
      rw [logged, poppedIn_snoc, nothing, Option.toList_none, List.append_nil]
      exact sound.popped
  next counts slot left place =>
    cases stepped
    rw [place] at entered counted
    have here : flow.left .capture = slot :: left := by
      simp only [Flow.left, place, CapturePlace.left]
    have copy : flow.taken .capture = counts.get := by
      simp only [Flow.taken, place, CapturePlace.taken]
    refine { sound with published := ?_, entered := ?_, whole := ?_, counted := ?_ }
    · refine sound.published.publish here ?_ ?_ ?_ ?_ ?_
      · simp only [Flow.left, absorb_left]
      · intro other inside
        rw [copy]
        exact absorb_taken counts inside
      · rintro (_ | _) other
        · exact absurd rfl other
        · exact ⟨rfl, rfl⟩
      · rw [get_raise, if_pos rfl, copy]
      · intro other ne
        rw [get_raise, if_neg ne]
    · dsimp only
      rw [absorb_held]
      exact entered
    · dsimp only
      rw [absorb_held]
      nofun
    · dsimp only
      rw [absorb_uncounted]
      exact counted
  next => cases stepped

theorem plays_sound (deep : 1 ≤ config.periods) (sound : flow.Sound config hold)
    {label : FlowLabel} (stepped : flow.plays label = some next) : next.Sound config hold := by
  have popped := sound.popped
  have heard := sound.heard
  unfold Flow.plays at stepped
  split at stepped
  next place =>
    split_ifs at stepped with past
    · cases stepped
      exact sound
    · rcases shape : flow.history.ring.pop with ⟨⟨taken, outcome⟩, ring⟩
      rw [shape] at stepped
      cases stepped
      have turn := pop_turn shape
      have lawful : Lawful config hold
          ⟨ring, flow.history.log ++ [(.pop, .popped taken outcome)]⟩ := by
        have called : flow.history.step .pop =
            some ⟨ring, flow.history.log ++ [(.pop, .popped taken outcome)]⟩ := by
          unfold RingHistory.step PeriodRing.call
          rw [shape]
          rfl
        exact step_lawful deep sound.lawful called
      obtain ⟨pushes, plays⟩ := turn.tallied sound.pushes sound.plays
      rw [place] at popped heard
      refine ⟨lawful, ?_, pushes, plays, ?_, sound.whole, sound.counted, ?_, sound.given, ?_⟩
      · refine sound.published.take .playback turn.grows ?_ ?_ ?_
        · intro slot
          simp only [Flow.left, absorbs_left]
          exact mem_all slot
        · exact fun slot => absorbs_taken taken outcome _ _ (mem_all slot)
        · rintro (_ | _) other
          · exact ⟨rfl, rfl⟩
          · exact absurd rfl other
      · dsimp only
        rw [pushedIn_pop]
        exact sound.entered
      · dsimp only
        rw [poppedIn_snoc, absorbs_held, popped]
        simp [PlaybackPlace.held, RingEntry.popped]
      · intro kind
        rw [absorbs_uncounted]
        exact heard kind
  next taken outcome counts slot left place =>
    cases stepped
    rw [place] at popped heard
    have here : flow.left .playback = slot :: left := by
      simp only [Flow.left, place, PlaybackPlace.left]
    have copy : flow.taken .playback = counts.get := by
      simp only [Flow.taken, place, PlaybackPlace.taken]
    refine { sound with published := ?_, popped := ?_, heard := ?_ }
    · refine sound.published.publish here ?_ ?_ ?_ ?_ ?_
      · simp only [Flow.left, absorbs_left]
      · intro other inside
        rw [copy]
        exact absorbs_taken _ _ _ _ inside
      · rintro (_ | _) other
        · exact ⟨rfl, rfl⟩
        · exact absurd rfl other
      · rw [get_raise, if_pos rfl, copy]
      · intro other ne
        rw [get_raise, if_neg ne]
    · dsimp only
      rw [absorbs_held]
      exact popped
    · intro kind
      rw [absorbs_uncounted]
      exact heard kind
  next taken outcome place =>
    cases stepped
    rw [place] at popped heard
    exact { sound with
      published := published_same sound rfl rfl ⟨rfl, rfl⟩ (by rw [place]; exact ⟨rfl, rfl⟩)
      popped := popped
      heard := heard }
  next ok taken outcome muted place =>
    cases stepped
    rw [place] at popped heard
    refine { sound with published := ?_, popped := ?_, given := ?_, heard := ?_ }
    · refine published_same sound rfl rfl ⟨rfl, rfl⟩ ?_
      rw [place]
      cases ok <;> exact ⟨rfl, rfl⟩
    · rw [popped, List.map_append, List.append_assoc]
      cases ok <;> rfl
    · intro write inside
      rcases List.mem_append.mp inside with earlier | last
      · exact sound.given write earlier
      · rw [List.mem_singleton.mp last, ← sound.lawful.shape]
        rfl
    · intro kind
      have before := heard kind
      rw [List.countP_append, ← before]
      cases ok <;> simp [PlaybackPlace.uncounted, List.countP_cons]
  next outcome muted place =>
    cases stepped
    rw [place] at popped heard
    refine { sound with
      published := published_same sound rfl rfl ⟨rfl, rfl⟩ (by rw [place]; exact ⟨rfl, rfl⟩)
      popped := popped
      heard := ?_ }
    intro kind
    rw [get_add, ← heard kind]
    simp [PlaybackPlace.uncounted, eq_comm]
  next => cases stepped

theorem flow_step_sound (deep : 1 ≤ config.periods) (sound : flow.Sound config hold)
    {label : FlowLabel} (stepped : flow.step label = some next) : next.Sound config hold := by
  cases label with
  | read => exact captures_sound deep sound stepped
  | countCaptured => exact captures_sound deep sound stepped
  | push => exact captures_sound deep sound stepped
  | publishCaptured => exact captures_sound deep sound stepped
  | setMuted muted =>
      cases stepped
      exact { sound with }
  | close =>
      cases stepped
      exact { sound with }
  | pop => exact plays_sound deep sound stepped
  | publishPlayed => exact plays_sound deep sound stepped
  | loadMute => exact plays_sound deep sound stepped
  | write => exact plays_sound deep sound stepped
  | countPlayed => exact plays_sound deep sound stepped

theorem start_sound (config : RingConfig) :
    (Flow.start config).Sound config (DriftPolicy.new config).hold where
  lawful := lawful_start config (.new config)
  published := ⟨fun _ => le_rfl, by rintro (_ | _) slot ⟨⟩, fun _ => Or.inl rfl⟩
  pushes := rfl
  plays := rfl
  entered := rfl
  whole := nofun
  counted := rfl
  popped := rfl
  given := nofun
  heard := by intro heard; cases heard <;> rfl

theorem reachable_sound (deep : 1 ≤ config.periods)
    (reached : Reachable Flow.step (· = Flow.start config) flow) :
    flow.Sound config (DriftPolicy.new config).hold :=
  reachable_preserves (fun _ first => first ▸ start_sound config)
    (fun _ _ _ sound stepped => flow_step_sound deep sound stepped) reached

/-- A step raises what is published or leaves it. -/
theorem step_published {label : FlowLabel} (stepped : flow.step label = some next)
    (counter : Counter) : flow.published.get counter ≤ next.published.get counter := by
  have raised : ∀ value slot, flow.published.get counter ≤
      (flow.published.raise value slot).get counter := by
    intro value slot
    rw [get_raise]
    split_ifs
    · exact le_max_left _ _
    · exact le_rfl
  have captures : ∀ label, flow.captures label = some next →
      flow.published.get counter ≤ next.published.get counter := by
    intro label stepped
    unfold Flow.captures at stepped
    split at stepped
    next =>
      split_ifs at stepped
      cases stepped
      exact le_rfl
    next =>
      cases stepped
      exact le_rfl
    next =>
      obtain ⟨history, -, same⟩ := Option.map_eq_some_iff.mp stepped
      cases same
      exact le_rfl
    next =>
      cases stepped
      exact raised _ _
    next => cases stepped
  have plays : ∀ label, flow.plays label = some next →
      flow.published.get counter ≤ next.published.get counter := by
    intro label stepped
    unfold Flow.plays at stepped
    split at stepped
    next =>
      split_ifs at stepped <;> cases stepped <;> exact le_rfl
    next =>
      cases stepped
      exact raised _ _
    next =>
      cases stepped
      exact le_rfl
    next =>
      cases stepped
      exact le_rfl
    next =>
      cases stepped
      exact le_rfl
    next => cases stepped
  cases label with
  | read => exact captures _ stepped
  | countCaptured => exact captures _ stepped
  | push => exact captures _ stepped
  | publishCaptured => exact captures _ stepped
  | setMuted muted =>
      cases stepped
      exact le_rfl
  | close =>
      cases stepped
      exact le_rfl
  | pop => exact plays _ stepped
  | publishPlayed => exact plays _ stepped
  | loadMute => exact plays _ stepped
  | write => exact plays _ stepped
  | countPlayed => exact plays _ stepped

/-- However the two workers interleave, a published counter is never ahead of the ring, never
goes back, and is exact while neither worker is publishing. -/
theorem published_counts_catch_up (config : RingConfig) (flow : Flow) (deep : 1 ≤ config.periods)
    (reached : Reachable Flow.step (· = Flow.start config) flow) :
    (∀ counter, flow.published.get counter ≤ flow.history.ring.counts.get counter) ∧
    (flow.capture.left = [] → flow.playback.left = [] →
      flow.published = flow.history.ring.counts) ∧
    ∀ labels later, run Flow.step labels flow = some later →
      ∀ counter, flow.published.get counter ≤ later.published.get counter := by
  have sound := reachable_sound deep reached
  refine ⟨sound.published.behind, fun capture playback => ?_, fun labels later ran counter => ?_⟩
  · refine RingCounts.ext_get (sound.published.exact_at_rest fun side => ?_)
    cases side
    · exact capture
    · exact playback
  · exact run_preserves
      (P := fun state : Flow => flow.published.get counter ≤ state.published.get counter)
      (fun _ _ _ before stepped => before.trans (step_published stepped counter)) le_rfl ran

theorem popped_silent (sound : flow.Sound config hold) {popped : Period × PopOutcome}
    (inside : popped ∈ poppedIn flow.history.log) :
    popped.1.length = config.periodSamples ∧ (popped.2 ≠ .period → popped.1 = config.silence) := by
  obtain ⟨entry, member, same⟩ := List.mem_filterMap.mp inside
  refine sound.lawful.silent entry member popped.1 popped.2 ?_
  unfold RingEntry.popped at same
  split at same
  next result =>
    cases same
    exact result
  next => cases same

/-- What the sink is given for real is captured audio, in the order it was captured and each
period once; everything else it is given is silence; and every period captured and every write
made is counted under one head. -/
theorem captured_audio_is_accounted (config : RingConfig) (flow : Flow)
    (deep : 1 ≤ config.periods) (reached : Reachable Flow.step (· = Flow.start config) flow) :
    (flow.writes.filterMap fun write => real write.popped).Sublist flow.captured ∧
    (∀ write ∈ flow.writes, write.given.length = config.periodSamples ∧
      (write.given = config.silence ∨
        write.muted = false ∧ write.outcome = .period ∧ write.given = write.taken)) ∧
    flow.captured.length = (flow.writes.filterMap fun write => real write.popped).length +
      (flow.playback.held.filterMap real).length + flow.history.ring.queue.length +
      flow.history.ring.counts.overruns + flow.history.ring.counts.driftDrops +
      flow.capture.held.length ∧
    (∀ heard, flow.heards.get heard + flow.playback.uncounted heard =
      flow.writes.countP fun write =>
        write.ok && decide (heardAs write.muted write.outcome = heard)) ∧
    ∀ period, flow.capture = .pushing period → (flow.step .push).isSome = true := by
  have sound := reachable_sound deep reached
  have popped := sound.popped
  have played : playedIn flow.history.log =
      (flow.writes.filterMap fun write => real write.popped) ++
        flow.playback.held.filterMap real := by
    rw [playedIn_eq, popped, List.filterMap_append, List.filterMap_map]
    rfl
  obtain ⟨sources, kept, images⟩ := sound.lawful.ordered.sources
  rw [List.map_id] at images
  refine ⟨?_, fun write inside => ?_, ?_, sound.heard, fun period place => ?_⟩
  · have written := (List.sublist_append_left
      (flow.writes.filterMap fun write => real write.popped)
      (flow.playback.held.filterMap real)).trans (played ▸ images ▸ kept)
    rw [sound.entered]
    exact written.trans (List.sublist_append_left _ _)
  · have member : write.popped ∈ poppedIn flow.history.log := by
      rw [popped]
      exact List.mem_append_left _ (List.mem_map_of_mem inside)
    obtain ⟨long, silent⟩ := popped_silent sound member
    have given := sound.given write inside
    cases muted : write.muted with
    | true =>
        rw [muted, if_pos rfl] at given
        rw [given]
        exact ⟨silence_whole config, Or.inl rfl⟩
    | false =>
        rw [muted, if_neg Bool.false_ne_true] at given
        rw [given]
        by_cases period : write.outcome = .period
        · exact ⟨long, Or.inr ⟨rfl, period, rfl⟩⟩
        · exact ⟨long, Or.inl (silent period)⟩
  · have conserved := sound.lawful.conserved
    have pushes := sound.pushes
    have plays := sound.plays
    rw [played, List.length_append] at plays
    rw [sound.entered, List.length_append]
    omega
  · have fits := sound.whole period (by rw [place]; exact List.mem_singleton_self period)
    rw [← sound.lawful.shape] at fits
    have short : ¬ period.length ≠ flow.history.ring.config.periodSamples := not_not.mpr fits
    simp [Flow.step, Flow.captures, place, RingHistory.step, PeriodRing.call, PeriodRing.push,
      short]

end Steps

/-- Two periods captured; one is played and one is taken while muted. -/
def mutedFlow : List FlowLabel :=
  [.read [1#16, 1#16], .countCaptured, .push, .publishCaptured, .pop] ++
    List.replicate 5 .publishCaptured ++ List.replicate 6 .publishPlayed ++
    [.loadMute, .read [2#16, 2#16], .write true, .countPlayed, .setMuted true, .countCaptured,
      .push, .pop] ++ List.replicate 6 .publishPlayed ++ List.replicate 6 .publishCaptured ++
    [.loadMute, .write true]

def mutedState : Flow :=
  (run Flow.step mutedFlow (Flow.start ⟨2, 1⟩)).getD (Flow.start ⟨2, 1⟩)

theorem mutedState_reached : Reachable Flow.step (· = Flow.start ⟨2, 1⟩) mutedState :=
  ⟨_, mutedFlow, rfl, run_getD rfl⟩

theorem published_counts_catch_up_muted : mutedState.published = ⟨2, 2, 0, 0, 0, 0⟩ :=
  ((published_counts_catch_up ⟨2, 1⟩ mutedState (by decide) mutedState_reached).2.1
    rfl rfl).trans rfl

theorem captured_audio_is_accounted_muted :
    mutedState.heards.get .muted + mutedState.playback.uncounted .muted = 1 :=
  ((captured_audio_is_accounted ⟨2, 1⟩ mutedState (by decide)
    mutedState_reached).2.2.2.1 .muted).trans rfl

end NanoKvm.Audio
