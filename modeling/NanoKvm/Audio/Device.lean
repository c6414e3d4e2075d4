import NanoKvm.Audio.Ring
import NanoKvm.Audio.Stats
import NanoKvm.Lib.Driven

/-!
# The ALSA devices

`AlsaCapture` and `AlsaPlayback` of `audio/alsa.rs`.  A period is moved by a loop
of bounded waits; each turn is given what the device answers in it.  What comes
between two transfers, an overrun recovered in place included, neither loses nor
repeats a sample, and the stop flag ends a call at the next turn.
-/

set_option autoImplicit false

namespace NanoKvm.Audio

open NanoKvm.Lib

def sampleRate : Nat := 48000

namespace Errno

def enoent : Int := 2
def eio : Int := 5
def enxio : Int := 6
def eagain : Int := 11
def ebusy : Int := 16
def enodev : Int := 19

end Errno

/-- `alsa::Error`. -/
structure AlsaError where
  errno : Int
  text : String
  deriving DecidableEq, Repr

/-- `EBUSY` is somebody else's use of the card; the next four are its absence. -/
def classify (device context : String) (error : AlsaError) : AudioError :=
  let why := context ++ ": " ++ error.text
  if error.errno = Errno.ebusy then .busy device why
  else if error.errno = Errno.enodev ∨ error.errno = Errno.enoent ∨ error.errno = Errno.enxio ∨
      error.errno = Errno.eio then .gone device why
  else .io device why

/-! ## Opening -/

structure HwPlan where
  exactRate : Bool
  allowResample : Bool
  deriving DecidableEq, Repr

def HwPlan.forSide : AudioSide → HwPlan
  | .capture => ⟨true, false⟩
  | .playback => ⟨false, true⟩

/-- What ALSA answers to each request, in the order they are made. -/
structure HwAnswers where
  any : Except AlsaError Unit
  access : Except AlsaError Unit
  format : Except AlsaError Unit
  channels : Except AlsaError Unit
  noResample : Except AlsaError Unit
  rate : Except AlsaError Unit
  periodSize : Except AlsaError Unit
  bufferSize : Except AlsaError Unit
  apply : Except AlsaError Unit
  gotRate : Except AlsaError Nat
  gotChannels : Except AlsaError Nat
  gotPeriod : Except AlsaError Nat
  gotBuffer : Except AlsaError Nat

/-- The closure `set`. -/
def setting (device what : String) (error : AlsaError) : AudioError :=
  let why := what ++ ": " ++ error.text
  if error.errno = Errno.ebusy then .busy device why else .openFailed device why

def unexpected (device : String) (rate channels : Nat) : AudioError :=
  .openFailed device ("asked for " ++ toString sampleRate ++ " Hz / " ++ toString Audio.channels ++
    " ch S16_LE and got " ++ toString rate ++ " Hz / " ++ toString channels ++
    " ch; this device is not the one this client expects")

def HwPlan.resampling (plan : HwPlan) (device : String) (answer : Except AlsaError Unit) :
    Except AudioError Unit :=
  if plan.allowResample then .ok () else answer.mapError (setting device "no resampling")

/-- The device has one format; anything else read back is another device. -/
def HwPlan.accept (plan : HwPlan) (device : String) (gotRate gotChannels : Nat) :
    Except AudioError Unit :=
  if gotChannels ≠ Audio.channels ∨ (plan.exactRate = true ∧ gotRate ≠ sampleRate) then
    .error (unexpected device gotRate gotChannels)
  else .ok ()

def configure (device : String) (side : AudioSide) (answers : HwAnswers) :
    Except AudioError Unit := do
  let plan := HwPlan.forSide side
  answers.any.mapError (classify device "hw_params")
  answers.access.mapError (setting device "access RW_INTERLEAVED")
  answers.format.mapError (setting device "format S16_LE")
  answers.channels.mapError (setting device "2 channels")
  plan.resampling device answers.noResample
  answers.rate.mapError (setting device "48000 Hz")
  answers.periodSize.mapError (classify device "period size")
  answers.bufferSize.mapError (classify device "buffer size")
  answers.apply.mapError (classify device "applying hw params")
  let gotRate ← answers.gotRate.mapError (classify device "get_rate")
  let gotChannels ← answers.gotChannels.mapError (classify device "get_channels")
  plan.accept device gotRate gotChannels
  let _ ← answers.gotPeriod.mapError (classify device "get_period_size")
  let _ ← answers.gotBuffer.mapError (classify device "get_buffer_size")

structure OpenAnswers where
  pcm : Except AlsaError Unit
  hw : HwAnswers
  prepare : Except AlsaError Unit
  running : Bool
  start : Except AlsaError Unit

def openCapture (device : String) (answers : OpenAnswers) : Except AudioError Unit := do
  answers.pcm.mapError (classify device "opening for capture")
  configure device .capture answers.hw
  answers.prepare.mapError (classify device "preparing the capture stream")
  if answers.running then .ok ()
  else answers.start.mapError (classify device "starting the capture stream")

def openPlayback (device : String) (answers : OpenAnswers) : Except AudioError Unit := do
  answers.pcm.mapError (classify device "opening for playback")
  configure device .playback answers.hw
  answers.prepare.mapError (classify device "preparing the playback stream")

theorem mapError_ok {α β ε : Type} {f : ε → β} {answer : Except ε α} {a : α} :
    answer.mapError f = .ok a ↔ answer = .ok a := by
  cases answer <;> simp [Except.mapError]

theorem except_bind_ok {α β ε : Type} {first : Except ε α} {next : α → Except ε β} {b : β} :
    (first >>= next) = .ok b ↔ ∃ a, first = .ok a ∧ next a = .ok b := by
  cases first <;> simp [bind, Except.bind]

/-- A side that is configured has its two channels, and the dongle's its rate. -/
theorem configure_ok {device : String} {side : AudioSide} {answers : HwAnswers}
    (configured : configure device side answers = .ok ()) :
    ∃ rate, answers.gotRate = .ok rate ∧ answers.gotChannels = .ok Audio.channels ∧
      (side = .capture → rate = sampleRate ∧ answers.noResample = .ok ()) := by
  unfold configure at configured
  simp only [except_bind_ok, mapError_ok] at configured
  obtain ⟨_, -, _, -, _, -, _, -, _, quiet, _, -, _, -, _, -, _, -, rate, gotRate, got,
    gotChannels, _, agreed, -⟩ := configured
  unfold HwPlan.accept at agreed
  split at agreed
  · cases agreed
  next same =>
    obtain ⟨stereo, exact⟩ := not_or.mp same
    cases not_not.mp stereo
    refine ⟨rate, gotRate, gotChannels, ?_⟩
    rintro rfl
    refine ⟨?_, mapError_ok.mp quiet⟩
    by_contra other
    exact exact ⟨rfl, other⟩

/-! ## Moving a period -/

/-- Floored, so that a tiny period is no busy loop. -/
def waitMs (config : RingConfig) : Nat :=
  max (config.periodFrames * 1000 / sampleRate % u32Size) 5

/-- One stereo frame. -/
abbrev Frame := Sample × Sample

def interleave (frames : List Frame) : List Sample := frames.flatMap fun frame => [frame.1, frame.2]

def stoppingError (device : String) : AudioError := .io device "the audio threads are stopping"

/-- What the device answers in one turn.  `stopping` is the flag at its top; a
transfer moves some of the frames it is given room for. -/
structure DeviceTurn (α : Type) where
  stopping : Bool
  wait : Except AlsaError Bool
  waitRecover : Except AlsaError Unit
  io : Except AlsaError Unit
  transfer : Except AlsaError α
  recover : Except AlsaError Unit
  running : Bool
  start : Except AlsaError Unit

/-- What a turn comes to before its transfer: it is over, or the transfer is made. -/
inductive Readiness where
  | failed (error : AudioError)
  | notYet
  | ready
  deriving DecidableEq, Repr

/-- The stop check, `wait_ready` and `io_i16`. -/
def DeviceTurn.readiness {α : Type} (turn : DeviceTurn α) (device : String) : Readiness :=
  if turn.stopping then .failed (stoppingError device)
  else
    match turn.wait with
    | .ok true =>
        match turn.io with
        | .ok () => .ready
        | .error error => .failed (classify device "io_i16" error)
    | .ok false => .notYet
    | .error error =>
        if error.errno = Errno.eagain then .notYet
        else
          match turn.waitRecover with
          | .ok () => .notYet
          | .error error => .failed (classify device "recovering after a wait" error)

/-- The error of a transfer, after which the capture stream is made to run again. -/
def DeviceTurn.readRecovered {α : Type} (turn : DeviceTurn α) (device : String) :
    Except AudioError Unit := do
  turn.recover.mapError (classify device "recovering the capture stream")
  if turn.running then .ok ()
  else turn.start.mapError (classify device "restarting the capture stream")

structure Reading where
  done : Nat
  out : List Sample
  deriving DecidableEq, Repr

/-- `n` frames into the buffer after those already there. -/
def Reading.store (reading : Reading) (frames : List Frame) : Reading where
  done := reading.done + frames.length
  out := reading.out.take (reading.done * channels) ++ interleave frames ++
    reading.out.drop ((reading.done + frames.length) * channels)

/-- One turn of `read_period` for `frames` frames; the device gives no more than asked for. -/
def readTurn (device : String) (frames : Nat) (reading : Reading)
    (turn : DeviceTurn (List Frame)) : Round Reading (Except AudioError Unit × Reading) :=
  match turn.readiness device with
  | .failed error => .leave (.error error, reading)
  | .notYet => .again reading
  | .ready =>
      match turn.transfer with
      | .ok given =>
          let next := reading.store (given.take (frames - reading.done))
          if next.done < frames then .again next else .leave (.ok (), next)
      | .error error =>
          if error.errno = Errno.eagain then .again reading
          else
            match turn.readRecovered device with
            | .ok () => .again reading
            | .error error => .leave (.error error, reading)

/-- `read_period`; `none` while it waits. -/
def readPeriod (device : String) (out : List Sample) (turns : List (DeviceTurn (List Frame))) :
    Option ((Except AudioError Unit × Reading) × List (DeviceTurn (List Frame))) :=
  if out.length / channels = 0 then some ((.ok (), ⟨0, out⟩), turns)
  else drive (readTurn device (out.length / channels)) ⟨0, out⟩ turns

/-- `done` frames are written, and these are the samples the device has taken. -/
structure Writing where
  done : Nat
  sent : List Sample
  deriving DecidableEq, Repr

/-- One turn of `write_period`; the device takes no more than it is given. -/
def writeTurn (device : String) (samples : List Sample) (writing : Writing)
    (turn : DeviceTurn Nat) : Round Writing (Except AudioError Unit × Writing) :=
  let frames := samples.length / channels
  match turn.readiness device with
  | .failed error => .leave (.error error, writing)
  | .notYet => .again writing
  | .ready =>
      match turn.transfer with
      | .ok taken =>
          let n := min taken (frames - writing.done)
          let next : Writing := ⟨writing.done + n,
            writing.sent ++ (samples.drop (writing.done * channels)).take (n * channels)⟩
          if next.done < frames then .again next else .leave (.ok (), next)
      | .error error =>
          if error.errno = Errno.eagain then .again writing
          else
            match turn.recover with
            | .ok () => .again writing
            | .error error =>
                .leave (.error (classify device "recovering the playback stream" error), writing)

def writePeriod (device : String) (samples : List Sample) (turns : List (DeviceTurn Nat)) :
    Option ((Except AudioError Unit × Writing) × List (DeviceTurn Nat)) :=
  if samples.length / channels = 0 then some ((.ok (), ⟨0, []⟩), turns)
  else drive (writeTurn device samples) ⟨0, []⟩ turns

/-! ## What a call does -/

theorem interleave_length (frames : List Frame) :
    (interleave frames).length = frames.length * channels := by
  induction frames with
  | nil => rfl
  | cons frame frames ih =>
      rw [interleave, List.flatMap_cons, List.length_append, ← interleave, ih, List.length_cons]
      simp only [List.length_cons, List.length_nil, channels]
      omega

theorem interleave_append (first second : List Frame) :
    interleave (first ++ second) = interleave first ++ interleave second :=
  List.flatMap_append

theorem store_nil (reading : Reading) : reading.store [] = reading := by
  simp [Reading.store, interleave]

section Reads
variable (device : String)

/-- The frames this turn's transfer hands over. -/
def DeviceTurn.given (turn : DeviceTurn (List Frame)) : List Frame :=
  match turn.readiness device, turn.transfer with
  | .ready, .ok frames => frames
  | _, _ => []

/-- All a device hands over in some turns. -/
def received (turns : List (DeviceTurn (List Frame))) : List Frame :=
  turns.flatMap (·.given device)

variable {device} {frames : Nat} {reading next : Reading} {turn : DeviceTurn (List Frame)}

/-- A turn that goes round again stores all it is given. -/
theorem readTurn_again (again : readTurn device frames reading turn = .again next)
    (room : reading.done < frames) :
    next = reading.store (turn.given device) ∧ next.done < frames := by
  unfold readTurn at again
  unfold DeviceTurn.given
  split at again
  · cases again
  · cases again
    next notYet =>
      rw [notYet, store_nil]
      exact ⟨rfl, room⟩
  next ready =>
    rw [ready]
    split at again
    next given transferred =>
      rw [transferred]
      dsimp only at again
      split at again
      next more =>
        cases again
        simp only [Reading.store, List.length_take] at more
        have whole : given.take (frames - reading.done) = given :=
          List.take_of_length_le (by omega)
        rw [whole]
        exact ⟨rfl, by simpa only [Reading.store] using by omega⟩
      · cases again
    next error transferred =>
      rw [transferred]
      split at again
      · cases again
        rw [store_nil]
        exact ⟨rfl, room⟩
      · split at again
        · cases again
          rw [store_nil]
          exact ⟨rfl, room⟩
        · cases again

/-- A turn that leaves has filled the period, or failed and stored nothing. -/
theorem readTurn_leave {result : Except AudioError Unit}
    (leaves : readTurn device frames reading turn = .leave (result, next)) :
    (result = .ok () ∧ next = reading.store ((turn.given device).take (frames - reading.done)) ∧
        frames ≤ next.done) ∨
      (∃ error, result = .error error) ∧ next = reading ∧ turn.given device = [] := by
  unfold readTurn at leaves
  unfold DeviceTurn.given
  split at leaves
  next failed =>
    cases leaves
    rw [failed]
    exact .inr ⟨⟨_, rfl⟩, rfl, rfl⟩
  · cases leaves
  next ready =>
    rw [ready]
    split at leaves
    next given transferred =>
      rw [transferred]
      dsimp only at leaves
      split at leaves
      · cases leaves
      next full =>
        cases leaves
        exact .inl ⟨rfl, rfl, by omega⟩
    next error transferred =>
      rw [transferred]
      split at leaves
      · cases leaves
      · split at leaves
        · cases leaves
        · cases leaves
          exact .inr ⟨⟨_, rfl⟩, rfl, rfl⟩

/-- The buffer holds these frames and is as it was past them. -/
def Reading.Has (reading : Reading) (out : List Sample) (frames : List Frame) : Prop :=
  reading = ⟨frames.length, interleave frames ++ out.drop (frames.length * channels)⟩

theorem Reading.Has.store {out : List Sample} {held more : List Frame}
    (has : reading.Has out held) : (reading.store more).Has out (held ++ more) := by
  subst has
  have placed : (interleave held ++ out.drop (held.length * channels)).take
      (held.length * channels) = interleave held := by
    rw [← interleave_length, List.take_left]
  have past : (interleave held ++ out.drop (held.length * channels)).drop
      ((held.length + more.length) * channels) =
        out.drop ((held.length + more.length) * channels) := by
    rw [Nat.add_mul, ← List.drop_drop, ← interleave_length held, List.drop_left, List.drop_drop]
  unfold Reading.store Reading.Has
  dsimp only
  rw [placed, past, interleave_append, List.length_append]

theorem received_snoc (turns : List (DeviceTurn (List Frame))) :
    received device (turns ++ [turn]) = received device turns ++ turn.given device := by
  simp [received]

/-- While the call goes on, the buffer holds all that was handed over, and there is room. -/
theorem circle_has {out : List Sample} {seen : List (DeviceTurn (List Frame))}
    {last : Reading} (room : 0 < frames)
    (circled : circle (readTurn device frames) ⟨0, out⟩ seen = some last) :
    last.Has out (received device seen) ∧ (received device seen).length < frames := by
  refine circle_invariant (fun seen (reading : Reading) => reading.Has out (received device seen) ∧
    (received device seen).length < frames) ⟨rfl, room⟩ ?_ circled
  rintro seen current answer next ⟨has, left⟩ again
  have here : current.done < frames := by
    rw [has]
    exact left
  obtain ⟨rfl, more⟩ := readTurn_again again here
  rw [received_snoc]
  refine ⟨has.store, ?_⟩
  have same : (current.store (answer.given device)).done =
      (received device seen ++ answer.given device).length := by rw [has.store]
  rwa [same] at more

/-- A turn that finds the stop flag up ends the call there. -/
theorem readTurn_stops (current : Reading) (stopping : turn.stopping = true) :
    ∃ result, readTurn device frames current turn = .leave result := by
  refine ⟨(.error (stoppingError device), current), ?_⟩
  simp only [readTurn, DeviceTurn.readiness, stopping, if_true]

/-- Whatever waits, short reads and recovered overruns a call goes through, the buffer
holds the frames the device handed over in it, in order and each once, and past them is
as it was; a call that succeeds has filled every whole frame.  It is over by the first
turn that finds the stop flag up. -/
theorem read_period_exact {out : List Sample} {turns : List (DeviceTurn (List Frame))} :
    ((∃ turn ∈ turns, turn.stopping = true) → (readPeriod device out turns).isSome = true) ∧
      ∀ result reading rest, readPeriod device out turns = some ((result, reading), rest) →
        ∃ heard held, turns = heard ++ rest ∧ held <+: received device heard ∧
          reading.out = interleave held ++ out.drop (held.length * channels) ∧
          (result = .ok () → held.length = out.length / channels) ∧
          (result ≠ .ok () →
            held = received device heard ∧ held.length < out.length / channels) := by
  unfold readPeriod
  by_cases empty : out.length / channels = 0
  · rw [if_pos empty]
    refine ⟨fun _ => rfl, fun result reading rest left => ?_⟩
    cases left
    exact ⟨[], [], rfl, List.nil_prefix, by simp [interleave], fun _ => empty.symm,
      fun failed => absurd rfl failed⟩
  rw [if_neg empty]
  have room : 0 < out.length / channels := Nat.pos_of_ne_zero empty
  constructor
  · rintro ⟨turn, member, stopping⟩
    obtain ⟨before, after, rfl⟩ := List.append_of_mem member
    have stops : ∀ current, ∃ result,
        readTurn device (out.length / channels) current turn = .leave result :=
      fun current => readTurn_stops current stopping
    obtain ⟨result, unheard, left, -⟩ := drive_of_stop stops after
    rw [left]
    rfl
  · intro result reading rest left
    obtain ⟨before, turn, last, rfl, circled, leaves⟩ := drive_eq_some.mp left
    obtain ⟨has, short⟩ := circle_has room circled
    have done : last.done = (received device before).length := by rw [has]
    refine ⟨before ++ [turn], ?_⟩
    rw [received_snoc]
    rcases readTurn_leave leaves with ⟨rfl, rfl, full⟩ | ⟨⟨error, rfl⟩, rfl, nothing⟩
    · have stored : (last.store ((turn.given device).take (out.length / channels - last.done))).Has
          out (received device before ++
            (turn.given device).take (out.length / channels - last.done)) := has.store
      refine ⟨_, by simp, ?_, congrArg Reading.out stored, fun _ => ?_,
        fun failed => absurd rfl failed⟩
      · exact (List.prefix_append_right_inj _).mpr (List.take_prefix _ _)
      · rw [stored] at full
        simp only [List.length_append, List.length_take] at full ⊢
        omega
    · rw [nothing, List.append_nil]
      exact ⟨received device before, by simp, List.prefix_refl _, congrArg Reading.out has, nofun,
        fun _ => ⟨rfl, short⟩⟩

end Reads

section Writes
variable {device : String} {samples : List Sample} {writing next : Writing} {turn : DeviceTurn Nat}

/-- The device has taken the first frames of the period, and no others. -/
def Writing.Sent (writing : Writing) (samples : List Sample) : Prop :=
  writing.sent = samples.take (writing.done * channels)

theorem Writing.Sent.more (sent : writing.Sent samples) (n : Nat) :
    Writing.Sent ⟨writing.done + n,
      writing.sent ++ (samples.drop (writing.done * channels)).take (n * channels)⟩ samples := by
  unfold Writing.Sent
  dsimp only
  rw [sent, Nat.add_mul, List.take_add]

/-- A turn that goes round again leaves frames to write. -/
theorem writeTurn_again (again : writeTurn device samples writing turn = .again next)
    (sent : writing.Sent samples) (room : writing.done < samples.length / channels) :
    next.Sent samples ∧ next.done < samples.length / channels := by
  unfold writeTurn at again
  dsimp only at again
  split at again
  · cases again
  · cases again
    exact ⟨sent, room⟩
  split at again
  next taken transferred =>
    split at again
    next more =>
      cases again
      exact ⟨sent.more _, more⟩
    · cases again
  next error transferred =>
    split at again
    · cases again
      exact ⟨sent, room⟩
    · split at again
      · cases again
        exact ⟨sent, room⟩
      · cases again

/-- A turn that leaves has written the period, or failed and written nothing. -/
theorem writeTurn_leave {result : Except AudioError Unit}
    (leaves : writeTurn device samples writing turn = .leave (result, next))
    (sent : writing.Sent samples) (room : writing.done < samples.length / channels) :
    next.Sent samples ∧ ((result = .ok () ∧ next.done = samples.length / channels) ∨
      (∃ error, result = .error error) ∧ next = writing) := by
  unfold writeTurn at leaves
  dsimp only at leaves
  split at leaves
  · cases leaves
    exact ⟨sent, .inr ⟨⟨_, rfl⟩, rfl⟩⟩
  · cases leaves
  split at leaves
  next taken transferred =>
    split at leaves
    · cases leaves
    next full =>
      cases leaves
      refine ⟨sent.more _, .inl ⟨rfl, ?_⟩⟩
      dsimp only at full ⊢
      omega
  next error transferred =>
    split at leaves
    · cases leaves
    · split at leaves
      · cases leaves
      · cases leaves
        exact ⟨sent, .inr ⟨⟨_, rfl⟩, rfl⟩⟩

theorem writeTurn_stops (current : Writing) (stopping : turn.stopping = true) :
    ∃ result, writeTurn device samples current turn = .leave result := by
  refine ⟨(.error (stoppingError device), current), ?_⟩
  simp only [writeTurn, DeviceTurn.readiness, stopping, if_true]

/-- Whatever waits, short writes and recovered underruns a call goes through, the device
takes a prefix of the period, each frame once and in order: the whole of it if the call
succeeds, and less than that if it fails.  It is over by the first turn that finds the
stop flag up. -/
theorem write_period_exact {samples : List Sample} {turns : List (DeviceTurn Nat)} :
    ((∃ turn ∈ turns, turn.stopping = true) → (writePeriod device samples turns).isSome = true) ∧
      ∀ result writing rest, writePeriod device samples turns = some ((result, writing), rest) →
        writing.sent = samples.take (writing.done * channels) ∧
          (result = .ok () → writing.done = samples.length / channels) ∧
          (result ≠ .ok () → writing.done < samples.length / channels) := by
  unfold writePeriod
  by_cases empty : samples.length / channels = 0
  · rw [if_pos empty]
    refine ⟨fun _ => rfl, fun result writing rest left => ?_⟩
    cases left
    exact ⟨by simp, fun _ => empty.symm, fun failed => absurd rfl failed⟩
  rw [if_neg empty]
  have room : 0 < samples.length / channels := Nat.pos_of_ne_zero empty
  constructor
  · rintro ⟨turn, member, stopping⟩
    obtain ⟨before, after, rfl⟩ := List.append_of_mem member
    have stops : ∀ current, ∃ result, writeTurn device samples current turn = .leave result :=
      fun current => writeTurn_stops current stopping
    obtain ⟨result, unheard, left, -⟩ := drive_of_stop stops after
    rw [left]
    rfl
  · intro result writing rest left
    obtain ⟨before, turn, last, rfl, circled, leaves⟩ := drive_eq_some.mp left
    obtain ⟨sent, short⟩ := circle_invariant
      (fun _ (writing : Writing) => writing.Sent samples ∧ writing.done < samples.length / channels)
      ⟨by simp [Writing.Sent], room⟩
      (fun _ _ _ _ kept again => writeTurn_again again kept.1 kept.2) circled
    obtain ⟨sentNext, ⟨rfl, whole⟩ | ⟨⟨error, rfl⟩, rfl⟩⟩ := writeTurn_leave leaves sent short
    · exact ⟨sentNext, fun _ => whole, fun failed => absurd rfl failed⟩
    · exact ⟨sentNext, nofun, fun _ => short⟩

end Writes
end NanoKvm.Audio
