import NanoKvm.Lib.Driven
import NanoKvm.Lib.Transition

/-!
# Reading the clipboard

`viewer/chrome/clipboard.rs`.  A read runs on a thread of its own under a deadline
and a size limit; the gate admits one such thread at a time, whoever asks.  What the
compositor and the pipe answer comes from outside, and so does the order in which
callers and reader threads move.
-/

set_option autoImplicit false

namespace NanoKvm.Viewer.Clipboard

open NanoKvm.Lib

abbrev U8 := BitVec 8

/-- Clipboard text, or the sentence for the chrome. -/
abbrev Fetched := Except String String

def maxBytes : Nat := 16 * 1024 * 1024

/-- `READ_DEADLINE`, in nanoseconds. -/
def readDeadline : Nat := 3 * 1000000000

def chunkSize : Nat := 64 * 1024

def humanBytes (n : Nat) : String :=
  if 1024 * 1024 ≤ n ∧ n % (1024 * 1024) = 0 then toString (n / (1024 * 1024)) ++ " MiB"
  else toString n ++ " bytes"

/-! ## The read -/

/-- What `read` answers; a chunk is not empty. -/
inductive ReadAnswer where
  | eof
  | chunk (first : U8) (rest : List U8)
  | interrupted
  | failed (reason : String)
  deriving DecidableEq, Repr

/-- What one `poll` of the pipe answers. -/
inductive PipeAnswer where
  | nothing
  | interrupted
  | failed (reason : String)
  | ready (read : ReadAnswer)
  deriving DecidableEq, Repr

structure PipeTurn where
  now : Nat
  answer : PipeAnswer
  deriving DecidableEq, Repr

def timedOut (deadline : Nat) (bytes : List U8) : String :=
  "clipboard read timed out after " ++ toString (deadline / 1000000000) ++ " s (" ++
    toString bytes.length ++ " bytes received)"

def tooLarge (max received : Nat) : String :=
  "clipboard exceeds the " ++ humanBytes max ++ " size limit (" ++ toString received ++
    " bytes received)"

def readingFailed (reason : String) : String := "reading the clipboard: " ++ reason

/-- One round of `poll_readable`, and of `read_bounded` when it finds the pipe ready. -/
def readTurn (giveUp deadline max : Nat) (bytes : List U8) (turn : PipeTurn) :
    Round (List U8) (Except String (List U8)) :=
  if giveUp ≤ turn.now then .leave (.error (timedOut deadline bytes))
  else
    match turn.answer with
    | .nothing | .interrupted => .again bytes
    | .failed reason => .leave (.error (readingFailed reason))
    | .ready .eof => .leave (.ok bytes)
    | .ready (.chunk first rest) =>
        if max < bytes.length + (first :: rest).length then
          .leave (.error (tooLarge max (bytes.length + (first :: rest).length)))
        else .again (bytes ++ first :: rest)
    | .ready .interrupted => .again bytes
    | .ready (.failed reason) => .leave (.error (readingFailed reason))

/-- `read_bounded`; `none` while it waits for the peer. -/
def readBounded (start deadline max : Nat) (turns : List PipeTurn) :
    Option (Except String (List U8) × List PipeTurn) :=
  drive (readTurn (start + deadline) deadline max) [] turns

/-- `wl_clipboard_rs::paste::Error`, as far as it is told apart. -/
inductive PasteErrorKind where
  | clipboardEmpty
  | noMimeType
  | noSeats
  | missingProtocol (name : String) (version : Nat)
  | other
  deriving DecidableEq, Repr

structure PasteError where
  kind : PasteErrorKind
  display : String
  deriving DecidableEq, Repr

def unsupportedReason (e : PasteError) : String :=
  match e.kind with
  | .missingProtocol name version =>
      "clipboard access requires " ++ name ++ " version " ++ toString version ++
        ". The compositor does not provide it; paste is unavailable."
  | _ => "the clipboard could not be read: " ++ e.display

inductive Availability where
  | ready
  | unsupported (reason : String)
  deriving DecidableEq, Repr

/-- `Availability::probe`, of what the compositor answers when asked for the MIME types. -/
def probe : Except PasteError Unit → Availability
  | .ok () => .ready
  | .error e =>
      if e.kind = .clipboardEmpty ∨ e.kind = .noMimeType ∨ e.kind = .noSeats then .ready
      else .unsupported (unsupportedReason e)

/-- `String::from_utf8`. -/
def fromUtf8 (bytes : List U8) : Option String :=
  String.fromUTF8? (bytes.map fun byte => UInt8.ofBitVec byte).toByteArray

/-- `read_clipboard`; the contents are the MIME type selected. -/
def readClipboard (contents : Except PasteError String) (start : Nat) (turns : List PipeTurn) :
    Option Fetched :=
  match contents with
  | .error e =>
      match e.kind with
      | .clipboardEmpty => some (.error "the clipboard is empty")
      | .noMimeType => some (.error "the clipboard holds no text; only text can be typed")
      | _ => some (.error (unsupportedReason e))
  | .ok mime =>
      (readBounded start readDeadline maxBytes turns).map fun left =>
        match left.1 with
        | .error reason => .error reason
        | .ok bytes =>
            match fromUtf8 bytes with
            | some text => .ok text
            | none =>
                .error ("the clipboard's " ++ mime ++
                  " is not valid UTF-8, so it cannot be typed as characters")

/-! ## The gate -/

structure FetchGate where
  outstanding : Bool
  abandoned : Nat
  deriving DecidableEq, Repr

/-- Where a reader thread is. -/
inductive Reader where
  | admitted
  | unspawned
  | reading
  | answered
  | finished
  | panicked
  deriving DecidableEq, Repr

/-- What the caller has of it. -/
inductive Handle where
  | unborn
  | held (claimed : Bool)
  | joining
  | joined
  | abandoned
  deriving DecidableEq, Repr

/-- One fetch that was admitted: its thread, its channel and its handle.  `sent` is what
the thread sent and `polled` what `poll` answered with; nothing reads either. -/
structure Fetch where
  reader : Reader
  handle : Handle
  inbox : Option Fetched
  sent : Option Fetched
  polled : List Fetched

def Fetch.admitted : Fetch where
  reader := .admitted
  handle := .unborn
  inbox := none
  sent := none
  polled := []

def stoppedWithoutAnswer : Fetched := .error "the clipboard reader stopped without an answer"

def stillPending : String :=
  "a clipboard read is still pending. It times out after " ++
    toString (readDeadline / 1000000000) ++ " s; try again when it finishes"

/-- A thread that has run its closure to the end, or unwound it. -/
def Reader.over : Reader → Bool
  | .finished | .panicked => true
  | _ => false

/-- What a thread, or the caller that holds its fetch, does next. -/
inductive Move where
  /-- The spawn in `start`, and whether the system had a thread to give. -/
  | spawn (spawned : Bool)
  | answer (fetched : Fetched)
  | panic
  /-- The store after the send. -/
  | release
  /-- `poll`; the sender is seen gone only after the thread is over. -/
  | poll (disconnected : Bool)
  /-- `drop`, and what `is_finished` says. -/
  | drop (finished : Bool)
  | join
  deriving DecidableEq, Repr

def Fetch.spawn (fetch : Fetch) (spawned : Bool) : Option Fetch :=
  if fetch.reader = .admitted then
    if spawned then some { fetch with reader := .reading, handle := .held false }
    else some { fetch with reader := .unspawned }
  else none

/-- `tx.send(read())`; nothing is left in a channel nobody receives from. -/
def Fetch.answer (fetch : Fetch) (fetched : Fetched) : Option Fetch :=
  if fetch.reader = .reading then
    some
      { fetch with
        reader := .answered
        sent := some fetched
        inbox := if fetch.handle = .abandoned then none else some fetched }
  else none

def Fetch.poll (fetch : Fetch) (disconnected : Bool) : Option Fetch :=
  match fetch.handle with
  | .held _ =>
      if disconnected = true ∧ fetch.reader.over = false then none
      else
        match fetch.inbox with
        | some fetched =>
            some
              { fetch with
                handle := .held true
                inbox := none
                polled := fetch.polled ++ [fetched] }
        | none =>
            if disconnected then
              some
                { fetch with
                  handle := .held true
                  polled := fetch.polled ++ [stoppedWithoutAnswer] }
            else some fetch
  | _ => none

def Fetch.drop (fetch : Fetch) (finished : Bool) : Option Fetch :=
  match fetch.handle with
  | .held claimed =>
      if finished = true ∧ fetch.reader.over = false then none
      else if claimed || finished then some { fetch with handle := .joining }
      else some { fetch with handle := .abandoned, inbox := none }
  | _ => none

def Fetch.move (fetch : Fetch) : Move → Option Fetch
  | .spawn spawned => fetch.spawn spawned
  | .answer fetched => fetch.answer fetched
  | .panic => if fetch.reader = .reading then some { fetch with reader := .panicked } else none
  | .release => if fetch.reader = .answered then some { fetch with reader := .finished } else none
  | .poll disconnected => fetch.poll disconnected
  | .drop finished => fetch.drop finished
  | .join =>
      if fetch.handle = .joining ∧ fetch.reader.over = true then
        some { fetch with handle := .joined }
      else none

/-- What a move does to the gate: a thread that is not there, or is done, leaves it. -/
def FetchGate.move (gate : FetchGate) (next : Fetch) : Move → FetchGate
  | .spawn spawned => if spawned then gate else { gate with outstanding := false }
  | .release => { gate with outstanding := false }
  | .drop _ =>
      if next.handle = .abandoned then { gate with abandoned := gate.abandoned + 1 } else gate
  | _ => gate

structure Desk where
  gate : FetchGate
  fetches : List Fetch

/-- `FetchGate::new`. -/
def Desk.new : Desk := ⟨⟨false, 0⟩, []⟩

inductive Label where
  /-- The exchange in `start`: who finds the gate open is admitted, the rest are refused. -/
  | start
  | move (fetch : Nat) (move : Move)
  deriving DecidableEq, Repr

def Desk.start (desk : Desk) : Except String Desk :=
  if desk.gate.outstanding then .error stillPending
  else .ok ⟨{ desk.gate with outstanding := true }, desk.fetches ++ [Fetch.admitted]⟩

def Desk.step : Label → Desk → Option Desk
  | .start, desk =>
      match desk.start with
      | .ok admitted => some admitted
      | .error _ => some desk
  | .move i move, desk =>
      desk.fetches[i]?.bind fun fetch =>
        (fetch.move move).map fun next => ⟨desk.gate.move next move, desk.fetches.set i next⟩

/-! ## What a read returns -/

section Reading
variable {giveUp deadline max : Nat}

/-- The bytes this turn hands over. -/
def PipeTurn.bytes (turn : PipeTurn) : List U8 :=
  match turn.answer with
  | .ready (.chunk first rest) => first :: rest
  | _ => []

def received (turns : List PipeTurn) : List U8 := turns.flatMap PipeTurn.bytes

/-- In time, and neither a failure nor the end. -/
def PipeTurn.Flows (giveUp : Nat) (turn : PipeTurn) : Prop :=
  turn.now < giveUp ∧ (∀ reason, turn.answer ≠ .failed reason) ∧
    (∀ reason, turn.answer ≠ .ready (.failed reason)) ∧ turn.answer ≠ .ready .eof

theorem readTurn_again {held next : List U8} {turn : PipeTurn} (room : held.length ≤ max) :
    readTurn giveUp deadline max held turn = .again next ↔
      turn.Flows giveUp ∧ next = held ++ turn.bytes ∧ next.length ≤ max := by
  unfold readTurn PipeTurn.Flows PipeTurn.bytes
  by_cases late : giveUp ≤ turn.now
  · simp only [late, if_true, reduceCtorEq, false_iff]
    exact fun flows => absurd flows.1.1 (Nat.not_lt.mpr late)
  simp only [late, if_false, Nat.lt_of_not_le late, true_and]
  have same : held = next ↔ next = held ∧ next.length ≤ max :=
    ⟨fun same => ⟨same.symm, same ▸ room⟩, fun same => same.1.symm⟩
  cases turn.answer with
  | nothing | interrupted => simp [same]
  | failed reason => simp
  | ready read =>
      cases read with
      | eof => simp
      | interrupted => simp [same]
      | failed reason => simp
      | chunk first rest =>
          dsimp only
          split
          next past =>
            simp only [reduceCtorEq, false_iff]
            rintro ⟨-, rfl, fits⟩
            rw [List.length_append] at fits
            omega
          next fits =>
            simp only [Round.again.injEq, reduceCtorEq, ne_eq, not_false_eq_true, implies_true,
              true_and, PipeAnswer.ready.injEq]
            constructor
            · rintro rfl
              refine ⟨rfl, ?_⟩
              rw [List.length_append]
              omega
            · exact fun same => same.1.symm

/-- A read is still going exactly while everything flowed in time and fits. -/
theorem circle_read {turns : List PipeTurn} {held last : List U8} (room : held.length ≤ max) :
    circle (readTurn giveUp deadline max) held turns = some last ↔
      (∀ turn ∈ turns, turn.Flows giveUp) ∧ last = held ++ received turns ∧ last.length ≤ max := by
  induction turns generalizing held with
  | nil =>
      simp only [circle, received, List.flatMap_nil, List.append_nil, List.not_mem_nil,
        false_implies, implies_true, true_and]
      constructor
      · intro same
        cases same
        exact ⟨rfl, room⟩
      · rintro ⟨rfl, -⟩
        rfl
  | cons turn turns ih =>
      rw [List.forall_mem_cons, received, List.flatMap_cons, ← received, ← List.append_assoc]
      simp only [circle_cons]
      cases round : readTurn giveUp deadline max held turn with
      | again next =>
          obtain ⟨flows, rfl, fits⟩ := (readTurn_again room).mp round
          simp only [ih fits, flows, true_and]
      | leave result =>
          simp only [reduceCtorEq, false_iff]
          rintro ⟨⟨flows, -⟩, rfl, fits⟩
          have again : readTurn giveUp deadline max held turn = .again (held ++ turn.bytes) := by
            refine (readTurn_again room).mpr ⟨flows, rfl, ?_⟩
            simp only [List.length_append] at fits ⊢
            omega
          rw [round] at again
          cases again

theorem readTurn_ok {held bytes : List U8} {turn : PipeTurn} :
    readTurn giveUp deadline max held turn = .leave (.ok bytes) ↔
      turn.now < giveUp ∧ turn.answer = .ready .eof ∧ bytes = held := by
  unfold readTurn
  by_cases late : giveUp ≤ turn.now
  · simp [late, Nat.not_lt.mpr late]
  simp only [late, if_false, Nat.lt_of_not_le late, true_and]
  cases turn.answer with
  | nothing | interrupted | failed => simp
  | ready read =>
      cases read with
      | eof => simp [eq_comm]
      | interrupted | failed => simp
      | chunk first rest =>
          dsimp only
          split <;> simp

/-- A read succeeds exactly when all that came before the end of the pipe came in time and
fits, and it returns that, however it was cut into chunks and whatever waits and signals
lay between.  While it goes on it holds no more than the limit, and it is over by the
first look at the clock past the deadline. -/
theorem clipboard_read_exact (start deadline max : Nat) (turns : List PipeTurn) :
    (∀ bytes rest, readBounded start deadline max turns = some (.ok bytes, rest) ↔
      ∃ before last, turns = before ++ last :: rest ∧
        (∀ turn ∈ before, turn.Flows (start + deadline)) ∧ last.now < start + deadline ∧
        last.answer = .ready .eof ∧ bytes = received before ∧ bytes.length ≤ max) ∧
      (∀ held, circle (readTurn (start + deadline) deadline max) [] turns = some held →
        held = received turns ∧ held.length ≤ max) ∧
      ((∃ turn ∈ turns, start + deadline ≤ turn.now) →
        (readBounded start deadline max turns).isSome = true) := by
  have room : ([] : List U8).length ≤ max := Nat.zero_le _
  refine ⟨fun bytes rest => ?_, fun held going => ?_, ?_⟩
  · unfold readBounded
    rw [drive_eq_some]
    constructor
    · rintro ⟨before, last, held, rfl, circled, leaves⟩
      obtain ⟨flows, rfl, fits⟩ := (circle_read room).mp circled
      obtain ⟨early, eof, rfl⟩ := readTurn_ok.mp leaves
      exact ⟨before, last, rfl, flows, early, eof, rfl, fits⟩
    · rintro ⟨before, last, rfl, flows, early, eof, rfl, fits⟩
      exact ⟨before, last, received before, rfl, (circle_read room).mpr ⟨flows, rfl, fits⟩,
        readTurn_ok.mpr ⟨early, eof, rfl⟩⟩
  · obtain ⟨-, rfl, fits⟩ := (circle_read room).mp going
    exact ⟨rfl, fits⟩
  · rintro ⟨turn, member, late⟩
    obtain ⟨before, after, rfl⟩ := List.append_of_mem member
    have stops : ∀ held, ∃ result,
        readTurn (start + deadline) deadline max held turn = .leave result :=
      fun held => ⟨_, by rw [readTurn, if_pos late]⟩
    obtain ⟨result, unheard, left, -⟩ := drive_of_stop stops after
    rw [readBounded, left]
    rfl

end Reading

end NanoKvm.Viewer.Clipboard
