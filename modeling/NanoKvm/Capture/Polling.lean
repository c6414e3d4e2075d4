import NanoKvm.Capture.V4l2
import Mathlib.Order.Lattice

/-!
# How long a source waits for a buffer

`poll_readable` of `capture/v4l2.rs` against a kernel that keeps its own word:
whatever signals and stray conditions come in between, the wait ends by its
deadline, it is never given up a whole millisecond early, and what it ends with
is what the last `poll` said.
-/

set_option autoImplicit false

namespace NanoKvm.Capture

open NanoKvm.Proto NanoKvm.Lib

/-- What an answer settles by itself; `none` sends the loop to look at the clock. -/
def PollAnswer.settles : PollAnswer → Option (Except CaptureError Bool)
  | .failed error => if error.code = some Errno.eintr then none else some (.error (mapIo error))
  | .nothing => some (.ok false)
  | .ready revents =>
      if revents &&& (Poll.pollnval ||| Poll.pollhup) ≠ 0#16 then some (.error .disconnected)
      else if revents &&& Poll.pollin ≠ 0#16 then some (.ok true)
      else if revents &&& Poll.pollerr ≠ 0#16 then some (.error (.io (some Errno.eio) eioText))
      else none

/-- The turn is over without a verdict, or with the deadline. -/
theorem pollAnswered_eq (deadline : Option Nat) (later : Nat) (answer : PollAnswer) :
    pollAnswered deadline later answer =
      match answer.settles with
      | some verdict => .leave verdict
      | none => if expired deadline later then .leave (.ok false) else .again () := by
  cases answer with
  | failed error =>
      simp only [pollAnswered, PollAnswer.settles]
      split <;> rfl
  | nothing => rfl
  | ready revents =>
      simp only [pollAnswered, PollAnswer.settles]
      split
      · rfl
      split
      · rfl
      split <;> rfl

/-- A clock that never goes back and is read in the order of the calls. -/
def Timely : Nat → List PollTurn → Prop
  | _, [] => True
  | since, turn :: rest =>
      since ≤ turn.now ∧ turn.now ≤ turn.later ∧ turn.later ≤ instantMax ∧ Timely turn.later rest

theorem Timely.later {since : Nat} {before rest : List PollTurn} {turn : PollTurn}
    (timely : Timely since (before ++ turn :: rest)) :
    since ≤ turn.now ∧ turn.later ≤ instantMax := by
  induction before generalizing since with
  | nil => exact ⟨timely.1, timely.2.2.1⟩
  | cons head before ih =>
      obtain ⟨first, second⟩ := ih timely.2.2.2
      exact ⟨Nat.le_trans timely.1 (Nat.le_trans timely.2.1 first), second⟩

section Waiting
variable {timeout start slack : Nat} {turns rest : List PollTurn}

/-- The milliseconds this turn's `poll` is given. -/
def PollTurn.millis (turn : PollTurn) (start timeout : Nat) : Nat :=
  pollMillis (remaining (checkedAdd start timeout) timeout turn.now)

/-- `poll` keeps its word: it reports a timeout only once the time is up, and it is at
most `slack` late. -/
structure PollTurn.Honest (turn : PollTurn) (start timeout slack : Nat) : Prop where
  full : turn.answer = .nothing → turn.now + turn.millis start timeout * 1000000 ≤ turn.later
  late : turn.later ≤ turn.now + turn.millis start timeout * 1000000 + slack

theorem expired_iff {later : Nat} (within : later ≤ instantMax) :
    expired (checkedAdd start timeout) later = true ↔ start + timeout ≤ later := by
  unfold checkedAdd expired
  by_cases fits : start + timeout ≤ instantMax
  · simp only [if_pos fits, decide_eq_true_eq]
  · simp only [if_neg fits]
    exact ⟨nofun, fun past => by omega⟩

/-- A turn goes round again only undecided and with time left. -/
theorem pollTurn_again {asked next : List Nat} {turn : PollTurn}
    (within : turn.later ≤ instantMax)
    (again : pollTurn (checkedAdd start timeout) timeout asked turn = .again next) :
    next = asked ++ [turn.millis start timeout] ∧ turn.answer.settles = none ∧
      turn.later < start + timeout := by
  unfold pollTurn at again
  rw [pollAnswered_eq] at again
  cases settled : turn.answer.settles with
  | some verdict =>
      rw [settled] at again
      cases again
  | none =>
      rw [settled] at again
      by_cases passed : expired (checkedAdd start timeout) turn.later = true
      · simp only [passed, if_true] at again
        cases again
      · simp only [passed] at again
        cases again
        refine ⟨rfl, rfl, ?_⟩
        rw [expired_iff within] at passed
        omega

theorem pollTurn_leave {asked total : List Nat} {turn : PollTurn}
    {verdict : Except CaptureError Bool} (within : turn.later ≤ instantMax)
    (leaves : pollTurn (checkedAdd start timeout) timeout asked turn = .leave (verdict, total)) :
    total = asked ++ [turn.millis start timeout] ∧
      (turn.answer.settles = some verdict ∨
        turn.answer.settles = none ∧ verdict = .ok false ∧ start + timeout ≤ turn.later) := by
  unfold pollTurn at leaves
  rw [pollAnswered_eq] at leaves
  cases settled : turn.answer.settles with
  | some other =>
      rw [settled] at leaves
      cases leaves
      exact ⟨rfl, .inl rfl⟩
  | none =>
      rw [settled] at leaves
      by_cases passed : expired (checkedAdd start timeout) turn.later = true
      · simp only [passed, if_true] at leaves
        cases leaves
        exact ⟨rfl, .inr ⟨rfl, rfl, (expired_iff within).mp passed⟩⟩
      · simp only [passed] at leaves
        cases leaves

/-- A wait is never asked to last past the deadline. -/
theorem millis_le (turn : PollTurn) (since : start ≤ turn.now) :
    turn.millis start timeout * 1000000 ≤ timeout := by
  unfold PollTurn.millis pollMillis remaining checkedAdd
  have cut (n : Nat) : min (n / 1000000) 0x7FFFFFFF * 1000000 ≤ n := by omega
  by_cases fits : start + timeout ≤ instantMax
  · simp only [if_pos fits]
    have := cut (start + timeout - turn.now)
    omega
  · simp only [if_neg fits]
    exact cut timeout

/-- However late `poll` may be, it is so after the deadline only. -/
theorem later_le {turn : PollTurn} (within : turn.later ≤ instantMax)
    (honest : turn.Honest start timeout slack) :
    turn.later ≤ max (start + timeout) turn.now + slack := by
  have late := honest.late
  unfold PollTurn.millis pollMillis remaining checkedAdd at late
  by_cases fits : start + timeout ≤ instantMax
  · simp only [if_pos fits] at late
    omega
  · omega

/-- A timeout `poll` reports is the deadline to within a millisecond, or the longest
wait it can be asked for. -/
theorem nothing_full {turn : PollTurn} (since : start ≤ turn.now)
    (honest : turn.Honest start timeout slack) (nothing : turn.answer = .nothing) :
    start + min timeout (0x7FFFFFFF * 1000000) < turn.later + 1000000 := by
  have full := honest.full nothing
  unfold PollTurn.millis pollMillis remaining checkedAdd at full
  by_cases fits : start + timeout ≤ instantMax
  · simp only [if_pos fits] at full
    omega
  · simp only [if_neg fits] at full
    omega

theorem settles_false {answer : PollAnswer} (settled : answer.settles = some (.ok false)) :
    answer = .nothing := by
  cases answer with
  | nothing => rfl
  | failed error =>
      simp only [PollAnswer.settles] at settled
      split at settled <;> cases settled
  | ready revents =>
      simp only [PollAnswer.settles] at settled
      split at settled
      · cases settled
      split at settled
      · cases settled
      split at settled <;> cases settled

/-- Turns that send the loop round again are undecided and over before the deadline. -/
theorem circle_undecided {before after : List PollTurn} {asked last : List Nat}
    (timely : Timely start (before ++ after))
    (circled : circle (pollTurn (checkedAdd start timeout) timeout) asked before = some last) :
    (∀ turn ∈ before, turn.answer.settles = none ∧ turn.later < start + timeout) ∧
      last = asked ++ before.map (·.millis start timeout) := by
  induction before using List.reverseRecOn generalizing after last with
  | nil =>
      cases circled
      exact ⟨nofun, by simp⟩
  | append_singleton before turn ih =>
      rw [List.append_assoc, List.singleton_append] at timely
      rw [circle_append] at circled
      obtain ⟨middle, earlier, here⟩ := Option.bind_eq_some_iff.mp circled
      obtain ⟨undecided, same⟩ := ih timely earlier
      simp only [circle_cons] at here
      cases round : pollTurn (checkedAdd start timeout) timeout middle turn with
      | leave result =>
          rw [round] at here
          cases here
      | again next =>
          rw [round] at here
          cases here
          obtain ⟨grown, settled, early⟩ := pollTurn_again timely.later.2 round
          refine ⟨fun other member => ?_, by rw [grown, same]; simp⟩
          rcases List.mem_append.mp member with sooner | now
          · exact undecided other sooner
          · cases List.mem_singleton.mp now
            exact ⟨settled, early⟩

/-- A wait ends by the end of the first turn past its deadline.  It ends with what the
last `poll` settled, or without a buffer once the time is up; every turn before it was
undecided and over in time.  No turn asks for more than the timeout, the last is late by
no more than `poll` itself, and the wait is not given up a millisecond early. -/
theorem wait_is_bounded (timely : Timely start turns)
    (honest : ∀ turn ∈ turns, turn.Honest start timeout slack) :
    ((∃ turn ∈ turns, start + timeout ≤ turn.later) →
        (pollReadable timeout start turns).isSome = true) ∧
      ∀ verdict asked rest, pollReadable timeout start turns = some ((verdict, asked), rest) →
        ∃ before last, turns = before ++ last :: rest ∧
          (∀ turn ∈ before, turn.answer.settles = none ∧ turn.later < start + timeout) ∧
          (last.answer.settles = some verdict ∨
            last.answer.settles = none ∧ verdict = .ok false ∧ start + timeout ≤ last.later) ∧
          (∀ millis ∈ asked, millis * 1000000 ≤ timeout) ∧
          last.later ≤ max (start + timeout) last.now + slack ∧
          (verdict = .ok false →
            start + min timeout (0x7FFFFFFF * 1000000) < last.later + 1000000) := by
  constructor
  · rintro ⟨turn, member, past⟩
    by_contra waiting
    obtain ⟨last, circled⟩ := drive_eq_none.mp (Option.not_isSome_iff_eq_none.mp waiting)
    have whole : Timely start (turns ++ []) := by rwa [List.append_nil]
    have := ((circle_undecided whole circled).1 turn member).2
    omega
  · intro verdict asked rest left
    obtain ⟨before, last, middle, shape, circled, leaves⟩ := drive_eq_some.mp left
    rw [shape] at timely
    obtain ⟨undecided, same⟩ := circle_undecided timely circled
    obtain ⟨since, within⟩ := timely.later
    obtain ⟨total, settled⟩ := pollTurn_leave within leaves
    have kept := honest last (by rw [shape]; simp)
    refine ⟨before, last, shape, undecided, settled, ?_, later_le within kept, ?_⟩
    · intro millis member
      have everyone : asked = (before ++ [last]).map (·.millis start timeout) := by
        rw [total, same]
        simp
      rw [everyone] at member
      obtain ⟨turn, here, rfl⟩ := List.mem_map.mp member
      obtain ⟨first, others, parts⟩ := List.append_of_mem here
      have reached : Timely start (first ++ turn :: (others ++ rest)) := by
        rw [List.append_cons before last rest, parts] at timely
        simpa using timely
      exact millis_le turn reached.later.1
    · rintro rfl
      rcases settled with settled | ⟨-, -, past⟩
      · exact nothing_full since kept (settles_false settled)
      · omega
end Waiting

/-- A signal after 100 ms, and the rest of the quarter of a second without a buffer. -/
def signalledWait : List PollTurn :=
  [⟨0, .failed ⟨some Errno.eintr, false, "Interrupted system call"⟩, 100000000⟩,
    ⟨100000000, .nothing, 250000000⟩]

theorem wait_is_bounded_signalled :
    (pollReadable defaultTimeout 0 signalledWait).isSome = true ∧
      ∀ verdict asked rest,
        pollReadable defaultTimeout 0 signalledWait = some ((verdict, asked), rest) →
          ∀ millis ∈ asked, millis * 1000000 ≤ defaultTimeout := by
  have timely : Timely 0 signalledWait := by simp [Timely, signalledWait, instantMax]
  have honest : ∀ turn ∈ signalledWait, turn.Honest 0 defaultTimeout 0 := by
    intro turn member
    rcases List.mem_pair.mp member with rfl | rfl
    · exact ⟨nofun, by decide⟩
    · exact ⟨fun _ => by decide, by decide⟩
  obtain ⟨ends, verdicts⟩ := wait_is_bounded timely honest
  refine ⟨ends ⟨_, List.mem_cons_of_mem _ List.mem_cons_self, by decide⟩, ?_⟩
  intro verdict asked rest left
  obtain ⟨before, last, -, -, -, most, -⟩ := verdicts verdict asked rest left
  exact most

end NanoKvm.Capture
