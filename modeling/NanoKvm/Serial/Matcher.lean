import NanoKvm.Lib.Transition
import NanoKvm.Proto.Frame

/-!
# Transactions over the serial link

`serial/link.rs` and the matcher of `serial/reader.rs`.  Replies carry no
sequence number: a reply is matched by its command byte, and one slot remembers
the command that timed out last.  A label is one section under the matcher
lock, one write, or one frame the reader routes.  The device answers each
request at most once, in the order they were written, and pushes nothing.

A reply in the model also carries the number of the request it was produced
for; no step reads it.  Instants and the text of a lost link are left out, so a
deadline or a quiet window may end at any time.
-/

set_option autoImplicit false

namespace NanoKvm.Serial

open NanoKvm.Proto NanoKvm.Lib

structure Tagged where
  request : Nat
  reply : Reply
  deriving DecidableEq, Repr

/-- The matcher's state; `quietSince` says whether the window is open. -/
structure Inner where
  inflight : Option U8
  reply : Option Tagged
  down : Bool
  timedOut : Option U8
  quietSince : Bool
  answeredInflightLate : Bool
  deriving DecidableEq, Repr

def Inner.new : Inner := ⟨none, none, false, none, false, false⟩

/-- `is_some_and(|cmd| reply.answers(cmd))` -/
def answersSome (slot : Option U8) (reply : Reply) : Bool :=
  match slot with
  | some cmd => reply.answers cmd
  | none => false

/-- Route one frame: the matcher, and whether the frame goes to the unsolicited channel. -/
def Inner.route (inner : Inner) (tagged : Tagged) : Inner × Bool :=
  if answersSome inner.timedOut tagged.reply then
    ({ inner with
      timedOut := none
      answeredInflightLate :=
        inner.answeredInflightLate || answersSome inner.inflight tagged.reply }, true)
  else if answersSome inner.inflight tagged.reply then
    ({ inner with inflight := none, reply := some tagged }, false)
  else (inner, true)

/-- Where the caller stands in `transact`. -/
inductive Pc where
  | idle
  | settle (cmd : U8)
  | register (cmd : U8)
  | write (cmd : U8)
  | await (request : Nat) (cmd : U8)
  deriving DecidableEq, Repr

/-- What one `transact` returned, and the reply it was read from. -/
structure Returned where
  request : Nat
  result : TransactResult
  source : Option Tagged
  deriving DecidableEq, Repr

structure Sys where
  inner : Inner
  pc : Pc
  /-- The commands written, by the number of their request. -/
  sent : List U8
  /-- The device answers no request below this one any more. -/
  answered : Nat
  produced : List Tagged
  unsolicited : List Tagged
  returned : List Returned
  deriving DecidableEq, Repr

def Sys.start : Sys := ⟨Inner.new, .idle, [], 0, [], [], []⟩

inductive Label where
  | call (cmd : U8) (payload : List U8)
  /-- The caller looks under the lock, or writes its frame. -/
  | advance
  /-- The window of `settle_after_timeout` ends. -/
  | settled
  | expire
  | writeFails
  | arrive (request : Nat) (reply : Reply)
  | portFails
  deriving DecidableEq, Repr

def Sys.finish (sys : Sys) (request : Nat) (result : TransactResult) (source : Option Tagged) :
    Sys :=
  { sys with pc := .idle, returned := sys.returned ++ [⟨request, result, source⟩] }

/-- A device error must reach the caller as one. -/
def readOut (cmd : U8) (reply : Reply) : TransactResult :=
  if reply.isError then .error (.device cmd (reply.errorCode.getD 0#8)) else .ok reply

def Sys.call (sys : Sys) (cmd : U8) (payload : List U8) : Option Sys :=
  match sys.pc with
  | .idle =>
      match encode cmd payload with
      | .error _ => some (sys.finish sys.sent.length (.error .io) none)
      | .ok _ => some { sys with pc := .settle cmd }
  | _ => none

def Sys.advance (sys : Sys) : Option Sys :=
  match sys.pc with
  | .idle => none
  | .settle cmd =>
      if !sys.inner.quietSince then some { sys with pc := .register cmd }
      else if sys.inner.down then
        some ({ sys with inner := { sys.inner with quietSince := false } }.finish
          sys.sent.length (.error .down) none)
      else none
  | .register cmd =>
      if sys.inner.down then some (sys.finish sys.sent.length (.error .down) none)
      else
        -- Registered before the write, so that a fast reply finds its waiter.
        some { sys with
          inner := { sys.inner with
            reply := none
            inflight := some cmd
            answeredInflightLate := false }
          pc := .write cmd }
  | .write cmd =>
      if sys.inner.down then
        some ({ sys with inner := { sys.inner with inflight := none } }.finish
          sys.sent.length (.error .down) none)
      else some { sys with sent := sys.sent ++ [cmd], pc := .await sys.sent.length cmd }
  | .await request cmd =>
      match sys.inner.reply with
      | some tagged =>
          some ({ sys with inner := { sys.inner with reply := none } }.finish
            request (readOut cmd tagged.reply) (some tagged))
      | none =>
          if sys.inner.down then
            some ({ sys with inner := { sys.inner with inflight := none } }.finish
              request (.error .down) none)
          else none

def Sys.settled (sys : Sys) : Option Sys :=
  match sys.pc with
  | .settle cmd =>
      if sys.inner.quietSince && !sys.inner.down then
        some { sys with inner := { sys.inner with quietSince := false }, pc := .register cmd }
      else none
  | _ => none

/-- The deadline passes with no reply and the link still up. -/
def Sys.expire (sys : Sys) : Option Sys :=
  match sys.pc with
  | .await request cmd =>
      if sys.inner.reply.isNone && !sys.inner.down then
        some ({ sys with inner := { sys.inner with
          inflight := none
          timedOut := if sys.inner.answeredInflightLate then none else some cmd
          answeredInflightLate := false
          quietSince := true } }.finish request (.error (.timeout cmd)) none)
      else none
  | _ => none

def Sys.writeFails (sys : Sys) : Option Sys :=
  match sys.pc with
  | .write _ =>
      if sys.inner.down then none
      else
        some ({ sys with inner := { sys.inner with down := true, inflight := none } }.finish
          sys.sent.length (.error .io) none)
  | _ => none

/-- The reader routes the device's answer to a request not answered and not passed over. -/
def Sys.arrive (sys : Sys) (request : Nat) (reply : Reply) : Option Sys :=
  match sys.sent[request]? with
  | some cmd =>
      if sys.answered ≤ request ∧ reply.answers cmd = true then
        match sys.inner.route ⟨request, reply⟩ with
        | (inner, unsolicited) =>
            some { sys with
              inner := inner
              answered := request + 1
              produced := sys.produced ++ [⟨request, reply⟩]
              unsolicited :=
                if unsolicited then sys.unsolicited ++ [⟨request, reply⟩] else sys.unsolicited }
      else none
  | none => none

def step (label : Label) (sys : Sys) : Option Sys :=
  match label with
  | .call cmd payload => sys.call cmd payload
  | .advance => sys.advance
  | .settled => sys.settled
  | .expire => sys.expire
  | .writeFails => sys.writeFails
  | .arrive request reply => sys.arrive request reply
  | .portFails => some { sys with inner := { sys.inner with down := true } }

/-! ## A reply is the request's own -/

/-- The reply a `transact` returned was produced for its own request. -/
def Returned.Own (produced : List Tagged) (returned : Returned) : Prop :=
  match returned.result with
  | .ok _ | .error (.device _ _) => ∃ cmd reply,
      returned.result = readOut cmd reply ∧ returned.source = some ⟨returned.request, reply⟩ ∧
        (⟨returned.request, reply⟩ : Tagged) ∈ produced
  | _ => True

/-- A reply to an earlier request that would also answer the one in flight finds
the slot armed for it. -/
def diverted (label : Label) (sys : Sys) : Bool :=
  match label with
  | .arrive request reply =>
      !answersSome sys.inner.inflight reply || answersSome sys.inner.timedOut reply ||
        match sys.pc with
        | .await current _ => request == current
        | _ => false
  | _ => true

structure Sys.Separate (sys : Sys) : Prop where
  returned : ∀ returned ∈ sys.returned, returned.Own sys.produced
  inflight : ∀ cmd, sys.inner.inflight = some cmd →
    sys.pc = .write cmd ∨ ∃ request, sys.pc = .await request cmd
  matched : ∀ tagged, sys.inner.reply = some tagged →
    ∃ cmd, sys.pc = .await tagged.request cmd ∧ tagged ∈ sys.produced ∧
      sys.inner.inflight = none

theorem start_separate : Sys.start.Separate := ⟨nofun, nofun, nofun⟩

section Steps
variable {sys next : Sys}

theorem Returned.Own.mono {produced more : List Tagged} {returned : Returned}
    (own : returned.Own produced) : returned.Own (produced ++ more) := by
  obtain ⟨request, result, source⟩ := returned
  cases result with
  | ok reply =>
      obtain ⟨cmd, reply, read, from_, member⟩ := own
      exact ⟨cmd, reply, read, from_, List.mem_append_left _ member⟩
  | error failure =>
      cases failure with
      | device cmd code =>
          obtain ⟨cmd, reply, read, from_, member⟩ := own
          exact ⟨cmd, reply, read, from_, List.mem_append_left _ member⟩
      | _ => trivial

/-- A transact that ends without a reply leaves none behind. -/
theorem Sys.Separate.fail {inner : Inner} {request : Nat} {failure : LinkError}
    (separate : sys.Separate)
    (failed : failure.isTransportFailure = true ∨ ∃ cmd, failure = .timeout cmd)
    (inflight : inner.inflight = none) (reply : inner.reply = none) :
    ({ sys with inner := inner }.finish request (.error failure) none).Separate := by
  refine ⟨?_, ?_, ?_⟩
  · intro returned member
    change returned ∈ sys.returned ++ [_] at member
    rcases List.mem_append.mp member with old | new
    · exact separate.returned returned old
    · rw [List.mem_singleton.mp new]
      cases failure with
      | device cmd code =>
          rcases failed with failed | ⟨cmd, failed⟩
          · cases failed
          · cases failed
      | _ => trivial
  · intro cmd registered
    change inner.inflight = some cmd at registered
    rw [inflight] at registered
    cases registered
  · intro tagged stored
    change inner.reply = some tagged at stored
    rw [reply] at stored
    cases stored

/-- Outside `write` and `await` nothing is registered, and no reply waits. -/
theorem Sys.Separate.apart (separate : sys.Separate) (write : ∀ cmd, sys.pc ≠ .write cmd)
    (await : ∀ request cmd, sys.pc ≠ .await request cmd) :
    sys.inner.inflight = none ∧ sys.inner.reply = none := by
  constructor
  · cases registered : sys.inner.inflight with
    | none => rfl
    | some cmd =>
        rcases separate.inflight cmd registered with here | ⟨request, here⟩
        · exact absurd here (write cmd)
        · exact absurd here (await request cmd)
  · cases stored : sys.inner.reply with
    | none => rfl
    | some tagged =>
        obtain ⟨cmd, here, _⟩ := separate.matched tagged stored
        exact absurd here (await _ cmd)

/-- With nothing registered and no reply waiting the caller may stand anywhere. -/
theorem Sys.Separate.clear {inner : Inner} {pc : Pc} (separate : sys.Separate)
    (inflight : inner.inflight = none) (reply : inner.reply = none) :
    ({ sys with inner := inner, pc := pc } : Sys).Separate where
  returned := separate.returned
  inflight cmd registered := by
    rw [inflight] at registered
    cases registered
  matched tagged stored := by
    rw [reply] at stored
    cases stored

theorem call_separate {cmd : U8} {payload : List U8} (separate : sys.Separate)
    (stepped : sys.call cmd payload = some next) : next.Separate := by
  unfold Sys.call at stepped
  split at stepped
  · rename_i point
    obtain ⟨inflight, reply⟩ := separate.apart (by simp [point]) (by simp [point])
    split at stepped
    · cases Option.some.inj stepped
      exact separate.fail (Or.inl rfl) inflight reply
    · cases Option.some.inj stepped
      exact separate.clear inflight reply
  · cases stepped

theorem settled_separate (separate : sys.Separate) (stepped : sys.settled = some next) :
    next.Separate := by
  unfold Sys.settled at stepped
  split at stepped
  · rename_i point
    obtain ⟨inflight, reply⟩ := separate.apart (by simp [point]) (by simp [point])
    split at stepped
    · cases Option.some.inj stepped
      exact separate.clear inflight reply
    · cases stepped
  · cases stepped

theorem expire_separate (separate : sys.Separate) (stepped : sys.expire = some next) :
    next.Separate := by
  unfold Sys.expire at stepped
  split at stepped
  · split at stepped
    · rename_i waiting
      cases Option.some.inj stepped
      have reply : sys.inner.reply = none := by
        simp only [Bool.and_eq_true, Option.isNone_iff_eq_none] at waiting
        exact waiting.1
      exact separate.fail (Or.inr ⟨_, rfl⟩) rfl reply
    · cases stepped
  · cases stepped

/-- While the frame is being written no reply can be waiting. -/
theorem Sys.Separate.unmatched {cmd : U8} (separate : sys.Separate) (point : sys.pc = .write cmd) :
    sys.inner.reply = none := by
  cases stored : sys.inner.reply with
  | none => rfl
  | some tagged =>
      obtain ⟨_, here, _⟩ := separate.matched tagged stored
      rw [point] at here
      cases here

theorem writeFails_separate (separate : sys.Separate) (stepped : sys.writeFails = some next) :
    next.Separate := by
  unfold Sys.writeFails at stepped
  split at stepped
  · rename_i point
    split at stepped
    · cases stepped
    · cases Option.some.inj stepped
      exact separate.fail (Or.inl rfl) rfl (separate.unmatched point)
  · cases stepped

theorem readOut_own {produced : List Tagged} {cmd : U8} {tagged : Tagged}
    (member : tagged ∈ produced) :
    (⟨tagged.request, readOut cmd tagged.reply, some tagged⟩ : Returned).Own produced := by
  have own : ∃ other reply, readOut cmd tagged.reply = readOut other reply ∧
      some tagged = some ⟨tagged.request, reply⟩ ∧
        (⟨tagged.request, reply⟩ : Tagged) ∈ produced := ⟨cmd, tagged.reply, rfl, rfl, member⟩
  unfold Returned.Own
  dsimp only
  split
  · exact own
  · exact own
  · trivial

theorem advance_separate (separate : sys.Separate) (stepped : sys.advance = some next) :
    next.Separate := by
  unfold Sys.advance at stepped
  split at stepped
  · cases stepped
  · rename_i point
    obtain ⟨inflight, reply⟩ := separate.apart (by simp [point]) (by simp [point])
    split at stepped
    · cases Option.some.inj stepped
      exact separate.clear inflight reply
    · split at stepped
      · cases Option.some.inj stepped
        exact separate.fail (Or.inl rfl) inflight reply
      · cases stepped
  · rename_i cmd point
    obtain ⟨inflight, reply⟩ := separate.apart (by simp [point]) (by simp [point])
    split at stepped
    · cases Option.some.inj stepped
      exact separate.fail (Or.inl rfl) inflight reply
    · cases Option.some.inj stepped
      refine ⟨separate.returned, ?_, nofun⟩
      intro other registered
      cases registered
      exact Or.inl rfl
  · rename_i cmd point
    have reply := separate.unmatched point
    split at stepped
    · cases Option.some.inj stepped
      exact separate.fail (Or.inl rfl) rfl reply
    · cases Option.some.inj stepped
      refine ⟨separate.returned, ?_, ?_⟩
      · intro other registered
        rcases separate.inflight other registered with here | ⟨request, here⟩
        · rw [point] at here
          cases here
          exact Or.inr ⟨_, rfl⟩
        · rw [point] at here
          cases here
      · intro tagged stored
        change sys.inner.reply = some tagged at stored
        rw [reply] at stored
        cases stored
  · rename_i request cmd point
    split at stepped
    · rename_i tagged stored
      cases Option.some.inj stepped
      obtain ⟨_, here, member, unregistered⟩ := separate.matched tagged stored
      rw [point] at here
      cases here
      refine ⟨?_, ?_, nofun⟩
      · intro returned member'
        change returned ∈ sys.returned ++ [_] at member'
        rcases List.mem_append.mp member' with old | new
        · exact separate.returned returned old
        · rw [List.mem_singleton.mp new]
          exact readOut_own member
      · intro other registered
        change sys.inner.inflight = some other at registered
        rw [unregistered] at registered
        cases registered
    · rename_i stored
      split at stepped
      · cases Option.some.inj stepped
        exact separate.fail (Or.inl rfl) rfl stored
      · cases stepped

/-- A frame is stored only if no slot takes it first and it answers the one in flight. -/
theorem route_stores {inner after : Inner} {tagged : Tagged} {unsolicited : Bool}
    (routed : inner.route tagged = (after, unsolicited)) :
    (after.inflight = inner.inflight ∧ after.reply = inner.reply) ∨
      (answersSome inner.timedOut tagged.reply = false ∧
        answersSome inner.inflight tagged.reply = true ∧ after.inflight = none ∧
          after.reply = some tagged) := by
  unfold Inner.route at routed
  split at routed
  · cases routed
    exact Or.inl ⟨rfl, rfl⟩
  · rename_i late
    split at routed
    · rename_i fresh
      cases routed
      exact Or.inr ⟨by simpa using late, fresh, rfl, rfl⟩
    · cases routed
      exact Or.inl ⟨rfl, rfl⟩

/-- The frame the reader routes is the one in flight, or is kept from it. -/
theorem arrive_separate {request : Nat} {reply : Reply} (separate : sys.Separate)
    (guard : diverted (.arrive request reply) sys = true)
    (stepped : sys.arrive request reply = some next) : next.Separate := by
  unfold Sys.arrive at stepped
  split at stepped
  swap
  · cases stepped
  split at stepped
  swap
  · cases stepped
  split at stepped
  rename_i inner unsolicited routed
  cases Option.some.inj stepped
  have returned : ∀ returned ∈ sys.returned, returned.Own (sys.produced ++ [⟨request, reply⟩]) :=
    fun returned member => (separate.returned returned member).mono
  rcases route_stores routed with ⟨inflight, stored⟩ | ⟨late, fresh, inflight, stored⟩
  · refine ⟨returned, by rw [inflight]; exact separate.inflight, ?_⟩
    intro tagged waiting
    rw [stored] at waiting
    obtain ⟨cmd, here, member, unregistered⟩ := separate.matched tagged waiting
    exact ⟨cmd, here, List.mem_append_left _ member, inflight.trans unregistered⟩
  · refine ⟨returned, by rw [inflight]; nofun, ?_⟩
    intro tagged waiting
    rw [stored] at waiting
    cases Option.some.inj waiting
    have own : (match sys.pc with
        | .await current _ => request == current
        | _ => false) = true := by
      simpa [diverted, late, fresh] using guard
    split at own
    · rename_i current cmd point
      have same : request = current := by simpa using own
      subst same
      exact ⟨cmd, point, List.mem_append_right _ (List.mem_singleton_self _), inflight⟩
    · cases own

theorem step_separate {label : Label} (separate : sys.Separate)
    (guard : diverted label sys = true) (stepped : step label sys = some next) :
    next.Separate := by
  cases label with
  | call cmd payload => exact call_separate separate stepped
  | advance => exact advance_separate separate stepped
  | settled => exact settled_separate separate stepped
  | expire => exact expire_separate separate stepped
  | writeFails => exact writeFails_separate separate stepped
  | arrive request reply => exact arrive_separate separate guard stepped
  | portFails =>
      cases Option.some.inj stepped
      exact ⟨separate.returned, separate.inflight, separate.matched⟩

end Steps

/-! ## Every run without a stray reply -/

/-- A reply that strays while a request awaits its own is returned for that request. -/
theorem stray_returned {sys next : Sys} {current request : Nat} {cmd : U8} {reply : Reply}
    (point : sys.pc = .await current cmd)
    (stray : diverted (.arrive request reply) sys = false)
    (stepped : step (.arrive request reply) sys = some next) :
    request ≠ current ∧ ∃ final, step .advance next = some final ∧
      ⟨current, readOut cmd reply, some ⟨request, reply⟩⟩ ∈ final.returned := by
  change sys.arrive request reply = some next at stepped
  simp only [diverted, point, Bool.or_eq_false_iff, Bool.not_eq_false', beq_eq_false_iff_ne]
    at stray
  obtain ⟨⟨fresh, late⟩, other⟩ := stray
  refine ⟨other, ?_⟩
  have routed : sys.inner.route ⟨request, reply⟩ =
      ({ sys.inner with inflight := none, reply := some ⟨request, reply⟩ }, false) := by
    simp [Inner.route, late, fresh]
  unfold Sys.arrive at stepped
  split at stepped
  swap
  · cases stepped
  split at stepped
  swap
  · cases stepped
  rw [routed] at stepped
  cases Option.some.inj stepped
  simp [step, Sys.advance, point, Sys.finish]

/-- The device's good answer to a command. -/
def success (cmd : U8) : Reply := ⟨cmd ||| 0x80#8, [0#8]⟩

/-- Two requests of one command, the first timing out and answered late. -/
def answeredLate : List Label :=
  [.call 0x02#8 [], .advance, .advance, .advance, .expire,
    .call 0x02#8 [], .settled, .advance, .advance,
    .arrive 0 (success 0x02#8), .arrive 1 (success 0x02#8), .advance]

/-- The same command times out twice before its first late reply: that reply empties
the one slot, and the second answers the third request. -/
def timedOutTwice : List Label :=
  [.call 0x02#8 [], .advance, .advance, .advance, .expire,
    .call 0x02#8 [], .settled, .advance, .advance, .expire,
    .call 0x02#8 [], .settled, .advance, .advance,
    .arrive 0 (success 0x02#8), .arrive 1 (success 0x02#8), .advance]

def Sys.after (labels : List Label) : Sys := (run step labels .start).getD .start

end NanoKvm.Serial
