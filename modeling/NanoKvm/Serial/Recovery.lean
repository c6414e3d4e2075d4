import NanoKvm.Serial.Matcher

/-!
# What a lost reply costs

A reply that never comes leaves its command in the slot, and the next reply that
would answer it is diverted.  The request it was meant for times out, and does
not arm the slot again: from there on every reply is matched.  Before that the
device may have sent anything at all.
-/

set_option autoImplicit false

namespace NanoKvm.Serial

open NanoKvm.Proto NanoKvm.Lib

/-- A step of the link, or a frame that is no answer to an open request. -/
inductive Traffic where
  | link (label : Label)
  | frame (tagged : Tagged)
  deriving DecidableEq, Repr

def Sys.frame (sys : Sys) (tagged : Tagged) : Sys :=
  match sys.inner.route tagged with
  | (inner, unsolicited) =>
      { sys with
        inner := inner
        produced := sys.produced ++ [tagged]
        unsolicited := if unsolicited then sys.unsolicited ++ [tagged] else sys.unsolicited }

def traffic (label : Traffic) (sys : Sys) : Option Sys :=
  match label with
  | .link label => step label sys
  | .frame tagged => some (sys.frame tagged)

/-- The device answers the request that waits, before its deadline, and sends
nothing else; on a link that is down no request is written any more. -/
def prompt (label : Traffic) (sys : Sys) : Bool :=
  match label with
  | .frame _ => false
  | .link (.arrive request _) =>
      sys.inner.down ||
        match sys.pc with
        | .await current _ => request == current
        | _ => false
  | .link .expire =>
      match sys.pc with
      | .await current _ => current < sys.answered
      | _ => true
  | .link _ => true

def Returned.timedOut (returned : Returned) : Bool :=
  match returned.result with
  | .error (.timeout _) => true
  | _ => false

def timeouts (returned : List Returned) : Nat := returned.countP Returned.timedOut

theorem timeouts_snoc (returned : List Returned) (last : Returned) :
    timeouts (returned ++ [last]) = timeouts returned + if last.timedOut then 1 else 0 := by
  simp [timeouts, List.countP_append, List.countP_singleton]

/-! ## The device answers no request before it is written -/

section Bounded
variable {sys next : Sys}

theorem arrive_bounded {request : Nat} {reply : Reply}
    (stepped : sys.arrive request reply = some next) : next.answered ≤ next.sent.length := by
  unfold Sys.arrive at stepped
  split at stepped
  swap
  · cases stepped
  rename_i cmd written
  have within := (List.getElem?_eq_some_iff.mp written).1
  split at stepped
  · cases stepped
    exact within
  · cases stepped

/-- Nothing but an arrival moves `answered`, and `sent` only grows. -/
theorem step_answers {label : Label} (stepped : step label sys = some next) :
    next.answered ≤ next.sent.length ∨
      (next.answered = sys.answered ∧ sys.sent.length ≤ next.sent.length) := by
  cases label with
  | arrive request reply => exact .inl (arrive_bounded stepped)
  | portFails =>
      cases stepped
      exact .inr ⟨rfl, Nat.le_refl _⟩
  | _ =>
      simp only [step, Sys.call, Sys.advance, Sys.settled, Sys.expire, Sys.writeFails] at stepped
      grind [Sys.finish]

theorem traffic_bounded (label : Traffic) (sys next : Sys)
    (bounded : sys.answered ≤ sys.sent.length) (stepped : traffic label sys = some next) :
    next.answered ≤ next.sent.length := by
  cases label with
  | link label =>
      rcases step_answers stepped with within | ⟨same, grown⟩
      · exact within
      · omega
  | frame tagged =>
      cases stepped
      exact bounded

end Bounded

/-! ## At most one more timeout -/

/-- Where the request in flight stands, with `base` timeouts before the device
became prompt. -/
inductive Sys.Standing (base : Nat) (sys : Sys) : Prop where
  | between (apart : ∀ request cmd, sys.pc ≠ .await request cmd)
      (registered : ∀ cmd, sys.pc = .write cmd →
        sys.inner.inflight = some cmd ∧ sys.inner.reply = none ∧
          sys.inner.answeredInflightLate = false)
  | waiting (request : Nat) (cmd : U8) (point : sys.pc = .await request cmd)
      (written : sys.sent[request]? = some cmd) (unanswered : sys.answered ≤ request)
      (registered : sys.inner.inflight = some cmd) (unmatched : sys.inner.reply = none)
      (undiverted : sys.inner.answeredInflightLate = false)
  | matched (request : Nat) (cmd : U8) (point : sys.pc = .await request cmd)
      (answered : request < sys.answered) (reply : sys.inner.reply.isSome = true)
  /-- The reply went to the slot, and the slot will not be armed again. -/
  | diverted (request : Nat) (cmd : U8) (point : sys.pc = .await request cmd)
      (answered : request < sys.answered) (retired : sys.inner.timedOut = none)
      (late : sys.inner.answeredInflightLate = true) (first : timeouts sys.returned = base)

structure Sys.Settling (base : Nat) (sys : Sys) : Prop where
  bounded : sys.answered ≤ sys.sent.length
  few : timeouts sys.returned = base ∨ timeouts sys.returned = base + 1
  up : sys.inner.down = false →
    (sys.inner.timedOut = none ∨ timeouts sys.returned = base) ∧ sys.Standing base

section Settling
variable {base : Nat} {sys next : Sys}

/-- A transact that ends without a timeout changes no count and leaves the slot. -/
theorem Sys.Settling.finish (settling : sys.Settling base) {inner : Inner} {request : Nat}
    {result : TransactResult} {source : Option Tagged}
    (kept : (⟨request, result, source⟩ : Returned).timedOut = false)
    (slot : inner.timedOut = sys.inner.timedOut)
    (down : inner.down = false → sys.inner.down = false) :
    ({ sys with inner := inner }.finish request result source).Settling base := by
  have count : timeouts ({ sys with inner := inner }.finish request result source).returned =
      timeouts sys.returned := by
    change timeouts (sys.returned ++ [_]) = _
    rw [timeouts_snoc, kept]
    rfl
  refine ⟨settling.bounded, ?_, fun up => ⟨?_, .between nofun nofun⟩⟩
  · rw [count]
    exact settling.few
  · rw [count]
    change inner.timedOut = none ∨ _
    rw [slot]
    exact (settling.up (down up)).1

/-- The caller moves on to a place where no request waits. -/
theorem Sys.Settling.move (settling : sys.Settling base) {inner : Inner} {pc : Pc}
    (slot : inner.timedOut = sys.inner.timedOut) (down : inner.down = sys.inner.down)
    (apart : ∀ request cmd, pc ≠ .await request cmd)
    (registered : ∀ cmd, pc = .write cmd →
      inner.inflight = some cmd ∧ inner.reply = none ∧ inner.answeredInflightLate = false) :
    ({ sys with inner := inner, pc := pc } : Sys).Settling base := by
  refine ⟨settling.bounded, settling.few, fun up => ⟨?_, .between apart registered⟩⟩
  change inner.timedOut = none ∨ _
  rw [slot]
  exact (settling.up (down.symm.trans up)).1

theorem call_settling {cmd : U8} {payload : List U8} (settling : sys.Settling base)
    (stepped : sys.call cmd payload = some next) : next.Settling base := by
  unfold Sys.call at stepped
  split at stepped
  swap
  · cases stepped
  split at stepped
  · cases stepped
    exact settling.finish rfl rfl id
  · cases stepped
    exact settling.move rfl rfl nofun nofun

theorem settled_settling (settling : sys.Settling base) (stepped : sys.settled = some next) :
    next.Settling base := by
  unfold Sys.settled at stepped
  split at stepped
  swap
  · cases stepped
  split at stepped
  · cases stepped
    exact settling.move rfl rfl nofun nofun
  · cases stepped

theorem writeFails_settling (settling : sys.Settling base) (stepped : sys.writeFails = some next) :
    next.Settling base := by
  unfold Sys.writeFails at stepped
  split at stepped
  swap
  · cases stepped
  split at stepped
  · cases stepped
  · cases stepped
    exact settling.finish rfl rfl nofun

theorem advance_settling (settling : sys.Settling base) (stepped : sys.advance = some next) :
    next.Settling base := by
  unfold Sys.advance at stepped
  split at stepped
  · cases stepped
  · split at stepped
    · cases stepped
      exact settling.move rfl rfl nofun nofun
    · split at stepped
      · cases stepped
        exact settling.finish rfl rfl id
      · cases stepped
  · split at stepped
    · cases stepped
      exact settling.finish rfl rfl id
    · cases stepped
      refine settling.move rfl rfl nofun ?_
      rintro _ ⟨⟩
      exact ⟨rfl, rfl, rfl⟩
  · rename_i cmd point
    split at stepped
    · cases stepped
      exact settling.finish rfl rfl id
    · rename_i alive
      have up := (Bool.not_eq_true _).mp alive
      cases stepped
      obtain ⟨slot, standing⟩ := settling.up up
      obtain ⟨registered, unmatched, undiverted⟩ :
          sys.inner.inflight = some cmd ∧ sys.inner.reply = none ∧
            sys.inner.answeredInflightLate = false := by
        cases standing with
        | between apart registered => exact registered cmd point
        | _ => simp_all
      have bounded := settling.bounded
      refine ⟨?_, settling.few, fun _ => ⟨slot, ?_⟩⟩
      · change sys.answered ≤ (sys.sent ++ [cmd]).length
        rw [List.length_append]
        omega
      · exact .waiting sys.sent.length cmd rfl (List.getElem?_concat_length) bounded registered
          unmatched undiverted
  · split at stepped
    · cases stepped
      refine settling.finish ?_ rfl id
      unfold readOut
      split <;> rfl
    · split at stepped
      · cases stepped
        exact settling.finish rfl rfl id
      · cases stepped

theorem expire_settling (settling : sys.Settling base)
    (answered : prompt (.link .expire) sys = true) (stepped : sys.expire = some next) :
    next.Settling base := by
  unfold Sys.expire at stepped
  split at stepped
  swap
  · cases stepped
  rename_i current cmd point
  split at stepped
  swap
  · cases stepped
  rename_i waiting
  obtain ⟨unmatched, up⟩ : sys.inner.reply = none ∧ sys.inner.down = false := by
    simpa using waiting
  have told : current < sys.answered := by simpa [prompt, point] using answered
  cases stepped
  -- Its reply was neither missing nor matched, so the slot had taken it.
  obtain ⟨late, first⟩ : sys.inner.answeredInflightLate = true ∧
      timeouts sys.returned = base := by
    cases (settling.up up).2 with
    | between apart registered => exact absurd point (apart current cmd)
    | waiting request other here written unanswered =>
        cases point.symm.trans here
        omega
    | matched request other here answered reply => simp [unmatched] at reply
    | diverted request other here answered retired late first => exact ⟨late, first⟩
  have count := timeouts_snoc sys.returned ⟨current, .error (.timeout cmd), none⟩
  change _ = timeouts sys.returned + 1 at count
  refine ⟨settling.bounded, ?_, fun _ => ⟨?_, .between nofun nofun⟩⟩
  · right
    change timeouts (sys.returned ++ [_]) = _
    rw [count, first]
  · left
    change (if sys.inner.answeredInflightLate = true then none else some cmd) = none
    rw [if_pos late]

theorem route_down (inner : Inner) (tagged : Tagged) :
    (inner.route tagged).1.down = inner.down := by
  unfold Inner.route
  split
  · rfl
  · split <;> rfl

theorem arrive_settling {request : Nat} {reply : Reply} (settling : sys.Settling base)
    (awaited : prompt (.link (.arrive request reply)) sys = true)
    (stepped : sys.arrive request reply = some next) : next.Settling base := by
  have within := arrive_bounded stepped
  unfold Sys.arrive at stepped
  split at stepped
  swap
  · cases stepped
  rename_i cmd written
  split at stepped
  swap
  · cases stepped
  rename_i answer
  obtain ⟨unanswered, answers⟩ := answer
  have down := route_down sys.inner ⟨request, reply⟩
  rcases routes : sys.inner.route ⟨request, reply⟩ with ⟨inner, unsolicited⟩
  rw [routes] at stepped down
  cases stepped
  refine ⟨within, settling.few, fun up => ?_⟩
  have alive : sys.inner.down = false := down.symm.trans up
  obtain ⟨slot, standing⟩ := settling.up alive
  have here : ∃ cmd, sys.pc = .await request cmd := by
    unfold prompt at awaited
    rw [alive] at awaited
    cases point : sys.pc with
    | await current cmd =>
        simp only [point, Bool.false_or, beq_iff_eq] at awaited
        exact ⟨cmd, by rw [awaited]⟩
    | _ => simp [point] at awaited
  obtain ⟨own, point⟩ := here
  have told : request < request + 1 := Nat.lt_succ_self request
  cases standing with
  | between apart registered => exact absurd point (apart request own)
  | matched other cmd here answered reply =>
      cases point.symm.trans here
      omega
  | diverted other cmd here answered retired late first =>
      cases point.symm.trans here
      omega
  | waiting other cmd here sent open_ registered unmatched undiverted =>
      cases point.symm.trans here
      cases written.symm.trans sent
      have own : answersSome sys.inner.inflight reply = true := by
        rw [registered]
        exact answers
      by_cases late : answersSome sys.inner.timedOut reply = true
      · have first : timeouts sys.returned = base := by
          rcases slot with none | first
          · rw [none] at late
            cases late
          · exact first
        have routed : sys.inner.route ⟨request, reply⟩ =
            ({ sys.inner with timedOut := none, answeredInflightLate := true }, true) := by
          simp [Inner.route, late, own]
        cases routes.symm.trans routed
        exact ⟨.inl rfl, .diverted request _ point told rfl rfl first⟩
      · have routed : sys.inner.route ⟨request, reply⟩ =
            ({ sys.inner with inflight := none, reply := some ⟨request, reply⟩ }, false) := by
          simp [Inner.route, late, own]
        cases routes.symm.trans routed
        exact ⟨slot, .matched request _ point told rfl⟩

theorem step_settling (label : Traffic) (sys next : Sys) (settling : sys.Settling base)
    (guard : prompt label sys = true) (stepped : traffic label sys = some next) :
    next.Settling base := by
  cases label with
  | frame tagged => cases guard
  | link label =>
      cases label with
      | call cmd payload => exact call_settling settling stepped
      | advance => exact advance_settling settling stepped
      | settled => exact settled_settling settling stepped
      | expire => exact expire_settling settling guard stepped
      | writeFails => exact writeFails_settling settling stepped
      | arrive request reply => exact arrive_settling settling guard stepped
      | portFails =>
          cases stepped
          exact ⟨settling.bounded, settling.few, nofun⟩

end Settling

/-- From any state between two transacts on, whatever the device had sent: once it
answers each request in time and sends nothing else, one more request may time out. -/
theorem one_more_timeout {before after : List Traffic} {sys final : Sys}
    (reached : run traffic before .start = some sys) (between : sys.pc = .idle)
    (success : run traffic after sys = some final)
    (prompted : Guarded traffic (fun label sys => prompt label sys = true) after sys) :
    timeouts final.returned ≤ timeouts sys.returned + 1 := by
  have bounded : sys.answered ≤ sys.sent.length :=
    run_preserves traffic_bounded (Nat.le_refl 0) reached
  have settling : sys.Settling (timeouts sys.returned) :=
    ⟨bounded, .inl rfl, fun _ => ⟨.inr rfl, .between (by simp [between]) (by simp [between])⟩⟩
  have settled := (run_preserves_guarded step_settling settling prompted success).few
  omega

/-- The reply to the first request is lost. -/
def lostReply : List Traffic :=
  [.link (.call 0x02#8 []), .link .advance, .link .advance, .link .advance, .link .expire]

/-- The second is answered and times out; the third is answered and returns. -/
def answeredSince : List Traffic :=
  [.link (.call 0x02#8 []), .link .settled, .link .advance, .link .advance,
    .link (.arrive 1 (success 0x02#8)), .link .expire,
    .link (.call 0x02#8 []), .link .settled, .link .advance, .link .advance,
    .link (.arrive 2 (success 0x02#8)), .link .advance]

def Sys.trafficked (labels : List Traffic) (sys : Sys) : Sys := (run traffic labels sys).getD sys

theorem one_more_timeout_lost_reply :
    timeouts (Sys.start.trafficked lostReply).returned = 1 ∧
      timeouts ((Sys.start.trafficked lostReply).trafficked answeredSince).returned = 2 ∧
      timeouts ((Sys.start.trafficked lostReply).trafficked answeredSince).returned ≤
        timeouts (Sys.start.trafficked lostReply).returned + 1 := by
  have reached : run traffic lostReply .start = some (Sys.start.trafficked lostReply) := rfl
  have success : run traffic answeredSince (Sys.start.trafficked lostReply) =
      some ((Sys.start.trafficked lostReply).trafficked answeredSince) := rfl
  have prompted : Guarded traffic (fun label sys => prompt label sys = true) answeredSince
      (Sys.start.trafficked lostReply) := by decide
  exact ⟨by decide, by decide, one_more_timeout reached rfl success prompted⟩

end NanoKvm.Serial
