import Mathlib.Data.List.Chain
import NanoKvm.Input.Record

/-!
# How long the queue gets

Motion is queued without a bound of its own.  Every queued entry belongs to the
acknowledged epoch, so motion always finds a run of its epoch at the tail, and no
two runs ever stand side by side.
-/

set_option autoImplicit false

namespace NanoKvm.Input

open NanoKvm.Proto NanoKvm.Lib

/-- Between any two neighbours, at least one is a transition. -/
def Spaced (entries : List Entry) : Prop :=
  entries.IsChain fun a b => a.kind.isBarrier = true ∨ b.kind.isBarrier = true

structure QueueState.Trim (queue : QueueState) : Prop where
  spaced : Spaced queue.entries
  full : queue.barriers ≤ queue.maxBarriers

theorem spaced_length {entries : List Entry} (spaced : Spaced entries) :
    entries.length ≤ 2 * (entries.countP fun entry => entry.kind.isBarrier) + 1 := by
  induction entries using List.twoStepInduction with
  | nil => exact Nat.zero_le _
  | singleton entry => exact Nat.succ_le_succ (Nat.zero_le _)
  | cons_cons first second rest ih _ =>
      obtain ⟨near, after⟩ := List.isChain_cons_cons.mp spaced
      have shorter := ih (List.IsChain.tail after)
      simp only [List.length_cons, List.countP_cons]
      rcases near with here | here
      · rw [if_pos here]
        split <;> omega
      · rw [if_pos here]
        split <;> omega

/-- The last entry is a transition, or there is none. -/
theorem spaced_snoc {entries : List Entry} {entry : Entry} (spaced : Spaced entries)
    (apart : entry.kind.isBarrier = true ∨
      ∀ last, entries.getLast? = some last → last.kind.isBarrier = true) :
    Spaced (entries ++ [entry]) := by
  refine List.isChain_append.mpr ⟨spaced, List.isChain_singleton _, ?_⟩
  intro last isLast first isFirst
  cases Option.some.inj isFirst
  exact apart.symm.imp_left fun barrier => barrier last isLast

section Operations
variable {queue after : QueueState}

theorem trim_same (trim : queue.Trim) (same : queue.Same after) : after.Trim :=
  ⟨by rw [same.entries]; exact trim.spaced,
    by rw [same.barriers, same.maxBarriers]; exact trim.full⟩

theorem trim_empty (empty : after.entries = []) (counted : after.Counted) : after.Trim := by
  refine ⟨by rw [empty]; exact List.isChain_nil, ?_⟩
  rw [counted, empty]
  exact Nat.zero_le _

/-- Motion of the epoch every entry has goes into the run at the tail, if one is there. -/
theorem pushMotion_trim {epoch : Nat} (fold : MotionRun → MotionRun) (fresh : MotionRun)
    (trim : queue.Trim) (current : ∀ entry ∈ queue.entries, entry.epoch = epoch) :
    (queue.pushMotion epoch fold fresh).Trim := by
  unfold QueueState.pushMotion
  cases found : tailRun queue.entries epoch with
  | some tail =>
      obtain ⟨before, motion⟩ := tail
      have spaced := trim.spaced
      rw [tailRun_some found] at spaced
      obtain ⟨front, -, near⟩ := List.isChain_append.mp spaced
      refine ⟨List.isChain_append.mpr ⟨front, List.isChain_singleton _, ?_⟩, trim.full⟩
      intro last isLast first isFirst
      cases Option.some.inj isFirst
      exact near last isLast ⟨.motion motion, epoch⟩ rfl
  | none =>
      refine ⟨spaced_snoc trim.spaced (Or.inr fun last isLast => ?_), trim.full⟩
      have mine := current last (List.mem_of_getLast? isLast)
      obtain ⟨kind, under⟩ := last
      cases kind with
      | motion run => simp [tailRun, isLast, show under = epoch from mine] at found
      | key key down => rfl
      | button mask down => rfl

theorem pushBarrier_trim {kind : EntryKind} {epoch : Nat} (barrier : kind.isBarrier = true)
    (trim : queue.Trim) (pushed : queue.pushBarrier kind epoch = some after) : after.Trim := by
  unfold QueueState.pushBarrier at pushed
  split at pushed
  · cases pushed
  · rename_i room
    cases Option.some.inj pushed
    exact ⟨spaced_snoc trim.spaced (Or.inl barrier), Nat.lt_of_not_le room⟩

theorem pop_trim {entry : Entry} (trim : queue.Trim) (popped : queue.pop = some (entry, after)) :
    after.Trim := by
  have shape := pop_entries popped
  have spaced := trim.spaced
  rw [shape] at spaced
  refine ⟨List.IsChain.tail spaced, Nat.le_trans ?_ (Nat.le_trans trim.full ?_)⟩ <;>
  · unfold QueueState.pop at popped
    split at popped
    · cases popped
    · cases Option.some.inj popped
      dsimp only
      first
        | exact Nat.le_refl _
        | split
          · exact Nat.sub_le _ _
          · exact Nat.le_refl _

/-- A drain takes all of one epoch or nothing. -/
theorem drain_trim {acked : Nat} (epoch : Nat) (trim : queue.Trim) (counted : queue.Counted)
    (current : ∀ entry ∈ queue.entries, entry.epoch = acked) : (queue.drainUpto epoch).Trim := by
  by_cases covered : acked ≤ epoch
  · refine trim_empty (drainUpto_all fun entry member => ?_) (drain_counted queue epoch)
    rw [current entry member]
    exact covered
  · have kept : (queue.drainUpto epoch).entries = queue.entries := by
      rw [drainUpto_entries, List.filter_eq_self]
      intro entry member
      rw [current entry member]
      exact decide_eq_true (Nat.lt_of_not_le covered)
    refine trim_same trim ⟨kept, ?_, rfl⟩
    rw [drain_counted queue epoch, kept]
    exact counted.symm

end Operations

/-! ## Every reachable state -/

section Runs
variable {bound maxBarriers : Nat} {reconnect : Bool} {view next : View} {sys after : Sys}

theorem move_trim (move : Move view next) (agreed : Agreed bound view)
    (trim : view.shared.queue.Trim) : next.shared.queue.Trim := by
  have current := agreed.fifo.current
  cases move with
  | aside keeps up => exact trim_same trim (same_queue keeps.queue)
  | engaged keeps down settled => exact trim_same trim (same_queue keeps.queue)
  | submitted accepted settled free =>
      rename_i event shared
      rw [settled] at current
      have submits := submit_submits view.shared event
      rw [accepted] at submits
      cases submits with
      | motion admits plain fold fresh => exact pushMotion_trim fold fresh trim current
      | transition admits barrier same pushed => exact pushBarrier_trim barrier trim pushed
  | raised slot shutdown within => exact trim_same trim (raise_queue _ _ _)
  | popped duty popped current settled => exact pop_trim trim popped
  | latched duty behind empty => exact trim_empty empty (drain_counted _ _)
  | drained duty => exact drain_trim _ trim agreed.fifo.counted current
  | refused _ _ | taken _ _ _ | discarded _ _ | wrote _ _ _ _ | steered _ _ | finished _
  | unlinked _ | triggered _ _ | asked _ | informed _ _ | resynced _ _ | commissioned _ _ _
  | passed _ _ | released _ _ | recorded _ _ _ _ | acknowledged _ _ _ _ => exact trim

theorem moves_trim (moves : Moves view next) (agreed : Agreed bound view)
    (trim : view.shared.queue.Trim) : next.shared.queue.Trim := by
  induction moves with
  | refl => exact trim
  | tail earlier move ih => exact move_trim move (moves_agreed earlier agreed).1 ih

theorem reached_trim (reached : sys.Reached maxBarriers reconnect) : sys.shared.queue.Trim := by
  let P := fun sys : Sys => sys.Holds (max 1 maxBarriers) ∧ sys.shared.queue.Trim
  have both : P sys := by
    refine reachable_preserves ?_ ?_ reached
    · intro state started
      rw [started]
      refine ⟨⟨sound_start maxBarriers reconnect, agreed_start maxBarriers reconnect⟩, ?_⟩
      cases reconnect <;> exact ⟨List.isChain_nil, Nat.zero_le _⟩
    · intro label state next ⟨holds, trim⟩ stepped
      have moves := step_moves label state next holds.sound stepped
      exact ⟨step_holds label state next holds stepped, moves_trim moves holds.agreed trim⟩
  exact both.2

/-- A refusal leaves the shared state alone; only an overflow is remembered, for its trigger. -/
theorem refused_shared {thread : Nat} {event : Event} {refusal : SubmitError}
    (refused : sys.shared.submit event = .error refusal)
    (stepped : step (.submit thread event) sys = some after) : after.shared = sys.shared := by
  simp only [step] at stepped
  split at stepped
  · cases stepped
  · cases Option.some.inj stepped
    unfold Sys.submit
    rw [refused]
    cases refusal <;> rfl

theorem overflowTrigger_entries {thread : Nat}
    (stepped : step (.overflowTrigger thread) sys = some after) :
    after.shared.queue.entries = sys.shared.queue.entries := by
  simp only [step] at stepped
  split at stepped
  · cases Option.some.inj stepped
    exact raise_entries sys.shared (.note .overflow) false
  · cases stepped

/-- The queue of every reachable state: counted, spaced and bounded, and as it was
after a refusal and the trigger that an overflow owes. -/
theorem queue_bounded (reached : sys.Reached maxBarriers reconnect) :
    (sys.shared.queue.entries.countP fun entry => entry.kind.isBarrier) ≤ max 1 maxBarriers ∧
      sys.shared.queue.entries.length ≤ 2 * max 1 maxBarriers + 1 ∧
      sys.shared.queue.barriers =
        (sys.shared.queue.entries.countP fun entry => entry.kind.isBarrier) ∧
      (∀ before a b rest, sys.shared.queue.entries = before ++ a :: b :: rest →
        a.epoch = b.epoch → a.kind.isBarrier = true ∨ b.kind.isBarrier = true) ∧
      (∀ thread event refusal after, sys.shared.submit event = .error refusal →
        step (.submit thread event) sys = some after →
          after.shared.queue.entries = sys.shared.queue.entries) ∧
      ∀ thread after, step (.overflowTrigger thread) sys = some after →
        after.shared.queue.entries = sys.shared.queue.entries := by
  have fifo := (reached_holds reached).agreed.fifo
  have trim := reached_trim reached
  have counted : sys.shared.queue.barriers =
      sys.shared.queue.entries.countP fun entry => entry.kind.isBarrier := fifo.counted
  have bounded : (sys.shared.queue.entries.countP fun entry => entry.kind.isBarrier) ≤
      max 1 maxBarriers := by
    have full := trim.full
    rw [counted, show sys.shared.queue.maxBarriers = max 1 maxBarriers from fifo.maxBarriers]
      at full
    exact full
  have short := spaced_length trim.spaced
  refine ⟨bounded, by omega, counted, ?_, ?_, fun _ _ => overflowTrigger_entries⟩
  · intro before a b rest shape _
    exact List.isChain_iff_forall_rel_of_append_cons_cons.mp trim.spaced shape
  · intro thread event refusal after refused stepped
    rw [refused_shared refused stepped]

/-- Motion around the one transition that the queue takes. -/
def crowded : List Label :=
  [.writer (.opened (.ok 0)), .submit 0 (.pointerRel 1 1), .submit 0 (.key (.usage 0x04#8) true),
    .submit 0 (.wheel 1)]

/-- The release of the key is refused. -/
theorem queue_bounded_crowded :
    (Sys.after 1 false crowded).shared.queue.entries.length = 3 ∧
      (Sys.after 1 false crowded).shared.queue.entries.length ≤ 2 * max 1 1 + 1 ∧
      ∃ after, step (.submit 0 (.key (.usage 0x04#8) false)) (Sys.after 1 false crowded) =
          some after ∧
        after.shared.queue.entries = (Sys.after 1 false crowded).shared.queue.entries := by
  obtain ⟨-, short, -, -, refused, -⟩ := queue_bounded (after_reached 1 false crowded)
  exact ⟨by decide, short, _, rfl, refused 0 _ .overflow _ (by rfl) rfl⟩

end Runs

end NanoKvm.Input
