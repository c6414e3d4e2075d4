import NanoKvm.Input.Fifo

/-!
# The log of every run is lawful

Each move keeps the three invariants and notes only what the law allows, so the
log of every reachable state obeys the law.  What the law says of whole logs
follows by induction on them.
-/

set_option autoImplicit false

namespace NanoKvm.Input

open NanoKvm.Proto NanoKvm.Lib

structure Agreed (bound : Nat) (view : View) : Prop where
  replays : Replays view
  releases : Releases view
  fifo : Fifo bound view

section Preserved
variable {bound : Nat} {view next : View}

/-- An entry held or written belongs to the acknowledged epoch and was accepted under it. -/
theorem held_law {epoch : Nat} (agreed : Agreed bound view)
    (inHand : view.duty.inHand.isSome = true) (latched : view.duty.latched = none) (current : epoch = view.shared.ackedEpoch) :
    (replay view.log).latched = none ∧ epoch = (replay view.log).acked ∧
      Accepted view.log epoch := by
  refine ⟨agreed.replays.latched.trans latched, current.trans agreed.replays.acked.symm, ?_⟩
  rw [current]
  exact agreed.replays.backed (Or.inr inHand)

theorem info_law (agreed : Agreed bound view)
    (free : view.duty = .idle ∨ ∃ epoch stage, view.duty = .releasing epoch true stage) :
    (replay view.log).latched = none ∨ ∃ epoch, (replay view.log).latched = some (epoch, true) := by
  rw [agreed.replays.latched]
  rcases free with idle | ⟨epoch, stage, releasing⟩
  · rw [idle]
    exact Or.inl rfl
  · rw [releasing]
    exact Or.inr ⟨epoch, rfl⟩

theorem move_notes (move : Move view next) (agreed : Agreed bound view) :
    Notes (Law bound) view.log next.log := by
  have replays := agreed.replays
  cases move with
  | aside keeps up => exact Notes.nothing
  | engaged keeps down settled => exact Notes.one (replays.acked.trans settled)
  | submitted accepted settled free =>
      obtain ⟨_, up, opened, _⟩ := submit_session accepted
      refine Notes.one ⟨replays.requested.symm, replays.shuttingDown.trans opened,
        replays.acked.trans settled, fun lost => ?_⟩
      rcases agreed.fifo.refused _ lost with past | ⟨_, down | latched⟩
      · omega
      · rw [up] at down
        cases down
      · rw [free] at latched
        cases latched
  | refused refused settled =>
      rename_i event refusal
      refine Notes.one ?_
      cases refusal with
      | overflow =>
          refine ⟨replays.requested.symm, ?_⟩
          obtain ⟨engaged, _, full⟩ := submit_overflow refused
          obtain ⟨current, free⟩ := settled engaged
          rw [← current, ← agreed.fifo.queued free, List.length_append,
            queuedIn_length agreed.fifo.current, ← agreed.fifo.counted, ← agreed.fifo.maxBarriers]
          exact Nat.add_le_add_left full _
      | disengaged => exact replays.requested.symm
      | linkDown => exact replays.requested.symm
      | shuttingDown => exact replays.requested.symm
  | raised slot shutdown within => exact Notes.one (congrArg (· + 1) replays.requested.symm)
  | popped duty popped current settled =>
      rename_i entry queue
      refine Notes.one ⟨replays.latched.trans (by rw [duty]; rfl),
        current.trans replays.acked.symm, ?_⟩
      rw [current]
      refine replays.backed (Or.inl ?_)
      rw [pop_entries popped]
      nofun
  | taken duty current up =>
      rename_i entry
      obtain ⟨latched, acked, accepted⟩ := held_law agreed (by rw [duty]; rfl)
        (by rw [duty]; rfl) current
      refine Notes.one ⟨latched, acked, accepted, fun lost => ?_⟩
      rw [current] at lost
      have before := agreed.fifo.failed lost
      rw [duty] at before
      rcases before with failing | ⟨_, none⟩
      · cases failing
      · cases none
  | discarded duty down => exact Notes.nothing
  | wrote duty frame result current =>
      exact Notes.one (held_law agreed (by rw [duty]; rfl) (by rw [duty]; rfl) current)
  | steered duty after => exact Notes.nothing
  | finished duty => exact Notes.nothing
  | unlinked duty => exact Notes.nothing
  | triggered duty behind => exact Notes.nothing
  | asked free => exact Notes.one (info_law agreed free)
  | informed result free => exact Notes.one ⟨rfl, info_law agreed free⟩
  | resynced duty ok =>
      rename_i epoch stage
      exact Notes.one ⟨epoch, replays.latched.trans (by rw [duty]; rfl)⟩
  | latched duty behind empty =>
      have free : (replay view.log).latched = none := replays.latched.trans (by rw [duty]; rfl)
      exact Notes.one ⟨free, by rw [replays.acked]; exact behind⟩
  | commissioned duty behind empty =>
      have free : (replay view.log).latched = none := replays.latched.trans (by rw [duty]; rfl)
      exact Notes.one ⟨free, by rw [replays.acked]; exact behind⟩
  | drained duty => exact Notes.nothing
  | passed duty passes => exact Notes.nothing
  | released duty result =>
      rename_i epoch commissioning frame rest
      obtain ⟨sent, _⟩ := agreed.releases.stage epoch commissioning _ duty
      refine Notes.one ⟨commissioning, view.mode, replays.latched.trans (by rw [duty]; rfl), ?_,
        fun quiet => (replays.untouched quiet).1⟩
      rw [← sent]
      exact List.mem_append_right _ List.mem_cons_self
  | recorded duty reason outcome earned => exact Notes.nothing
  | acknowledged duty above below empty =>
      rename_i epoch commissioning
      exact Notes.one ⟨by rw [replays.acked]; exact above, by rw [replays.requested]; exact below,
        commissioning, replays.latched.trans (by rw [duty]; rfl)⟩

theorem move_agreed (move : Move view next) (agreed : Agreed bound view) : Agreed bound next where
  replays := move_replays move agreed.replays
  releases := move_releases move agreed.releases
  fifo := move_fifo move agreed.fifo

theorem moves_agreed (moves : Moves view next) (agreed : Agreed bound view) :
    Agreed bound next ∧ Notes (Law bound) view.log next.log := by
  induction moves with
  | refl => exact ⟨agreed, Notes.nothing⟩
  | tail _ move ih =>
      exact ⟨move_agreed move ih.1, ih.2.trans (move_notes move ih.1)⟩

end Preserved

/-! ## Every run -/

theorem agreed_start (maxBarriers : Nat) (reconnect : Bool) :
    Agreed (max 1 maxBarriers) (Sys.start maxBarriers reconnect).view := by
  have fresh : ∀ view : View, view.duty = .idle → view.log = [] →
      view.shared.queue = QueueState.new maxBarriers → view.shared.requestedEpoch = 0 →
      view.shared.ackedEpoch = 0 → view.shared.shuttingDown = false →
      view.shared.lastRelease = none → view.mode = .rel → Agreed (max 1 maxBarriers) view := by
    rintro ⟨duty, shared, mode, log⟩ rfl rfl queue requested acked shuttingDown lastRelease rfl
    dsimp only at queue requested acked shuttingDown lastRelease
    refine ⟨?_, ?_, ?_⟩
    · constructor <;> simp [requested, acked, shuttingDown, queue, QueueState.new, Duty.latched,
        Duty.inHand]
    · constructor <;> simp [lastRelease, releaseWrites, Duty.latched]
    · constructor <;> simp [queue, QueueState.new, QueueState.Counted, poppedIn, acceptedIn,
        takenIn, queuedIn, Duty.held, RefusedDown, Failed]
  cases reconnect <;> exact fresh _ rfl rfl rfl rfl rfl rfl rfl rfl

/-- What every reachable state of the threads satisfies. -/
structure Sys.Holds (bound : Nat) (sys : Sys) : Prop where
  sound : sys.Sound
  agreed : Agreed bound sys.view

theorem step_holds {bound : Nat} (label : Label) (sys next : Sys) (holds : sys.Holds bound)
    (stepped : step label sys = some next) : next.Holds bound where
  sound := step_sound label sys next holds.sound stepped
  agreed := (moves_agreed (step_moves label sys next holds.sound stepped) holds.agreed).1

theorem step_notes {bound : Nat} (label : Label) (sys next : Sys) (holds : sys.Holds bound)
    (stepped : step label sys = some next) : Notes (Law bound) sys.log next.log :=
  (moves_agreed (step_moves label sys next holds.sound stepped) holds.agreed).2

section Runs
variable {maxBarriers : Nat} {reconnect : Bool} {sys final : Sys} {labels : List Label}

theorem reached_holds (reached : sys.Reached maxBarriers reconnect) :
    sys.Holds (max 1 maxBarriers) := by
  refine reachable_preserves ?_ step_holds reached
  intro state started
  rw [started]
  exact ⟨sound_start maxBarriers reconnect, agreed_start maxBarriers reconnect⟩

theorem reached_lawful (reached : sys.Reached maxBarriers reconnect) :
    Lawful (Law (max 1 maxBarriers)) sys.log := by
  refine reachable_lawful ?_ (fun _ => reached_holds) step_notes reached
  intro state started
  rw [started]
  cases reconnect <;> rfl

/-- The log of a run starts with the log it set out from. -/
theorem run_log (reached : sys.Reached maxBarriers reconnect)
    (success : run step labels sys = some final) : sys.log <+: final.log :=
  run_extends step_holds step_notes (reached_holds reached) success

end Runs

/-! ## Reading the law -/

section Reading
variable {bound : Nat} {before after log : List Happening} {epoch : Nat}

theorem acked_mono (lawful : Lawful (Law bound) log) (early : before <+: log) :
    (replay before).acked ≤ (replay log).acked := by
  let P := fun grown : List Happening => (replay before).acked ≤ (replay grown).acked
  have base : P before := Nat.le_refl _
  refine lawful.extend early base ?_
  intro middle happening _ _ grown law
  change (replay before).acked ≤ (replay (middle ++ [happening])).acked
  rw [replay_snoc]
  cases happening with
  | acknowledged epoch => exact Nat.le_trans grown (Nat.le_of_lt law.1)
  | _ => exact grown

/-- A latch stays in force until its epoch is acknowledged. -/
theorem latch_holds {commissioning : Bool}
    (lawful : Lawful (Law bound) (before ++ .latched epoch commissioning :: after))
    (unanswered : Happening.acknowledged epoch ∉ after) :
    (replay (before ++ .latched epoch commissioning :: after)).latched =
      some (epoch, commissioning) := by
  induction after using List.reverseRecOn with
  | nil => rw [replay_snoc]; rfl
  | append_singleton rest happening ih =>
      rw [← List.cons_append, ← List.append_assoc] at lawful ⊢
      have held := ih (lawful.of_prefix (List.prefix_append _ _))
        fun member => unanswered (List.mem_append_left _ member)
      have law := lawful _ happening [] rfl
      rw [replay_snoc]
      cases happening with
      | acknowledged other =>
          obtain ⟨_, _, kind, same⟩ := law
          rw [held] at same
          cases same
          exact absurd (List.mem_append_right _ (List.mem_singleton_self _)) unanswered
      | latched other kind =>
          rw [law.1] at held
          cases held
      | _ => exact held

theorem raised_within (lawful : Lawful (Law bound) log) :
    (replay log).acked ≤ (replay log).requested ∧
      (∀ shutdown, Happening.raised epoch shutdown ∈ log → epoch ≤ (replay log).requested) ∧
      (Accepted log epoch → epoch ≤ (replay log).requested) := by
  let P := fun grown : List Happening => (replay grown).acked ≤ (replay grown).requested ∧
    (∀ shutdown, Happening.raised epoch shutdown ∈ grown → epoch ≤ (replay grown).requested) ∧
    (Accepted grown epoch → epoch ≤ (replay grown).requested)
  have base : P [] := ⟨Nat.le_refl _, nofun, nofun⟩
  refine lawful.extend (List.nil_prefix) base ?_
  intro middle happening _ _ ⟨within, raised, accepted⟩ law
  have requested : (replay middle).requested ≤ (replay (middle ++ [happening])).requested := by
    rw [replay_snoc]
    cases happening with
    | raised other shutdown =>
        change (replay middle).requested ≤ other
        rw [law]
        exact Nat.le_succ _
    | _ => exact Nat.le_refl _
  refine ⟨?_, fun shutdown member => ?_, fun ⟨event, member⟩ => ?_⟩
  · cases happening with
    | acknowledged other =>
        rw [replay_snoc]
        exact law.2.1
    | _ =>
        refine Nat.le_trans (Nat.le_of_eq ?_) (Nat.le_trans within requested)
        rw [replay_snoc]
        rfl
  · rcases List.mem_append.mp member with old | new
    · exact Nat.le_trans (raised shutdown old) requested
    · rw [← List.mem_singleton.mp new, replay_snoc]
      exact Nat.le_refl _
  · rcases List.mem_append.mp member with old | new
    · exact Nat.le_trans (accepted ⟨event, old⟩) requested
    · rw [← List.mem_singleton.mp new] at law requested ⊢
      rw [law.1] at requested ⊢
      exact requested

/-- Once a shutdown has begun nothing is accepted under its epoch or a later one. -/
theorem shutdown_closes (lawful : Lawful (Law bound) log)
    (returned : Happening.raised epoch true ∈ log) :
    (replay log).shuttingDown = true ∧ ∀ under, Accepted log under → under < epoch := by
  let P := fun grown : List Happening => Happening.raised epoch true ∈ grown →
    (replay grown).shuttingDown = true ∧ ∀ under, Accepted grown under → under < epoch
  have base : P [] := nofun
  have closed : P log := by
    refine lawful.extend (List.nil_prefix) base ?_
    intro middle happening _ earlier closed law member
    rw [replay_snoc]
    rcases List.mem_append.mp member with old | new
    · obtain ⟨closing, below⟩ := closed old
      constructor
      · cases happening with
        | raised other shutdown => simp [Replay.next, closing]
        | _ => exact closing
      · rintro under ⟨event, accepted⟩
        rcases List.mem_append.mp accepted with before | now
        · exact below under ⟨event, before⟩
        · rw [← List.mem_singleton.mp now] at law
          rw [law.2.1] at closing
          cases closing
    · rw [← List.mem_singleton.mp new] at law ⊢
      refine ⟨by simp [Replay.next], ?_⟩
      rintro under ⟨event, accepted⟩
      rcases List.mem_append.mp accepted with before | now
      · have within := (raised_within earlier).2.2 ⟨event, before⟩
        rw [law]
        exact Nat.lt_succ_of_le within
      · cases List.mem_singleton.mp now
  exact closed returned

/-- Once a shutdown's epoch is acknowledged no entry is taken up or written. -/
theorem shutdown_idles (lawful : Lawful (Law bound) log)
    (returned : Happening.raised epoch true ∈ log) (acked : epoch ≤ (replay log).acked) :
    (replay log).touched = false := by
  let P := fun grown : List Happening => Happening.raised epoch true ∈ grown →
    epoch ≤ (replay grown).acked → (replay grown).touched = false
  have base : P [] := nofun
  have idle : P log := by
    refine lawful.extend (List.nil_prefix) base ?_
    intro middle happening _ earlier idle law member acked
    rw [replay_snoc] at acked ⊢
    rcases List.mem_append.mp member with old | new
    · cases happening with
      | acknowledged other => rfl
      | takenUp entry =>
          obtain ⟨_, current, accepted, _⟩ := law
          have below := (shutdown_closes earlier old).2 entry.epoch accepted
          change epoch ≤ (replay middle).acked at acked
          omega
      | _ => exact idle old acked
    · rw [← List.mem_singleton.mp new] at law acked
      have within := (@raised_within _ _ epoch earlier).1
      change epoch ≤ (replay middle).acked at acked
      rw [law] at acked
      omega
  exact idle returned acked

end Reading

end NanoKvm.Input
