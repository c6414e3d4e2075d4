import NanoKvm.Viewer.Clipboard

/-!
# One clipboard reader at a time

What holds of the fetch gate and of every fetch it admitted, over any interleaving of
the callers and the reader threads.
-/

set_option autoImplicit false

namespace NanoKvm.Viewer.Clipboard

open NanoKvm.Lib

/-! ## What a caller is answered -/

/-- Its thread keeps the gate shut. -/
def Fetch.occupies (fetch : Fetch) : Bool :=
  match fetch.reader with
  | .unspawned | .finished => false
  | _ => true

/-- `poll` gave this fetch's own answer first and nothing but the sentence after it; a
fetch that began with the sentence had a thread that died. -/
def Fetch.Answered (fetch : Fetch) : Prop :=
  ∃ first rest, fetch.polled = first :: rest ∧
    (fetch.sent = some first ∨ (fetch.reader = .panicked ∧ first = stoppedWithoutAnswer)) ∧
    ∀ later ∈ rest, later = stoppedWithoutAnswer

/-- What the handle of a fetch says of its thread. -/
def Fetch.Holds (fetch : Fetch) : Prop :=
  match fetch.handle with
  | .unborn => fetch.polled = [] ∧ fetch.inbox = none
  | .held false => fetch.polled = [] ∧ fetch.inbox = fetch.sent
  | .held true => fetch.inbox = none ∧ fetch.Answered
  | .joining =>
      (fetch.polled = [] ∨ fetch.Answered) ∧
        (fetch.reader = .answered ∨ fetch.reader.over = true)
  | .joined => (fetch.polled = [] ∨ fetch.Answered) ∧ fetch.reader.over = true
  | .abandoned => fetch.polled = []

structure Fetch.Fits (fetch : Fetch) : Prop where
  sent : fetch.sent.isSome = true ↔ fetch.reader = .answered ∨ fetch.reader = .finished
  born : fetch.handle = .unborn ↔ fetch.reader = .admitted ∨ fetch.reader = .unspawned
  holds : fetch.Holds

section Moves
variable {fetch next : Fetch}

theorem Fetch.Fits.unsent (fits : fetch.Fits) (early : fetch.reader ≠ .answered)
    (unfinished : fetch.reader ≠ .finished) : fetch.sent = none := by
  rw [← Option.not_isSome_iff_eq_none, fits.sent]
  exact not_or.mpr ⟨early, unfinished⟩

/-- A fetch that was answered has a thread on its last instructions. -/
theorem Fetch.Answered.settled (answered : fetch.Answered) (fits : fetch.Fits) :
    fetch.reader = .answered ∨ fetch.reader.over = true := by
  obtain ⟨first, rest, -, own | ⟨panicked, -⟩, -⟩ := answered
  · rcases fits.sent.mp (by rw [own]; rfl) with here | finished
    · exact .inl here
    · exact .inr (by rw [finished]; rfl)
  · exact .inr (by rw [panicked]; rfl)

/-- What it was answered stays true of a thread that only goes on. -/
theorem Fetch.Answered.carry (answered : fetch.Answered) (polled : next.polled = fetch.polled)
    (sent : next.sent = fetch.sent) (dead : fetch.reader = .panicked → next.reader = .panicked) :
    next.Answered := by
  obtain ⟨first, rest, shape, own, later⟩ := answered
  refine ⟨first, rest, polled.trans shape, ?_, later⟩
  rw [sent]
  exact own.imp_right fun ⟨panicked, stopped⟩ => ⟨dead panicked, stopped⟩

theorem Fetch.Fits.spawn (fits : fetch.Fits) {spawned : Bool}
    (moved : fetch.spawn spawned = some next) : next.Fits := by
  unfold Fetch.spawn at moved
  split at moved
  next admitted =>
    have unsent := fits.unsent (by rw [admitted]; nofun) (by rw [admitted]; nofun)
    have unborn := fits.born.mpr (.inl admitted)
    have holds := fits.holds
    simp only [Fetch.Holds, unborn] at holds
    split at moved <;> cases moved
    · exact ⟨by simp [unsent], by simp, holds.1, holds.2.trans unsent.symm⟩
    · refine ⟨by simp [unsent], by simp [unborn], ?_⟩
      simpa only [Fetch.Holds, unborn] using holds
  · cases moved

theorem Fetch.Fits.answer (fits : fetch.Fits) {fetched : Fetched}
    (moved : fetch.answer fetched = some next) : next.Fits := by
  unfold Fetch.answer at moved
  split at moved
  next reading =>
    cases moved
    have unsent := fits.unsent (by rw [reading]; nofun) (by rw [reading]; nofun)
    have holds := fits.holds
    have born : fetch.handle ≠ .unborn := by simp [fits.born, reading]
    refine ⟨by simp, by simp [born], ?_⟩
    unfold Fetch.Holds at holds ⊢
    cases handle : fetch.handle with
    | unborn => exact absurd handle born
    | held claimed =>
        rw [handle] at holds
        cases claimed with
        | false => exact ⟨holds.1, by simp⟩
        | true =>
            rcases holds.2.settled fits with answered | past
            · rw [reading] at answered
              cases answered
            · simp [reading, Reader.over] at past
    | joining | joined => simp [handle, reading, Reader.over] at holds
    | abandoned =>
        rw [handle] at holds
        exact holds
  · cases moved

/-- A thread that dies or finishes changes nothing its caller holds. -/
theorem Fetch.Fits.onward (fits : fetch.Fits) {reader : Reader} (past : reader.over = true)
    (from' : (fetch.reader = .reading ∧ reader = .panicked) ∨
      (fetch.reader = .answered ∧ reader = .finished)) :
    Fetch.Fits { fetch with reader } := by
  have alive : fetch.reader ≠ .panicked := by rcases from' with ⟨h, -⟩ | ⟨h, -⟩ <;> simp [h]
  have carry : fetch.Answered → Fetch.Answered { fetch with reader } :=
    fun answered => answered.carry rfl rfl fun dead => absurd dead alive
  have holds := fits.holds
  refine ⟨?_, ?_, ?_⟩
  · rw [fits.sent]
    rcases from' with ⟨h, rfl⟩ | ⟨h, rfl⟩ <;> simp [h]
  · rw [fits.born]
    rcases from' with ⟨h, rfl⟩ | ⟨h, rfl⟩ <;> simp [h]
  · unfold Fetch.Holds at holds ⊢
    dsimp only
    split at holds
    · exact holds
    · exact holds
    · exact ⟨holds.1, carry holds.2⟩
    · exact ⟨holds.1.imp_right carry, .inr past⟩
    · exact ⟨holds.1.imp_right carry, past⟩
    · exact holds

theorem Fetch.Fits.poll (fits : fetch.Fits) {disconnected : Bool}
    (moved : fetch.poll disconnected = some next) : next.Fits := by
  unfold Fetch.poll at moved
  split at moved
  case h_2 => cases moved
  next claimed held =>
    have born : ¬ (fetch.reader = .admitted ∨ fetch.reader = .unspawned) := by
      simp [← fits.born, held]
    have holds := fits.holds
    unfold Fetch.Holds at holds
    rw [held] at holds
    split at moved
    · cases moved
    next seen =>
      split at moved
      next fetched arrived =>
        cases moved
        refine ⟨fits.sent, by simpa using not_or.mp born, rfl, ?_⟩
        cases claimed with
        | true => simp [arrived] at holds
        | false =>
            exact ⟨fetched, [], by simp [holds.1], .inl (holds.2.symm.trans arrived), by simp⟩
      next empty =>
        split at moved
        next gone =>
          cases moved
          refine ⟨fits.sent, by simpa using not_or.mp born, empty, ?_⟩
          cases claimed with
          | true =>
              obtain ⟨-, first, rest, shape, own, later⟩ := holds
              refine ⟨first, rest ++ [stoppedWithoutAnswer], by simp [shape], own, ?_⟩
              simpa [or_imp, forall_and] using later
          | false =>
              have past : fetch.reader.over = true := by simpa [gone] using seen
              have silent : fetch.sent = none := holds.2.symm.trans empty
              have dead : fetch.reader = .panicked := by
                cases reader : fetch.reader with
                | panicked => rfl
                | finished =>
                    have sent := fits.sent.mpr (.inr reader)
                    rw [silent] at sent
                    cases sent
                | admitted | unspawned | reading | answered => simp [reader, Reader.over] at past
              exact ⟨stoppedWithoutAnswer, [], by simp [holds.1], .inr ⟨dead, rfl⟩, by simp⟩
        · cases moved
          exact fits

theorem Fetch.Fits.drop (fits : fetch.Fits) {finished : Bool}
    (moved : fetch.drop finished = some next) : next.Fits := by
  unfold Fetch.drop at moved
  split at moved
  case h_2 => cases moved
  next claimed held =>
    have born : ¬ (fetch.reader = .admitted ∨ fetch.reader = .unspawned) := by
      simp [← fits.born, held]
    have holds := fits.holds
    unfold Fetch.Holds at holds
    rw [held] at holds
    split at moved
    · cases moved
    next seen =>
      split at moved
      next joins =>
        cases moved
        refine ⟨fits.sent, by simpa using not_or.mp born, ?_⟩
        cases claimed with
        | true => exact ⟨.inr holds.2, holds.2.settled fits⟩
        | false =>
            have finished : finished = true := by simpa using joins
            exact ⟨.inl holds.1, .inr (by simpa [finished] using seen)⟩
      next waits =>
        cases moved
        refine ⟨fits.sent, by simpa using not_or.mp born, ?_⟩
        cases claimed with
        | true => simp at waits
        | false => exact holds.1

theorem Fetch.Fits.move (fits : fetch.Fits) {move : Move} (moved : fetch.move move = some next) :
    next.Fits := by
  cases move with
  | spawn spawned => exact fits.spawn moved
  | answer fetched => exact fits.answer moved
  | poll disconnected => exact fits.poll moved
  | drop finished => exact fits.drop moved
  | panic =>
      simp only [Fetch.move] at moved
      split at moved <;> cases moved
      next reading => exact fits.onward rfl (.inl ⟨reading, rfl⟩)
  | release =>
      simp only [Fetch.move] at moved
      split at moved <;> cases moved
      next answered => exact fits.onward rfl (.inr ⟨answered, rfl⟩)
  | join =>
      simp only [Fetch.move] at moved
      split at moved <;> cases moved
      next both =>
        have holds := fits.holds
        simp only [Fetch.Holds, both.1] at holds
        have born : ¬ (fetch.reader = .admitted ∨ fetch.reader = .unspawned) := by
          simp [← fits.born, both.1]
        exact ⟨fits.sent, by simpa using not_or.mp born, holds.1, both.2⟩

/-- The thread that keeps the gate shut is the one that opens it. -/
theorem move_occupies (gate : FetchGate) {move : Move} (moved : fetch.move move = some next) :
    (next.occupies = fetch.occupies ∧ (gate.move next move).outstanding = gate.outstanding) ∨
      (fetch.occupies = true ∧ next.occupies = false ∧
        (gate.move next move).outstanding = false) := by
  cases move with
  | spawn spawned =>
      simp only [Fetch.move, Fetch.spawn] at moved
      split at moved
      next admitted =>
        split at moved <;> cases moved
        next spawned =>
          exact .inl ⟨by simp [Fetch.occupies, admitted], by simp [FetchGate.move, spawned]⟩
        next spawned =>
          exact .inr ⟨by simp [Fetch.occupies, admitted], rfl, by simp [FetchGate.move, spawned]⟩
      · cases moved
  | answer fetched =>
      simp only [Fetch.move, Fetch.answer] at moved
      split at moved <;> cases moved
      next reading => exact .inl ⟨by simp [Fetch.occupies, reading], rfl⟩
  | panic =>
      simp only [Fetch.move] at moved
      split at moved <;> cases moved
      next reading => exact .inl ⟨by simp [Fetch.occupies, reading], rfl⟩
  | release =>
      simp only [Fetch.move] at moved
      split at moved <;> cases moved
      next answered => exact .inr ⟨by simp [Fetch.occupies, answered], rfl, rfl⟩
  | poll disconnected =>
      simp only [Fetch.move, Fetch.poll] at moved
      repeat' split at moved
      all_goals cases moved
      all_goals exact .inl ⟨rfl, rfl⟩
  | drop finished =>
      simp only [Fetch.move, Fetch.drop] at moved
      have same : next.occupies = fetch.occupies := by
        repeat' split at moved
        all_goals cases moved
        all_goals rfl
      refine .inl ⟨same, ?_⟩
      simp only [FetchGate.move]
      split <;> rfl
  | join =>
      simp only [Fetch.move] at moved
      split at moved <;> cases moved
      exact .inl ⟨rfl, rfl⟩

/-- A fetch is counted once, when it is given up. -/
theorem move_abandoned (gate : FetchGate) (fits : fetch.Fits) {move : Move}
    (moved : fetch.move move = some next) :
    (gate.move next move).abandoned + (decide (fetch.handle = .abandoned)).toNat =
      gate.abandoned + (decide (next.handle = .abandoned)).toNat := by
  cases move with
  | spawn spawned =>
      simp only [Fetch.move, Fetch.spawn] at moved
      split at moved
      next admitted =>
        have unborn := fits.born.mpr (.inl admitted)
        split at moved <;> cases moved
        next spawned => simp [FetchGate.move, unborn, spawned]
        next spawned => simp [FetchGate.move, unborn, spawned]
      · cases moved
  | answer fetched =>
      simp only [Fetch.move, Fetch.answer] at moved
      split at moved <;> cases moved
      simp [FetchGate.move]
  | panic =>
      simp only [Fetch.move] at moved
      split at moved <;> cases moved
      simp [FetchGate.move]
  | release =>
      simp only [Fetch.move] at moved
      split at moved <;> cases moved
      simp [FetchGate.move]
  | poll disconnected =>
      simp only [Fetch.move, Fetch.poll] at moved
      split at moved
      next claimed held =>
        repeat' split at moved
        all_goals cases moved
        all_goals simp [FetchGate.move, held]
      · cases moved
  | drop finished =>
      simp only [Fetch.move, Fetch.drop] at moved
      split at moved
      next claimed held =>
        repeat' split at moved
        all_goals cases moved
        all_goals simp [FetchGate.move, held]
      · cases moved
  | join =>
      simp only [Fetch.move] at moved
      split at moved <;> cases moved
      next both => simp [FetchGate.move, both.1]

theorem move_panicked {move : Move} (moved : fetch.move move = some next)
    (panicked : fetch.reader = .panicked) : next.reader = .panicked := by
  cases move with
  | spawn | answer | panic | release =>
      simp [Fetch.move, Fetch.spawn, Fetch.answer, panicked] at moved
  | poll | drop =>
      simp only [Fetch.move, Fetch.poll, Fetch.drop] at moved
      repeat' split at moved
      all_goals cases moved
      all_goals exact panicked
  | join =>
      simp only [Fetch.move] at moved
      split at moved <;> cases moved
      exact panicked

end Moves

/-! ## Whoever asks, in whatever order -/

theorem countP_replace {α : Type} {p : α → Bool} {l : List α} {i : Nat} {a b : α}
    (there : l[i]? = some a) :
    (l.set i b).countP p + (p a).toNat = l.countP p + (p b).toNat := by
  obtain ⟨inside, rfl⟩ := List.getElem?_eq_some_iff.mp there
  rw [List.countP_set inside]
  have counted : p l[i] = true → 0 < l.countP p :=
    fun holds => List.countP_pos_iff.mpr ⟨_, List.getElem_mem inside, holds⟩
  cases held : p l[i] <;> cases p b <;> simp_all

structure Desk.Sound (desk : Desk) : Prop where
  alone : desk.fetches.countP Fetch.occupies = desk.gate.outstanding.toNat
  counted : desk.gate.abandoned = desk.fetches.countP fun fetch => fetch.handle = .abandoned
  fits : ∀ fetch ∈ desk.fetches, fetch.Fits

theorem Desk.new_sound : Desk.new.Sound := ⟨rfl, rfl, by simp [Desk.new]⟩

theorem Fetch.admitted_fits : Fetch.admitted.Fits :=
  ⟨by simp [Fetch.admitted], by simp [Fetch.admitted], rfl, rfl⟩

theorem Desk.Sound.step {label : Label} {desk next : Desk} (sound : desk.Sound)
    (stepped : Desk.step label desk = some next) : next.Sound := by
  cases label with
  | start =>
      simp only [Desk.step, Desk.start] at stepped
      split at stepped
      next admitted started =>
        cases stepped
        split at started
        · cases started
        next free =>
          cases started
          have nobody : desk.gate.outstanding = false := by simpa using free
          have alone := sound.alone
          rw [nobody] at alone
          refine ⟨?_, ?_, ?_⟩
          · rw [List.countP_append, alone]
            rfl
          · rw [List.countP_append, ← sound.counted]
            rfl
          · intro fetch member
            rcases List.mem_append.mp member with old | new
            · exact sound.fits fetch old
            · obtain rfl := List.mem_singleton.mp new
              exact Fetch.admitted_fits
      · cases stepped
        exact sound
  | move i move =>
      obtain ⟨fetch, there, moves⟩ := Option.bind_eq_some_iff.mp stepped
      obtain ⟨after, moved, rfl⟩ := Option.map_eq_some_iff.mp moves
      have fits := sound.fits fetch (List.mem_of_getElem? there)
      refine ⟨?_, ?_, ?_⟩
      · have replaced := countP_replace (p := Fetch.occupies) (b := after) there
        dsimp only
        rcases move_occupies desk.gate moved with ⟨same, gate⟩ | ⟨was, left, gate⟩
        · rw [gate, ← sound.alone]
          rw [same] at replaced
          omega
        · rw [was, left, sound.alone] at replaced
          rw [gate]
          cases outstanding : desk.gate.outstanding <;> simp_all
      · have replaced := countP_replace (p := fun fetch => decide (fetch.handle = .abandoned))
          (b := after) there
        have counted := move_abandoned desk.gate fits moved
        have before := sound.counted
        dsimp only at replaced ⊢
        omega
      · intro other member
        rcases List.mem_or_eq_of_mem_set member with old | rfl
        · exact sound.fits other old
        · exact fits.move moved

theorem run_sound {labels : List Label} {desk : Desk}
    (ran : run Desk.step labels Desk.new = some desk) : desk.Sound :=
  run_preserves (fun _ _ _ sound stepped => sound.step stepped) Desk.new_sound ran

/-- A panic leaves the gate as it was, and nobody opens it again. -/
theorem Desk.Sound.shut {desk : Desk} (sound : desk.Sound) {fetch : Fetch}
    (member : fetch ∈ desk.fetches) (panicked : fetch.reader = .panicked) :
    desk.gate.outstanding = true := by
  have counted : 0 < desk.fetches.countP Fetch.occupies :=
    List.countP_pos_iff.mpr ⟨fetch, member, by simp [Fetch.occupies, panicked]⟩
  rw [sound.alone] at counted
  cases outstanding : desk.gate.outstanding
  · simp [outstanding] at counted
  · rfl

theorem Desk.Sound.after_panic {desk after : Desk} (sound : desk.Sound) {fetch : Fetch}
    (member : fetch ∈ desk.fetches) (panicked : fetch.reader = .panicked) {more : List Label}
    (ran : run Desk.step more desk = some after) :
    after.fetches.length = desk.fetches.length ∧ after.gate.outstanding = true := by
  have kept : after.Sound ∧ after.fetches.length = desk.fetches.length ∧
      ∃ fetch ∈ after.fetches, fetch.reader = .panicked := by
    refine run_preserves (P := fun now : Desk => now.Sound ∧
      now.fetches.length = desk.fetches.length ∧ ∃ fetch ∈ now.fetches, fetch.reader = .panicked)
      ?_ ⟨sound, rfl, fetch, member, panicked⟩ ran
    rintro label now next ⟨sound, same, fetch, member, panicked⟩ stepped
    refine ⟨sound.step stepped, ?_⟩
    cases label with
    | start =>
        simp only [Desk.step, Desk.start, sound.shut member panicked, if_true] at stepped
        cases stepped
        exact ⟨same, fetch, member, panicked⟩
    | move i move =>
        obtain ⟨moving, there, moves⟩ := Option.bind_eq_some_iff.mp stepped
        obtain ⟨moved, came, rfl⟩ := Option.map_eq_some_iff.mp moves
        refine ⟨by simpa using same, ?_⟩
        obtain ⟨j, inside, rfl⟩ := List.getElem_of_mem member
        by_cases here : i = j
        · subst here
          obtain ⟨_, rfl⟩ := List.getElem?_eq_some_iff.mp there
          exact ⟨moved, List.mem_set inside moved, move_panicked came panicked⟩
        · refine ⟨now.fetches[j], ?_, panicked⟩
          have still : (now.fetches.set i moved)[j]? = some now.fetches[j] := by
            rw [List.getElem?_set_ne here, List.getElem?_eq_getElem inside]
          exact List.mem_of_getElem? still
  obtain ⟨sound, same, fetch, member, panicked⟩ := kept
  exact ⟨same, sound.shut member panicked⟩

/-- Whoever asks and however threads and callers interleave: the gate is shut exactly while
one admitted thread has not let go of it, the tally is of the fetches given up, no caller
joins a thread that still waits for the peer, and a thread that died keeps every later
fetch out. -/
theorem one_reader_at_a_time {labels : List Label} {desk : Desk}
    (ran : run Desk.step labels Desk.new = some desk) :
    desk.fetches.countP Fetch.occupies = desk.gate.outstanding.toNat ∧
      (desk.gate.abandoned = desk.fetches.countP fun fetch => fetch.handle = .abandoned) ∧
      (∀ fetch ∈ desk.fetches, fetch.handle = .joining →
        fetch.reader = .answered ∨ fetch.reader.over = true) ∧
      ∀ fetch ∈ desk.fetches, fetch.reader = .panicked →
        ∀ more after, run Desk.step more desk = some after →
          after.fetches.length = desk.fetches.length ∧ after.gate.outstanding = true := by
  have sound := run_sound ran
  refine ⟨sound.alone, sound.counted, ?_, ?_⟩
  · intro fetch member joining
    have holds := (sound.fits fetch member).holds
    simp only [Fetch.Holds, joining] at holds
    exact holds.2
  · intro fetch member panicked more after again
    exact sound.after_panic member panicked again

/-- The steps of a fetch whose thread dies under it, and of a second asked for after that. -/
def panickedFetch : List Label :=
  [.start, .move 0 (.spawn true), .start, .move 0 (.poll false), .move 0 .panic,
    .move 0 (.poll true), .move 0 (.drop true), .start]

theorem one_reader_at_a_time_panicked :
    ((run Desk.step panickedFetch Desk.new).getD Desk.new).fetches.countP Fetch.occupies = 1 := by
  have ran : run Desk.step panickedFetch Desk.new =
      some ((run Desk.step panickedFetch Desk.new).getD Desk.new) :=
    run_getD rfl
  rw [(one_reader_at_a_time ran).1]
  rfl

/-- In every such run the first thing a fetch is answered is what its own thread sent, once;
the sentence that it stopped comes first only for a thread that died. -/
theorem clipboard_answers_are_its_own {labels : List Label} {desk : Desk}
    (ran : run Desk.step labels Desk.new = some desk) :
    ∀ fetch ∈ desk.fetches, fetch.polled ≠ [] → ∃ first rest, fetch.polled = first :: rest ∧
      (fetch.sent = some first ∨ (fetch.reader = .panicked ∧ first = stoppedWithoutAnswer)) ∧
      ∀ later ∈ rest, later = stoppedWithoutAnswer := by
  intro fetch member polled
  have holds := ((run_sound ran).fits fetch member).holds
  unfold Fetch.Holds at holds
  split at holds
  · exact absurd holds.1 polled
  · exact absurd holds.1 polled
  · exact holds.2
  · exact holds.1.resolve_left polled
  · exact holds.1.resolve_left polled
  · exact absurd holds polled

/-- A fetch given up and its late answer, and the fetch that follows it. -/
def lateAnswer : List Label :=
  [.start, .move 0 (.spawn true), .move 0 (.drop false), .move 0 (.answer (.ok "old")),
    .move 0 .release, .start, .move 1 (.spawn true), .move 1 (.answer (.ok "new")),
    .move 1 (.poll false)]

def lateDesk : Desk := (run Desk.step lateAnswer Desk.new).getD Desk.new

theorem clipboard_answers_are_its_own_late :
    (lateDesk.fetches[1]?.bind fun fetch => fetch.polled.head?) = some (.ok "new") := by
  have ran : run Desk.step lateAnswer Desk.new = some lateDesk := run_getD rfl
  have sent : (lateDesk.fetches[1]?.bind fun fetch => fetch.sent) = some (.ok "new") := by
    decide
  have asked : (lateDesk.fetches[1]?.any fun fetch => !fetch.polled.isEmpty) = true := by
    rfl
  have alive : (lateDesk.fetches[1]?.any fun fetch => fetch.reader != .panicked) = true := by
    rfl
  cases place : lateDesk.fetches[1]? with
  | none => simp [place] at sent
  | some fetch =>
      rw [place] at sent asked alive
      have polled : fetch.polled ≠ [] := by simpa using asked
      obtain ⟨first, rest, shape, own | dead, -⟩ :=
        clipboard_answers_are_its_own ran fetch (List.mem_of_getElem? place) polled
      · rw [Option.bind_some, own] at sent
        rw [Option.bind_some, shape, List.head?_cons, sent]
      · simp [dead.1] at alive

end NanoKvm.Viewer.Clipboard
