import NanoKvm.Cli.Shot

/-!
# Which frame is picked

After every turn the counters are counts over the frames delivered so far, and
the loop has ended exactly when the last of them ends it.  The frames past the
skipped ones are judged one by one; what the source refused is no frame.
-/

set_option autoImplicit false

namespace NanoKvm.Cli

open NanoKvm.Proto NanoKvm.Capture

/-! ## What a frame must be -/

/-- The end marker, then nothing but zeros. -/
def Complete (jpeg : List U8) : Prop :=
  ∃ body zeros, jpeg = body ++ [fill, Marker.eoi] ++ List.replicate zeros 0#8

theorem endsInEoi_complete {jpeg : List U8} : endsInEoi jpeg = true ↔ Complete jpeg := by
  unfold endsInEoi
  rw [List.isSuffixOf_iff_suffix]
  constructor
  · rintro ⟨body, cut⟩
    refine ⟨body, (jpeg.rtakeWhile (· = 0#8)).length, ?_⟩
    have zeros : jpeg.rtakeWhile (· = 0#8) =
        List.replicate (jpeg.rtakeWhile (· = 0#8)).length 0#8 :=
      List.eq_replicate_iff.mpr
        ⟨rfl, fun byte member => by simpa using List.mem_rtakeWhile_imp member⟩
    rw [cut, ← zeros]
    exact List.rdropWhile_append_rtakeWhile.symm
  · rintro ⟨body, zeros, rfl⟩
    induction zeros with
    | zero =>
        have split : body ++ [fill, Marker.eoi] = (body ++ [fill]) ++ [Marker.eoi] := by simp
        rw [List.replicate_zero, List.append_nil, split,
          List.rdropWhile_concat_neg _ _ _ (by decide), ← split]
        exact List.suffix_append body _
    | succ zeros ih =>
        rw [List.replicate_succ', ← List.append_assoc,
          List.rdropWhile_concat_pos _ _ _ (by decide)]
        exact ih

/-- A whole image with a size the client takes. -/
def Readable (jpeg : List U8) (dims : Dims) : Prop :=
  Complete jpeg ∧ dimensions jpeg = .ok dims ∧ dimensionsInRange dims.1 dims.2 = true

/-- Any size will do where none is wanted. -/
def Acceptable (wanted : Option Dims) (jpeg : List U8) (dims : Dims) : Prop :=
  Readable jpeg dims ∧ ∀ want, wanted = some want → dims = want

def Mismatched (wanted : Option Dims) (jpeg : List U8) (want saw : Dims) : Prop :=
  Readable jpeg saw ∧ wanted = some want ∧ saw ≠ want

theorem judge_readable {wanted : Option Dims} {jpeg : List U8} {verdict : Verdict}
    (usable : verdict ≠ .unusable) :
    judge wanted jpeg = verdict ↔ ∃ dims, Readable jpeg dims ∧ sized wanted dims = verdict := by
  unfold judge Readable
  rw [← endsInEoi_complete]
  cases endsInEoi jpeg with
  | false => simpa using usable.symm
  | true =>
      cases dimensions jpeg with
      | error e => simpa using usable.symm
      | ok dims =>
          cases range : dimensionsInRange dims.1 dims.2 with
          | false =>
              constructor
              · intro same
                exact absurd (by simpa [range] using same.symm) usable
              · rintro ⟨other, ⟨_, same, fits⟩, _⟩
                cases same
                rw [range] at fits
                cases fits
          | true =>
              constructor
              · intro same
                exact ⟨dims, ⟨rfl, rfl, range⟩, by simpa [range] using same⟩
              · rintro ⟨other, ⟨_, same, _⟩, rest⟩
                cases same
                simpa [range] using rest

theorem judge_good {wanted : Option Dims} {jpeg : List U8} {dims : Dims} :
    judge wanted jpeg = .good dims ↔ Acceptable wanted jpeg dims := by
  rw [judge_readable (show Verdict.good dims ≠ .unusable from nofun)]
  unfold Acceptable sized
  cases wanted with
  | none => simp
  | some want => by_cases same : dims = want <;> grind

theorem judge_mismatch {wanted : Option Dims} {jpeg : List U8} {want saw : Dims} :
    judge wanted jpeg = .mismatch want saw ↔ Mismatched wanted jpeg want saw := by
  rw [judge_readable (show Verdict.mismatch want saw ≠ .unusable from nofun)]
  unfold Mismatched sized
  cases wanted with
  | none => simp
  | some size => grind

/-! ## What was seen -/

def Turn.delivered (turn : Turn) : Option CompressedFrame :=
  if turn.interrupted then none
  else
    match turn.next with
    | .ok frame => some frame
    | .error _ => none

def refuses : CaptureError → Bool
  | .badFrame _ => true
  | _ => false

def Turn.refused (turn : Turn) : Bool :=
  if turn.interrupted then false
  else
    match turn.next with
    | .ok _ => false
    | .error e => refuses e

def delivered (turns : List Turn) : List CompressedFrame := turns.filterMap Turn.delivered

def refusals (turns : List Turn) : Nat := turns.countP Turn.refused

def Verdict.mismatched : Verdict → Bool
  | .mismatch _ _ => true
  | _ => false

/-- How many of the frames past the skipped ones have the wrong size. -/
def mismatches (policy : ShotPolicy) (wanted : Option Dims) (frames : List CompressedFrame) : Nat :=
  (frames.drop policy.skip.toNat).countP fun frame => (judge wanted frame.jpeg).mismatched

def unusables (policy : ShotPolicy) (wanted : Option Dims) (frames : List CompressedFrame) : Nat :=
  (frames.drop policy.skip.toNat).countP fun frame => judge wanted frame.jpeg = .unusable

/-- None of the frames past the skipped ones would have done. -/
def NoneGood (policy : ShotPolicy) (wanted : Option Dims) (frames : List CompressedFrame) : Prop :=
  ∀ frame ∈ frames.drop policy.skip.toNat, ∀ dims, judge wanted frame.jpeg ≠ .good dims

section Seen
variable {policy : ShotPolicy} {wanted : Option Dims} {frames : List CompressedFrame}
  {frame : CompressedFrame}

theorem drop_within (within : frames.length < policy.skip.toNat) :
    (frames ++ [frame]).drop policy.skip.toNat = frames.drop policy.skip.toNat := by
  have pushed : (frames ++ [frame]).length ≤ policy.skip.toNat := by
    rw [List.length_append, List.length_singleton]
    omega
  rw [List.drop_eq_nil_of_le pushed, List.drop_eq_nil_of_le (by omega)]

theorem drop_past (past : policy.skip.toNat ≤ frames.length) :
    (frames ++ [frame]).drop policy.skip.toNat = frames.drop policy.skip.toNat ++ [frame] :=
  List.drop_append_of_le_length past

theorem mismatches_within (within : frames.length < policy.skip.toNat) :
    mismatches policy wanted (frames ++ [frame]) = mismatches policy wanted frames := by
  unfold mismatches
  rw [drop_within within]

theorem unusables_within (within : frames.length < policy.skip.toNat) :
    unusables policy wanted (frames ++ [frame]) = unusables policy wanted frames := by
  unfold unusables
  rw [drop_within within]

theorem unusables_short (within : frames.length < policy.skip.toNat) :
    unusables policy wanted frames = 0 := by
  unfold unusables
  rw [List.drop_eq_nil_of_le (by omega)]
  rfl

theorem mismatches_past (past : policy.skip.toNat ≤ frames.length) :
    mismatches policy wanted (frames ++ [frame]) =
      mismatches policy wanted frames + (judge wanted frame.jpeg).mismatched.toNat := by
  unfold mismatches
  rw [drop_past past, List.countP_append, List.countP_singleton]
  cases (judge wanted frame.jpeg).mismatched <;> rfl

theorem unusables_past (past : policy.skip.toNat ≤ frames.length) :
    unusables policy wanted (frames ++ [frame]) =
      unusables policy wanted frames + (decide (judge wanted frame.jpeg = .unusable)).toNat := by
  unfold unusables
  rw [drop_past past, List.countP_append, List.countP_singleton]
  cases decide (judge wanted frame.jpeg = .unusable) <;> rfl

theorem noneGood_within (within : frames.length < policy.skip.toNat)
    (none : NoneGood policy wanted frames) : NoneGood policy wanted (frames ++ [frame]) := by
  unfold NoneGood at *
  rw [drop_within within]
  exact none

theorem noneGood_past (past : policy.skip.toNat ≤ frames.length)
    (none : NoneGood policy wanted frames) (bad : ∀ dims, judge wanted frame.jpeg ≠ .good dims) :
    NoneGood policy wanted (frames ++ [frame]) := by
  unfold NoneGood at *
  rw [drop_past past]
  intro other member
  rcases List.mem_append.mp member with earlier | last
  · exact none other earlier
  · rw [List.mem_singleton.mp last]
    exact bad

/-- Where no frame would have done, each was skipped, unusable or of the wrong size. -/
theorem noneGood_length (none : NoneGood policy wanted frames) :
    frames.length =
      min frames.length policy.skip.toNat + unusables policy wanted frames +
        mismatches policy wanted frames := by
  have looked : (frames.drop policy.skip.toNat).length =
      unusables policy wanted frames + mismatches policy wanted frames := by
    unfold unusables mismatches
    rw [List.length_eq_countP_add_countP
      (fun frame : CompressedFrame => decide (judge wanted frame.jpeg = .unusable))]
    congr 1
    apply List.countP_congr
    intro frame member
    have bad := none frame member
    cases judged : judge wanted frame.jpeg with
    | unusable => simp [Verdict.mismatched]
    | mismatch want saw => simp [Verdict.mismatched]
    | good dims => exact absurd judged (bad dims)
  rw [List.length_drop] at looked
  omega

end Seen

/-! ## The counters are counts -/

theorem saturatingSucc_min (n : Nat) :
    saturatingSucc (min n 0xFFFFFFFF) = min (n + 1) 0xFFFFFFFF := by
  unfold saturatingSucc
  omega

theorem saturatingSucc_below {n : Nat} {bound : U32} (below : n < bound.toNat) :
    saturatingSucc n = n + 1 := by
  have limit : bound.toNat < 2 ^ 32 := bound.isLt
  unfold saturatingSucc
  omega

section Counts
variable (policy : ShotPolicy) (wanted : Option Dims)

structure Tally (frames : List CompressedFrame) (refused : Nat) (p : Picking) : Prop where
  skipped : p.skipped =
    min (min frames.length policy.skip.toNat + unusables policy wanted frames) 0xFFFFFFFF
  discarded : p.discarded = min refused 0xFFFFFFFF
  mismatched : p.mismatched = mismatches policy wanted frames
  consecutive : p.restarted = false → p.consecutive = p.mismatched
  restarts : p.calls.count .restart = p.restarted.toNat
  earned : p.restarted = true → policy.restartAfter.toNat ≤ p.mismatched

/-- Nothing seen so far ends the loop. -/
def Quiet (frames : List CompressedFrame) : Prop :=
  NoneGood policy wanted frames ∧ mismatches policy wanted frames < policy.giveUpAfter.toNat

/-- What has been seen when a result, or none, is there. -/
def Ends (frames : List CompressedFrame) (p : Picking) : Option (Except ShotError Shot) → Prop
  | some (.ok shot) => ∃ before frame dims, frames = before ++ [frame] ∧
      policy.skip.toNat ≤ before.length ∧ Quiet policy wanted before ∧
      judge wanted frame.jpeg = .good dims ∧ shot = kept p frame.jpeg dims
  | some (.error (.wrongSize want saw mismatched restarted)) => ∃ before frame,
      frames = before ++ [frame] ∧ policy.skip.toNat ≤ before.length ∧
      Quiet policy wanted before ∧ judge wanted frame.jpeg = .mismatch want saw ∧
      mismatches policy wanted frames = policy.giveUpAfter.toNat ∧
      mismatched = p.mismatched ∧ restarted = p.restarted
  | _ => Quiet policy wanted frames

def Holds (frames : List CompressedFrame) (refused : Nat) (judged : Judged) : Prop :=
  Tally policy wanted frames refused judged.1 ∧ Ends policy wanted frames judged.1 judged.2

end Counts

section Steps
variable {policy : ShotPolicy} {wanted : Option Dims} {frames : List CompressedFrame}
  {refused : Nat} {p : Picking}

theorem Tally.skipping (tally : Tally policy wanted frames refused p) :
    p.skipped < policy.skip.toNat ↔ frames.length < policy.skip.toNat := by
  have small : policy.skip.toNat < 2 ^ 32 := policy.skip.isLt
  rw [tally.skipped]
  constructor
  · omega
  · intro within
    rw [unusables_short within]
    omega

theorem Tally.asking (tally : Tally policy wanted frames refused p) :
    Tally policy wanted frames refused { p with calls := p.calls ++ [.nextFrame] } :=
  { tally with
    restarts := by
      rw [List.count_append, tally.restarts]
      rfl }

theorem refused_holds (tally : Tally policy wanted frames refused p)
    (quiet : Quiet policy wanted frames) (error : CaptureError) :
    Holds policy wanted frames (refused + (refuses error).toNat) (Cli.refused p error) := by
  cases error with
  | badFrame text =>
      refine ⟨{ tally with discarded := ?_ }, quiet⟩
      change saturatingSucc p.discarded = min (refused + 1) 0xFFFFFFFF
      rw [tally.discarded, saturatingSucc_min]
  | disconnected | timeout | io | config => exact ⟨tally, quiet⟩

theorem restartSource_holds (tally : Tally policy wanted frames refused p)
    (quiet : Quiet policy wanted frames) (first : p.restarted = false)
    (earned : policy.restartAfter.toNat ≤ p.mismatched) (answer : Except CaptureError Unit) :
    Holds policy wanted frames refused (restartSource p answer) := by
  have counted : Tally policy wanted frames refused
      { p with restarted := true, consecutive := 0, calls := p.calls ++ [.restart] } :=
    { tally with
      consecutive := nofun
      restarts := by
        rw [List.count_append, tally.restarts, first]
        rfl
      earned := fun _ => earned }
  unfold restartSource
  split
  · exact ⟨counted, quiet⟩
  · exact ⟨counted, quiet⟩

/-- A frame past the skipped ones, on the counters before and after it. -/
theorem Tally.past {frame : CompressedFrame} {p' : Picking}
    (tally : Tally policy wanted frames refused p)
    (past : policy.skip.toNat ≤ frames.length)
    (skipped : p'.skipped =
      if judge wanted frame.jpeg = .unusable then saturatingSucc p.skipped else p.skipped)
    (mismatched : p'.mismatched = p.mismatched + (judge wanted frame.jpeg).mismatched.toNat)
    (consecutive : p.restarted = false →
      p'.consecutive = p.consecutive + (judge wanted frame.jpeg).mismatched.toNat)
    (rest : p'.discarded = p.discarded ∧ p'.restarted = p.restarted ∧ p'.calls = p.calls) :
    Tally policy wanted (frames ++ [frame]) refused p' where
  skipped := by
    have full : min (frames ++ [frame]).length policy.skip.toNat =
        min frames.length policy.skip.toNat := by
      rw [Nat.min_eq_right past, List.length_append]
      exact Nat.min_eq_right (past.trans (Nat.le_add_right _ _))
    rw [skipped, unusables_past past, tally.skipped, full]
    by_cases unusable : judge wanted frame.jpeg = .unusable
    · rw [if_pos unusable, decide_eq_true unusable, saturatingSucc_min]
      rfl
    · rw [if_neg unusable, decide_eq_false unusable]
      rfl
  discarded := rest.1.trans tally.discarded
  mismatched := by rw [mismatched, mismatches_past past, tally.mismatched]
  consecutive := by
    intro first
    rw [rest.2.1] at first
    rw [consecutive first, mismatched, tally.consecutive first]
  restarts := by rw [rest.2.1, rest.2.2, tally.restarts]
  earned := by
    intro restarted
    rw [rest.2.1] at restarted
    exact (tally.earned restarted).trans (mismatched ▸ Nat.le_add_right _ _)

theorem wrongSized_holds {frame : CompressedFrame} {want saw : Dims}
    (tally : Tally policy wanted frames refused p) (quiet : Quiet policy wanted frames)
    (past : policy.skip.toNat ≤ frames.length)
    (judged : judge wanted frame.jpeg = .mismatch want saw) (answer : Except CaptureError Unit) :
    Holds policy wanted (frames ++ [frame]) refused (wrongSized policy p want saw answer) := by
  have before : p.mismatched < policy.giveUpAfter.toNat := tally.mismatched ▸ quiet.2
  have flag : (judge wanted frame.jpeg).mismatched.toNat = 1 := by
    rw [judged]
    rfl
  have waiting (first : p.restarted = false) :
      saturatingSucc p.consecutive = saturatingSucc p.mismatched := by
    rw [tally.consecutive first]
  have counted : Tally policy wanted (frames ++ [frame]) refused { p with
      mismatched := saturatingSucc p.mismatched
      consecutive := saturatingSucc p.consecutive } := by
    refine tally.past past (by rw [judged]; rfl) ?_ ?_ ⟨rfl, rfl, rfl⟩
    · rw [flag]
      exact saturatingSucc_below before
    · intro first
      rw [flag, tally.consecutive first]
      exact saturatingSucc_below before
  have none := noneGood_past past quiet.1 fun dims good => by
    rw [judged] at good
    cases good
  unfold wrongSized
  dsimp only
  split
  · next enough =>
      refine ⟨counted, frames, frame, rfl, past, quiet, judged, ?_, rfl, rfl⟩
      rw [← counted.mismatched]
      exact le_antisymm ((saturatingSucc_below before).trans_le before) enough
  · next short =>
      have quiet' : Quiet policy wanted (frames ++ [frame]) :=
        ⟨none, counted.mismatched ▸ Nat.lt_of_not_le short⟩
      split
      · next spent =>
          rw [Bool.and_eq_true, Bool.not_eq_true', decide_eq_true_eq] at spent
          exact restartSource_holds counted quiet' spent.1
            (spent.2.trans (waiting spent.1).le) answer
      · exact ⟨counted, quiet'⟩

theorem judgeFrame_holds (tally : Tally policy wanted frames refused p)
    (quiet : Quiet policy wanted frames) (frame : CompressedFrame)
    (answer : Except CaptureError Unit) :
    Holds policy wanted (frames ++ [frame]) refused (judgeFrame policy wanted p frame answer) := by
  unfold judgeFrame
  split
  · next low =>
      have within := tally.skipping.mp low
      have kept : mismatches policy wanted (frames ++ [frame]) = mismatches policy wanted frames :=
        mismatches_within within
      refine ⟨{ tally with skipped := ?_, mismatched := tally.mismatched.trans kept.symm },
        noneGood_within within quiet.1, kept ▸ quiet.2⟩
      change p.skipped + 1 = _
      have small : policy.skip.toNat < 2 ^ 32 := policy.skip.isLt
      rw [tally.skipped, unusables_within within, unusables_short within, List.length_append,
        List.length_singleton]
      omega
  · next high =>
      have past := Nat.le_of_not_lt fun within => high (tally.skipping.mpr within)
      cases judged : judge wanted frame.jpeg with
      | unusable =>
          have same : mismatches policy wanted (frames ++ [frame]) =
              mismatches policy wanted frames := by
            rw [mismatches_past past, judged]
            rfl
          refine ⟨tally.past past (by rw [if_pos judged]) (by rw [judged]; rfl)
              (fun _ => by rw [judged]; rfl) ⟨rfl, rfl, rfl⟩,
            noneGood_past past quiet.1 ?_, same ▸ quiet.2⟩
          intro dims good
          rw [judged] at good
          cases good
      | mismatch want saw => exact wrongSized_holds tally quiet past judged answer
      | good dims =>
          exact ⟨tally.past past (by rw [judged]; rfl) (by rw [judged]; rfl)
              (fun _ => by rw [judged]; rfl) ⟨rfl, rfl, rfl⟩,
            frames, frame, dims, rfl, past, quiet, judged, rfl⟩

theorem ask_holds (tally : Tally policy wanted frames refused p)
    (quiet : Quiet policy wanted frames) {turn : Turn} (asked : turn.interrupted = false) :
    Holds policy wanted (frames ++ turn.delivered.toList) (refused + turn.refused.toNat)
      (ask policy wanted p turn) := by
  unfold ask Turn.delivered Turn.refused
  rw [asked]
  cases turn.next with
  | error e =>
      dsimp only
      rw [if_neg Bool.false_ne_true, if_neg Bool.false_ne_true, Option.toList_none,
        List.append_nil]
      exact refused_holds tally.asking quiet e
  | ok frame => exact judgeFrame_holds tally.asking quiet frame turn.restart

/-- What a turn leaves, whether it ends the loop or not. -/
theorem pickTurn_holds (tally : Tally policy wanted frames refused p)
    (quiet : Quiet policy wanted frames) (started deadline : Nat) (turn : Turn) :
    Holds policy wanted (frames ++ turn.delivered.toList) (refused + turn.refused.toNat)
      (pickTurn policy wanted started deadline p turn) := by
  cases asked : turn.interrupted with
  | true =>
      unfold pickTurn Turn.delivered Turn.refused
      rw [asked, if_pos rfl, if_pos rfl, if_pos rfl, Option.toList_none, List.append_nil]
      exact ⟨tally, quiet⟩
  | false =>
      have answered := ask_holds tally quiet asked
      unfold pickTurn
      rw [asked, if_neg Bool.false_ne_true]
      generalize ask policy wanted p turn = judged at answered ⊢
      obtain ⟨after, _ | result⟩ := judged
      · dsimp only
        split
        · exact ⟨answered.1, answered.2⟩
        · exact answered
      · exact answered

theorem pickLoop_holds (started deadline : Nat) (turns : List Turn)
    (tally : Tally policy wanted frames refused p) (quiet : Quiet policy wanted frames) :
    ∃ used judged rest, pickLoop policy wanted started deadline p turns = (judged, rest) ∧
      turns = used ++ rest ∧ (judged.2 = none → rest = []) ∧
      Holds policy wanted (frames ++ delivered used) (refused + refusals used) judged := by
  induction turns generalizing p frames refused with
  | nil =>
      refine ⟨[], (p, none), [], rfl, rfl, fun _ => rfl, ?_⟩
      rw [delivered, List.filterMap_nil, List.append_nil]
      exact ⟨tally, quiet⟩
  | cons turn turns ih =>
      have turned := pickTurn_holds tally quiet started deadline turn
      have seen (used : List Turn) : frames ++ delivered (turn :: used) =
          frames ++ turn.delivered.toList ++ delivered used := by
        unfold delivered
        cases more : turn.delivered <;> simp [more]
      have denied (used : List Turn) : refused + refusals (turn :: used) =
          refused + turn.refused.toNat + refusals used := by
        unfold refusals
        rw [List.countP_cons]
        cases turn.refused with
        | false => simp
        | true =>
            rw [if_pos rfl, Bool.toNat_true]
            omega
      unfold pickLoop
      generalize pickTurn policy wanted started deadline p turn = judged at turned ⊢
      obtain ⟨after, _ | result⟩ := judged
      · obtain ⟨used, judged, rest, ran, split, waiting, holds⟩ := ih turned.1 turned.2
        refine ⟨turn :: used, judged, rest, ran, congrArg (turn :: ·) split, waiting, ?_⟩
        rw [seen, denied]
        exact holds
      · refine ⟨[turn], (after, some result), turns, rfl, rfl, nofun, ?_⟩
        rw [seen, denied, delivered, List.filterMap_nil, List.append_nil]
        exact turned

end Steps

/-! ## The laws of a pick -/

/-- What a result, or none yet, says of the frames delivered so far. -/
structure PickLaws (policy : ShotPolicy) (wanted : Option Dims) (used : List Turn) (p : Picking)
    (result : Option (Except ShotError Shot)) : Prop where
  /-- The first of the frames past the skipped ones that would do. -/
  shot : ∀ shot, result = some (.ok shot) → ∃ before frame,
    delivered used = before ++ [frame] ∧ policy.skip.toNat ≤ before.length ∧
    shot.jpeg = frame.jpeg ∧ Acceptable wanted frame.jpeg (shot.width, shot.height) ∧
    ∀ earlier ∈ before.drop policy.skip.toNat, ∀ dims, ¬ Acceptable wanted earlier.jpeg dims
  /-- Every frame before it is counted once, until the counter is full. -/
  counted : ∀ shot, result = some (.ok shot) →
    shot.skipped = min ((delivered used).length - 1 - shot.mismatched) 0xFFFFFFFF ∧
    (shot.skipped < 0xFFFFFFFF → shot.skipped + shot.mismatched + 1 = (delivered used).length)
  /-- What the source refused is counted apart, and skips nothing. -/
  refused : p.discarded = min (refusals used) 0xFFFFFFFF ∧
    p.skipped = min (min (delivered used).length policy.skip.toNat +
      unusables policy wanted (delivered used)) 0xFFFFFFFF ∧
    p.mismatched = mismatches policy wanted (delivered used)
  reported : ∀ shot, result = some (.ok shot) → shot.skipped = p.skipped ∧
    shot.discarded = p.discarded ∧ shot.mismatched = p.mismatched ∧ shot.restarted = p.restarted
  /-- At any moment: a run of the loop cut short is a run. -/
  restarts : p.calls.count .restart ≤ 1 ∧
    (.restart ∈ p.calls →
      policy.restartAfter.toNat ≤ mismatches policy wanted (delivered used)) ∧
    (policy.anySize = true → .restart ∉ p.calls)
  wrongSize : (∃ want saw mismatched restarted,
      result = some (.error (.wrongSize want saw mismatched restarted))) ↔
    mismatches policy wanted (delivered used) = policy.giveUpAfter.toNat
  /-- The error is for the frame that was one too many, and names both sizes. -/
  gaveUp : ∀ want saw mismatched restarted,
    result = some (.error (.wrongSize want saw mismatched restarted)) →
      mismatched = policy.giveUpAfter.toNat ∧
      ∃ before frame, delivered used = before ++ [frame] ∧ policy.skip.toNat ≤ before.length ∧
        Mismatched wanted frame.jpeg want saw
  /-- No error, and no wait, in the place of a frame that would do. -/
  missed : (∀ shot, result ≠ some (.ok shot)) →
    ∀ frame ∈ (delivered used).drop policy.skip.toNat, ∀ dims,
      ¬ Acceptable wanted frame.jpeg dims

section Laws
variable {policy : ShotPolicy} {wanted : Option Dims} {frames : List CompressedFrame}
  {refused : Nat} {p : Picking} {result : Option (Except ShotError Shot)}

theorem NoneGood.unacceptable (none : NoneGood policy wanted frames) :
    ∀ frame ∈ frames.drop policy.skip.toNat, ∀ dims, ¬ Acceptable wanted frame.jpeg dims :=
  fun frame member dims good => none frame member dims (judge_good.mpr good)

theorem Ends.noneGood (ends : Ends policy wanted frames p result)
    (kept : ∀ shot, result ≠ some (.ok shot)) : NoneGood policy wanted frames := by
  cases result with
  | none => exact ends.1
  | some result =>
      cases result with
      | ok shot => exact absurd rfl (kept shot)
      | error error =>
          cases error with
          | wrongSize want saw mismatched restarted =>
              obtain ⟨before, frame, rfl, past, quiet, judged, -⟩ := ends
              refine noneGood_past past quiet.1 fun dims good => ?_
              rw [judged] at good
              cases good
          | timeout | disconnected | config | interrupted => exact ends.1

/-- Nothing but giving up ends with so many frames of the wrong size. -/
theorem Ends.patient (ends : Ends policy wanted frames p result)
    (other : ∀ want saw mismatched restarted,
      result ≠ some (.error (.wrongSize want saw mismatched restarted))) :
    mismatches policy wanted frames < policy.giveUpAfter.toNat := by
  cases result with
  | none => exact ends.2
  | some result =>
      cases result with
      | ok shot =>
          obtain ⟨before, frame, dims, rfl, past, quiet, judged, -⟩ := ends
          rw [mismatches_past past, judged]
          exact quiet.2
      | error error =>
          cases error with
          | wrongSize want saw mismatched restarted => exact absurd rfl (other _ _ _ _)
          | timeout | disconnected | config | interrupted => exact ends.2

theorem mismatches_unwanted (frames : List CompressedFrame) :
    mismatches policy none frames = 0 := by
  refine List.countP_eq_zero.mpr fun frame member => ?_
  cases judged : judge none frame.jpeg with
  | mismatch want saw => cases (judge_mismatch.mp judged).2.1
  | unusable | good => simp [Verdict.mismatched]

theorem Holds.picked {shot : Shot}
    (holds : Holds policy wanted frames refused (p, some (.ok shot))) :
    ∃ before frame dims, frames = before ++ [frame] ∧ policy.skip.toNat ≤ before.length ∧
      NoneGood policy wanted before ∧ judge wanted frame.jpeg = .good dims ∧
      shot = kept p frame.jpeg dims := by
  obtain ⟨before, frame, dims, split, past, quiet, judged, same⟩ := holds.2
  exact ⟨before, frame, dims, split, past, quiet.1, judged, same⟩

/-- All of the frames but the last were skipped or had the wrong size. -/
theorem Tally.skipped_last {before : List CompressedFrame} {frame : CompressedFrame} {dims : Dims}
    (tally : Tally policy wanted (before ++ [frame]) refused p)
    (past : policy.skip.toNat ≤ before.length) (none : NoneGood policy wanted before)
    (judged : judge wanted frame.jpeg = .good dims) :
    p.skipped = min (before.length - p.mismatched) 0xFFFFFFFF ∧
      (p.skipped < 0xFFFFFFFF → p.skipped + p.mismatched = before.length) := by
  have skips := tally.skipped
  have sizes := tally.mismatched
  have length := noneGood_length none
  rw [Nat.min_eq_right past] at length
  rw [unusables_past past, judged, List.length_append,
    Nat.min_eq_right (past.trans (Nat.le_add_right _ _))] at skips
  rw [mismatches_past past, judged] at sizes
  change p.mismatched = mismatches policy wanted before at sizes
  change p.skipped = min (policy.skip.toNat + unusables policy wanted before) _ at skips
  have left : before.length - p.mismatched =
      policy.skip.toNat + unusables policy wanted before := by omega
  rw [left]
  refine ⟨skips, fun short => ?_⟩
  rw [skips] at short ⊢
  omega

theorem Holds.laws (spend : 1 ≤ policy.restartAfter.toNat)
    (free : policy.anySize = true → wanted = none) {used : List Turn}
    (holds : Holds policy wanted (delivered used) (refusals used) (p, result)) :
    PickLaws policy wanted used p result where
  shot := by
    rintro shot rfl
    obtain ⟨before, frame, dims, split, past, none, judged, rfl⟩ := holds.picked
    exact ⟨before, frame, split, past, rfl, judge_good.mp judged, none.unacceptable⟩
  counted := by
    rintro shot rfl
    obtain ⟨before, frame, dims, split, past, none, judged, rfl⟩ := holds.picked
    have tally := holds.1
    rw [split] at tally ⊢
    rw [List.length_append, List.length_singleton, Nat.add_sub_cancel]
    obtain ⟨skipped, short⟩ := tally.skipped_last past none judged
    exact ⟨skipped, fun low => congrArg (· + 1) (short low)⟩
  refused := ⟨holds.1.discarded, holds.1.skipped, holds.1.mismatched⟩
  reported := by
    rintro shot rfl
    obtain ⟨before, frame, dims, split, past, none, judged, rfl⟩ := holds.picked
    exact ⟨rfl, rfl, rfl, rfl⟩
  restarts := by
    have once := holds.1.restarts
    have restarted : .restart ∈ p.calls → p.restarted = true := by
      intro member
      have some : 0 < p.calls.count .restart := List.count_pos_iff.mpr member
      rw [once] at some
      cases flag : p.restarted with
      | true => rfl
      | false =>
          rw [flag] at some
          cases some
    have earned (member : SourceCall.restart ∈ p.calls) :
        policy.restartAfter.toNat ≤ mismatches policy wanted (delivered used) :=
      (holds.1.earned (restarted member)).trans holds.1.mismatched.le
    refine ⟨once ▸ Bool.toNat_le _, earned, fun any member => ?_⟩
    have none := earned member
    rw [free any, mismatches_unwanted] at none
    omega
  wrongSize := by
    constructor
    · rintro ⟨want, saw, mismatched, restarted, rfl⟩
      obtain ⟨before, frame, split, past, quiet, judged, enough, -⟩ := holds.2
      exact enough
    · intro enough
      by_contra other
      push Not at other
      exact absurd enough (holds.2.patient other).ne
  gaveUp := by
    rintro want saw mismatched restarted rfl
    obtain ⟨before, frame, split, past, quiet, judged, enough, counted, -⟩ := holds.2
    exact ⟨counted.trans (holds.1.mismatched.trans enough), before, frame, split, past,
      judge_mismatch.mp judged⟩
  missed := fun kept => (holds.2.noneGood kept).unacceptable

end Laws

theorem pick_laws (source : FrameSource) (policy : ShotPolicy)
    (spend : 1 ≤ policy.restartAfter.toNat) (positive : 1 ≤ policy.giveUpAfter.toNat)
    (started deadline : Nat) (turns : List Turn) :
    ∃ used p result rest,
      pickFrame source policy started deadline turns = ((p, result), rest) ∧
      turns = used ++ rest ∧ (result = none → rest = []) ∧
      PickLaws policy (wantedSize policy source) used p result := by
  have fresh : Tally policy (wantedSize policy source) [] 0 Picking.start :=
    { skipped := by simp [Picking.start, unusables]
      discarded := rfl
      mismatched := by simp [Picking.start, mismatches]
      consecutive := fun _ => rfl
      restarts := rfl
      earned := nofun }
  have quiet : Quiet policy (wantedSize policy source) [] := by
    refine ⟨by simp [NoneGood], ?_⟩
    simp only [mismatches, List.drop_nil, List.countP_nil]
    exact positive
  obtain ⟨used, ⟨p, result⟩, rest, ran, split, waiting, holds⟩ :=
    pickLoop_holds started deadline turns fresh quiet
  rw [List.nil_append, Nat.zero_add] at holds
  exact ⟨used, p, result, rest, ran, split, waiting,
    holds.laws spend fun any => if_pos any⟩

/-- An image of two columns, with one zero after it. -/
def twoColumns (rows : U8) : List U8 :=
  [0xFF#8, 0xD8#8, 0xFF#8, 0xC0#8, 0#8, 8#8, 8#8, 0#8, rows, 0#8, 2#8, 0#8, 0xFF#8, 0xD9#8, 0#8]

def sends (answer : Except CaptureError (List U8)) : Turn :=
  { interrupted := false, next := answer.map fun jpeg => ⟨jpeg, 0#32, 0#32, 0, 0#32⟩,
    restart := .ok (), now := 0 }

/-- One refused, one skipped, one cut short, one too high, and the last after the restart. -/
def mixedTurns : List Turn :=
  [sends (.error (.badFrame "short")), sends (.ok (twoColumns 1#8)), sends (.ok [0xFF#8, 0xD8#8]),
    sends (.ok (twoColumns 3#8)), sends (.ok (twoColumns 1#8)), sends (.ok (twoColumns 1#8))]

theorem pick_laws_restarted :
    (pickFrame ⟨some (2#32, 1#32)⟩ ⟨1#32, false, 1#32, 2#32⟩ 0 9 mixedTurns).1.2 =
      some (.ok ⟨twoColumns 1#8, 2#32, 1#32, 2, 1, 1, true⟩) ∧
    ∃ used p result rest,
      pickFrame ⟨some (2#32, 1#32)⟩ ⟨1#32, false, 1#32, 2#32⟩ 0 9 mixedTurns =
        ((p, result), rest) ∧
      mixedTurns = used ++ rest ∧ (result = none → rest = []) ∧
      PickLaws ⟨1#32, false, 1#32, 2#32⟩ (some (2#32, 1#32)) used p result :=
  ⟨rfl, pick_laws ⟨some (2#32, 1#32)⟩ ⟨1#32, false, 1#32, 2#32⟩ (by decide)
    (by decide) 0 9 mixedTurns⟩

end NanoKvm.Cli
