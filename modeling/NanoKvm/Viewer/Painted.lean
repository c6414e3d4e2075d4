import NanoKvm.Viewer.Chrome

/-!
# What a draw paints

The frames received fall into those whose deltas the renderer has, those that wait
in the retained frame, and those the drain has just taken.  A draw that paints
turns the waiting ones into done ones; no other step touches the textures.
-/

set_option autoImplicit false

namespace NanoKvm.Viewer

open NanoKvm.Lib

section Frames
variable {egui : Egui}

/-- The deltas of several frames in one. -/
def joined (frames : List (ChromeFrame egui)) : TexturesDelta egui :=
  ⟨frames.flatMap fun frame => frame.texturesDelta.set,
    frames.flatMap fun frame => frame.texturesDelta.free⟩

def deltas (frames : List (ChromeFrame egui)) : List (TexturesDelta egui) :=
  frames.map ChromeFrame.texturesDelta

/-- `append` keeps both lists, in order. -/
def Egui.Concatenates (egui : Egui) : Prop :=
  ∀ older newer : TexturesDelta egui,
    egui.append older newer = ⟨older.set ++ newer.set, older.free ++ newer.free⟩

theorem joined_append (first second : List (ChromeFrame egui)) :
    joined (first ++ second) =
      ⟨(joined first).set ++ (joined second).set, (joined first).free ++ (joined second).free⟩ := by
  simp [joined]

theorem joined_single (frame : ChromeFrame egui) : joined [frame] = frame.texturesDelta := by
  simp [joined]

theorem flatMap_deltas (frames : List (ChromeFrame egui)) :
    (deltas frames).flatMap Batch.set = (joined frames).set ∧
      (deltas frames).flatMap Batch.free = (joined frames).free :=
  ⟨List.flatMap_map .., List.flatMap_map ..⟩

/-- The geometry, the scale and the size. -/
structure SamePicture (c newest : ChromeFrame egui) : Prop where
  primitives : c.primitives = newest.primitives
  pixelsPerPoint : c.pixelsPerPoint = newest.pixelsPerPoint
  sizeInPixels : c.sizeInPixels = newest.sizeInPixels

/-- A frame with the deltas of the `waiting` ones and the picture of the newest. -/
structure Carries (done waiting : List (ChromeFrame egui)) (c : ChromeFrame egui) : Prop where
  delta : c.texturesDelta = joined waiting
  picture : ∃ older newest, done ++ waiting = older ++ [newest] ∧ SamePicture c newest

def Holding (done waiting : List (ChromeFrame egui)) : Option (ChromeFrame egui) → Prop
  | none => done = [] ∧ waiting = []
  | some c => Carries done waiting c

variable {done waiting taken : List (ChromeFrame egui)} {c new : ChromeFrame egui}

theorem carries_single (frame : ChromeFrame egui) : Carries [] [frame] frame where
  delta := (joined_single frame).symm
  picture := ⟨[], frame, rfl, rfl, rfl, rfl⟩

theorem Carries.absorb (concatenates : egui.Concatenates) (carries : Carries done waiting c)
    (newer : Carries [] taken new) : Carries done (waiting ++ taken) (c.absorb new) where
  delta := by
    change egui.append c.texturesDelta new.texturesDelta = _
    rw [concatenates, carries.delta, newer.delta, joined_append]
  picture := by
    obtain ⟨older, newest, split, same⟩ := newer.picture
    rw [List.nil_append] at split
    exact ⟨done ++ waiting ++ older, newest, by rw [split]; simp,
      same.primitives, same.pixelsPerPoint, same.sizeInPixels⟩

theorem Holding.absorbInto (concatenates : egui.Concatenates) {kept : Option (ChromeFrame egui)}
    (holding : Holding done waiting kept) (newer : Carries [] taken new) :
    Carries done (waiting ++ taken) (absorbInto kept new) := by
  cases kept with
  | none =>
      obtain ⟨rfl, rfl⟩ := holding
      exact newer
  | some c => exact holding.absorb concatenates newer

end Frames

/-! ## The laws of a paint -/

section Laws
variable {egui : Egui}

/-- No texture is there at first. -/
def noTextures (egui : Egui) : Textures egui := fun _ => none

/-- What holds of a paint, of the frames received by then and the paints before it. -/
structure PaintLaws (frames : List (ChromeFrame egui)) (before : List (Paint egui))
    (paint : Paint egui) : Prop where
  /-- The picture is the newest one's.  At its first paint every texture is there that was set
  and that no older frame freed. -/
  newest : ∃ older newest, frames = older ++ [newest] ∧
    paint.primitives = newest.primitives ∧
    paint.screen = ⟨newest.sizeInPixels, newest.pixelsPerPoint⟩ ∧
    ((∀ earlier ∈ before, earlier.received < paint.received) →
      ∀ id ∈ (joined frames).set.map Prod.fst, id ∉ (joined older).free →
        (paint.shown id).isSome = true)
  /-- The textures are those of the frames one by one. -/
  oneByOne : applyBatches egui.upload (noTextures egui) (deltas frames) = some paint.left
  /-- Each delta was given to the renderer once. -/
  once : paint.applied = joined frames

structure Progress (received : List (ChromeFrame egui)) (chrome : Option (ChromeFrame egui))
    (gpu : Gpu egui) (done waiting taken : List (ChromeFrame egui)) : Prop where
  received : received = done ++ waiting ++ taken
  chrome : Holding done waiting chrome
  textures : applyBatches egui.upload (noTextures egui) (deltas done) = some gpu.textures
  applied : gpu.applied = joined done
  paints : ∀ before paint after, gpu.paints = before ++ paint :: after →
    PaintLaws (done.take paint.received) before paint ∧ paint.received ≤ done.length
  /-- The done frames are those of the last paint. -/
  last : done.length = (gpu.paints.getLast?.map Paint.received).getD 0

variable {received done waiting taken : List (ChromeFrame egui)}
  {chrome : Option (ChromeFrame egui)} {gpu : Gpu egui}

/-- Since the last paint the renderer has not been touched. -/
theorem Progress.untouched (progress : Progress received chrome gpu done waiting taken) :
    gpu.textures = (gpu.paints.getLast?.map Paint.left).getD (noTextures egui) ∧
      gpu.applied = (gpu.paints.getLast?.map Paint.applied).getD ⟨[], []⟩ := by
  have last := progress.last
  have textures := progress.textures
  have applied := progress.applied
  cases latest : gpu.paints.getLast? with
  | none =>
      rw [latest] at last
      rw [List.eq_nil_of_length_eq_zero last] at textures applied
      exact ⟨(Option.some.inj textures).symm, applied⟩
  | some paint =>
      obtain ⟨before, split⟩ := List.getLast?_eq_some_iff.mp latest
      obtain ⟨laws, -⟩ := progress.paints before paint [] split
      rw [latest] at last
      change done.length = paint.received at last
      rw [← last, List.take_length] at laws
      exact ⟨Option.some.inj (textures.symm.trans laws.oneByOne), applied.trans laws.once.symm⟩

theorem Progress.reconfigure (progress : Progress received chrome gpu done waiting taken)
    (size : Option Extent) :
    Progress received chrome (gpu.reconfigure size) done waiting taken := by
  cases size with
  | none => exact progress
  | some size => exact { progress with }

theorem fresh_left {first second : List (ChromeFrame egui)}
    (fresh : NoReuse (deltas (first ++ second))) : NoReuse (deltas first) := by
  unfold deltas at fresh ⊢
  rw [List.map_append] at fresh
  exact (List.pairwise_append.mp fresh).1

theorem fresh_right {first second : List (ChromeFrame egui)}
    (fresh : NoReuse (deltas (first ++ second))) : NoReuse (deltas second) := by
  unfold deltas at fresh ⊢
  rw [List.map_append] at fresh
  exact (List.pairwise_append.mp fresh).2.1

/-- Before the first paint of the newest frame, that frame is a waiting one. -/
theorem Progress.newest_waits (progress : Progress received chrome gpu done waiting taken)
    {older : List (ChromeFrame egui)} {newest : ChromeFrame egui}
    (split : done ++ waiting = older ++ [newest])
    (first : ∀ earlier ∈ gpu.paints, earlier.received < (done ++ waiting).length) :
    ∃ between, waiting = between ++ [newest] ∧ older = done ++ between := by
  rcases List.eq_nil_or_concat waiting with none | ⟨between, final, some⟩
  · rw [none, List.append_nil] at split first
    have last := progress.last
    cases latest : gpu.paints.getLast? with
    | none =>
        rw [latest, split] at last
        simp at last
    | some paint =>
        rw [latest] at last
        have short := first paint (List.mem_of_getLast? latest)
        rw [last] at short
        exact absurd short (Nat.lt_irrefl _)
  · rw [List.concat_eq_append] at some
    rw [some, ← List.append_assoc] at split
    obtain ⟨same, one⟩ := List.append_inj' split rfl
    cases one
    exact ⟨between, some, same.symm⟩

/-- What the renderer shows between the sets and the frees. -/
theorem shown_isSome {c : ChromeFrame egui} {shown : Textures egui}
    (progress : Progress received chrome gpu done waiting taken) (carries : Carries done waiting c)
    (fresh : NoReuse (deltas (done ++ waiting)))
    (uploaded : putAll egui.upload gpu.textures c.texturesDelta.set = some shown)
    {older : List (ChromeFrame egui)} {newest : ChromeFrame egui}
    (split : done ++ waiting = older ++ [newest])
    (first : ∀ earlier ∈ gpu.paints, earlier.received < (done ++ waiting).length)
    {id : egui.TextureId} (set : id ∈ (joined (done ++ waiting)).set.map Prod.fst)
    (unfreed : id ∉ (joined older).free) : (shown id).isSome = true := by
  obtain ⟨between, -, rfl⟩ := progress.newest_waits split first
  rw [joined_append, List.map_append, List.mem_append] at set
  rw [putAll_isSome uploaded, carries.delta]
  rcases set with early | late
  · right
    refine applyBatches_isSome (fresh_left fresh) progress.textures ?_ ?_
    · rw [(flatMap_deltas done).1]
      exact early
    · rw [(flatMap_deltas done).2]
      intro freed
      apply unfreed
      rw [joined_append]
      exact List.mem_append_left _ freed
  · exact .inl late

theorem paint_applies {c : ChromeFrame egui} {shown : Textures egui}
    (progress : Progress received chrome gpu done waiting taken) (carries : Carries done waiting c)
    (fresh : NoReuse (deltas (done ++ waiting)))
    (uploaded : putAll egui.upload gpu.textures c.texturesDelta.set = some shown) :
    applyBatches egui.upload (noTextures egui) (deltas (done ++ waiting)) =
      some (removeAll shown c.texturesDelta.free) := by
  rw [carries.delta] at uploaded ⊢
  unfold deltas at *
  rw [List.map_append, applyBatches_append]
  change (applyBatches egui.upload (noTextures egui) (deltas done)).bind _ = _
  rw [progress.textures, Option.bind_some]
  change applyBatches egui.upload gpu.textures (deltas waiting) = _
  rw [applyBatches_deferred (fresh_right fresh), (flatMap_deltas waiting).1,
    (flatMap_deltas waiting).2, uploaded]
  rfl

/-- The picture given to the renderer obeys the laws. -/
theorem paint_laws {c : ChromeFrame egui} {shown : Textures egui} {paint : Paint egui}
    (progress : Progress received chrome gpu done waiting taken) (carries : Carries done waiting c)
    (fresh : NoReuse (deltas (done ++ waiting))) (fits : c.sizeInPixels = gpu.config)
    (uploaded : putAll egui.upload gpu.textures c.texturesDelta.set = some shown)
    (all : paint.received = (done ++ waiting).length)
    (picture : paint.primitives = c.primitives ∧ paint.screen = ⟨gpu.config, c.pixelsPerPoint⟩)
    (uses : paint.shown = shown ∧ paint.left = removeAll shown c.texturesDelta.free ∧
      paint.applied = ⟨gpu.applied.set ++ c.texturesDelta.set,
        gpu.applied.free ++ c.texturesDelta.free⟩) :
    PaintLaws (done ++ waiting) gpu.paints paint where
  newest := by
    obtain ⟨older, newest, split, same⟩ := carries.picture
    refine ⟨older, newest, split, picture.1.trans same.primitives, ?_, ?_⟩
    · rw [picture.2, ← fits, same.sizeInPixels, same.pixelsPerPoint]
    · intro first id set unfreed
      rw [uses.1]
      exact shown_isSome progress carries fresh uploaded split
        (fun earlier member => all ▸ first earlier member) set unfreed
  oneByOne := (paint_applies progress carries fresh uploaded).trans (congrArg some uses.2.1.symm)
  once := by rw [uses.2.2, progress.applied, carries.delta, joined_append]

/-- A draw that paints: the waiting frames are done. -/
theorem Progress.paint {c after : ChromeFrame egui} {gpu' : Gpu egui}
    (progress : Progress received chrome gpu done waiting []) (carries : Carries done waiting c)
    (fresh : NoReuse (deltas (done ++ waiting))) (fits : c.sizeInPixels = gpu.config)
    (painted : gpu.paint c received.length = some (gpu', after)) :
    Progress received (some after) gpu' (done ++ waiting) [] [] := by
  unfold Gpu.paint at painted
  split at painted
  · cases painted
  next shown uploaded =>
  cases painted
  have all : received = done ++ waiting := by rw [progress.received, List.append_nil]
  exact
    { received := by rw [all, List.append_nil, List.append_nil]
      chrome := by
        refine ⟨rfl, ?_⟩
        obtain ⟨older, newest, split, same⟩ := carries.picture
        exact ⟨older, newest, by rw [List.append_nil, split],
          same.primitives, same.pixelsPerPoint, same.sizeInPixels⟩
      textures := paint_applies progress carries fresh uploaded
      applied := by
        change Batch.mk _ _ = _
        rw [progress.applied, carries.delta, joined_append]
      paints := by
        intro before paint later split
        rcases List.eq_nil_or_concat later with rfl | ⟨between, final, rfl⟩
        · obtain ⟨rfl, same⟩ := List.append_inj' split rfl
          cases same
          refine ⟨?_, all ▸ Nat.le_refl _⟩
          rw [all, List.take_length]
          exact paint_laws progress carries fresh fits uploaded rfl ⟨rfl, rfl⟩
            ⟨rfl, rfl, rfl⟩
        · rw [List.concat_eq_append, ← List.cons_append, ← List.append_assoc] at split
          obtain ⟨earlier, -⟩ := List.append_inj' split rfl
          obtain ⟨laws, bounded⟩ := progress.paints before paint between earlier
          rw [List.take_append_of_le_length bounded, List.length_append]
          exact ⟨laws, Nat.le_trans bounded (Nat.le_add_right _ _)⟩
      last := by
        simp [all] }

theorem Progress.draw (progress : Progress received chrome gpu done waiting [])
    (fresh : NoReuse (deltas (done ++ waiting))) (acquired : Acquired) :
    ∃ done' waiting', Progress received (gpu.draw acquired chrome received.length).2.1
      (gpu.draw acquired chrome received.length).1 done' waiting' [] := by
  cases acquired with
  | timeout | lost | outOfMemory | failed => exact ⟨done, waiting, progress⟩
  | frame =>
      unfold Gpu.draw
      cases chrome with
      | none => exact ⟨done, waiting, progress⟩
      | some c =>
          dsimp only
          split
          · exact ⟨done, waiting, progress⟩
          · next fits =>
              split
              · next gpu' after painted =>
                  have same : c.sizeInPixels = gpu.config := by
                    simp only [chromeFitsSurface, Bool.or_eq_true, Bool.not_eq_true',
                      decide_eq_false_iff_not, not_or, not_not] at fits
                    exact fits.1
                  exact ⟨done ++ waiting, [], progress.paint progress.chrome fresh same painted⟩
              · exact ⟨done, waiting, progress⟩

end Laws

/-! ## Every interleaving -/

section Runs
variable {egui : Egui}

/-- What the drain has taken. -/
def Took (taken : List (ChromeFrame egui)) : RenderPc egui → Prop
  | .draining out => Holding [] taken out
  | .drained => taken = []
  | .finished => True

def Consistent (s : Rendering egui) : Prop :=
  ∃ done waiting taken, Progress s.received s.chrome s.gpu done waiting taken ∧ Took taken s.pc

variable {s next : Rendering egui} {label : RenderLabel egui}

theorem presentPass_channel (s : Rendering egui) (video : Bool) (resize : Option Extent)
    (occluded : Bool) (acquired : Acquired) :
    (presentPass s video resize occluded acquired).sent = s.sent := by
  unfold presentPass
  dsimp only
  split
  · rfl
  · split <;> rfl

theorem receiveOne_sent (s : Rendering egui) (out : Option (ChromeFrame egui)) :
    (receiveOne s out).sent = s.sent := by
  unfold receiveOne Rendering.sent
  cases queued : s.queue with
  | cons frame rest => simp
  | nil =>
      cases out with
      | none => simp
      | some new => simp

/-- What a step can do. -/
theorem renderStep_cases (moved : renderStep label s = some next) :
    next = s ∨ (∃ frame, next = { s with queue := s.queue ++ [frame] }) ∨
      (∃ out, s.pc = .draining out ∧ next = receiveOne s out) ∨
      (∃ video resize occluded acquired, s.pc = .drained ∧
        next = presentPass s video resize occluded acquired) ∨
      ∃ fatal, next = { s with pc := .finished, fatal } := by
  cases label with
  | send frame =>
      dsimp only [renderStep] at moved
      split at moved
      · exact .inl (Option.some.inj moved).symm
      all_goals exact .inr (.inl ⟨frame, (Option.some.inj moved).symm⟩)
  | receive =>
      dsimp only [renderStep] at moved
      split at moved
      · next out at_ => exact .inr (.inr (.inl ⟨out, at_, (Option.some.inj moved).symm⟩))
      all_goals cases moved
  | present video resize occluded acquired =>
      dsimp only [renderStep] at moved
      split at moved
      · next at_ =>
          exact .inr (.inr (.inr (.inl
            ⟨video, resize, occluded, acquired, at_, (Option.some.inj moved).symm⟩)))
      all_goals cases moved
  | stop =>
      dsimp only [renderStep] at moved
      split at moved
      · exact .inr (.inr (.inr (.inr ⟨s.fatal, (Option.some.inj moved).symm⟩)))
      all_goals cases moved
  | panic text =>
      dsimp only [renderStep] at moved
      split at moved
      · cases moved
      all_goals exact .inr (.inr (.inr (.inr ⟨_, (Option.some.inj moved).symm⟩)))

theorem renderStep_sent (moved : renderStep label s = some next) :
    ∃ more, next.sent = s.sent ++ more := by
  rcases renderStep_cases moved with rfl | ⟨frame, rfl⟩ | ⟨out, -, rfl⟩ |
    ⟨video, resize, occluded, acquired, -, rfl⟩ | ⟨fatal, rfl⟩
  · exact ⟨[], (List.append_nil _).symm⟩
  · exact ⟨[frame], (List.append_assoc ..).symm⟩
  · exact ⟨[], by rw [receiveOne_sent, List.append_nil]⟩
  · exact ⟨[], by rw [presentPass_channel, List.append_nil]⟩
  · exact ⟨[], (List.append_nil _).symm⟩

theorem consistent_receive (concatenates : egui.Concatenates) {out : Option (ChromeFrame egui)}
    (consistent : Consistent s) (at_ : s.pc = .draining out) : Consistent (receiveOne s out) := by
  obtain ⟨done, waiting, taken, progress, took⟩ := consistent
  rw [at_] at took
  unfold receiveOne
  cases s.queue with
  | cons frame rest =>
      refine ⟨done, waiting, taken ++ [frame], { progress with received := ?_ }, ?_⟩
      · change s.received ++ [frame] = _
        rw [progress.received, List.append_assoc (done ++ waiting)]
      · exact took.absorbInto concatenates (carries_single frame)
  | nil =>
      cases out with
      | none =>
          obtain ⟨-, rfl⟩ := took
          exact ⟨done, waiting, [], progress, rfl⟩
      | some new =>
          refine ⟨done, waiting ++ taken, [], { progress with received := ?_, chrome := ?_ }, rfl⟩
          · rw [progress.received, List.append_nil, List.append_assoc]
          · exact progress.chrome.absorbInto concatenates took

theorem consistent_present (fresh : NoReuse (deltas s.sent)) (consistent : Consistent s)
    (at_ : s.pc = .drained) (video : Bool) (resize : Option Extent) (occluded : Bool)
    (acquired : Acquired) : Consistent (presentPass s video resize occluded acquired) := by
  obtain ⟨done, waiting, taken, progress, took⟩ := consistent
  rw [at_] at took
  cases took
  have resized := progress.reconfigure resize
  have seen : s.sent = done ++ waiting ++ s.queue := by
    rw [Rendering.sent, progress.received, List.append_nil]
  obtain ⟨done', waiting', drawn⟩ := resized.draw (fresh_left (seen ▸ fresh)) acquired
  unfold presentPass
  dsimp only
  split
  · exact ⟨done, waiting, [], resized, rfl, rfl⟩
  · generalize (s.gpu.reconfigure resize).draw acquired s.chrome s.received.length = left at drawn ⊢
    obtain ⟨gpu, chrome, outcome⟩ := left
    cases outcome with
    | presented | skipped => exact ⟨done', waiting', [], drawn, rfl, rfl⟩
    | fatal message => exact ⟨done', waiting', [], drawn, trivial⟩

theorem Consistent.finish (consistent : Consistent s) (fatal : Option String) :
    Consistent { s with pc := .finished, fatal } := by
  obtain ⟨done, waiting, taken, progress, -⟩ := consistent
  exact ⟨done, waiting, taken, progress, trivial⟩

theorem Consistent.enqueue (consistent : Consistent s) (frame : ChromeFrame egui) :
    Consistent { s with queue := s.queue ++ [frame] } := by
  obtain ⟨done, waiting, taken, progress, took⟩ := consistent
  exact ⟨done, waiting, taken, progress, took⟩

theorem consistent_step (concatenates : egui.Concatenates) (fresh : NoReuse (deltas s.sent))
    (consistent : Consistent s) (moved : renderStep label s = some next) : Consistent next := by
  rcases renderStep_cases moved with rfl | ⟨frame, rfl⟩ | ⟨out, at_, rfl⟩ |
    ⟨video, resize, occluded, acquired, at_, rfl⟩ | ⟨fatal, rfl⟩
  · exact consistent
  · exact consistent.enqueue frame
  · exact consistent_receive concatenates consistent at_
  · exact consistent_present fresh consistent at_ video resize occluded acquired
  · exact consistent.finish fatal

theorem consistent_start (egui : Egui) (config : Extent) :
    Consistent (Rendering.start egui config) :=
  ⟨[], [], [],
    { received := rfl
      chrome := ⟨rfl, rfl⟩
      textures := rfl
      applied := rfl
      paints := fun before paint after split => by cases before <;> cases split
      last := rfl }, rfl, rfl⟩

theorem run_consistent (concatenates : egui.Concatenates) {config : Extent}
    {labels : List (RenderLabel egui)}
    (ran : run renderStep labels (Rendering.start egui config) = some s)
    (fresh : NoReuse (deltas s.sent)) : Consistent s := by
  have keep : ∀ (label : RenderLabel egui) (s next : Rendering egui),
      (NoReuse (deltas s.sent) → Consistent s) → renderStep label s = some next →
        NoReuse (deltas next.sent) → Consistent next := by
    intro label s next holds moved fresh
    obtain ⟨more, grown⟩ := renderStep_sent moved
    rw [grown] at fresh
    exact consistent_step concatenates (fresh_left fresh) (holds (fresh_left fresh)) moved
  exact run_preserves (P := fun s => NoReuse (deltas s.sent) → Consistent s) keep
    (fun _ => consistent_start egui config) ran fresh

end Runs

theorem chrome_paints (egui : Egui) (concatenates : egui.Concatenates) (config : Extent)
    (labels : List (RenderLabel egui)) (s : Rendering egui)
    (ran : run renderStep labels (Rendering.start egui config) = some s)
    (fresh : NoReuse (deltas s.sent)) :
    (∀ before paint after, s.gpu.paints = before ++ paint :: after →
      paint.received ≤ s.received.length ∧
        PaintLaws (s.received.take paint.received) before paint) ∧
      s.gpu.textures = (s.gpu.paints.getLast?.map Paint.left).getD (noTextures egui) ∧
      s.gpu.applied = (s.gpu.paints.getLast?.map Paint.applied).getD ⟨[], []⟩ := by
  obtain ⟨done, waiting, taken, progress, -⟩ := run_consistent concatenates ran fresh
  refine ⟨fun before paint after split => ?_, progress.untouched⟩
  obtain ⟨laws, bounded⟩ := progress.paints before paint after split
  rw [progress.received, List.append_assoc, List.take_append_of_le_length bounded,
    List.length_append]
  exact ⟨Nat.le_trans bounded (Nat.le_add_right _ _), laws⟩

/-- Textures are lists of pages; a page is added to a texture, or begins one. -/
def pages : Egui where
  TextureId := Nat
  ImageDelta := Bool × Nat
  Texture := List Nat
  Primitive := Nat
  Scale := Nat
  sameId := inferInstance
  upload := fun texture delta =>
    match texture, delta with
    | _, (false, page) => some [page]
    | some texture, (true, page) => some (texture ++ [page])
    | none, (true, _) => none
  append := fun older newer => ⟨older.set ++ newer.set, older.free ++ newer.free⟩

def pageFrame (set : List (Nat × Bool × Nat)) (free : List Nat) (size : Extent) :
    ChromeFrame pages :=
  ⟨[(0 : Nat)], ⟨set, free⟩, (1 : Nat), size⟩

/-- The first frame meets a hidden surface, the other two one of another size. -/
def resizedLabels : List (RenderLabel pages) :=
  [.send (pageFrame [(1, false, 7)] [] (2#32, 2#32)), .receive, .receive,
    .present false none true .frame,
    .send (pageFrame [(1, true, 8)] [] (2#32, 2#32)),
    .send (pageFrame [(2, false, 9)] [1] (3#32, 3#32)), .receive, .receive, .receive,
    .present false none false .frame, .receive,
    .present false (some (3#32, 3#32)) false .frame]

def resized : Rendering pages :=
  (run renderStep resizedLabels (Rendering.start pages (2#32, 2#32))).getD
    (Rendering.start pages (2#32, 2#32))

theorem chrome_paints_resized :
    resized.gpu.paints.map Paint.received = [3] ∧
    ∀ before paint after, resized.gpu.paints = before ++ paint :: after →
      paint.received ≤ resized.received.length ∧
        PaintLaws (resized.received.take paint.received) before paint :=
  ⟨rfl, (chrome_paints pages (fun _ _ => rfl) (2#32, 2#32) resizedLabels resized
    rfl (by decide)).1⟩

end NanoKvm.Viewer
