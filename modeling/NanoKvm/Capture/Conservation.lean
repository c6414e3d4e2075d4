import NanoKvm.Capture.Stages

/-!
# No frame unaccounted for, and no picture of two

Every counted frame is somewhere: dropped, failed, decoded, pending or in a
thread's hands.  What the renderer took are pictures of a subsequence of what
was captured.
-/

set_option autoImplicit false

namespace NanoKvm.Capture

open NanoKvm.Proto NanoKvm.Lib

section Conservation
variable {library : JpegLibrary} {pixels : List U8 → List U8} {s next : Stages}

/-! ## Where frames are -/

/-- The frame not yet put. -/
def CapturePc.frames : CapturePc → List CompressedFrame
  | .captured frame => [frame]
  | _ => []

/-- The frame not yet decoded. -/
def DecodePc.frames : DecodePc → List CompressedFrame
  | .decoding frame => [frame]
  | _ => []

/-- Frames counted as captured, and neither pending nor counted as dropped yet. -/
def CapturePc.uncounted : CapturePc → Nat
  | .polling => 0
  | _ => 1

/-- Frames counted as decoded, and neither pending nor counted as dropped yet. -/
def DecodePc.uncounted : DecodePc → Nat
  | .decoded | .displaced _ | .dropping _ => 1
  | _ => 0

/-- The picture in the scratch buffer, where there is one. -/
def DecodePc.picture (scratch : DecodedFrame) : DecodePc → List DecodedFrame
  | .decoded => [scratch]
  | _ => []

@[simp] theorem CapturePc.frames_captured (frame : CompressedFrame) :
    (CapturePc.captured frame).frames = [frame] := rfl

@[simp] theorem DecodePc.frames_waiting : DecodePc.waiting.frames = [] := rfl

@[simp] theorem DecodePc.picture_decoded (scratch : DecodedFrame) :
    DecodePc.decoded.picture scratch = [scratch] := rfl

@[simp] theorem DecodePc.picture_waiting (scratch : DecodedFrame) :
    DecodePc.waiting.picture scratch = [] := rfl

@[simp] theorem DecodePc.picture_decoding (frame : CompressedFrame) (scratch : DecodedFrame) :
    (DecodePc.decoding frame).picture scratch = [] := rfl

/-- What is to be seen: taken, pending and about to be. -/
def Stages.emerged (s : Stages) : List DecodedFrame :=
  s.rendered ++ s.output.pending ++ s.decode.picture s.scratch

def Stages.underway (s : Stages) : List CompressedFrame :=
  s.decode.frames ++ s.compressed.pending ++ s.capture.frames

/-! ## The counters -/

structure Counted (s : Stages) : Prop where
  preDecode : s.compressed.closed = false →
    s.counters.framesCaptured = s.counters.droppedPreDecode + s.counters.decodeErrors +
      s.counters.framesDecoded + s.compressed.pending.length + s.decode.frames.length +
        s.capture.uncounted
  postDecode : s.output.closed = false →
    s.counters.framesDecoded = s.counters.droppedPostDecode + s.rendered.length +
      s.output.pending.length + s.decode.uncounted

/-- What a put into an open slot hands back was pending in it. -/
theorem put_balance {α : Type} {slot : Slot α} (v : α) (opened : slot.closed = false) :
    (slot.put v).2.pending.length + (slot.put v).1.toList.length = slot.pending.length + 1 := by
  obtain ⟨back, kept⟩ := Slot.put_open v opened
  rw [back, kept]
  simp only [List.length_singleton]
  omega

/-- The put of a counted frame: the thread is left with what came back. -/
theorem captureStep_put {frame : CompressedFrame} (at_ : s.capture = .captured frame)
    (stepped : s.captureStep = some next) :
    ∃ pc : CapturePc, next = { s with compressed := (s.compressed.put frame).2, capture := pc } ∧
      pc.frames = [] ∧ pc.uncounted = (s.compressed.put frame).1.toList.length := by
  simp only [Stages.captureStep, at_] at stepped
  split at stepped
  · rename_i displaced slot result
    cases Option.some.inj stepped
    rw [result]
    exact ⟨_, rfl, rfl, rfl⟩
  · rename_i slot result
    cases Option.some.inj stepped
    rw [result]
    exact ⟨_, rfl, rfl, rfl⟩

/-- The put of a picture. -/
theorem decodeStep_put (at_ : s.decode = .decoded) (stepped : s.decodeStep library = some next) :
    ∃ pc : DecodePc, next = { s with
        output := (s.output.put s.scratch).2, scratch := .empty, decode := pc } ∧
      pc.frames = [] ∧ (∀ scratch, pc.picture scratch = []) ∧
        pc.uncounted = (s.output.put s.scratch).1.toList.length := by
  simp only [Stages.decodeStep, at_] at stepped
  split at stepped
  · rename_i displaced slot result
    cases Option.some.inj stepped
    rw [result]
    exact ⟨_, rfl, rfl, fun _ => rfl, rfl⟩
  · rename_i slot result
    cases Option.some.inj stepped
    rw [result]
    exact ⟨_, rfl, rfl, fun _ => rfl, rfl⟩

/-- The take of a frame. -/
theorem decodeStep_take (at_ : s.decode = .waiting) (stepped : s.decodeStep library = some next) :
    ∃ pc : DecodePc, next = { s with compressed := s.compressed.take.2, decode := pc } ∧
      pc.frames = s.compressed.pending ∧ (∀ scratch, pc.picture scratch = []) ∧
        pc.uncounted = 0 := by
  simp only [Stages.decodeStep, at_, Slot.take] at stepped
  split at stepped
  · rename_i frame slot result
    obtain ⟨value, rfl⟩ := Prod.mk.inj result
    cases Option.some.inj stepped
    exact ⟨_, rfl, by rw [Slot.pending, value]; rfl, fun _ => rfl, rfl⟩
  · rename_i slot result
    obtain ⟨value, rfl⟩ := Prod.mk.inj result
    cases Option.some.inj stepped
    exact ⟨_, rfl, by rw [Slot.pending, value]; rfl, fun _ => rfl, rfl⟩

/-- The renderer's take. -/
theorem render_take (stepped : s.step library .render = some next) :
    next = { s with
      output := s.output.take.2, rendered := s.rendered ++ s.output.pending } := by
  simp only [Stages.step, Slot.take] at stepped
  split at stepped
  · rename_i frame slot result
    obtain ⟨value, rfl⟩ := Prod.mk.inj result
    cases Option.some.inj stepped
    rw [Slot.pending, value]
    rfl
  · rename_i slot result
    obtain ⟨value, rfl⟩ := Prod.mk.inj result
    cases Option.some.inj stepped
    rw [Slot.pending, value, Option.toList_none, List.append_nil]
    rfl

theorem captureStep_counted (counted : Counted s) (stepped : s.captureStep = some next) :
    Counted next := by
  obtain ⟨pre, post⟩ := counted
  cases at_ : s.capture with
  | polling =>
      rw [Stages.captureStep, at_] at stepped
      cases stepped
  | captured frame =>
      obtain ⟨pc, rfl, -, uncounted⟩ := captureStep_put at_ stepped
      refine ⟨fun opened => ?_, post⟩
      have opened : s.compressed.closed = false := (Slot.put_closed _ _).symm.trans opened
      have sum := pre opened
      have balance := put_balance frame opened
      rw [at_] at sum
      simp only [CapturePc.uncounted] at sum
      change s.counters.framesCaptured = s.counters.droppedPreDecode + s.counters.decodeErrors +
        s.counters.framesDecoded + (s.compressed.put frame).2.pending.length +
          s.decode.frames.length + pc.uncounted
      omega
  | displaced =>
      simp only [Stages.captureStep, at_] at stepped
      cases Option.some.inj stepped
      refine ⟨fun opened => ?_, post⟩
      have opened : s.compressed.closed = false := opened
      have sum := pre opened
      rw [at_] at sum
      rw [opened]
      exact sum
  | dropping =>
      simp only [Stages.captureStep, at_] at stepped
      cases Option.some.inj stepped
      refine ⟨fun opened => ?_, post⟩
      have sum := pre opened
      simp only [at_, CapturePc.uncounted] at sum ⊢
      omega

theorem decodeStep_counted (counted : Counted s) (stepped : s.decodeStep library = some next) :
    Counted next := by
  obtain ⟨pre, post⟩ := counted
  cases at_ : s.decode with
  | waiting =>
      obtain ⟨pc, rfl, frames, -, uncounted⟩ := decodeStep_take at_ stepped
      rw [at_] at pre post
      refine ⟨fun opened => ?_, fun opened => ?_⟩
      · have sum := pre opened
        rw [frames]
        simp only [DecodePc.frames, List.length_nil, Slot.take_pending] at sum ⊢
        omega
      · have sum := post opened
        rw [uncounted]
        exact sum
  | empty | opened =>
      simp only [Stages.decodeStep, at_] at stepped
      cases Option.some.inj stepped
      rw [at_] at pre post
      constructor
      · intro opened
        have sum := pre opened
        dsimp only
        split <;> exact sum
      · intro opened
        have sum := post opened
        dsimp only
        split <;> exact sum
  | decoding frame =>
      simp only [Stages.decodeStep, at_] at stepped
      rw [at_] at pre post
      split at stepped
      · cases Option.some.inj stepped
        refine ⟨fun opened => ?_, fun opened => ?_⟩
        · have sum := pre opened
          simp only [DecodePc.frames, List.length_singleton, List.length_nil] at sum ⊢
          omega
        · have sum := post opened
          simp only [DecodePc.uncounted] at sum ⊢
          omega
      · cases Option.some.inj stepped
        refine ⟨fun opened => ?_, post⟩
        have sum := pre opened
        simp only [DecodePc.frames, List.length_singleton, List.length_nil] at sum ⊢
        omega
  | decoded =>
      obtain ⟨pc, rfl, frames, -, uncounted⟩ := decodeStep_put at_ stepped
      rw [at_] at pre post
      refine ⟨fun opened => ?_, fun opened => ?_⟩
      · have sum := pre opened
        rw [frames]
        exact sum
      · have opened : s.output.closed = false := (Slot.put_closed _ _).symm.trans opened
        have sum := post opened
        have balance := put_balance s.scratch opened
        simp only [DecodePc.uncounted] at sum
        change s.counters.framesDecoded = s.counters.droppedPostDecode + s.rendered.length +
          (s.output.put s.scratch).2.pending.length + pc.uncounted
        omega
  | displaced frame =>
      simp only [Stages.decodeStep, at_] at stepped
      rw [at_] at pre post
      split at stepped
      · rename_i closed
        cases Option.some.inj stepped
        refine ⟨pre, fun opened => ?_⟩
        rw [closed] at opened
        cases opened
      · cases Option.some.inj stepped
        exact ⟨pre, post⟩
  | dropping frame =>
      simp only [Stages.decodeStep, at_] at stepped
      cases Option.some.inj stepped
      rw [at_] at pre post
      refine ⟨pre, fun opened => ?_⟩
      have sum := post opened
      simp only [DecodePc.uncounted] at sum ⊢
      omega
  | finished =>
      rw [Stages.decodeStep, at_] at stepped
      cases stepped

theorem step_counted {label : StageLabel} (counted : Counted s)
    (stepped : s.step library label = some next) : Counted next := by
  obtain ⟨pre, post⟩ := counted
  cases label with
  | frame frame =>
      simp only [Stages.step] at stepped
      split at stepped
      · rename_i at_
        cases Option.some.inj stepped
        refine ⟨fun opened => ?_, post⟩
        have sum := pre opened
        simp only [at_, CapturePc.uncounted] at sum ⊢
        omega
      · cases stepped
  | capture => exact captureStep_counted ⟨pre, post⟩ stepped
  | decode => exact decodeStep_counted ⟨pre, post⟩ stepped
  | render =>
      cases render_take stepped
      refine ⟨pre, fun opened => ?_⟩
      have sum := post opened
      simp only [List.length_append, Slot.take_pending, List.length_nil]
      omega
  | closeCompressed =>
      cases Option.some.inj stepped
      refine ⟨fun opened => ?_, post⟩
      cases opened
  | closeOutput =>
      cases Option.some.inj stepped
      refine ⟨pre, fun opened => ?_⟩
      cases opened
  | stop =>
      cases Option.some.inj stepped
      exact ⟨pre, post⟩

/-! ## The pictures -/

theorem captureStep_lossy (lossy : Lossy (image pixels) s.emerged s.underway s.captured)
    (stepped : s.captureStep = some next) :
    Lossy (image pixels) next.emerged next.underway next.captured := by
  cases at_ : s.capture with
  | polling =>
      rw [Stages.captureStep, at_] at stepped
      cases stepped
  | captured frame =>
      obtain ⟨pc, rfl, frames, -⟩ := captureStep_put at_ stepped
      refine lossy.lose (List.Sublist.refl _) ?_
      simp only [Stages.underway, at_, frames, CapturePc.frames_captured, List.append_nil,
        List.append_assoc]
      refine List.Sublist.append (List.Sublist.refl _) ?_
      rcases Slot.put_pending s.compressed frame with new | old
      · rw [new]
        exact List.sublist_append_right _ _
      · rw [old]
        exact List.sublist_append_left _ _
  | displaced =>
      simp only [Stages.captureStep, at_] at stepped
      cases Option.some.inj stepped
      refine lossy.lose (List.Sublist.refl _) ?_
      simp only [Stages.underway, at_]
      split <;> exact List.Sublist.refl _
  | dropping =>
      simp only [Stages.captureStep, at_] at stepped
      cases Option.some.inj stepped
      refine lossy.lose (List.Sublist.refl _) ?_
      simp only [Stages.underway, at_]
      exact List.Sublist.refl _

theorem decodeStep_lossy (overwrites : library.Overwrites pixels)
    (lossy : Lossy (image pixels) s.emerged s.underway s.captured)
    (stepped : s.decodeStep library = some next) :
    Lossy (image pixels) next.emerged next.underway next.captured := by
  cases at_ : s.decode with
  | waiting =>
      obtain ⟨pc, rfl, frames, picture, -⟩ := decodeStep_take at_ stepped
      simp only [Stages.emerged, Stages.underway, at_, DecodePc.frames_waiting,
        DecodePc.picture_waiting, List.append_nil, List.nil_append] at lossy
      simp only [Stages.emerged, Stages.underway, frames, picture, Slot.take_pending,
        List.append_nil]
      exact lossy
  | empty =>
      simp only [Stages.decodeStep, at_] at stepped
      simp only [Stages.emerged, Stages.underway, at_] at lossy
      cases Option.some.inj stepped
      simp only [Stages.emerged, Stages.underway]
      split <;> exact lossy
  | opened =>
      simp only [Stages.decodeStep, at_] at stepped
      simp only [Stages.emerged, Stages.underway, at_] at lossy
      cases Option.some.inj stepped
      simp only [Stages.emerged, Stages.underway]
      split <;> exact lossy
  | decoding frame =>
      simp only [Stages.decodeStep, at_] at stepped
      simp only [Stages.emerged, Stages.underway, at_, DecodePc.picture_decoding,
        List.append_nil] at lossy
      split at stepped
      · rename_i picture decoded
        cases Option.some.inj stepped
        rw [decode_image overwrites decoded]
        exact lossy.emerge
      · cases Option.some.inj stepped
        simp only [Stages.emerged, DecodePc.picture, List.append_nil]
        exact lossy.lose (List.Sublist.refl _) (List.sublist_cons_self _ _)
  | decoded =>
      obtain ⟨pc, rfl, frames, picture, -⟩ := decodeStep_put at_ stepped
      refine lossy.lose ?_ ?_
      · simp only [Stages.emerged, at_, picture, DecodePc.picture_decoded, List.append_nil,
          List.append_assoc]
        refine List.Sublist.append (List.Sublist.refl _) ?_
        rcases Slot.put_pending s.output s.scratch with new | old
        · rw [new]
          exact List.sublist_append_right _ _
        · rw [old]
          exact List.sublist_append_left _ _
      · simp only [Stages.underway, at_, frames]
        exact List.Sublist.refl _
  | displaced frame =>
      simp only [Stages.decodeStep, at_] at stepped
      simp only [Stages.emerged, Stages.underway, at_] at lossy
      split at stepped <;> cases Option.some.inj stepped <;> exact lossy
  | dropping frame =>
      simp only [Stages.decodeStep, at_] at stepped
      simp only [Stages.emerged, Stages.underway, at_] at lossy
      cases Option.some.inj stepped
      exact lossy
  | finished =>
      rw [Stages.decodeStep, at_] at stepped
      cases stepped

theorem step_lossy (overwrites : library.Overwrites pixels) {label : StageLabel}
    (lossy : Lossy (image pixels) s.emerged s.underway s.captured)
    (stepped : s.step library label = some next) :
    Lossy (image pixels) next.emerged next.underway next.captured := by
  cases label with
  | frame frame =>
      simp only [Stages.step] at stepped
      split at stepped
      · rename_i at_
        cases Option.some.inj stepped
        simp only [Stages.underway, at_, CapturePc.frames, List.append_nil] at lossy
        exact lossy.enter frame
      · cases stepped
  | capture => exact captureStep_lossy lossy stepped
  | decode => exact decodeStep_lossy overwrites lossy stepped
  | render =>
      cases render_take stepped
      simp only [Stages.emerged, Slot.take_pending, List.append_nil]
      exact lossy
  | closeCompressed =>
      cases Option.some.inj stepped
      refine lossy.lose (List.Sublist.refl _) ?_
      simp only [Stages.underway, Slot.close_pending]
      exact ((List.Sublist.refl _).append (List.nil_sublist _)).append (List.Sublist.refl _)
  | closeOutput =>
      cases Option.some.inj stepped
      refine lossy.lose ?_ (List.Sublist.refl _)
      simp only [Stages.emerged, Slot.close_pending]
      exact ((List.Sublist.refl _).append (List.nil_sublist _)).append (List.Sublist.refl _)
  | stop =>
      cases Option.some.inj stepped
      exact lossy

/-! ## Every reachable state -/

theorem reachable_counted (reached : Reachable (Stages.step library) (· = .initial) s) :
    Counted s := by
  apply reachable_preserves _ (fun _ _ _ counted stepped => step_counted counted stepped) reached
  rintro _ rfl
  exact ⟨fun _ => rfl, fun _ => rfl⟩

theorem reachable_lossy (overwrites : library.Overwrites pixels)
    (reached : Reachable (Stages.step library) (· = .initial) s) :
    Lossy (image pixels) s.emerged s.underway s.captured := by
  refine reachable_preserves (P := fun s => Lossy (image pixels) s.emerged s.underway s.captured)
    ?_ (fun _ _ _ lossy stepped => step_lossy overwrites lossy stepped) reached
  rintro _ rfl
  exact lossy_nil

/-- With both slots open and no thread inside an operation the counters account for every
frame; and what the renderer took, at any time, are the pictures of a subsequence of the
captured frames, each with what was captured along with it. -/
theorem frames_conserved (overwrites : library.Overwrites pixels)
    (reached : Reachable (Stages.step library) (· = .initial) s) :
    (s.compressed.closed = false → s.output.closed = false → s.Quiet →
      s.counters.framesCaptured = s.counters.droppedPreDecode + s.counters.decodeErrors +
          s.counters.framesDecoded + s.compressed.pending.length ∧
        s.counters.framesDecoded = s.counters.droppedPostDecode + s.rendered.length +
          s.output.pending.length) ∧
    ∃ sources : List CompressedFrame,
      sources.Sublist s.captured ∧ s.rendered = sources.map (image pixels) := by
  constructor
  · rintro compressed output ⟨polling, idle⟩
    obtain ⟨pre, post⟩ := reachable_counted reached
    have captured := pre compressed
    have decoded := post output
    rw [polling] at captured
    rcases idle with idle | idle
    · rw [idle] at captured decoded
      exact ⟨captured, decoded⟩
    · rw [idle] at captured decoded
      exact ⟨captured, decoded⟩
  · have lossy := reachable_lossy overwrites reached
    have taken : s.rendered.Sublist s.emerged :=
      (List.sublist_append_left _ _).trans (List.sublist_append_left _ _)
    exact (lossy.lose taken (List.Sublist.refl _)).sources

end Conservation

/-- A grey dot: a baseline picture of one pixel, all its coefficients zero. -/
def dot : List U8 :=
  [0xFF#8, 0xD8#8, 0xFF#8, 0xDB#8, 0#8, 67#8, 0#8] ++ List.replicate 64 1#8 ++
  [0xFF#8, 0xC0#8, 0#8, 11#8, 8#8, 0#8, 1#8, 0#8, 1#8, 1#8, 1#8, 0x11#8, 0#8] ++
  [0xFF#8, 0xC4#8, 0#8, 20#8, 0x00#8, 1#8] ++ List.replicate 16 0#8 ++
  [0xFF#8, 0xC4#8, 0#8, 20#8, 0x10#8, 1#8] ++ List.replicate 16 0#8 ++
  [0xFF#8, 0xDA#8, 0#8, 8#8, 1#8, 1#8, 0#8, 0#8, 63#8, 0#8, 0x3F#8, 0xFF#8, 0xD9#8]

def dotPixels (_ : List U8) : List U8 := [128#8, 128#8, 128#8, 255#8]

/-- What the library makes of the dot, whole or cut short in its scan. -/
def dotLibrary : JpegLibrary where
  decodeHeaders _ := .ok ()
  dimensions _ := some (1, 1)
  outputBufferSize _ := some 4
  decodeInto jpeg buffer :=
    if jpeg = dot then (.ok (), dotPixels jpeg) else (.error "truncated", buffer)

theorem dot_overwrites : dotLibrary.Overwrites dotPixels := by
  intro jpeg buffer _ decoded
  simp only [dotLibrary] at decoded ⊢
  split at decoded
  · rename_i whole
    rw [if_pos whole]
  · cases decoded

def dotFrame (jpeg : List U8) (sequence : U32) : CompressedFrame :=
  ⟨jpeg, 1#32, 1#32, 0, sequence⟩

/-- Three frames, the second cut short; the third's picture displaces the first's. -/
def dotRun : List StageLabel :=
  [.frame (dotFrame dot 1#32), .capture, .decode, .decode, .decode,
    .frame (dotFrame (dot.take 138) 2#32), .capture, .decode, .decode,
    .frame (dotFrame dot 3#32), .capture, .decode, .decode, .decode, .decode, .decode, .render]

theorem frames_conserved_dot : ∃ s, run (Stages.step dotLibrary) dotRun .initial = some s ∧
    s.compressed.closed = false ∧ s.output.closed = false ∧ s.Quiet ∧
    (s.counters.framesCaptured = s.counters.droppedPreDecode + s.counters.decodeErrors +
          s.counters.framesDecoded + s.compressed.pending.length ∧
        s.counters.framesDecoded = s.counters.droppedPostDecode + s.rendered.length +
          s.output.pending.length) ∧
    s.rendered = [image dotPixels (dotFrame dot 3#32)] ∧
    ∃ sources : List CompressedFrame,
      sources.Sublist s.captured ∧ s.rendered = sources.map (image dotPixels) := by
  have success : run (Stages.step dotLibrary) dotRun .initial =
      some ((run (Stages.step dotLibrary) dotRun .initial).getD .initial) := rfl
  have facts := frames_conserved dot_overwrites ⟨.initial, dotRun, rfl, success⟩
  refine ⟨_, success, ?_, ?_, ?_, facts.1 ?_ ?_ ?_, ?_, facts.2⟩ <;> decide

end NanoKvm.Capture
