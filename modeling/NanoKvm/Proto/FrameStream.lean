import NanoKvm.Proto.Frame

/-!
# Streams of frames and of replies without a checksum

What the device sends is a run of well-formed frames, between which it answers
a command it does not know with five bytes and no checksum.  The parser takes
the first byte of the next frame for the missing checksum, rejects the candidate
and finds that byte again as a header.
-/

set_option autoImplicit false

namespace NanoKvm.Proto

/-! ## Turns of the loop -/

section Turns
variable {parser : Parser}

theorem align_header {rest : List U8} (shape : parser.buf = head1 :: head2 :: rest) :
    parser.align = (true, parser) := by
  unfold Parser.align
  rw [if_pos (by rw [shape]; rfl)]

theorem turn_empty (shape : parser.buf = []) : parser.turn = (false, parser) := by
  simp [Parser.turn, Parser.align, shape, headerAt, Parser.discard]

theorem turn_lone (shape : parser.buf = [head1]) : parser.turn = (false, parser) := by
  simp [Parser.turn, Parser.align, shape, headerAt, Parser.discard]

/-- A candidate waits until its checksum byte is there. -/
theorem turn_waits {rest : List U8} (shape : parser.buf = head1 :: head2 :: rest)
    (short : ∀ len, parser.buf[4]? = some len → parser.buf.length < overhead + len.toNat) :
    parser.turn = (false, parser) := by
  unfold Parser.turn
  rw [align_header shape]
  dsimp only
  split
  · rfl
  · rename_i enough
    rw [if_pos]
    have within : 4 < parser.buf.length := by omega
    rw [List.getD_eq_getElem?_getD, List.getElem?_eq_getElem within]
    exact short _ (List.getElem?_eq_getElem within)

theorem checksumOver_wire (addr cmd : U8) (payload : List U8) :
    checksumOver (head1 :: head2 :: addr :: cmd :: BitVec.ofNat 8 payload.length :: payload) =
      checksum addr cmd payload := by
  simp only [checksumOver, checksum, byteSum, BitVec.toNat_ofNat]
  congr 1
  omega

/-- A whole candidate: its payload is as long as it says, and its checksum is there. -/
theorem turn_candidate {addr cmd len sum : U8} {payload rest : List U8}
    (shape : parser.buf = head1 :: head2 :: addr :: cmd :: len :: (payload ++ sum :: rest))
    (length : payload.length = len.toNat) (quiet : parser.pendingGarbage = 0) :
    parser.turn =
      (true,
        if checksumOver (head1 :: head2 :: addr :: cmd :: len :: payload) = sum then
          (parser.emit (.frame ⟨addr, cmd, payload⟩)).consume (overhead + payload.length)
        else
          { (parser.emit (.badChecksum
              (head1 :: head2 :: addr :: cmd :: len :: (payload ++ [sum])))).consume 1 with
            suppressed := 5 + payload.length }) := by
  have flushed : parser.flushGarbage = parser := by
    unfold Parser.flushGarbage
    rw [quiet, if_neg (Nat.lt_irrefl 0)]
  have total : overhead + len.toNat = payload.length + 6 := by
    rw [length]
    exact Nat.add_comm _ _
  have before : overhead + len.toNat - 1 = payload.length + 5 := by omega
  have covered : (head1 :: head2 :: addr :: cmd :: len :: (payload ++ sum :: rest)).take
      (payload.length + 5) = head1 :: head2 :: addr :: cmd :: len :: payload := by
    simp
  have claimed : (head1 :: head2 :: addr :: cmd :: len :: (payload ++ sum :: rest)).getD
      (payload.length + 5) 0#8 = sum := by
    simp [List.getD_eq_getElem?_getD]
  have whole : (head1 :: head2 :: addr :: cmd :: len :: (payload ++ sum :: rest)).take
      (payload.length + 6) =
        head1 :: head2 :: addr :: cmd :: len :: (payload ++ [sum]) := by
    simp [List.take_append, List.take_of_length_le]
  have data : ((head1 :: head2 :: addr :: cmd :: len :: (payload ++ sum :: rest)).drop 5).take
      len.toNat = payload := by
    simp [← length]
  unfold Parser.turn
  rw [align_header shape]
  dsimp only
  rw [shape, if_neg (by simp)]
  change (if _ < overhead + len.toNat then _ else _) = _
  rw [if_neg (by rw [total]; simp)]
  change (if checksumOver (List.take (overhead + len.toNat - 1) _) =
    List.getD _ (overhead + len.toNat - 1) 0#8 then (true, (Parser.emit _
      (.frame ⟨addr, cmd, List.take len.toNat (List.drop 5 _)⟩)).consume (overhead + len.toNat))
    else (true, { (Parser.emit _ (.badChecksum (List.take (overhead + len.toNat) _))).consume 1
      with suppressed := overhead + len.toNat - 1 })) = _
  rw [before, covered, claimed, data, total, whole, flushed, length]
  have five : len.toNat + 5 = 5 + len.toNat := Nat.add_comm _ _
  have six : len.toNat + 6 = overhead + len.toNat := Nat.add_comm _ _
  rw [five, six]
  split <;> rfl

theorem turn_frame {frame : Frame} {rest : List U8} (fits : frame.data.length ≤ maxPayload)
    (shape : parser.buf = wire frame.addr frame.cmd frame.data ++ rest)
    (quiet : parser.pendingGarbage = 0) :
    parser.turn = (true, (parser.emit (.frame frame)).consume (overhead + frame.data.length)) := by
  unfold maxPayload at fits
  have candidate : parser.buf = head1 :: head2 :: frame.addr :: frame.cmd ::
      BitVec.ofNat 8 frame.data.length ::
        (frame.data ++ checksum frame.addr frame.cmd frame.data :: rest) := by
    rw [shape]
    simp [wire]
  have length : frame.data.length = (BitVec.ofNat 8 frame.data.length).toNat := by
    rw [BitVec.toNat_ofNat]
    omega
  rw [turn_candidate candidate length quiet, checksumOver_wire, if_pos rfl]

/-- An error code is no checksum under which the next header byte would pass. -/
theorem stolen_header {code : U8} (error : 0xC0#8 ≤ code) :
    checksumOver [head1, head2, 0x00#8, code, 0x00#8] ≠ head1 := by
  intro same
  have sum := congrArg BitVec.toNat same
  have low := BitVec.le_def.mp error
  have high := code.isLt
  simp only [checksumOver, byteSum, BitVec.toNat_ofNat, head1, head2] at sum low
  omega

/-- The reply without a checksum takes the next header byte for one, and is rejected. -/
theorem turn_malformed {code : U8} {rest : List U8} (error : 0xC0#8 ≤ code)
    (shape : parser.buf = head1 :: head2 :: 0x00#8 :: code :: 0x00#8 :: head1 :: rest)
    (quiet : parser.pendingGarbage = 0) :
    parser.turn = (true,
      { parser.emit (.badChecksum [head1, head2, 0x00#8, code, 0x00#8, head1]) with
        buf := head2 :: 0x00#8 :: code :: 0x00#8 :: head1 :: rest
        suppressed := 5 }) := by
  have unfolded : parser.buf = head1 :: head2 :: 0x00#8 :: code :: 0x00#8 ::
      ([] ++ head1 :: rest) := shape
  have candidate := turn_candidate unfolded rfl quiet
  rw [if_neg (stolen_header error)] at candidate
  rw [candidate]
  simp [Parser.consume, shape]

/-- What is left of it is no garbage, and the stolen byte is a header again. -/
theorem loop_resumes {code : U8} {rest : List U8}
    (shape : parser.buf = head2 :: 0x00#8 :: code :: 0x00#8 :: head1 :: rest)
    (next : rest = [] ∨ ∃ more, rest = head2 :: more) (covered : parser.suppressed = 5) :
    parser.loop = ({ parser with buf := head1 :: rest, suppressed := 1 } : Parser).loop := by
  have dropped : parser.discard 4 = { parser with buf := head1 :: rest, suppressed := 1 } := by
    simp [Parser.discard, shape, covered]
  rcases next with rfl | ⟨more, rfl⟩
  · have aligned : parser.align = (false, parser.discard 4) := by
      unfold Parser.align
      rw [shape]
      simp [headerAt, head1, head2]
    have stops : parser.turn = (false, { parser with buf := [head1], suppressed := 1 }) := by
      unfold Parser.turn
      rw [aligned, dropped]
    rw [loop_stops stops, loop_stops (turn_lone rfl)]
  · have aligned : parser.align = (true, parser.discard 4) := by
      unfold Parser.align
      rw [shape]
      simp [headerAt, head1, head2]
    refine loop_congr ?_
    unfold Parser.turn
    rw [aligned, dropped, align_header rfl]

end Turns

/-! ## Pieces -/

inductive Piece where
  | framed (frame : Frame) (fits : frame.data.length ≤ maxPayload)
  /-- The five bytes the device answers a command it does not know with. -/
  | malformed (code : U8) (error : 0xC0#8 ≤ code)

def Piece.bytes : Piece → List U8
  | .framed frame _ =>
      match frame.encode with
      | .ok bytes => bytes
      | .error _ => []
  | .malformed code _ => [head1, head2, 0x00#8, code, 0x00#8]

def Piece.frame : Piece → Option Frame
  | .framed frame _ => some frame
  | .malformed _ _ => none

def bytesOf (pieces : List Piece) : List U8 := pieces.flatMap Piece.bytes

def framesOf (pieces : List Piece) : List Frame := pieces.filterMap Piece.frame

def StreamEvent.frame? : StreamEvent → Option Frame
  | .frame whole => some whole
  | _ => none

def framesIn (events : List StreamEvent) : List Frame := events.filterMap StreamEvent.frame?

theorem framed_bytes (frame : Frame) (fits : frame.data.length ≤ maxPayload) :
    (Piece.framed frame fits).bytes = wire frame.addr frame.cmd frame.data := by
  simp [Piece.bytes, Frame.encode, Nat.not_lt.mpr fits]

theorem piece_header (piece : Piece) : ∃ rest, piece.bytes = head1 :: head2 :: rest := by
  cases piece with
  | framed frame fits => exact ⟨_, framed_bytes frame fits⟩
  | malformed code error => exact ⟨_, rfl⟩

/-- What a pending buffer may hold of the pieces to come. -/
def Waits (buf : List U8) : List Piece → Prop
  | [] => True
  | .framed frame _ :: _ => buf.length < overhead + frame.data.length
  | .malformed _ _ :: _ => buf.length ≤ 5

/-- `taken` are the pieces behind a parser that has `later` still to come. -/
structure Midstream (taken rest : List Piece) (later : List U8) (parser : Parser) : Prop where
  stream : parser.buf ++ later = bytesOf rest
  frames : framesIn parser.events = framesOf taken
  only : (∀ piece ∈ taken, piece.frame.isSome) →
    parser.events = (framesOf taken).map StreamEvent.frame
  quiet : parser.pendingGarbage = 0

section Midstream
variable {taken rest : List Piece} {later : List U8} {parser : Parser}

/-- A buffer that ends before its candidate does stays as it is. -/
theorem loop_waits {stream : List U8} (shape : parser.buf ++ later = head1 :: head2 :: stream)
    (short : ∀ len, stream[2]? = some len → parser.buf.length < overhead + len.toNat) :
    parser.loop = parser := by
  refine loop_stops ?_
  cases buf : parser.buf with
  | nil => exact turn_empty buf
  | cons first tail =>
      rw [buf, List.cons_append] at shape
      injection shape with one shape
      subst one
      cases tail with
      | nil => exact turn_lone buf
      | cons second tail =>
          rw [List.cons_append] at shape
          injection shape with two shape
          subst two
          refine turn_waits buf fun len found => short len ?_
          rw [buf] at found
          change tail[2]? = some len at found
          rw [← shape, List.getElem?_append_left (List.getElem?_eq_some_iff.mp found).1]
          exact found

theorem Midstream.framed {frame : Frame} {buf : List U8} (fits : frame.data.length ≤ maxPayload)
    (midstream : Midstream taken (.framed frame fits :: rest) later parser)
    (shape : parser.buf = wire frame.addr frame.cmd frame.data ++ buf) :
    parser.turn = (true, (parser.emit (.frame frame)).consume (overhead + frame.data.length)) ∧
      Midstream (taken ++ [.framed frame fits]) rest later
        ((parser.emit (.frame frame)).consume (overhead + frame.data.length)) := by
  have kept : ((parser.emit (.frame frame)).consume (overhead + frame.data.length)).buf = buf := by
    rw [consume_buf, emit_buf, shape, List.drop_left']
    simp [wire, overhead]
    omega
  refine ⟨turn_frame fits shape midstream.quiet, ?_, ?_, ?_, midstream.quiet⟩
  · have stream := midstream.stream
    change _ = (Piece.framed frame fits).bytes ++ bytesOf rest at stream
    rw [shape, List.append_assoc, framed_bytes] at stream
    rw [kept]
    exact List.append_cancel_left stream
  · change framesIn (parser.events ++ [StreamEvent.frame frame]) = _
    rw [framesIn, framesOf, List.filterMap_append, List.filterMap_append]
    exact congrArg (· ++ [frame]) midstream.frames
  · intro whole
    have only := midstream.only fun piece member => whole piece (List.mem_append_left _ member)
    change parser.events ++ [StreamEvent.frame frame] = _
    rw [only, framesOf, framesOf, List.filterMap_append, List.map_append]
    rfl

theorem Midstream.malformed {code : U8} (error : 0xC0#8 ≤ code)
    (midstream : Midstream taken (.malformed code error :: rest) later parser)
    (long : ¬ parser.buf.length ≤ 5) :
    ∃ next : Parser, parser.loop = next.loop ∧
      Midstream (taken ++ [.malformed code error]) rest later next := by
  have stream := midstream.stream
  obtain ⟨buf, shape⟩ : [head1, head2, 0x00#8, code, 0x00#8] <+: parser.buf := by
    refine List.prefix_of_prefix_length_le (List.prefix_append _ (bytesOf rest)) ?_ ?_
    · exact ⟨later, stream⟩
    · change 5 ≤ _
      omega
  rw [← shape, List.append_assoc] at stream
  have remains : buf ++ later = bytesOf rest := List.append_cancel_left stream
  cases buf with
  | nil =>
      rw [← shape] at long
      exact absurd (Nat.le_refl 5) long
  | cons first tail =>
      cases rest with
      | nil => cases remains
      | cons piece rest =>
          obtain ⟨more, header⟩ := piece_header piece
          change _ = piece.bytes ++ bytesOf rest at remains
          rw [header, List.cons_append] at remains
          injection remains with one remains
          subst one
          have tailed : tail = [] ∨ ∃ later, tail = head2 :: later := by
            cases tail with
            | nil => exact Or.inl rfl
            | cons second tail =>
                injection remains with two
                exact Or.inr ⟨tail, by rw [two]⟩
          let rejected := { parser.emit (.badChecksum
              [head1, head2, 0x00#8, code, 0x00#8, head1]) with
            buf := head2 :: 0x00#8 :: code :: 0x00#8 :: head1 :: tail
            suppressed := 5 }
          refine ⟨{ rejected with buf := head1 :: tail, suppressed := 1 }, ?_, ?_, ?_, ?_,
            midstream.quiet⟩
          · rw [loop_next (turn_malformed error shape.symm midstream.quiet)]
            exact loop_resumes rfl tailed rfl
          · change head1 :: (tail ++ later) = piece.bytes ++ bytesOf rest
            rw [header, remains]
            rfl
          · change framesIn (parser.events ++ [_]) = _
            rw [framesIn, framesOf, List.filterMap_append, List.filterMap_append]
            exact congrArg (· ++ []) midstream.frames
          · intro whole
            cases whole _ (List.mem_append_right _ (List.mem_singleton_self _))

theorem loop_midstream (midstream : Midstream taken rest later parser) :
    ∃ done left, rest = done ++ left ∧ Midstream (taken ++ done) left later parser.loop ∧
      Waits parser.loop.buf left := by
  induction rest generalizing taken parser with
  | nil =>
      have empty : parser.buf = [] := (List.append_eq_nil_iff.mp midstream.stream).1
      refine ⟨[], [], rfl, ?_, trivial⟩
      rw [loop_stops (turn_empty empty), List.append_nil]
      exact midstream
  | cons piece rest ih =>
      cases piece with
      | framed frame fits =>
          have stream := midstream.stream
          change _ = (Piece.framed frame fits).bytes ++ bytesOf rest at stream
          rw [framed_bytes] at stream
          by_cases short : parser.buf.length < overhead + frame.data.length
          · have waits : parser.loop = parser := by
              refine loop_waits stream fun len found => ?_
              cases found
              rw [BitVec.toNat_ofNat]
              unfold maxPayload at fits
              omega
            refine ⟨[], _, rfl, ?_, ?_⟩
            · rw [waits, List.append_nil]
              exact midstream
            · rw [waits]
              exact short
          · obtain ⟨buf, shape⟩ : ∃ buf,
                parser.buf = wire frame.addr frame.cmd frame.data ++ buf := by
              obtain ⟨buf, shape⟩ : wire frame.addr frame.cmd frame.data <+: parser.buf := by
                refine List.prefix_of_prefix_length_le (List.prefix_append _ (bytesOf rest)) ?_ ?_
                · exact ⟨later, stream⟩
                · simp only [wire, List.length_cons, List.length_append, List.length_nil]
                  unfold overhead at short
                  omega
              exact ⟨buf, shape.symm⟩
            obtain ⟨stepped, next⟩ := midstream.framed fits shape
            obtain ⟨done, left, split, after, waits⟩ := ih next
            refine ⟨_ :: done, left, congrArg (List.cons _) split, ?_, ?_⟩
            · rw [loop_next stepped, List.append_cons]
              exact after
            · rw [loop_next stepped]
              exact waits
      | malformed code error =>
          by_cases short : parser.buf.length ≤ 5
          · have waits : parser.loop = parser := by
              refine loop_waits midstream.stream fun len found => ?_
              cases found
              exact Nat.lt_succ_of_le short
            refine ⟨[], _, rfl, ?_, ?_⟩
            · rw [waits, List.append_nil]
              exact midstream
            · rw [waits]
              exact short
          · obtain ⟨next, stepped, resumed⟩ := midstream.malformed error short
            obtain ⟨done, left, split, after, waits⟩ := ih resumed
            refine ⟨_ :: done, left, congrArg (List.cons _) split, ?_, ?_⟩
            · rw [stepped, List.append_cons]
              exact after
            · rw [stepped]
              exact waits

/-! ## Pushes -/

/-- What is pending waits for the pieces still to come. -/
structure Waiting (pieces : List Piece) (later : List U8) (parser : Parser) : Prop where
  split : ∃ taken rest, pieces = taken ++ rest ∧ Midstream taken rest later parser ∧
    Waits parser.buf rest

theorem waits_bounded (midstream : Midstream taken rest later parser)
    (waits : Waits parser.buf rest) : parser.buf.length < maxFrame := by
  cases rest with
  | nil =>
      rw [(List.append_eq_nil_iff.mp midstream.stream).1]
      decide
  | cons piece rest =>
      cases piece with
      | framed frame fits => exact Nat.lt_of_lt_of_le waits (Nat.add_le_add_left fits _)
      | malformed code error => exact Nat.lt_of_le_of_lt waits (by decide)

theorem pushChunk_waiting {pieces : List Piece} {chunk : List U8}
    (waiting : Waiting pieces (chunk ++ later) parser) :
    Waiting pieces later (parser.pushChunk chunk) := by
  obtain ⟨taken, rest, shape, midstream, _⟩ := waiting
  have fed : Midstream taken rest later { parser with buf := parser.buf ++ chunk } :=
    { midstream with stream := by rw [List.append_assoc]; exact midstream.stream }
  obtain ⟨done, left, split, after, waits⟩ := loop_midstream fed
  have bounded := waits_bounded after waits
  have same : parser.pushChunk chunk =
      ({ parser with buf := parser.buf ++ chunk } : Parser).loop := by
    unfold Parser.pushChunk Parser.scan Parser.flushGarbage
    rw [after.quiet, if_neg (Nat.lt_irrefl 0)]
    unfold Parser.enforceBound
    rw [if_neg]
    simp only [maxFrame, overhead, maxPayload] at bounded
    unfold maxBuffer
    omega
  refine ⟨taken ++ done, left, by rw [shape, split, List.append_assoc], ?_, ?_⟩
  · rw [same]
    exact after
  · rw [same]
    exact waits

theorem foldl_waiting {pieces : List Piece} {chunks : List (List U8)}
    (waiting : Waiting pieces (chunks.flatten ++ later) parser) :
    Waiting pieces later (chunks.foldl Parser.pushChunk parser) := by
  induction chunks generalizing parser with
  | nil => exact waiting
  | cons chunk rest ih =>
      rw [List.flatten_cons, List.append_assoc] at waiting
      exact ih (pushChunk_waiting waiting)

theorem push_waiting {pieces : List Piece} {bytes : List U8}
    (waiting : Waiting pieces (bytes ++ later) parser) :
    Waiting pieces later (parser.push bytes) := by
  refine foldl_waiting ?_
  rw [chunks_flatten (by decide)]
  exact waiting

theorem pushes_waiting {pieces : List Piece} {pushes : List (List U8)}
    (waiting : Waiting pieces (pushes.flatten ++ later) parser) :
    Waiting pieces later (pushes.foldl Parser.push parser) := by
  induction pushes generalizing parser with
  | nil => exact waiting
  | cons bytes rest ih =>
      rw [List.flatten_cons, List.append_assoc] at waiting
      exact ih (push_waiting waiting)

/-- At the end of the stream only a reply without a checksum still waits. -/
theorem waits_end (midstream : Midstream taken rest [] parser) (waits : Waits parser.buf rest) :
    rest = [] ∨ ∃ code error, rest = [.malformed code error] := by
  have stream := midstream.stream
  rw [List.append_nil] at stream
  cases rest with
  | nil => exact Or.inl rfl
  | cons piece rest =>
      change _ = piece.bytes ++ bytesOf rest at stream
      have length := congrArg List.length stream
      rw [List.length_append] at length
      cases piece with
      | framed frame fits =>
          rw [framed_bytes] at length
          simp only [wire, List.length_cons, List.length_append, List.length_nil] at length
          change parser.buf.length < overhead + frame.data.length at waits
          unfold overhead at waits
          omega
      | malformed code error =>
          right
          cases rest with
          | nil => exact ⟨code, error, rfl⟩
          | cons next rest =>
              obtain ⟨more, header⟩ := piece_header next
              change parser.buf.length ≤ 5 at waits
              change _ = 5 + (next.bytes ++ bytesOf rest).length at length
              rw [header] at length
              simp only [List.cons_append, List.length_cons] at length
              omega

end Midstream

/-- The frames of the stream and no others come out, in order; what stays pending is
a last reply without a checksum; without one nothing but frames comes out. -/
structure Decodes (pieces : List Piece) (parser : Parser) : Prop where
  frames : framesIn parser.events = framesOf pieces
  pending : parser.buf = [] ∨ ∃ before code error,
    pieces = before ++ [.malformed code error] ∧
      parser.buf = (Piece.malformed code error).bytes
  whole : (∀ piece ∈ pieces, piece.frame.isSome) →
    parser.events = (framesOf pieces).map StreamEvent.frame ∧ parser.buf = []

theorem stream_decodes {pieces : List Piece} {pushes : List (List U8)}
    (stream : pushes.flatten = bytesOf pieces) :
    Decodes pieces (pushes.foldl Parser.push Parser.new) := by
  have fresh : Waiting pieces (pushes.flatten ++ []) Parser.new := by
    refine ⟨[], pieces, rfl, ⟨?_, rfl, fun _ => rfl, rfl⟩, ?_⟩
    · rw [List.append_nil, stream]
      rfl
    · cases pieces with
      | nil => trivial
      | cons piece rest =>
          cases piece with
          | framed frame fits => exact Nat.lt_of_lt_of_le (by decide) (Nat.le_add_right _ _)
          | malformed code error => exact Nat.zero_le 5
  obtain ⟨taken, rest, shape, midstream, waits⟩ := pushes_waiting fresh
  have pending := midstream.stream
  rw [List.append_nil] at pending
  rcases waits_end midstream waits with rfl | ⟨code, error, rfl⟩
  · rw [List.append_nil] at shape
    subst shape
    exact ⟨midstream.frames, Or.inl pending, fun whole => ⟨midstream.only whole, pending⟩⟩
  · refine ⟨?_, Or.inr ⟨taken, code, error, shape, pending⟩, fun whole => ?_⟩
    · rw [midstream.frames, shape, framesOf, framesOf, List.filterMap_append]
      exact (List.append_nil _).symm
    · rw [shape] at whole
      cases whole _ (List.mem_append_right _ (List.mem_singleton_self _))

/-- A reply without a checksum, then a frame whose payload is a header. -/
def recoveredPieces : List Piece :=
  [.malformed 0xFE#8 (by decide), .framed ⟨0x00#8, 0x81#8, [head1, head2]⟩ (by decide)]

def recoveredPushes : List (List U8) :=
  [[head1, head2, 0x00#8, 0xFE#8, 0x00#8, head1], [head2, 0x00#8, 0x81#8, 0x02#8, head1],
    [head2, 0x87#8]]

theorem stream_decodes_recovered :
    recoveredPushes.flatten = bytesOf recoveredPieces ∧
      Decodes recoveredPieces (recoveredPushes.foldl Parser.push Parser.new) :=
  ⟨by decide, stream_decodes (by decide)⟩

end NanoKvm.Proto
