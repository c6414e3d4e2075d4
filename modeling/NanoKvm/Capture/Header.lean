import NanoKvm.Capture.Jpeg

/-!
# What the header walk accepts

The walk and the grammar meet on the bytes from the cursor on: a turn that goes on
takes one link of the chain, and the turn that ends with a size takes the frame
header.  A turn that goes on moves the cursor by two bytes or more.
-/

set_option autoImplicit false

namespace NanoKvm.Capture

open NanoKvm.Proto

/-! ## From a place in the data to the bytes there -/

section Reads
variable {data : List U8} {cursor : Nat}

@[simp] theorem fillRun_fill (bytes : List U8) :
    fillRun (fill :: bytes) = fillRun bytes + 1 :=
  if_pos rfl

theorem fillRun_other {byte : U8} (bytes : List U8) (other : byte ≠ fill) :
    fillRun (byte :: bytes) = 0 :=
  if_neg other

theorem fillRun_replicate (n : Nat) {rest : List U8} (ends : rest.head? ≠ some fill) :
    fillRun (List.replicate n fill ++ rest) = n := by
  induction n with
  | zero =>
      cases rest with
      | nil => rfl
      | cons byte rest =>
          have other : byte ≠ fill := fun same => ends (congrArg some same)
          exact fillRun_other rest other
  | succ n ih =>
      rw [List.replicate_succ, List.cons_append, fillRun_fill, ih]

theorem fillRun_split (bytes : List U8) :
    ∃ rest, bytes = List.replicate (fillRun bytes) fill ++ rest ∧ rest.head? ≠ some fill := by
  induction bytes with
  | nil => exact ⟨[], rfl, nofun⟩
  | cons byte bytes ih =>
      by_cases same : byte = fill
      · obtain ⟨rest, split, ends⟩ := ih
        refine ⟨rest, ?_, ends⟩
        rw [same, fillRun_fill, List.replicate_succ, List.cons_append, ← split]
      · refine ⟨byte :: bytes, ?_, fun first => same (Option.some.inj first)⟩
        rw [fillRun_other bytes same]
        rfl

theorem replicate_head {n : Nat} {bytes rest : List U8}
    (split : bytes = List.replicate n fill ++ rest) : bytes[n]? = rest.head? := by
  rw [split, List.getElem?_append_right (by simp), List.length_replicate, Nat.sub_self,
    List.head?_eq_getElem?]

/-- A run of fill bytes with a code after it. -/
theorem fillRun_code {bytes : List U8} {marker : U8} (starts : bytes[0]? = some fill)
    (code : bytes[fillRun bytes]? = some marker) :
    ∃ more rest, bytes = marked more marker ++ rest ∧ marker ≠ fill ∧
      fillRun bytes = more + 1 := by
  obtain ⟨rest, split, ends⟩ := fillRun_split bytes
  have filled : fillRun bytes ≠ 0 := by
    intro none
    rw [none] at split
    apply ends
    rw [← List.nil_append rest, ← List.replicate_zero (a := fill), ← split,
      List.head?_eq_getElem?, starts]
  rw [replicate_head split] at code
  cases rest with
  | nil => cases code
  | cons head rest =>
      cases code
      refine ⟨fillRun bytes - 1, rest, ?_, fun same => ends (congrArg some same), by omega⟩
      rw [marked, List.append_assoc, Nat.sub_add_cancel (by omega)]
      exact split

theorem marked_code {more : Nat} {marker : U8} (rest : List U8) (other : marker ≠ fill) :
    (marked more marker ++ rest)[0]? = some fill ∧
      fillRun (marked more marker ++ rest) = more + 1 ∧
      (marked more marker ++ rest)[more + 1]? = some marker := by
  refine ⟨?_, ?_, ?_⟩
  · rw [marked, List.replicate_succ]
    rfl
  · rw [marked, List.append_assoc]
    exact fillRun_replicate _ fun first => other (Option.some.inj first)
  · rw [marked, List.append_assoc, List.getElem?_append_right (by simp)]
    simp

theorem readMarker_ok {marker : U8} {next : Nat} :
    readMarker data cursor = .ok (marker, next) ↔
      ∃ more rest, data.drop cursor = marked more marker ++ rest ∧ IsCode marker ∧
        next = cursor + more + 2 := by
  have first : data[cursor]? = (data.drop cursor)[0]? := by rw [List.getElem?_drop]; rfl
  have later : data[cursor + fillRun (data.drop cursor)]? =
      (data.drop cursor)[fillRun (data.drop cursor)]? := by rw [List.getElem?_drop]
  unfold readMarker
  rw [first]
  dsimp only
  rw [later]
  generalize data.drop cursor = bytes
  constructor
  · intro found
    cases starts : bytes[0]? with
    | none => simp [starts] at found
    | some byte =>
        simp only [starts] at found
        by_cases same : byte = fill
        · rw [if_neg (not_not_intro same)] at found
          cases code : bytes[fillRun bytes]? with
          | none => simp [code] at found
          | some marker' =>
              simp only [code] at found
              by_cases stuffed : marker' = 0#8
              · simp [stuffed] at found
              · rw [if_neg stuffed] at found
                simp only [Except.ok.injEq, Prod.mk.injEq] at found
                obtain ⟨rfl, rfl⟩ := found
                obtain ⟨more, rest, split, other, run⟩ := fillRun_code (same ▸ starts) code
                exact ⟨more, rest, split, ⟨other, stuffed⟩, by rw [run]; rfl⟩
        · rw [if_pos same] at found
          cases found
  · rintro ⟨more, rest, rfl, ⟨other, unstuffed⟩, rfl⟩
    obtain ⟨starts, run, code⟩ := @marked_code more marker rest other
    rw [run, starts]
    simp only [ne_eq, not_true, if_false, code, unstuffed]
    rfl

theorem readU16_drop : readU16 data cursor =
    match data.drop cursor with
    | hi :: lo :: _ => some (be16 hi lo)
    | _ => none := by
  have first : data[cursor]? = (data.drop cursor)[0]? := by rw [List.getElem?_drop]; rfl
  have second : data[cursor + 1]? = (data.drop cursor)[1]? := by rw [List.getElem?_drop]
  unfold readU16
  rw [first, second]
  rcases data.drop cursor with _ | ⟨hi, _ | ⟨lo, rest⟩⟩ <;> rfl

theorem readU16_bytes {v : U16} (read : readU16 data cursor = some v) :
    ∃ hi lo rest, data.drop cursor = hi :: lo :: rest ∧ v = be16 hi lo := by
  rw [readU16_drop] at read
  rcases bytes : data.drop cursor with _ | ⟨hi, _ | ⟨lo, rest⟩⟩ <;> rw [bytes] at read
  · cases read
  · cases read
  · exact ⟨hi, lo, rest, rfl, (Option.some.inj read).symm⟩

theorem readU16_eq {hi lo : U8} {rest : List U8} (bytes : data.drop cursor = hi :: lo :: rest) :
    readU16 data cursor = some (be16 hi lo) := by
  rw [readU16_drop, bytes]

theorem skipSegment_ok {marker : U8} {next : Nat} :
    skipSegment data cursor marker = .ok next ↔
      ∃ hi lo body rest, data.drop cursor = hi :: lo :: (body ++ rest) ∧
        (be16 hi lo).toNat = body.length + 2 ∧ next = cursor + body.length + 2 := by
  unfold skipSegment
  constructor
  · intro found
    cases read : readU16 data cursor with
    | none => simp [read] at found
    | some length =>
        obtain ⟨hi, lo, rest, bytes, rfl⟩ := readU16_bytes read
        simp only [read] at found
        by_cases small : be16 hi lo < 2#16
        · rw [if_pos small] at found
          cases found
        · rw [if_neg small] at found
          by_cases past : cursor + (be16 hi lo).toNat > data.length
          · rw [if_pos past] at found
            cases found
          · rw [if_neg past] at found
            cases found
            have two : 2 ≤ (be16 hi lo).toNat := Nat.le_of_not_lt small
            have size := congrArg List.length bytes
            rw [List.length_drop, List.length_cons, List.length_cons] at size
            have whole : ((be16 hi lo).toNat - 2) ≤ rest.length := by omega
            refine ⟨hi, lo, rest.take ((be16 hi lo).toNat - 2),
              rest.drop ((be16 hi lo).toNat - 2), ?_, ?_, ?_⟩
            · rw [List.take_append_drop, bytes]
            · rw [List.length_take, Nat.min_eq_left whole]
              omega
            · rw [List.length_take, Nat.min_eq_left whole]
              omega
  · rintro ⟨hi, lo, body, rest, bytes, whole, rfl⟩
    have size := congrArg List.length bytes
    rw [List.length_drop, List.length_cons, List.length_cons, List.length_append] at size
    rw [readU16_eq bytes]
    dsimp only
    have small : ¬ be16 hi lo < 2#16 := by
      change ¬ (be16 hi lo).toNat < 2
      omega
    rw [if_neg small, whole, if_neg (by omega), Nat.add_assoc]

theorem setWidth_eq_zero {v : U16} : v.setWidth 32 = 0#32 ↔ v = 0#16 := by
  constructor
  · intro zero
    have bits := congrArg BitVec.toNat zero
    rw [BitVec.toNat_setWidth, Nat.mod_eq_of_lt (Nat.lt_trans v.isLt (by decide))] at bits
    exact BitVec.eq_of_toNat_eq bits
  · rintro rfl
    rfl

/-- The length, the height and the width of a frame header. -/
theorem readU16_frame {length y x : U16} :
    (readU16 data cursor = some length ∧ readU16 data (cursor + 3) = some y ∧
        readU16 data (cursor + 5) = some x) ↔
      ∃ hi lo precision yHi yLo xHi xLo rest,
        data.drop cursor = [hi, lo, precision, yHi, yLo, xHi, xLo] ++ rest ∧
        length = be16 hi lo ∧ y = be16 yHi yLo ∧ x = be16 xHi xLo := by
  constructor
  · rintro ⟨read, high, wide⟩
    obtain ⟨hi, lo, rest, bytes, rfl⟩ := readU16_bytes read
    obtain ⟨yHi, yLo, rest', high', rfl⟩ := readU16_bytes high
    obtain ⟨xHi, xLo, rest'', wide', rfl⟩ := readU16_bytes wide
    rw [← List.drop_drop, bytes] at high' wide'
    rcases rest with _ | ⟨precision, rest⟩
    · cases high'
    · cases high'
      cases wide'
      exact ⟨hi, lo, precision, yHi, yLo, xHi, xLo, rest'', bytes, rfl, rfl, rfl⟩
  · rintro ⟨hi, lo, precision, yHi, yLo, xHi, xLo, rest, bytes, rfl, rfl, rfl⟩
    have high : data.drop (cursor + 3) = yHi :: yLo :: xHi :: xLo :: rest := by
      rw [← List.drop_drop, bytes]
      rfl
    have wide : data.drop (cursor + 5) = xHi :: xLo :: rest := by
      rw [← List.drop_drop, bytes]
      rfl
    exact ⟨readU16_eq bytes, readU16_eq high, readU16_eq wide⟩

theorem frameSize_ok {marker : U8} {width height : U32} :
    frameSize data cursor marker = .ok (width, height) ↔
      ∃ hi lo precision yHi yLo xHi xLo rest,
        data.drop cursor = [hi, lo, precision, yHi, yLo, xHi, xLo] ++ rest ∧
        8 ≤ (be16 hi lo).toNat ∧ height = (be16 yHi yLo).setWidth 32 ∧
        width = (be16 xHi xLo).setWidth 32 ∧ height ≠ 0#32 ∧ width ≠ 0#32 := by
  unfold frameSize
  constructor
  · intro found
    cases read : readU16 data cursor with
    | none => simp [read] at found
    | some length =>
        simp only [read] at found
        by_cases small : length < 8#16
        · rw [if_pos small] at found
          cases found
        rw [if_neg small] at found
        cases high : readU16 data (cursor + 3) with
        | none => simp [high] at found
        | some y =>
            cases wide : readU16 data (cursor + 5) with
            | none => simp [high, wide] at found
            | some x =>
                simp only [high, wide] at found
                by_cases zero : x = 0#16 ∨ y = 0#16
                · rw [if_pos zero] at found
                  cases found
                rw [if_neg zero] at found
                cases found
                obtain ⟨hi, lo, precision, yHi, yLo, xHi, xLo, rest, bytes, rfl, rfl, rfl⟩ :=
                  readU16_frame.mp ⟨read, high, wide⟩
                refine ⟨hi, lo, precision, yHi, yLo, xHi, xLo, rest, bytes,
                  Nat.le_of_not_lt small, rfl, rfl, ?_, ?_⟩
                · exact fun none => zero (.inr (setWidth_eq_zero.mp none))
                · exact fun none => zero (.inl (setWidth_eq_zero.mp none))
  · rintro ⟨hi, lo, precision, yHi, yLo, xHi, xLo, rest, bytes, large, rfl, rfl, high, wide⟩
    obtain ⟨length, y, x⟩ := readU16_frame.mpr
      ⟨hi, lo, precision, yHi, yLo, xHi, xLo, rest, bytes, rfl, rfl, rfl⟩
    have small : ¬ be16 hi lo < 8#16 := by
      change ¬ (be16 hi lo).toNat < 8
      omega
    have some : ¬ (be16 xHi xLo = 0#16 ∨ be16 yHi yLo = 0#16) := by
      rintro (none | none)
      · exact wide (setWidth_eq_zero.mpr none)
      · exact high (setWidth_eq_zero.mpr none)
    simp only [length, y, x, if_neg small, if_neg some]

end Reads

/-! ## One turn -/

section Turn
variable {data : List U8} {cursor next : Nat}

theorem marked_length (more : Nat) (marker : U8) : (marked more marker).length = more + 2 := by
  simp [marked]

theorem drop_marked {more : Nat} {marker : U8} {rest : List U8}
    (bytes : data.drop cursor = marked more marker ++ rest) :
    data.drop (cursor + more + 2) = rest := by
  rw [Nat.add_assoc, ← List.drop_drop, bytes, ← marked_length more marker, List.drop_left]

/-- The kinds of a marker exclude each other. -/
theorem startsFrame_kind {marker : U8} (frame : startsFrame marker = true) :
    standalone marker = false ∧ ending marker = false ∧ unframed marker = false := by
  revert marker
  decide

theorem unframed_kind {marker : U8} (kind : unframed marker = true) :
    standalone marker = false ∧ ending marker = false ∧ startsFrame marker = false := by
  revert marker
  decide

theorem pass_onward {marker : U8} (passed : pass data cursor marker = .onward next) :
    skipSegment data cursor marker = .ok next := by
  unfold pass at passed
  cases skipped : skipSegment data cursor marker with
  | error e => simp [skipped] at passed
  | ok past =>
      simp only [skipped, Walk.onward.injEq] at passed
      rw [passed]

/-- A marker alone or with its segment, from one cursor to the next. -/
def Link (data : List U8) (cursor next : Nat) : Prop :=
  ∃ more marker rest, IsCode marker ∧
    (data.drop cursor = marked more marker ++ rest ∧ standalone marker = true ∧
        next = cursor + more + 2 ∨
      ∃ hi lo body, data.drop cursor = marked more marker ++ hi :: lo :: (body ++ rest) ∧
        Skipped marker ∧ (be16 hi lo).toNat = body.length + 2 ∧
        next = cursor + more + 2 + body.length + 2)

/-- A turn that goes on takes a link of the chain. -/
theorem walkTurn_onward (turned : walkTurn data cursor = .onward next) :
    Link data cursor next := by
  unfold walkTurn at turned
  cases read : readMarker data cursor with
  | error e => simp [read] at turned
  | ok found =>
      obtain ⟨marker, after⟩ := found
      obtain ⟨more, rest, bytes, code, rfl⟩ := readMarker_ok.mp read
      have here := drop_marked bytes
      simp only [read] at turned
      have skips : Skipped marker → pass data (cursor + more + 2) marker = .onward next →
          Link data cursor next := by
        intro kind passed
        obtain ⟨hi, lo, body, left, same, whole, rfl⟩ := skipSegment_ok.mp (pass_onward passed)
        rw [here] at same
        exact ⟨more, marker, left, code, .inr ⟨hi, lo, body, same ▸ bytes, kind, whole, rfl⟩⟩
      cases alone : standalone marker with
      | true =>
          rw [if_pos alone] at turned
          cases turned
          exact ⟨more, marker, rest, code, .inl ⟨bytes, alone, rfl⟩⟩
      | false =>
          rw [if_neg (by simp [alone])] at turned
          cases stops : ending marker with
          | true => simp [stops] at turned
          | false =>
              rw [if_neg (by simp [stops])] at turned
              cases kind : unframed marker with
              | true =>
                  rw [if_pos kind] at turned
                  exact skips (unframed_kind kind) turned
              | false =>
                  rw [if_neg (by simp [kind])] at turned
                  cases frame : startsFrame marker with
                  | true => simp [frame] at turned
                  | false =>
                      rw [if_neg (by simp [frame])] at turned
                      exact skips ⟨alone, stops, frame⟩ turned

theorem pass_ended {marker : U8} {result : Except JpegHeaderError (U32 × U32)} {stop : Nat}
    (passed : pass data cursor marker = .ended result stop) :
    stop = cursor ∧ ∃ e, result = .error e := by
  unfold pass at passed
  cases skipped : skipSegment data cursor marker with
  | error e =>
      simp only [skipped, Walk.ended.injEq] at passed
      exact ⟨passed.2.symm, e, passed.1.symm⟩
  | ok past => simp [skipped] at passed

/-- A turn that ends has read a marker or stays where it was; if with a size, the
marker starts a frame. -/
theorem walkTurn_ended {result : Except JpegHeaderError (U32 × U32)} {stop : Nat}
    (turned : walkTurn data cursor = .ended result stop) :
    (stop = cursor ∧ ∃ e, result = .error e) ∨
      ∃ more marker rest, data.drop cursor = marked more marker ++ rest ∧ IsCode marker ∧
        stop = cursor + more + 2 ∧
        ((∃ e, result = .error e) ∨ startsFrame marker = true ∧
          result = frameSize data (cursor + more + 2) marker) := by
  unfold walkTurn at turned
  cases read : readMarker data cursor with
  | error e =>
      simp only [read, Walk.ended.injEq] at turned
      exact .inl ⟨turned.2.symm, e, turned.1.symm⟩
  | ok found =>
      obtain ⟨marker, after⟩ := found
      obtain ⟨more, rest, bytes, code, rfl⟩ := readMarker_ok.mp read
      simp only [read] at turned
      refine .inr ⟨more, marker, rest, bytes, code, ?_⟩
      cases alone : standalone marker with
      | true => simp [alone] at turned
      | false =>
          rw [if_neg (by simp [alone])] at turned
          cases stops : ending marker with
          | true =>
              rw [if_pos stops] at turned
              cases turned
              exact ⟨rfl, .inl ⟨_, rfl⟩⟩
          | false =>
              rw [if_neg (by simp [stops])] at turned
              cases kind : unframed marker with
              | true =>
                  rw [if_pos kind] at turned
                  obtain ⟨rfl, failed⟩ := pass_ended turned
                  exact ⟨rfl, .inl failed⟩
              | false =>
                  rw [if_neg (by simp [kind])] at turned
                  cases frame : startsFrame marker with
                  | true =>
                      rw [if_pos frame] at turned
                      cases turned
                      exact ⟨rfl, .inr ⟨rfl, rfl⟩⟩
                  | false =>
                      rw [if_neg (by simp [frame])] at turned
                      obtain ⟨rfl, failed⟩ := pass_ended turned
                      exact ⟨rfl, .inl failed⟩

theorem walkTurn_size {width height : U32} {stop : Nat}
    (turned : walkTurn data cursor = .ended (.ok (width, height)) stop) :
    FrameHeader (data.drop cursor) width height := by
  rcases walkTurn_ended turned with ⟨-, e, failed⟩ | ⟨more, marker, rest, bytes, code, -, ends⟩
  · cases failed
  · rcases ends with ⟨e, failed⟩ | ⟨frame, size⟩
    · cases failed
    · obtain ⟨hi, lo, precision, yHi, yLo, xHi, xLo, left, same, large, y, x, high, wide⟩ :=
        frameSize_ok.mp size.symm
      rw [drop_marked bytes] at same
      exact ⟨⟨more, marker, hi, lo, precision, yHi, yLo, xHi, xLo, left,
        by rw [bytes, same, List.append_assoc], code, frame, large, y, x⟩, high, wide⟩

/-- A frame header ends the walk with its size. -/
theorem walkTurn_framed {width height : U32}
    (framed : FrameHeader (data.drop cursor) width height) :
    ∃ stop, walkTurn data cursor = .ended (.ok (width, height)) stop := by
  obtain ⟨⟨more, marker, hi, lo, precision, yHi, yLo, xHi, xLo, rest, bytes, code, frame, large,
    y, x⟩, high, wide⟩ := framed
  rw [List.append_assoc] at bytes
  have read := readMarker_ok.mpr ⟨more, _, bytes, code, rfl⟩
  have size : frameSize data (cursor + more + 2) marker = .ok (width, height) :=
    frameSize_ok.mpr ⟨hi, lo, precision, yHi, yLo, xHi, xLo, rest, drop_marked bytes, large, y, x,
      high, wide⟩
  obtain ⟨alone, stops, kind⟩ := startsFrame_kind frame
  refine ⟨cursor + more + 2, ?_⟩
  simp only [walkTurn, read, alone, stops, kind, frame, size, if_true, if_false,
    Bool.false_eq_true]

/-- The walk goes on over a marker that stands alone. -/
theorem walkTurn_alone {more : Nat} {marker : U8} {rest : List U8} (code : IsCode marker)
    (kind : standalone marker = true) (bytes : data.drop cursor = marked more marker ++ rest) :
    walkTurn data cursor = .onward (cursor + more + 2) := by
  have read := readMarker_ok.mpr ⟨more, rest, bytes, code, rfl⟩
  simp only [walkTurn, read, kind, if_true]

/-- And over a segment that is skipped. -/
theorem walkTurn_segment {more : Nat} {marker hi lo : U8} {body rest : List U8}
    (code : IsCode marker) (kind : Skipped marker)
    (whole : (be16 hi lo).toNat = body.length + 2)
    (bytes : data.drop cursor = marked more marker ++ hi :: lo :: (body ++ rest)) :
    walkTurn data cursor = .onward (cursor + more + 2 + body.length + 2) := by
  obtain ⟨alone, stops, frame⟩ := kind
  have read := readMarker_ok.mpr ⟨more, _, bytes, code, rfl⟩
  have passed : pass data (cursor + more + 2) marker =
      .onward (cursor + more + 2 + body.length + 2) := by
    rw [pass, skipSegment_ok.mpr ⟨hi, lo, body, rest, drop_marked bytes, whole, rfl⟩]
  simp only [walkTurn, read, alone, stops, frame, passed, if_false, Bool.false_eq_true, ite_self]

theorem link_within (link : Link data cursor next) :
    cursor + 2 ≤ next ∧ next ≤ data.length := by
  obtain ⟨more, marker, rest, -, ⟨bytes, -, rfl⟩ | ⟨hi, lo, body, bytes, -, -, rfl⟩⟩ := link
  · have size := congrArg List.length bytes
    rw [List.length_drop, List.length_append, marked_length] at size
    omega
  · have size := congrArg List.length bytes
    rw [List.length_drop, List.length_append, marked_length, List.length_cons, List.length_cons,
      List.length_append] at size
    omega

theorem ended_within {result : Except JpegHeaderError (U32 × U32)} {stop : Nat}
    (turned : walkTurn data cursor = .ended result stop) (inside : cursor ≤ data.length) :
    stop ≤ data.length := by
  rcases walkTurn_ended turned with ⟨rfl, -⟩ | ⟨more, marker, rest, bytes, -, rfl, -⟩
  · exact inside
  · have size := congrArg List.length bytes
    rw [List.length_drop, List.length_append, marked_length] at size
    omega

end Turn

/-! ## The walk -/

section Walks
variable {data : List U8} {cursor turns : Nat} {width height : U32}

theorem walk_succ (cursor : Nat) : walk data (turns + 1) cursor =
    match walkTurn data cursor with
    | .onward next => walk data turns next
    | .ended result cursor => some (result, cursor) :=
  rfl

/-- Each turn that goes on moves the cursor, and it stays inside the data. -/
theorem walk_ends (inside : cursor ≤ data.length) (enough : data.length - cursor < turns) :
    ∃ result stop, walk data turns cursor = some (result, stop) ∧ stop ≤ data.length := by
  induction turns generalizing cursor with
  | zero => cases enough
  | succ turns ih =>
      cases turned : walkTurn data cursor with
      | onward next =>
          have within := link_within (walkTurn_onward turned)
          simp only [walk_succ, turned]
          exact ih within.2 (by omega)
      | ended result stop =>
          simp only [walk_succ, turned]
          exact ⟨result, stop, rfl, ended_within turned inside⟩

theorem walk_sound {stop : Nat}
    (walked : walk data turns cursor = some (.ok (width, height), stop)) :
    ∃ skipped framed, Chain (standalone · = true) Skipped skipped ∧
      FrameHeader framed width height ∧ data.drop cursor = skipped ++ framed := by
  induction turns generalizing cursor with
  | zero => cases walked
  | succ turns ih =>
      cases turned : walkTurn data cursor with
      | ended result stop' =>
          simp only [walk_succ, turned, Option.some.injEq, Prod.mk.injEq] at walked
          obtain ⟨rfl, -⟩ := walked
          exact ⟨[], _, .done, walkTurn_size turned, rfl⟩
      | onward next =>
          simp only [walk_succ, turned] at walked
          obtain ⟨skipped, framed, chain, header, rest⟩ := ih walked
          obtain ⟨more, marker, left, code, ⟨bytes, kind, rfl⟩ |
            ⟨hi, lo, body, bytes, kind, whole, rfl⟩⟩ := walkTurn_onward turned
          · rw [drop_marked bytes] at rest
            exact ⟨_, framed, .alone more code kind chain, header, by
              rw [bytes, rest, List.append_assoc]⟩
          · have after : data.drop (cursor + more + 2 + body.length + 2) = left := by
              have here := drop_marked bytes
              rw [Nat.add_assoc, Nat.add_comm body.length, ← List.drop_drop, here]
              rw [← List.drop_drop]
              exact List.drop_left
            rw [after] at rest
            refine ⟨_, framed, .segment more code kind whole chain, header, ?_⟩
            rw [bytes, rest, List.append_assoc, List.cons_append, List.cons_append,
              List.append_assoc]

theorem walk_complete {skipped framed : List U8}
    (chain : Chain (standalone · = true) Skipped skipped)
    (header : FrameHeader framed width height) (bytes : data.drop cursor = skipped ++ framed)
    (enough : skipped.length < turns) :
    ∃ stop, walk data turns cursor = some (.ok (width, height), stop) := by
  induction chain generalizing cursor turns with
  | done =>
      obtain ⟨turns, rfl⟩ : ∃ fewer, turns = fewer + 1 := ⟨turns - 1, by omega⟩
      rw [List.nil_append] at bytes
      obtain ⟨stop, turned⟩ := walkTurn_framed (bytes ▸ header)
      exact ⟨stop, by simp only [walk_succ, turned]⟩
  | @alone marker rest more code kind chain ih =>
      obtain ⟨turns, rfl⟩ : ∃ fewer, turns = fewer + 1 := ⟨turns - 1, by omega⟩
      rw [List.append_assoc] at bytes
      have turned := walkTurn_alone code kind bytes
      rw [List.length_append, marked_length] at enough
      simp only [walk_succ, turned]
      exact ih (drop_marked bytes) (by omega)
  | @segment marker hi lo body rest more code kind whole chain ih =>
      obtain ⟨turns, rfl⟩ : ∃ fewer, turns = fewer + 1 := ⟨turns - 1, by omega⟩
      rw [List.append_assoc, List.cons_append, List.cons_append, List.append_assoc] at bytes
      have turned := walkTurn_segment code kind whole bytes
      rw [List.length_append, marked_length, List.length_cons, List.length_cons,
        List.length_append] at enough
      simp only [walk_succ, turned]
      refine ih ?_ (by omega)
      rw [Nat.add_assoc, Nat.add_comm body.length, ← List.drop_drop, drop_marked bytes,
        ← List.drop_drop]
      exact List.drop_left

end Walks

/-! ## The whole header -/

section Whole
variable {data : List U8} {width height : U32}

theorem soi_code : IsCode Marker.soi := by
  unfold IsCode
  decide

/-- The cursor of a marker that was read is inside the data. -/
theorem readMarker_within {cursor next : Nat} {marker : U8}
    (read : readMarker data cursor = .ok (marker, next)) : next ≤ data.length := by
  obtain ⟨more, rest, bytes, -, rfl⟩ := readMarker_ok.mp read
  have size := congrArg List.length bytes
  rw [List.length_drop, List.length_append, marked_length] at size
  omega

theorem headerWalk_ends (data : List U8) :
    ∃ result stop, headerWalk data = some (result, stop) ∧ stop ≤ data.length := by
  unfold headerWalk
  cases read : readMarker data 0 with
  | error e => exact ⟨_, 0, rfl, Nat.zero_le _⟩
  | ok found =>
      obtain ⟨marker, cursor⟩ := found
      have inside := readMarker_within read
      dsimp only
      by_cases image : marker = Marker.soi
      · rw [if_pos image]
        exact walk_ends inside (by omega)
      · rw [if_neg image]
        exact ⟨_, cursor, rfl, inside⟩

theorem dimensions_walk {result : Except JpegHeaderError (U32 × U32)} :
    dimensions data = result ↔ ∃ stop, headerWalk data = some (result, stop) := by
  obtain ⟨found, stop, walked, -⟩ := headerWalk_ends data
  unfold dimensions
  rw [walked]
  constructor
  · rintro rfl
    exact ⟨stop, rfl⟩
  · rintro ⟨stop', same⟩
    cases same
    rfl

theorem dimensions_header :
    dimensions data = .ok (width, height) ↔
      Header (standalone · = true) Skipped data width height := by
  rw [dimensions_walk]
  unfold headerWalk
  constructor
  · rintro ⟨stop, walked⟩
    cases read : readMarker data 0 with
    | error e => simp [read] at walked
    | ok found =>
        obtain ⟨marker, cursor⟩ := found
        simp only [read] at walked
        by_cases image : marker = Marker.soi
        · rw [if_pos image] at walked
          obtain ⟨more, rest, bytes, -, rfl⟩ := readMarker_ok.mp read
          obtain ⟨skipped, framed, chain, header, same⟩ := walk_sound walked
          rw [drop_marked bytes] at same
          rw [List.drop_zero] at bytes
          exact ⟨more, skipped, framed, chain, header, by
            rw [bytes, same, image, List.append_assoc]⟩
        · rw [if_neg image] at walked
          cases walked
  · rintro ⟨more, skipped, framed, chain, header, whole⟩
    have bytes : data.drop 0 = marked more Marker.soi ++ (skipped ++ framed) := by
      rw [List.drop_zero, whole, List.append_assoc]
    have read := readMarker_ok.mpr ⟨more, _, bytes, soi_code, rfl⟩
    have size := congrArg List.length whole
    rw [List.length_append, List.length_append] at size
    simp only [read, if_true]
    exact walk_complete chain header (drop_marked bytes) (by omega)

theorem header_append {alone segment : U8 → Prop}
    (header : Header alone segment data width height) (more : List U8) :
    Header alone segment (data ++ more) width height := by
  obtain ⟨fills, skipped, framed, chain, ⟨starts, high, wide⟩, rfl⟩ := header
  obtain ⟨fills', marker, hi, lo, precision, yHi, yLo, xHi, xLo, rest, rfl, facts⟩ := starts
  refine ⟨fills, skipped, _ ++ more, chain, ⟨?_, high, wide⟩, List.append_assoc _ _ _⟩
  exact ⟨fills', marker, hi, lo, precision, yHi, yLo, xHi, xLo, rest ++ more,
    List.append_assoc _ _ _, facts⟩

/-- The markers of the standard without a length. -/
def standardAlone (marker : U8) : Prop := standalone marker = true ∨ marker = Marker.eoi

/-- The markers of the standard with one, but for frame headers. -/
def standardSegment (marker : U8) : Prop := ¬ standardAlone marker ∧ startsFrame marker = false

/-- A scan header and then a frame header, as no encoder writes them. -/
def scanFirst : List U8 :=
  [0xFF#8, 0xD8#8, 0xFF#8, 0xDA#8, 0x00#8, 0x02#8, 0xFF#8, 0xC0#8, 0x00#8, 0x08#8, 0x08#8,
    0x00#8, 0x01#8, 0x00#8, 0x01#8]

/-- Bytes that are such markers and segments, and that the walk refuses: it enters no scan. -/
theorem scanFirst_refused :
    Header standardAlone standardSegment scanFirst 1#32 1#32 ∧
      dimensions scanFirst = .error (.noStartOfFrame Marker.sos) := by
  refine ⟨⟨0, [0xFF#8, 0xDA#8, 0x00#8, 0x02#8], scanFirst.drop 6, ?_, ⟨?_, by decide, by decide⟩,
    rfl⟩, by decide⟩
  · have kind : standardSegment Marker.sos := by
      refine ⟨?_, rfl⟩
      rintro (alone | image)
      · cases alone
      · cases image
    exact @Chain.segment _ _ Marker.sos 0x00#8 0x02#8 [] [] 0 ⟨by decide, by decide⟩ kind rfl .done
  · exact ⟨0, 0xC0#8, 0x00#8, 0x08#8, 0x08#8, 0x00#8, 0x01#8, 0x00#8, 0x01#8, [], rfl,
      ⟨by decide, by decide⟩, rfl, by decide, rfl, rfl⟩

/-- The walk ends with its cursor inside the input, its result is a size exactly for the
headers of the grammar, whose segments are those of markers that neither start a frame
nor begin a scan nor end the image, and bytes appended change no size. -/
theorem dimensions_grammar (data : List U8) :
    (∃ result stop, headerWalk data = some (result, stop) ∧ stop ≤ data.length ∧
      dimensions data = result) ∧
    (∀ width height, dimensions data = .ok (width, height) ↔
      Header (standalone · = true) Skipped data width height) ∧
    ∀ size more, dimensions data = .ok size → dimensions (data ++ more) = .ok size := by
  refine ⟨?_, fun width height => dimensions_header, ?_⟩
  · obtain ⟨result, stop, walked, inside⟩ := headerWalk_ends data
    exact ⟨result, stop, walked, inside, dimensions_walk.mpr ⟨stop, walked⟩⟩
  · rintro ⟨width, height⟩ more sized
    exact dimensions_header.mpr (header_append (dimensions_header.mp sized) more)

/-- A restart marker and a comment before the frame, and the image after it. -/
theorem dimensions_grammar_comment :
    dimensions ([0xFF#8, 0xD8#8, 0xFF#8, 0xFF#8, 0xD0#8, 0xFF#8, 0xFE#8, 0x00#8, 0x03#8, 0x41#8,
      0xFF#8, 0xC2#8, 0x00#8, 0x0B#8, 0x08#8, 0x04#8, 0x38#8, 0x07#8, 0x80#8] ++
        [0xFF#8, 0xDA#8, 0xFF#8, 0xD9#8]) = .ok (1920#32, 1080#32) :=
  (dimensions_grammar _).2.2 _ [0xFF#8, 0xDA#8, 0xFF#8, 0xD9#8] rfl

end Whole

end NanoKvm.Capture
