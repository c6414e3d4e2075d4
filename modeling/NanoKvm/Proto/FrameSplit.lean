import Mathlib.Data.List.GetD
import NanoKvm.Proto.Frame

/-!
# Read boundaries

The scan runs after every chunk, on a buffer that may end anywhere.  It decides
only what the bytes to come cannot change: the loop run on a buffer, extended
and run again, ends where the loop on the whole buffer ends.  Only the place at
which garbage is reported depends on where the chunks end.
-/

set_option autoImplicit false

namespace NanoKvm.Proto

/-! ## Events up to garbage -/

/-- The events that are no garbage, each with the garbage reported since the one
before it, and the garbage reported since the last. -/
abbrev Tally := List (Nat × StreamEvent) × Nat

def Tally.add (sums : Tally) : StreamEvent → Tally
  | .garbage bytes => (sums.1, sums.2 + bytes)
  | event => (sums.1 ++ [(sums.2, event)], 0)

def tally (events : List StreamEvent) : Tally := events.foldl Tally.add ([], 0)

theorem tally_snoc (events : List StreamEvent) (event : StreamEvent) :
    tally (events ++ [event]) = (tally events).add event := by
  simp [tally]

/-- The garbage still to be reported counts as reported. -/
def Parser.tally (parser : Parser) : Tally :=
  ((Proto.tally parser.events).1, (Proto.tally parser.events).2 + parser.pendingGarbage)

/-- Alike but for where garbage was reported. -/
structure Parser.Alike (parser other : Parser) : Prop where
  buf : parser.buf = other.buf
  suppressed : parser.suppressed = other.suppressed
  tally : parser.tally = other.tally

section Alike
variable {parser other third : Parser}

theorem Parser.Alike.refl (parser : Parser) : parser.Alike parser := ⟨rfl, rfl, rfl⟩

theorem Parser.Alike.symm (alike : parser.Alike other) : other.Alike parser :=
  ⟨alike.buf.symm, alike.suppressed.symm, alike.tally.symm⟩

theorem Parser.Alike.trans (first : parser.Alike other) (second : other.Alike third) :
    parser.Alike third :=
  ⟨first.buf.trans second.buf, first.suppressed.trans second.suppressed,
    first.tally.trans second.tally⟩

theorem flushGarbage_alike (parser : Parser) : parser.flushGarbage.Alike parser := by
  unfold Parser.flushGarbage
  by_cases pending : parser.pendingGarbage > 0
  · rw [if_pos pending]
    refine ⟨rfl, rfl, ?_⟩
    simp [Parser.tally, Parser.emit, tally_snoc, Tally.add]
  · rw [if_neg pending]
    exact Parser.Alike.refl parser

theorem flushGarbage_reported (parser : Parser) : parser.flushGarbage.pendingGarbage = 0 := by
  unfold Parser.flushGarbage
  split
  · rfl
  · omega

theorem flushed_emit_tally (parser : Parser) (event : StreamEvent) :
    (parser.flushGarbage.emit event).tally = parser.tally.add event := by
  have flushed := flushGarbage_reported parser
  have same := (flushGarbage_alike parser).tally
  simp only [Parser.tally, flushed, Nat.add_zero] at same
  simp only [Parser.tally, Parser.emit, flushed, tally_snoc, Nat.add_zero]
  rw [← same]

theorem emit_alike (alike : parser.Alike other) (event : StreamEvent) :
    (parser.flushGarbage.emit event).Alike (other.flushGarbage.emit event) := by
  have first := flushGarbage_alike parser
  have second := flushGarbage_alike other
  refine ⟨?_, ?_, ?_⟩
  · exact first.buf.trans (alike.buf.trans second.buf.symm)
  · exact first.suppressed.trans (alike.suppressed.trans second.suppressed.symm)
  · rw [flushed_emit_tally, flushed_emit_tally, alike.tally]

theorem discard_alike (alike : parser.Alike other) (n : Nat) :
    (parser.discard n).Alike (other.discard n) := by
  unfold Parser.discard
  by_cases none : n = 0
  · simpa [none] using alike
  · rw [if_neg none, if_neg none]
    obtain ⟨buf, suppressed, tally⟩ := alike
    refine ⟨by simp [buf], by simp [suppressed], ?_⟩
    simp only [Parser.tally, Prod.mk.injEq] at tally ⊢
    rw [suppressed]
    refine ⟨tally.1, ?_⟩
    omega

theorem consume_alike (alike : parser.Alike other) (n : Nat) :
    (parser.consume n).Alike (other.consume n) := by
  obtain ⟨buf, suppressed, tally⟩ := alike
  exact ⟨by simp [Parser.consume, buf], by simp [Parser.consume, suppressed], tally⟩

theorem align_alike (alike : parser.Alike other) :
    parser.align.1 = other.align.1 ∧ parser.align.2.Alike other.align.2 := by
  unfold Parser.align
  rw [alike.buf]
  by_cases aligned : other.buf.take 2 = [head1, head2]
  · rw [if_pos aligned, if_pos aligned]
    exact ⟨rfl, alike⟩
  · rw [if_neg aligned, if_neg aligned]
    cases headerAt other.buf with
    | some i => exact ⟨rfl, discard_alike alike i⟩
    | none => exact ⟨rfl, discard_alike alike _⟩

theorem turn_alike (alike : parser.Alike other) :
    parser.turn.1 = other.turn.1 ∧ parser.turn.2.Alike other.turn.2 := by
  obtain ⟨flag, aligned⟩ := align_alike alike
  unfold Parser.turn
  rcases first : parser.align with ⟨again, left⟩
  rcases second : other.align with ⟨again', right⟩
  rw [first, second] at flag aligned
  dsimp only at flag aligned
  subst flag
  cases again with
  | false => exact ⟨rfl, aligned⟩
  | true =>
      dsimp only
      rw [aligned.buf]
      by_cases short : right.buf.length < 5
      · rw [if_pos short, if_pos short]
        exact ⟨rfl, aligned⟩
      rw [if_neg short, if_neg short]
      by_cases waits : right.buf.length < overhead + (right.buf.getD 4 0#8).toNat
      · rw [if_pos waits, if_pos waits]
        exact ⟨rfl, aligned⟩
      rw [if_neg waits, if_neg waits]
      split
      · exact ⟨rfl, consume_alike (emit_alike aligned _) _⟩
      · obtain ⟨buf, _, tally⟩ := consume_alike (emit_alike aligned (.badChecksum
          (right.buf.take (overhead + (right.buf.getD 4 0#8).toNat)))) 1
        exact ⟨rfl, buf, rfl, tally⟩

end Alike

theorem loop_alike {parser other : Parser} (alike : parser.Alike other) :
    parser.loop.Alike other.loop := by
  obtain ⟨flag, after⟩ := turn_alike alike
  rcases first : parser.turn with ⟨again, left⟩
  rcases second : other.turn with ⟨again', right⟩
  rw [first, second] at flag after
  dsimp only at flag after
  subst flag
  cases again with
  | false =>
      rw [loop_stops first, loop_stops second]
      exact after
  | true =>
      have := turn_shrinks first
      rw [loop_next first, loop_next second]
      exact loop_alike after
termination_by parser.buf.length

/-! ## A buffer extended -/

/-- More bytes have been read. -/
def Parser.feed (parser : Parser) (bytes : List U8) : Parser :=
  { parser with buf := parser.buf ++ bytes }

theorem discard_discard (parser : Parser) (first second : Nat) :
    (parser.discard first).discard second = parser.discard (first + second) := by
  by_cases none : first = 0
  · simp [Parser.discard, none]
  by_cases none' : second = 0
  · simp [Parser.discard, none']
  simp only [Parser.discard, if_neg none, if_neg none', if_neg (show first + second ≠ 0 by omega),
    List.drop_drop, Parser.mk.injEq]
  refine ⟨trivial, trivial, ?_, ?_⟩ <;> omega

theorem discard_feed {parser : Parser} {n : Nat} (within : n ≤ parser.buf.length)
    (bytes : List U8) : (parser.discard n).feed bytes = (parser.feed bytes).discard n := by
  unfold Parser.discard
  by_cases none : n = 0
  · rw [if_pos none, if_pos none]
  · rw [if_neg none, if_neg none]
    simp [Parser.feed, List.drop_append_of_le_length within]

theorem consume_feed {parser : Parser} {n : Nat} (bytes : List U8)
    (within : n ≤ parser.buf.length) :
    (parser.consume n).feed bytes = (parser.feed bytes).consume n := by
  simp [Parser.consume, Parser.feed, List.drop_append_of_le_length within]

theorem emit_feed (parser : Parser) (event : StreamEvent) (bytes : List U8) :
    (parser.feed bytes).flushGarbage.emit event = (parser.flushGarbage.emit event).feed bytes := by
  have flushed : (parser.feed bytes).flushGarbage = parser.flushGarbage.feed bytes := by
    unfold Parser.flushGarbage
    change (if parser.pendingGarbage > 0 then _ else _) = _
    split <;> rfl
  rw [flushed]
  rfl

theorem headerAt_append {bytes : List U8} {i : Nat} (found : headerAt bytes = some i)
    (more : List U8) : headerAt (bytes ++ more) = some i := by
  induction bytes generalizing i with
  | nil => simp [headerAt] at found
  | cons first rest ih =>
      cases rest with
      | nil => simp [headerAt] at found
      | cons second rest =>
          simp only [headerAt] at found
          simp only [List.cons_append, headerAt]
          by_cases here : first = head1 ∧ second = head2
          · rw [if_pos here] at found ⊢
            exact found
          · rw [if_neg here] at found ⊢
            obtain ⟨j, later, rfl⟩ := Option.map_eq_some_iff.mp found
            have := ih later
            rw [List.cons_append] at this
            simp [this]

theorem headerAt_length {bytes : List U8} {i : Nat} (found : headerAt bytes = some i) :
    i + 2 ≤ bytes.length ∧ (bytes.drop i).take 2 = [head1, head2] := by
  induction bytes generalizing i with
  | nil => simp [headerAt] at found
  | cons first rest ih =>
      cases rest with
      | nil => simp [headerAt] at found
      | cons second rest =>
          simp only [headerAt] at found
          by_cases here : first = head1 ∧ second = head2
          · rw [if_pos here] at found
            cases found
            simp [here.1, here.2]
          · rw [if_neg here] at found
            obtain ⟨j, later, rfl⟩ := Option.map_eq_some_iff.mp found
            obtain ⟨short, starts⟩ := ih later
            simp only [List.length_cons] at short ⊢
            exact ⟨by omega, by simpa using starts⟩

/-- Whether `align` finds a header, and how much it discards. -/
def seek (bytes : List U8) : Bool × Nat :=
  match headerAt bytes with
  | some i => (true, i)
  | none => (false, bytes.length - if bytes.getLast? = some head1 then 1 else 0)

theorem align_seek (parser : Parser) :
    parser.align = ((seek parser.buf).1, parser.discard (seek parser.buf).2) := by
  unfold Parser.align seek
  by_cases aligned : parser.buf.take 2 = [head1, head2]
  · rw [if_pos aligned]
    obtain ⟨rest, shape⟩ : ∃ rest, parser.buf = head1 :: head2 :: rest :=
      ⟨parser.buf.drop 2, by rw [← List.take_append_drop 2 parser.buf, aligned]; simp⟩
    simp [shape, headerAt, Parser.discard]
  · rw [if_neg aligned]
    cases headerAt parser.buf <;> rfl

theorem seek_within (bytes : List U8) : (seek bytes).2 ≤ bytes.length := by
  unfold seek
  cases found : headerAt bytes with
  | some i =>
      have := (headerAt_length found).1
      dsimp only
      omega
  | none => exact Nat.sub_le _ _

theorem seek_header {bytes : List U8} {i : Nat} (found : seek bytes = (true, i)) :
    ∃ rest, bytes.drop i = head1 :: head2 :: rest := by
  unfold seek at found
  cases header : headerAt bytes with
  | some j =>
      simp only [header, Prod.mk.injEq, true_and] at found
      subst found
      have starts := (headerAt_length header).2
      refine ⟨(bytes.drop j).drop 2, ?_⟩
      rw [← List.take_append_drop 2 (bytes.drop j), starts]
      simp
  | none => simp [header] at found

theorem seek_found {bytes : List U8} {i : Nat} (found : seek bytes = (true, i))
    (more : List U8) : seek (bytes ++ more) = (true, i) := by
  unfold seek at found ⊢
  cases header : headerAt bytes with
  | some j =>
      rw [header] at found
      rw [headerAt_append header more]
      exact found
  | none => simp [header] at found

/-- Without a header only a trailing first byte of one is kept. -/
theorem headerAt_none {bytes : List U8} (none : headerAt bytes = none) (more : List U8) :
    headerAt (bytes ++ more) =
      (headerAt (bytes.drop (seek bytes).2 ++ more)).map (· + (seek bytes).2) := by
  unfold seek
  rw [none]
  dsimp only
  induction bytes with
  | nil => simp
  | cons first rest ih =>
      cases rest with
      | nil =>
          by_cases lone : first = head1
          · simp [lone]
          · cases more with
            | nil => simp [headerAt, lone]
            | cons second more => simp [headerAt, lone]
      | cons second rest =>
          simp only [headerAt] at none
          by_cases here : first = head1 ∧ second = head2
          · simp [if_pos here] at none
          · rw [if_neg here, Option.map_eq_none_iff] at none
            have later := ih none
            have last : (first :: second :: rest).getLast? = (second :: rest).getLast? := by simp
            have count : (first :: second :: rest).length -
                (if (first :: second :: rest).getLast? = some head1 then 1 else 0) =
              (second :: rest).length -
                (if (second :: rest).getLast? = some head1 then 1 else 0) + 1 := by
              rw [last]
              simp only [List.length_cons]
              split <;> omega
            rw [count, List.drop_succ_cons, List.cons_append, List.cons_append, headerAt,
              if_neg here, ← List.cons_append, later, Option.map_map]
            rfl

theorem keep_append (bytes more : List U8) :
    (bytes.drop (bytes.length - if bytes.getLast? = some head1 then 1 else 0) ++ more).getLast? =
        some head1 ↔ (bytes ++ more).getLast? = some head1 := by
  cases more with
  | nil =>
      rw [List.append_nil, List.append_nil]
      rcases List.eq_nil_or_concat bytes with rfl | ⟨earlier, last, rfl⟩
      · simp
      · rw [List.concat_eq_append]
        by_cases lone : last = head1
        · simp [lone]
        · simp [lone]
  | cons first rest => simp [List.getLast?_append]

theorem seek_none {bytes : List U8} {n : Nat} (found : seek bytes = (false, n))
    (more : List U8) :
    seek (bytes ++ more) =
      ((seek (bytes.drop n ++ more)).1, n + (seek (bytes.drop n ++ more)).2) := by
  have within := seek_within bytes
  cases header : headerAt bytes with
  | some i => simp [seek, header] at found
  | none =>
      have count : (seek bytes).2 = n := by rw [found]
      have shown := headerAt_none header more
      have kept := keep_append bytes more
      rw [count] at shown within
      have same : bytes.length - (if bytes.getLast? = some head1 then 1 else 0) = n := by
        rw [← count, seek, header]
      rw [same] at kept
      rw [seek, seek, shown]
      cases headerAt (bytes.drop n ++ more) with
      | some i => simp [Nat.add_comm]
      | none =>
          simp only [Option.map_none, kept, List.length_append, List.length_drop,
            Prod.mk.injEq, true_and]
          by_cases last : (bytes ++ more).getLast? = some head1
          · have nonempty : bytes.drop n ++ more ≠ [] := by
              intro empty
              have := kept.mpr last
              simp [empty] at this
            have := List.length_pos_iff.mpr nonempty
            rw [List.length_append, List.length_drop] at this
            rw [if_pos last]
            omega
          · rw [if_neg last]
            omega

/-! ## The loop goes on where it stopped -/

section Feed
variable {parser next : Parser}

theorem turn_feed (stepped : parser.turn = (true, next)) (bytes : List U8) :
    (parser.feed bytes).turn = (true, next.feed bytes) := by
  unfold Parser.turn at stepped ⊢
  rw [align_seek] at stepped ⊢
  rcases found : seek parser.buf with ⟨again, n⟩
  rw [found] at stepped
  cases again with
  | false => cases stepped
  | true =>
      have within : n ≤ parser.buf.length := by
        have := seek_within parser.buf
        rwa [found] at this
      have same : seek (parser.feed bytes).buf = (true, n) := seek_found found bytes
      rw [same]
      dsimp only at stepped ⊢
      rw [← discard_feed within]
      generalize parser.discard n = aligned at stepped ⊢
      by_cases short : aligned.buf.length < 5
      · simp [if_pos short] at stepped
      rw [if_neg short] at stepped
      have five : (aligned.buf ++ bytes).getD 4 0#8 = aligned.buf.getD 4 0#8 :=
        List.getD_append _ _ _ _ (by omega)
      generalize size : overhead + (aligned.buf.getD 4 0#8).toNat = total at stepped
      by_cases waits : aligned.buf.length < total
      · simp [if_pos waits] at stepped
      rw [if_neg waits] at stepped
      have live : 0 < total := by
        rw [← size]
        exact Nat.add_pos_left (by decide) _
      have claimed : (aligned.buf ++ bytes).getD (total - 1) 0#8 =
          aligned.buf.getD (total - 1) 0#8 := List.getD_append _ _ _ _ (by omega)
      have covered : (aligned.buf ++ bytes).take (total - 1) = aligned.buf.take (total - 1) :=
        List.take_append_of_le_length (by omega)
      have grown : (aligned.feed bytes).buf = aligned.buf ++ bytes := rfl
      rw [grown, five, size, if_neg (by simp; omega), if_neg (by simp; omega), claimed, covered]
      have two : (aligned.buf ++ bytes).getD 2 0#8 = aligned.buf.getD 2 0#8 :=
        List.getD_append _ _ _ _ (by omega)
      have three : (aligned.buf ++ bytes).getD 3 0#8 = aligned.buf.getD 3 0#8 :=
        List.getD_append _ _ _ _ (by omega)
      have whole : (aligned.buf ++ bytes).take total = aligned.buf.take total :=
        List.take_append_of_le_length (by omega)
      have body : ((aligned.buf ++ bytes).drop 5).take (aligned.buf.getD 4 0#8).toNat =
          (aligned.buf.drop 5).take (aligned.buf.getD 4 0#8).toNat := by
        unfold overhead at size
        rw [List.drop_append_of_le_length (by omega), List.take_append_of_le_length]
        rw [List.length_drop]
        omega
      by_cases sound : checksumOver (aligned.buf.take (total - 1)) =
          aligned.buf.getD (total - 1) 0#8
      · rw [if_pos sound] at stepped ⊢
        cases stepped
        rw [two, three, body, emit_feed, consume_feed]
        simp only [emit_buf, flushGarbage_buf]
        omega
      · rw [if_neg sound] at stepped ⊢
        cases stepped
        rw [whole, emit_feed, ← consume_feed bytes]
        · rfl
        · simp only [emit_buf, flushGarbage_buf]
          omega

theorem align_feed (parser : Parser) (bytes : List U8) :
    (parser.align.2.feed bytes).align = (parser.feed bytes).align := by
  rw [align_seek parser, align_seek, align_seek (parser.feed bytes)]
  dsimp only
  have within := seek_within parser.buf
  rcases found : seek parser.buf with ⟨again, n⟩
  rw [found] at within
  dsimp only at within ⊢
  rw [discard_feed within]
  have left : ((parser.feed bytes).discard n).buf = parser.buf.drop n ++ bytes := by
    rw [discard_buf]
    exact List.drop_append_of_le_length within
  have right : (parser.feed bytes).buf = parser.buf ++ bytes := rfl
  cases again with
  | true =>
      obtain ⟨rest, starts⟩ := seek_header found
      have here : seek (parser.buf.drop n ++ bytes) = (true, 0) := by
        simp [starts, seek, headerAt]
      rw [left, right, here, seek_found found, discard_discard, Nat.add_zero]
  | false =>
      rw [left, right, seek_none found, discard_discard]

theorem stop_feed (stopped : parser.turn = (false, next)) (bytes : List U8) :
    (next.feed bytes).turn = (parser.feed bytes).turn := by
  have aligned : next = parser.align.2 := by
    unfold Parser.turn at stopped
    rcases first : parser.align with ⟨again, after⟩
    rw [first] at stopped
    cases again with
    | false => exact (Prod.mk.inj stopped).2.symm
    | true =>
        dsimp only at stopped
        split at stopped
        · exact (Prod.mk.inj stopped).2.symm
        split at stopped
        · exact (Prod.mk.inj stopped).2.symm
        · split at stopped <;> simp at stopped
  unfold Parser.turn
  rw [aligned, align_feed]

end Feed

/-- The loop on a buffer, extended, ends where the loop on the whole buffer does. -/
theorem loop_feed (parser : Parser) (bytes : List U8) :
    (parser.loop.feed bytes).loop = (parser.feed bytes).loop := by
  rcases turned : parser.turn with ⟨again, next⟩
  cases again with
  | true =>
      have := turn_shrinks turned
      rw [loop_next turned, loop_next (turn_feed turned bytes)]
      exact loop_feed next bytes
  | false =>
      rw [loop_stops turned]
      exact loop_congr (stop_feed turned bytes)
termination_by parser.buf.length

/-! ## What the loop leaves -/

/-- A stopped loop holds less than one frame. -/
theorem loop_short (parser : Parser) : parser.loop.buf.length < maxFrame := by
  rcases turned : parser.turn with ⟨again, next⟩
  cases again with
  | true =>
      have := turn_shrinks turned
      rw [loop_next turned]
      exact loop_short next
  | false =>
      rw [loop_stops turned]
      unfold Parser.turn at turned
      rw [align_seek] at turned
      rcases found : seek parser.buf with ⟨header, n⟩
      rw [found] at turned
      cases header with
      | false =>
          cases turned
          rw [discard_buf, List.length_drop]
          unfold seek at found
          cases shape : headerAt parser.buf with
          | some i => simp [shape] at found
          | none =>
              simp only [shape, Prod.mk.injEq, true_and] at found
              rw [← found]
              have : maxFrame = 261 := rfl
              split <;> omega
      | true =>
          dsimp only at turned
          have bound := ((parser.discard n).buf.getD 4 0#8).isLt
          have : maxFrame = 261 := rfl
          have : overhead = 6 := rfl
          split at turned
          · cases turned
            omega
          split at turned
          · cases turned
            omega
          · split at turned <;> simp at turned
termination_by parser.buf.length

theorem pushChunk_alike (parser : Parser) (chunk : List U8) :
    (parser.pushChunk chunk).Alike (parser.feed chunk).loop := by
  have short := loop_short (parser.feed chunk)
  have : maxFrame = 261 := rfl
  have : maxBuffer = 4096 := rfl
  unfold Parser.pushChunk Parser.enforceBound Parser.scan
  rw [if_neg]
  · exact flushGarbage_alike _
  · rw [flushGarbage_buf]
    change ¬ (parser.feed chunk).loop.buf.length > maxBuffer
    omega

theorem feed_alike {parser other : Parser} (alike : parser.Alike other) (bytes : List U8) :
    (parser.feed bytes).Alike (other.feed bytes) := by
  obtain ⟨buf, suppressed, tally⟩ := alike
  exact ⟨by simp [Parser.feed, buf], suppressed, tally⟩

theorem feed_feed (parser : Parser) (first second : List U8) :
    (parser.feed first).feed second = parser.feed (first ++ second) := by
  simp [Parser.feed]

/-- Chunk after chunk ends like one loop over all the bytes. -/
theorem chunks_alike {parser other : Parser} {seen : List U8}
    (sofar : parser.Alike (other.feed seen).loop) (pieces : List (List U8)) :
    (pieces.foldl Parser.pushChunk parser).Alike (other.feed (seen ++ pieces.flatten)).loop := by
  induction pieces generalizing parser seen with
  | nil => simpa using sofar
  | cons piece pieces ih =>
      have next : (parser.pushChunk piece).Alike (other.feed (seen ++ piece)).loop := by
        have first := pushChunk_alike parser piece
        have second := loop_alike (feed_alike sofar piece)
        rw [loop_feed, feed_feed] at second
        exact first.trans second
      have all := ih next
      rwa [List.append_assoc] at all

/-! ## Two ways of splitting -/

theorem pushes_chunks (parser : Parser) (pushes : List (List U8)) :
    pushes.foldl Parser.push parser =
      (pushes.flatMap (chunks maxBuffer)).foldl Parser.pushChunk parser := by
  induction pushes generalizing parser with
  | nil => rfl
  | cons bytes pushes ih =>
      rw [List.foldl_cons, ih, List.flatMap_cons, List.foldl_append]
      rfl

theorem chunks_of_pushes (pushes : List (List U8)) :
    (pushes.flatMap (chunks maxBuffer)).flatten = pushes.flatten := by
  induction pushes with
  | nil => rfl
  | cons bytes pushes ih =>
      rw [List.flatMap_cons, List.flatten_append, ih, chunks_flatten (by decide), List.flatten_cons]

theorem pushes_alike (pushes : List (List U8)) :
    (pushes.foldl Parser.push Parser.new).Alike (Parser.new.feed pushes.flatten).loop := by
  have fresh : Parser.new.Alike (Parser.new.feed []).loop := by
    have still : Parser.new.loop = Parser.new := rfl
    exact still ▸ Parser.Alike.refl Parser.new
  have all := chunks_alike fresh (pushes.flatMap (chunks maxBuffer))
  rwa [List.nil_append, chunks_of_pushes, ← pushes_chunks] at all

theorem pushChunk_reported (parser : Parser) (chunk : List U8) :
    (parser.pushChunk chunk).pendingGarbage = 0 := by
  unfold Parser.pushChunk Parser.enforceBound
  split
  · exact flushGarbage_reported _
  · exact flushGarbage_reported _

theorem pushes_reported (pushes : List (List U8)) :
    (pushes.foldl Parser.push Parser.new).pendingGarbage = 0 := by
  rw [pushes_chunks]
  rcases List.eq_nil_or_concat (pushes.flatMap (chunks maxBuffer)) with none | ⟨earlier, last, more⟩
  · rw [none]
    rfl
  · rw [more, List.concat_eq_append, List.foldl_append]
    exact pushChunk_reported _ last

/-- However a stream is split, the parser holds the same bytes at its end and has
emitted the same events, with the same garbage before each and after the last. -/
theorem pushes_agree {pushes others : List (List U8)} (stream : pushes.flatten = others.flatten) :
    (pushes.foldl Parser.push Parser.new).buf = (others.foldl Parser.push Parser.new).buf ∧
      tally (pushes.foldl Parser.push Parser.new).events =
        tally (others.foldl Parser.push Parser.new).events := by
  have first := pushes_alike pushes
  have second := pushes_alike others
  rw [stream] at first
  have both := first.trans second.symm
  have sums := both.tally
  rw [Parser.tally, Parser.tally, pushes_reported, pushes_reported] at sums
  exact ⟨both.buf, sums⟩

/-- Noise around a frame, read at once and with the frame cut in two. -/
theorem pushes_agree_cut :
    ([[0x01#8, 0x57#8], [0xAB#8, 0x00#8, 0x01#8, 0x00#8, 0x03#8, 0x02#8]].foldl
        Parser.push Parser.new).buf =
      ([[0x01#8, 0x57#8, 0xAB#8, 0x00#8, 0x01#8, 0x00#8, 0x03#8, 0x02#8]].foldl
        Parser.push Parser.new).buf ∧
    tally ([[0x01#8, 0x57#8], [0xAB#8, 0x00#8, 0x01#8, 0x00#8, 0x03#8, 0x02#8]].foldl
        Parser.push Parser.new).events =
      tally ([[0x01#8, 0x57#8, 0xAB#8, 0x00#8, 0x01#8, 0x00#8, 0x03#8, 0x02#8]].foldl
        Parser.push Parser.new).events :=
  pushes_agree rfl

end NanoKvm.Proto
