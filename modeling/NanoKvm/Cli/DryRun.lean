import NanoKvm.Cli.Guard
import NanoKvm.Lib.Digits
import NanoKvm.Proto.Hex
import NanoKvm.Proto.Placed

/-!
# The dry run

`render` of `script/dry_run.rs` and the lookup of `script/fixtures.rs`, and what the
table has to do with a delivery of the same script.
-/

set_option autoImplicit false

namespace NanoKvm.Cli

open NanoKvm.Proto NanoKvm.Script

/-- One `[[packet]]`. -/
structure Fixture where
  name : List Char
  cmd : U8
  data : List U8
  frame : List Char
  deriving DecidableEq, Repr

structure Fixtures where
  packet : List Fixture
  deriving DecidableEq, Repr

/-- The fixture whose bytes are this keyboard payload. -/
def Fixtures.keyboard (fixtures : Fixtures) (payload : List U8) : Option Fixture :=
  fixtures.packet.find? fun packet =>
    decide (packet.cmd = Cmd.sendKbGeneralData ∧ packet.data = payload)

def showNat (n : Nat) : List Char := Nat.toDigits 10 n

/-- `{:>4}` -/
def padLeft (width : Nat) (text : List Char) : List Char :=
  List.replicate (width - text.length) ' ' ++ text

/-- `{:<22}` -/
def padRight (width : Nat) (text : List Char) : List Char :=
  text ++ List.replicate (width - text.length) ' '

/-- `{:?}`, of a character a layout reaches. -/
def debugChar (c : Char) : List Char :=
  if c = '\n' then ['\\', 'n']
  else if c = '\t' then ['\\', 't']
  else if c = '\r' then ['\\', 'r']
  else if c = '\'' then ['\\', '\'']
  else if c = '\\' then ['\\', '\\']
  else [c]

def labelText : StepLabel → List Char
  | .typed c => "type '".toList ++ debugChar c ++ ['\'']
  | .key chord => "key ".toList ++ chord.toList
  | .release => "release".toList

def waitText (millis : Nat) : List Char := "wait ".toList ++ showNat millis ++ "ms".toList

/-- The name column. -/
def frameName (fixtures : Option Fixtures) (payload : List U8) (frame : List Char) : List Char :=
  match fixtures.bind fun fixtures => fixtures.keyboard payload with
  | none => ['-']
  | some fixture =>
      if eqIgnoreAsciiCase fixture.frame frame then fixture.name
      else fixture.name ++ " DISAGREES: fixture says ".toList ++ fixture.frame

/-- The number and the label, up to the next column. -/
def lineStart (n : Nat) (label : List Char) : List Char :=
  padLeft 4 (showNat n) ++ [' ', ' '] ++ padRight 22 label ++ [' ', ' ']

def renderStep (fixtures : Option Fixtures) (n : Nat) : Step → Except EncodeError (List Char)
  | .wait millis => .ok (lineStart n (waitText millis) ++ ['-', '-'])
  | .send outgoing =>
      match encode Cmd.sendKbGeneralData outgoing.report.payload with
      | .error error => .error error
      | .ok bytes =>
          .ok (lineStart n (labelText outgoing.label) ++ hex bytes ++ [' ', ' ', ' '] ++
            frameName fixtures outgoing.report.payload (hex bytes))

example :
    (renderStep none 1
        (.send ⟨.typed 'a', ⟨0#8, #v[4#8, 0#8, 0#8, 0#8, 0#8, 0#8]⟩⟩)).toOption.map String.ofList =
      some "   1  type 'a'                57 AB 00 02 08 00 00 04 00 00 00 00 00 10   -" := by
  rfl

def renderSteps (fixtures : Option Fixtures) (n : Nat) :
    List Step → Except EncodeError (List Char)
  | [] => .ok []
  | step :: rest =>
      match renderStep fixtures n step with
      | .error error => .error error
      | .ok line =>
          match renderSteps fixtures (n + 1) rest with
          | .error error => .error error
          | .ok text => .ok (line ++ '\n' :: text)

def dryRunHeader (reports : Nat) : List Char :=
  "dry run: ".toList ++ showNat reports ++ " reports, nothing sent, no device opened".toList

def render (script : Script) (fixtures : Option Fixtures) : Except EncodeError (List Char) :=
  match renderSteps fixtures 1 script.steps with
  | .error error => .error error
  | .ok text => .ok (dryRunHeader (reportCount script) ++ '\n' :: text)

/-! ## Lines -/

/-- A text that stays on its line. -/
def flat (text : List Char) : Bool := text.all fun c => c ≠ '\n' && c ≠ '\r'

@[simp] theorem flat_append (text more : List Char) :
    flat (text ++ more) = (flat text && flat more) := List.all_append

theorem flat_joined {text more : List Char} (calm : flat text = true) (still : flat more = true) :
    flat (text ++ more) = true := by
  rw [flat_append, calm, still]
  rfl

theorem stripReturn_flat {text : List Char} (calm : flat text = true) :
    stripReturn text = text := by
  unfold stripReturn
  split
  · next ended =>
      have last := List.all_eq_true.mp calm _ (List.mem_of_getLast? ended)
      simp at last
  · rfl

theorem linesFrom_line {text : List Char} (calm : flat text = true) (line rest : List Char) :
    linesFrom line (text ++ '\n' :: rest) = stripReturn (line ++ text) :: linesFrom [] rest := by
  induction text generalizing line with
  | nil => rw [List.nil_append, linesFrom, if_pos rfl, List.append_nil]
  | cons c text ih =>
      simp only [flat, List.all_cons, Bool.and_eq_true, decide_eq_true_eq] at calm
      rw [List.cons_append, linesFrom, if_neg calm.1.1, ih calm.2, List.append_assoc]
      rfl

theorem linesOf_line {text : List Char} (calm : flat text = true) (rest : List Char) :
    linesOf (text ++ '\n' :: rest) = text :: linesOf rest := by
  unfold linesOf
  rw [linesFrom_line calm, List.nil_append, stripReturn_flat calm]

theorem flat_blanks (n : Nat) : flat (List.replicate n ' ') = true := by
  induction n with
  | zero => rfl
  | succ n ih => exact ih

theorem flat_showNat (n : Nat) : flat (showNat n) = true := by
  refine List.all_eq_true.mpr fun c inside => ?_
  have digit : c.isDigit = true := Nat.isDigit_of_mem_toDigits (by decide) (by decide) inside
  have feed : c ≠ '\n' := by rintro rfl; cases digit
  have back : c ≠ '\r' := by rintro rfl; cases digit
  simp [feed, back]

theorem flat_hexPair (byte : U8) : flat (hexPair upperDigits byte) = true := by
  have every : ∀ digit : Fin 16, flat [upperDigits.getD digit '0'] = true := by decide
  have high : byte.toNat / 16 < 16 := by have := byte.isLt; omega
  have low : byte.toNat % 16 < 16 := by omega
  exact (flat_append [_] [_]).trans
    (Bool.and_eq_true_iff.mpr ⟨every ⟨_, high⟩, every ⟨_, low⟩⟩)

theorem flat_hex (bytes : List U8) : flat (hex bytes) = true := by
  induction bytes with
  | nil => rfl
  | cons byte rest ih =>
      cases rest with
      | nil => exact flat_hexPair byte
      | cons next rest =>
          change flat (hexPair upperDigits byte ++ ([' '] ++ hex (next :: rest))) = true
          exact flat_joined (flat_hexPair byte) (flat_joined rfl ih)

theorem hex_length {bytes : List U8} (some : bytes ≠ []) :
    (hex bytes).length + 1 = 3 * bytes.length := by
  induction bytes with
  | nil => exact absurd rfl some
  | cons byte rest ih =>
      cases rest with
      | nil => rfl
      | cons next rest =>
          have after := ih (List.cons_ne_nil _ _)
          change (hexPair upperDigits byte ++ ' ' :: hex (next :: rest)).length + 1 = _
          rw [List.length_append, List.length_cons, List.length_cons (a := byte)]
          change 2 + _ + 1 = _
          omega

/-! ## The rows -/

/-- A chord of the script's source, which the table prints as it is. -/
def StepLabel.flat : StepLabel → Bool
  | .key chord => Cli.flat chord.toList
  | .typed _ | .release => true

def Step.flat : Step → Bool
  | .send outgoing => StepLabel.flat outgoing.label
  | .wait _ => true

def Fixtures.flat (fixtures : Fixtures) : Bool :=
  fixtures.packet.all fun packet => Cli.flat packet.name && Cli.flat packet.frame

/-- The frame of one report. -/
def reportFrame (report : KeyboardReport) : List U8 :=
  wire addr Cmd.sendKbGeneralData report.payload

/-- The frame that a row shows, after its number and label. -/
def frameShown (n : Nat) (label line : List Char) : Option (List U8) :=
  readHex ((line.drop (lineStart n label).length).take 41)

/-- The frames of a table, a row for each step. -/
def framesShown (n : Nat) : List Step → List (List Char) → Option (List (List U8))
  | [], [] => some []
  | .wait _ :: steps, _ :: rows => framesShown (n + 1) steps rows
  | .send outgoing :: steps, row :: rows => do
      let frame ← frameShown n (labelText outgoing.label) row
      let frames ← framesShown (n + 1) steps rows
      some (frame :: frames)
  | _, _ => none

theorem encode_report (report : KeyboardReport) :
    encode Cmd.sendKbGeneralData report.payload = .ok (reportFrame report) := by
  have short : ¬ report.payload.length > maxPayload := by
    simp [KeyboardReport.payload, maxPayload]
  rw [encode, encodeInto, if_neg short]
  rfl

theorem reportFrame_length (report : KeyboardReport) : (reportFrame report).length = 14 := by
  rw [reportFrame, wire_length]
  simp [KeyboardReport.payload, overhead]

theorem flat_debugChar (c : Char) : flat (debugChar c) = true := by
  unfold debugChar
  split
  · rfl
  next feed =>
  split
  · rfl
  split
  · rfl
  next back =>
  split
  · rfl
  split
  · rfl
  · simp [flat, feed, back]

theorem flat_labelText {label : StepLabel} (calm : StepLabel.flat label = true) :
    flat (labelText label) = true := by
  cases label with
  | typed c =>
      exact flat_joined (flat_joined rfl (flat_debugChar c)) rfl
  | key chord =>
      change Cli.flat chord.toList = true at calm
      exact flat_joined (by decide) calm
  | release => rfl

theorem flat_lineStart (n : Nat) {label : List Char} (calm : flat label = true) :
    flat (lineStart n label) = true := by
  simp only [lineStart, padLeft, padRight, flat_append, flat_blanks, flat_showNat, calm]
  rfl

theorem flat_frameName {fixtures : Option Fixtures}
    (calm : ∀ known, fixtures = some known → known.flat = true) (payload : List U8)
    (frame : List Char) : flat (frameName fixtures payload frame) = true := by
  unfold frameName
  split
  · rfl
  next fixture found =>
  obtain ⟨known, rfl, found⟩ := Option.bind_eq_some_iff.mp found
  have both := List.all_eq_true.mp (calm known rfl) fixture (List.mem_of_find?_eq_some found)
  rw [Bool.and_eq_true] at both
  split
  · exact both.1
  · exact flat_joined (flat_joined both.1 rfl) both.2

/-- The row of a report shows its frame. -/
theorem renderStep_send (fixtures : Option Fixtures) (n : Nat) (outgoing : Outgoing) :
    ∃ row, renderStep fixtures n (.send outgoing) = .ok row ∧
      frameShown n (labelText outgoing.label) row = some (reportFrame outgoing.report) ∧
      ((∀ known, fixtures = some known → known.flat = true) →
        StepLabel.flat outgoing.label = true → flat row = true) := by
  refine ⟨_, by rw [renderStep, encode_report], ?_, ?_⟩
  · have long : (hex (reportFrame outgoing.report)).length = 41 := by
      have pairs := @hex_length (reportFrame outgoing.report) (List.cons_ne_nil _ _)
      rw [reportFrame_length] at pairs
      omega
    unfold frameShown
    rw [List.append_assoc, List.append_assoc, List.drop_left, ← long, List.take_left, readHex_hex]
  · intro known calm
    have started := flat_lineStart n (flat_labelText calm)
    have framed := flat_joined started (flat_hex (reportFrame outgoing.report))
    exact flat_joined (flat_joined framed rfl) (flat_frameName known _ _)

theorem renderSteps_rows {fixtures : Option Fixtures}
    (known : ∀ given, fixtures = some given → given.flat = true) {steps : List Step}
    (calm : steps.all Step.flat = true) (n : Nat) :
    ∃ text, renderSteps fixtures n steps = .ok text ∧
      (linesOf text).length = steps.length ∧
      framesShown n steps (linesOf text) = some ((stepReports steps).map reportFrame) := by
  induction steps generalizing n with
  | nil => exact ⟨[], rfl, rfl, rfl⟩
  | cons step rest ih =>
      rw [List.all_cons, Bool.and_eq_true] at calm
      obtain ⟨text, rendered, long, shown⟩ := ih calm.2 (n + 1)
      cases step with
      | wait millis =>
          have still : flat (lineStart n (waitText millis) ++ ['-', '-']) = true := by
            have label : flat (waitText millis) = true :=
              flat_joined (flat_joined (by decide +kernel) (flat_showNat millis))
                (by decide)
            exact flat_joined (flat_lineStart n label) rfl
          have drawn : renderStep fixtures n (.wait millis) =
              .ok (lineStart n (waitText millis) ++ ['-', '-']) := rfl
          refine ⟨lineStart n (waitText millis) ++ ['-', '-'] ++ '\n' :: text,
            by simp only [renderSteps, drawn, rendered], ?_, ?_⟩
          · rw [linesOf_line still, List.length_cons, long, List.length_cons]
          · rw [linesOf_line still, framesShown]
            exact shown
      | send outgoing =>
          obtain ⟨row, drawn, frame, still⟩ := renderStep_send fixtures n outgoing
          refine ⟨row ++ '\n' :: text, by simp only [renderSteps, drawn, rendered], ?_, ?_⟩
          · rw [linesOf_line (still known calm.1), List.length_cons, long, List.length_cons]
          · rw [linesOf_line (still known calm.1), framesShown, frame, shown]
            rfl

theorem flat_headerWords : flat "dry run: ".toList = true ∧
    flat " reports, nothing sent, no device opened".toList = true := by
  constructor <;> rfl

theorem flat_dryRunHeader (reports : Nat) : flat (dryRunHeader reports) = true := by
  exact flat_joined (flat_joined flat_headerWords.1 (flat_showNat reports)) flat_headerWords.2

/-- The table of a script shows, row by row, the frames that a delivery of it hands to the link,
up to the one where it stops. -/
theorem dry_run_shows_what_is_sent (script : Script) (fixtures : Option Fixtures)
    (calm : script.steps.all Step.flat = true)
    (known : ∀ given, fixtures = some given → given.flat = true) :
    ∃ text rows frames, render script fixtures = .ok text ∧
      linesOf text = dryRunHeader frames.length :: rows ∧
      rows.length = script.steps.length ∧
      framesShown 1 script.steps rows = some frames ∧
      ∀ (world : World) (compiled : Compiled) (how : Delivery),
        Cleared world compiled how script →
        ∃ n ≤ frames.length,
          (deliver world compiled how).handed.map reportFrame =
            frames.take n ++ [reportFrame KeyboardReport.releaseAll] ∧
          (∀ sent, (deliver world compiled how).result = .ok (.delivered sent) →
            n = frames.length ∧ sent = frames.length) ∧
          ∀ error sent, (deliver world compiled how).result = .error error →
            error.sent = some sent → sent ≤ n ∧ n ≤ sent + 1 := by
  obtain ⟨text, rendered, long, shown⟩ := renderSteps_rows known calm 1
  have count : (script.reports.map reportFrame).length = reportCount script :=
    List.length_map ..
  refine ⟨_, linesOf text, script.reports.map reportFrame, by rw [render, rendered], ?_, long,
    shown, ?_⟩
  · rw [linesOf_line (flat_dryRunHeader _), count]
  · intro world compiled how cleared
    obtain ⟨n, bounded, handed, ended⟩ := guarded_result world script how.delay
    rw [deliver_cleared cleared]
    refine ⟨n, by rw [List.length_map]; exact bounded, ?_, ?_, ?_⟩
    · rw [handed, List.map_append, List.map_take]
      rfl
    · intro sent delivered
      rw [delivered] at ended
      obtain ⟨all, same, -⟩ := ended
      rw [List.length_map]
      exact ⟨all, same.trans all⟩
    · intro error sent failed named
      rw [failed] at ended
      cases error with
      | interrupted | paused =>
          cases named
          obtain ⟨rfl, -⟩ := ended
          omega
      | unacknowledged =>
          cases named
          obtain ⟨rfl, -⟩ := ended
          omega
      | opening | resync | getInfo | noTarget | capsLock => cases named

/-- A chord, a wait, and a fixture for the release. -/
def chordScript : Script :=
  ⟨[.send ⟨.key "shift+a", ⟨2#8, #v[4#8, 0#8, 0#8, 0#8, 0#8, 0#8]⟩⟩,
    .send ⟨.release, KeyboardReport.releaseAll⟩, .wait 250]⟩

def releaseFixture : Fixtures :=
  ⟨[⟨"kb_release_all".toList, Cmd.sendKbGeneralData, KeyboardReport.releaseAll.payload,
    "57 ab 00 02 08 00 00 00 00 00 00 00 00 0c".toList⟩]⟩

theorem dry_run_shows_what_is_sent_chord :
    ∃ rows frames, framesShown 1 chordScript.steps rows = some frames ∧ frames.length = 2 ∧
      (deliver capsTarget ⟨chordScript, none⟩ ⟨5, false, .refuse⟩).handed.map reportFrame =
        frames ++ [reportFrame KeyboardReport.releaseAll] := by
  obtain ⟨text, rows, frames, -, -, -, shown, sent⟩ :=
    dry_run_shows_what_is_sent chordScript (some releaseFixture) (by decide)
      (fun given same => by rw [← Option.some.inj same]; decide)
  obtain ⟨n, -, handed, delivered, -⟩ := sent capsTarget ⟨chordScript, none⟩ ⟨5, false, .refuse⟩
    ⟨rfl, rfl, rfl, ⟨8#8, true, false, true, false⟩, rfl, rfl, rfl⟩
  obtain ⟨all, two⟩ := delivered 2 (by decide +kernel)
  refine ⟨rows, frames, shown, two.symm, ?_⟩
  rw [handed, all, List.take_length]

end NanoKvm.Cli
