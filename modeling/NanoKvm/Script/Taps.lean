import NanoKvm.Script.Macro

/-!
# Scripts are taps

Every script that compiles is presses of at most one key, each let go by the next
report, with waits between them only.  Compensating for CapsLock changes the shift
bit of the letters of text, and nothing else.
-/

set_option autoImplicit false
set_option linter.dupNamespace false

namespace NanoKvm.Script

open NanoKvm.Proto

/-! ## Presses and releases -/

/-- A report that holds something, of the usages at most one. -/
def Press (report : KeyboardReport) : Prop :=
  report ≠ KeyboardReport.releaseAll ∧ (report.keys.toList.filter (· ≠ 0#8)).length ≤ 1

/-- Each press is let go before anything else, a wait or the end. -/
inductive Taps : List Step → Prop where
  | done : Taps []
  | wait {millis : Nat} {rest : List Step} (taps : Taps rest) : Taps (.wait millis :: rest)
  | tap {label released : StepLabel} {report : KeyboardReport} {rest : List Step}
      (press : Press report) (taps : Taps rest) :
      Taps (.send ⟨label, report⟩ :: .send ⟨released, KeyboardReport.releaseAll⟩ :: rest)

/-- The taps of a script: a usage in the first slot, or none, under some modifiers. -/
inductive Tapped : List Step → Prop where
  | done : Tapped []
  | wait {millis : Nat} {rest : List Step} (tapped : Tapped rest) : Tapped (.wait millis :: rest)
  | tap {usage modifiers : U8} {rest : List Step} (label : StepLabel)
      (presses : usage ≠ 0#8 ∨ modifiers ≠ 0#8) (tapped : Tapped rest) :
      Tapped (tapSteps usage modifiers label ++ rest)

theorem Tapped.append {steps more : List Step} (tapped : Tapped steps) (later : Tapped more) :
    Tapped (steps ++ more) := by
  induction tapped with
  | done => exact later
  | wait _ ih => exact .wait ih
  | tap label presses _ ih =>
      rw [List.append_assoc]
      exact .tap label presses ih

theorem Tapped.flatMap {α : Type} {tap : α → List Step} {items : List α}
    (each : ∀ item ∈ items, Tapped (tap item)) : Tapped (items.flatMap tap) := by
  induction items with
  | nil => exact .done
  | cons item rest ih =>
      rw [List.flatMap_cons]
      exact (each item List.mem_cons_self).append
        (ih fun other member => each other (List.mem_cons_of_mem _ member))

theorem tapSteps_tapped {usage modifiers : U8} (label : StepLabel)
    (presses : usage ≠ 0#8 ∨ modifiers ≠ 0#8) : Tapped (tapSteps usage modifiers label) := by
  have alone := Tapped.tap label presses .done
  rwa [List.append_nil] at alone

theorem press_tap {usage modifiers : U8} (presses : usage ≠ 0#8 ∨ modifiers ≠ 0#8) :
    Press (tapReport usage modifiers) := by
  refine ⟨fun same => ?_, ?_⟩
  · have bits : modifiers = 0#8 := congrArg KeyboardReport.modifiers same
    have first : usage = 0#8 :=
      congrArg (fun report : KeyboardReport => report.keys[0]) same
    rcases presses with some | some
    · exact some first
    · exact some bits
  · change (List.filter _ [usage, 0#8, 0#8, 0#8, 0#8, 0#8]).length ≤ 1
    by_cases none : usage = 0#8 <;> simp [none]

theorem Tapped.taps {steps : List Step} (tapped : Tapped steps) : Taps steps := by
  induction tapped with
  | done => exact .done
  | wait _ ih => exact .wait ih
  | tap label presses _ ih => exact .tap (press_tap presses) ih

/-- The steps of one character. -/
theorem layout_tapped (layout : Layout) (caps : CapsLock) (c : Char) :
    Tapped (layout.tap caps c) := by
  unfold Layout.tap Layout.stroke
  cases layout.keyForChar c with
  | none => exact .done
  | some found =>
      obtain ⟨key, shift⟩ := found
      dsimp only
      cases mapped : usageOf key with
      | error e => exact .done
      | ok usage => exact tapSteps_tapped _ (.inl (usageOf_key mapped))

theorem pushChord_tapped {layout : Layout} {text : List Char} {chord : Chord} {label : StepLabel}
    {script after : Script} (parsed : parseChordWith layout text = .ok chord)
    (tapped : Tapped script.steps) (pushed : pushChord script chord label = .ok after) :
    Tapped after.steps := by
  have holds := parseChordWith_holds parsed
  unfold pushChord at pushed
  cases key : chord.key with
  | none =>
      rw [key] at pushed
      cases pushed
      exact tapped.append (tapSteps_tapped _ (.inr (holds key)))
  | some code =>
      rw [key] at pushed
      cases mapped : usageOf code with
      | error e => simp [mapped, Bind.bind, Except.bind] at pushed
      | ok usage =>
          simp only [mapped, Bind.bind, Except.bind, pure, Except.pure, Except.ok.injEq] at pushed
          subst pushed
          exact tapped.append (tapSteps_tapped _ (.inl (usageOf_key mapped)))

theorem compileType_tapped {text : List Char} {layout : Layout} {caps : CapsLock} {script : Script}
    (compiled : compileType text layout caps = .ok script) : Tapped script.steps := by
  rw [(compileType_ok compiled).2]
  exact .flatMap fun c _ => layout_tapped layout caps c

theorem compileKey_tapped {chords : List (List Char)} {layout : Layout} {script : Script}
    (compiled : compileKey chords layout = .ok script) : Tapped script.steps := by
  have all : ∀ (chords : List (List Char)) (state after : Script × List ChordError),
      Tapped state.1.steps → chords.foldlM (keyChord layout) state = .ok after →
        Tapped after.1.steps := by
    intro chords
    induction chords with
    | nil =>
        intro state after tapped folded
        cases folded
        exact tapped
    | cons text rest ih =>
        intro state after tapped folded
        rw [List.foldlM_cons] at folded
        cases first : keyChord layout state text with
        | error e => simp [first, Bind.bind, Except.bind] at folded
        | ok middle =>
            simp only [first, Bind.bind, Except.bind] at folded
            refine ih middle after ?_ folded
            unfold keyChord at first
            cases parsed : parseChordWith layout text with
            | error e =>
                simp only [parsed, Except.ok.injEq] at first
                rw [← first]
                exact tapped
            | ok chord =>
                simp only [parsed] at first
                split at first
                · rename_i pushed
                  cases first
                  exact pushChord_tapped parsed tapped pushed
                · cases first
  unfold compileKey at compiled
  split at compiled
  · cases compiled
  · rename_i folded
    have tapped := all chords _ _ .done folded
    split at compiled
    · cases compiled
    split at compiled
    · cases compiled
    · cases compiled
      exact tapped

/-! ## Lines -/

section Lines
variable {caller : Option Layout} {caps : CapsLock} {state : MacroState}

theorem compileLayout_script (caller : Option Layout) (state : MacroState) (rest : List Char) :
    (compileLayout caller state rest).2.script = state.script := by
  unfold compileLayout
  dsimp only
  split
  · rfl
  split
  · rfl
  split
  · split <;> rfl
  · split <;> rfl

theorem compileStep_tapped (tapped : Tapped state.script.steps) (word rest : List Char) :
    Tapped (compileStep caps state word rest).2.script.steps := by
  unfold compileStep
  dsimp only
  split
  · split
    · exact tapped
    split
    · exact tapped
    · rename_i parsed
      split
      · rename_i pushed
        exact pushChord_tapped parsed tapped pushed
      · exact tapped
  split
  · split
    · rename_i typed
      exact tapped.append (compileType_tapped typed)
    · exact tapped
  split
  · split
    · exact tapped
    split
    · exact tapped
    · exact tapped.append (.wait .done)
  · exact tapped

theorem compileRaw_tapped (tapped : Tapped state.script.steps) (raw : List Char) :
    Tapped (compileRaw caller caps state raw).2.script.steps := by
  unfold compileRaw compileLine
  split
  · dsimp only
    split
    · rw [compileLayout_script]
      exact tapped
    · have declared : Tapped ({ state with declared := true } : MacroState).script.steps := tapped
      exact compileStep_tapped declared _ _
  · exact tapped

theorem macroStep_tapped {acc : MacroState × List (Nat × LineError)}
    (tapped : Tapped acc.1.script.steps) (numbered : List Char × Nat) :
    Tapped (macroStep caller caps acc numbered).1.script.steps := by
  have after := @compileRaw_tapped caller caps acc.1 tapped numbered.1
  unfold macroStep
  split
  all_goals
    rename_i same
    rw [same] at after
    exact after

theorem compileMacro_tapped {source : List Char} {script : Script}
    (compiled : compileMacro source caller caps = .ok script) : Tapped script.steps := by
  have all : ∀ (lines : List (List Char × Nat)) (acc : MacroState × List (Nat × LineError)),
      Tapped acc.1.script.steps →
        Tapped (lines.foldl (macroStep caller caps) acc).1.script.steps := by
    intro lines
    induction lines with
    | nil => exact fun _ tapped => tapped
    | cons line rest ih => exact fun acc tapped => ih _ (macroStep_tapped tapped line)
  have tapped := all (linesOf source).zipIdx (MacroState.start caller, []) .done
  unfold compileMacro macroFold at compiled
  dsimp only at compiled
  generalize (linesOf source).zipIdx.foldl (macroStep caller caps)
    (MacroState.start caller, []) = folded at compiled tapped
  unfold macroResult at compiled
  split at compiled
  · split at compiled
    · cases compiled
    · cases compiled
      exact tapped
  · cases compiled
  · cases compiled

end Lines

/-! ## Compensating -/

/-- The press of an ASCII letter of text has its left shift flipped. -/
def Step.compensate : Step → Step
  | .send ⟨.typed c, report⟩ =>
      if c.isAlpha then
        .send ⟨.typed c, { report with modifiers := report.modifiers ^^^ Modifier.leftShift }⟩
      else .send ⟨.typed c, report⟩
  | step => step

def Script.compensate (script : Script) : Script := ⟨script.steps.map Step.compensate⟩

def MacroState.compensate (state : MacroState) : MacroState :=
  { state with script := state.script.compensate }

section Compensate

theorem tapSteps_compensate (usage modifiers : U8) (c : Char) :
    (tapSteps usage modifiers (.typed c)).map Step.compensate =
      tapSteps usage (if c.isAlpha then modifiers ^^^ Modifier.leftShift else modifiers)
        (.typed c) := by
  by_cases letter : c.isAlpha = true <;> simp [tapSteps, Step.compensate, letter]

theorem chordSteps_compensate (usage modifiers : U8) (text : String) :
    (tapSteps usage modifiers (.key text)).map Step.compensate =
      tapSteps usage modifiers (.key text) := rfl

theorem shiftFor_compensate (c : Char) (shift : Bool) :
    (if CapsLock.compensate.shiftFor c shift then Modifier.leftShift else 0#8) =
      if c.isAlpha then (if CapsLock.off.shiftFor c shift then Modifier.leftShift else 0#8) ^^^
          Modifier.leftShift
      else if CapsLock.off.shiftFor c shift then Modifier.leftShift else 0#8 := by
  unfold CapsLock.shiftFor
  cases c.isAlpha <;> cases shift <;> decide

theorem tap_compensate (script : Script) (usage modifiers : U8) (c : Char) :
    script.compensate.tap usage
        (if c.isAlpha then modifiers ^^^ Modifier.leftShift else modifiers) (.typed c) =
      (script.tap usage modifiers (.typed c)).compensate := by
  simp only [Script.tap, Script.compensate, List.map_append, tapSteps_compensate]

theorem typeChar_compensate (layout : Layout) (script : Script) (c : Char) :
    typeChar layout .compensate script.compensate c =
      (typeChar layout .off script c).map Script.compensate := by
  unfold typeChar
  cases layout.keyForChar c with
  | none => rfl
  | some found =>
      obtain ⟨key, shift⟩ := found
      dsimp only
      cases mapped : usageOf key with
      | error e => rfl
      | ok usage =>
          simp only [Bind.bind, Except.bind, pure, Except.pure, Except.map]
          rw [shiftFor_compensate, tap_compensate]

theorem foldlM_compensate (layout : Layout) (text : List Char) (script : Script) :
    text.foldlM (typeChar layout .compensate) script.compensate =
      (text.foldlM (typeChar layout .off) script).map Script.compensate := by
  induction text generalizing script with
  | nil => rfl
  | cons c rest ih =>
      rw [List.foldlM_cons, List.foldlM_cons, typeChar_compensate]
      cases typeChar layout .off script c with
      | error e => rfl
      | ok middle => exact ih middle

theorem compileType_compensate (text : List Char) (layout : Layout) :
    compileType text layout .compensate =
      (compileType text layout .off).map Script.compensate := by
  unfold compileType
  dsimp only
  split
  · rfl
  split
  · rfl
  · exact foldlM_compensate layout text ⟨[]⟩

theorem chordTap_compensate (script : Script) (usage modifiers : U8) (text : String) :
    script.compensate.tap usage modifiers (.key text) =
      (script.tap usage modifiers (.key text)).compensate := by
  simp only [Script.tap, Script.compensate, List.map_append, chordSteps_compensate]

theorem pushChord_compensate (script : Script) (chord : Chord) (text : String) :
    pushChord script.compensate chord (.key text) =
      (pushChord script chord (.key text)).map Script.compensate := by
  unfold pushChord
  cases chord.key with
  | none => exact congrArg Except.ok (chordTap_compensate _ _ _ _)
  | some key =>
      cases mapped : usageOf key with
      | error e => simp [mapped, Bind.bind, Except.bind, Except.map]
      | ok usage =>
          simp only [mapped, Bind.bind, Except.bind, pure, Except.pure, Except.map]
          rw [chordTap_compensate]

/-! ## A whole macro, compensated -/

theorem compensate_empty (script : Script) :
    (script.compensate.steps = []) = (script.steps = []) := by
  simp [Script.compensate]

theorem compileLayout_compensate (caller : Option Layout) (state : MacroState)
    (rest : List Char) :
    compileLayout caller state.compensate rest =
      ((compileLayout caller state rest).1, (compileLayout caller state rest).2.compensate) := by
  have empty := compensate_empty state.script
  unfold compileLayout MacroState.compensate
  simp only [ne_eq, empty]
  split
  · rfl
  split
  · rfl
  split
  · split <;> rfl
  · split <;> rfl

theorem compileStep_compensate (state : MacroState) (word rest : List Char) :
    compileStep .compensate state.compensate word rest =
      ((compileStep .off state word rest).1,
        (compileStep .off state word rest).2.compensate) := by
  unfold compileStep MacroState.compensate
  dsimp only
  split
  · split
    · rfl
    split
    · rfl
    · rw [pushChord_compensate]
      cases pushChord state.script _ (.key _) <;> rfl
  split
  · rw [compileType_compensate]
    cases compileType rest state.active .off with
    | error e => rfl
    | ok typed => simp [Except.map, Script.compensate]
  split
  · split
    · rfl
    split
    · rfl
    · simp [Script.compensate, Step.compensate]
  · rfl

theorem compileRaw_compensate (caller : Option Layout) (state : MacroState) (raw : List Char) :
    compileRaw caller .compensate state.compensate raw =
      ((compileRaw caller .off state raw).1, (compileRaw caller .off state raw).2.compensate) := by
  unfold compileRaw
  split
  · unfold compileLine
    dsimp only
    split
    · exact compileLayout_compensate caller state _
    · exact compileStep_compensate { state with declared := true } _ _
  · rfl

theorem macro_compensate (caller : Option Layout) (lines : List (List Char × Nat))
    (state : MacroState) (failures : List (Nat × LineError)) :
    lines.foldl (macroStep caller .compensate) (state.compensate, failures) =
      ((lines.foldl (macroStep caller .off) (state, failures)).1.compensate,
        (lines.foldl (macroStep caller .off) (state, failures)).2) := by
  induction lines generalizing state failures with
  | nil => rfl
  | cons line rest ih =>
      have first : macroStep caller .compensate (state.compensate, failures) line =
          ((macroStep caller .off (state, failures) line).1.compensate,
            (macroStep caller .off (state, failures) line).2) := by
        unfold macroStep
        dsimp only
        rw [compileRaw_compensate]
        rcases compileRaw caller .off state line.1 with ⟨_ | error, after⟩ <;> rfl
      rw [List.foldl_cons, List.foldl_cons, first, ih]

theorem macroResult_compensate (script : Script) (failures : List (Nat × LineError)) :
    macroResult script.compensate failures =
      (macroResult script failures).map Script.compensate := by
  unfold macroResult
  split
  · simp only [compensate_empty]
    split <;> rfl
  · rfl
  · rfl

/-- Compensating fails on the same macros with the same errors, and gives the same
steps but for the shift bit of the letters of text. -/
theorem compileMacro_compensate (source : List Char) (caller : Option Layout) :
    compileMacro source caller .compensate =
      (compileMacro source caller .off).map Script.compensate := by
  have folded : macroFold caller .compensate (linesOf source) =
      ((macroFold caller .off (linesOf source)).1.compensate,
        (macroFold caller .off (linesOf source)).2) :=
    macro_compensate caller (linesOf source).zipIdx (MacroState.start caller) []
  unfold compileMacro
  rw [folded]
  exact macroResult_compensate _ _

end Compensate

/-! ## What the command line asks -/

/-- The press of an ASCII letter of text. -/
def Step.IsLetter (step : Step) : Prop :=
  ∃ c report, c.isAlpha = true ∧ step = .send ⟨.typed c, report⟩

theorem compensate_moves {step : Step} : step.compensate ≠ step ↔ step.IsLetter := by
  unfold Step.compensate
  split
  · rename_i c report
    by_cases letter : c.isAlpha = true
    · have moved : report.modifiers ^^^ Modifier.leftShift ≠ report.modifiers := by
        intro same
        have bit := congrArg (fun bits : U8 => bits ^^^ report.modifiers) same
        rw [BitVec.xor_self, BitVec.xor_comm, ← BitVec.xor_assoc, BitVec.xor_self,
          BitVec.zero_xor] at bit
        cases bit
      rw [if_pos letter]
      refine ⟨fun _ => ⟨c, report, letter, rfl⟩, fun _ same => ?_⟩
      injection same with outgoing
      injection outgoing with _ same
      exact moved (congrArg KeyboardReport.modifiers same)
    · rw [if_neg letter]
      refine ⟨fun moved => absurd rfl moved, ?_⟩
      rintro ⟨_, _, other, ⟨⟩⟩
      exact absurd other letter
  · rename_i other
    refine ⟨fun moved => absurd rfl moved, ?_⟩
    rintro ⟨c, report, -, rfl⟩
    exact absurd rfl (other c report)

theorem map_moves {α : Type} {f : α → α} {items : List α} :
    items.map f ≠ items ↔ ∃ item ∈ items, f item ≠ item := by
  induction items with
  | nil => simp
  | cons item rest ih => simp only [List.map_cons, ne_eq, List.cons.injEq, not_and_or, ih,
      List.mem_cons, exists_eq_or_imp]

/-- CapsLock matters exactly for a macro whose text has an ASCII letter. -/
theorem affected_iff {source : List Char} {layout : Option Layout} {compiled : Compiled}
    (prepared : compiledMacro source layout = .ok compiled) :
    compiled.affectedByCapsLock = true ↔ ∃ step ∈ compiled.script.steps, step.IsLetter := by
  unfold compiledMacro at prepared
  rw [compileMacro_compensate] at prepared
  cases off : compileMacro source layout .off with
  | error e => simp [off] at prepared
  | ok script =>
      simp only [off, Except.map, Except.ok.injEq] at prepared
      subst prepared
      have moves : (∃ step ∈ script.steps, step.IsLetter) ↔
          script.steps.map Step.compensate ≠ script.steps := by
        rw [map_moves]
        simp only [compensate_moves]
      rw [moves]
      obtain ⟨steps⟩ := script
      simp [Compiled.affectedByCapsLock, Script.compensate]

/-- Every script is taps and waits between them; and a macro compiles with the same
outcome under compensation, its steps those for CapsLock off but for the left shift of
the ASCII letters of its text. -/
theorem scripts_tap (caller : Option Layout) (layout : Layout) (caps : CapsLock) :
    (∀ chords script, compileKey chords layout = .ok script → Taps script.steps) ∧
      (∀ text script, compileType text layout caps = .ok script → Taps script.steps) ∧
      (∀ source script, compileMacro source caller caps = .ok script → Taps script.steps) ∧
      ∀ source, compileMacro source caller .compensate =
        (compileMacro source caller .off).map Script.compensate :=
  ⟨fun _ _ compiled => (compileKey_tapped compiled).taps,
    fun _ _ compiled => (compileType_tapped compiled).taps,
    fun _ _ compiled => (compileMacro_tapped compiled).taps,
    fun source => compileMacro_compensate source caller⟩

/-- Text, a wait and a chord. -/
def mixedMacro : List Char := "type aB\nwait 5\nkey ctrl+c".toList

def mixedScript : Script :=
  ⟨tapSteps 0x04#8 0x02#8 (.typed 'a') ++ tapSteps 0x05#8 0#8 (.typed 'B') ++ [.wait 5] ++
    tapSteps 0x06#8 0x01#8 (.key "ctrl+c")⟩

theorem scripts_tap_mixed :
    compileMacro mixedMacro none .compensate = .ok mixedScript ∧ Taps mixedScript.steps ∧
      compileMacro mixedMacro none .compensate =
        (compileMacro mixedMacro none .off).map Script.compensate := by
  have compiled : compileMacro mixedMacro none .compensate = .ok mixedScript := by
    rfl
  have taps := scripts_tap none .us .compensate
  exact ⟨compiled, taps.2.2.1 _ _ compiled, taps.2.2.2 _⟩

end NanoKvm.Script
