import NanoKvm.Script.Macro

/-!
# Diagnostics in one pass

A macro's bad lines are reported together.  What a line does is decided by its own
text, but for a layout directive, which must come before any other line that
compiles or fails.  A directive that lacks its name fails before it is taken for
one, so the directive after it is accepted, and fails once the first is repaired.
-/

set_option autoImplicit false
set_option linter.dupNamespace false

namespace NanoKvm.Script

open NanoKvm.Proto

/-! ## Lines and what they report -/

/-- The lines the error of a macro names, by number. -/
def reported (caller : Option Layout) (caps : CapsLock) (source : List Char) :
    List (Nat × LineError) :=
  match compileMacro source caller caps with
  | .error (.line line error) => [(line, error)]
  | .error (.lines lines) => lines
  | _ => []

def failing (caller : Option Layout) (caps : CapsLock) (source : List Char) : List Nat :=
  (reported caller caps source).map Prod.fst

def leadingWord (raw : List Char) : List Char := (splitWord (trimStart raw)).1

def argument (raw : List Char) : List Char := (splitWord (trimStart raw)).2

/-- A layout directive. -/
def directive (raw : List Char) : Bool :=
  significant raw && eqIgnoreAsciiCase (leadingWord raw) layoutWord

/-- A layout directive without a name. -/
def nameless (raw : List Char) : Bool := directive raw && trim (argument raw) = []

/-- Line `i` is a layout directive, and a line of the kind stands before it. -/
def directiveAfter (kind : List Char → Bool) (lines : List (List Char)) (i : Nat) : Bool :=
  lines[i]?.any directive && (lines.take i).any kind

/-- The state in which the line after `lines` is compiled. -/
def stateAfter (caller : Option Layout) (caps : CapsLock) (lines : List (List Char)) :
    MacroState :=
  lines.foldl (fun state raw => (compileRaw caller caps state raw).2) (MacroState.start caller)

def errorAt (caller : Option Layout) (caps : CapsLock) (lines : List (List Char)) (i : Nat) :
    Option LineError :=
  lines[i]?.bind fun raw => (compileRaw caller caps (stateAfter caller caps (lines.take i)) raw).1

/-- The steps line `i` adds. -/
def stepsAt (caller : Option Layout) (caps : CapsLock) (lines : List (List Char)) (i : Nat) :
    List Step :=
  (stateAfter caller caps (lines.take (i + 1))).script.steps.drop
    (stateAfter caller caps (lines.take i)).script.steps.length

/-- Each reported line is replaced by one with its leading word that compiles alone. -/
structure Repairs (caller : Option Layout) (caps : CapsLock) (source fixed : List Char) :
    Prop where
  length : (linesOf fixed).length = (linesOf source).length
  kept : ∀ i, i + 1 ∉ failing caller caps source → (linesOf fixed)[i]? = (linesOf source)[i]?
  replaced : ∀ i raw repaired, i + 1 ∈ failing caller caps source →
    (linesOf source)[i]? = some raw → (linesOf fixed)[i]? = some repaired →
      leadingWord repaired = leadingWord raw ∧
        (compileRaw caller caps (MacroState.start caller) repaired).1 = none

section Report
variable {caller : Option Layout} {caps : CapsLock} {lines : List (List Char)}

theorem stateAfter_snoc (raw : List Char) :
    stateAfter caller caps (lines ++ [raw]) =
      (compileRaw caller caps (stateAfter caller caps lines) raw).2 := by
  simp [stateAfter]

theorem macroFold_snoc (raw : List Char) :
    macroFold caller caps (lines ++ [raw]) =
      macroStep caller caps (macroFold caller caps lines) (raw, lines.length) := by
  simp [macroFold, List.zipIdx_append]

theorem macroFold_state : (macroFold caller caps lines).1 = stateAfter caller caps lines := by
  induction lines using List.reverseRecOn with
  | nil => rfl
  | append_singleton lines raw ih =>
      rw [macroFold_snoc, stateAfter_snoc, ← ih]
      unfold macroStep
      split
      all_goals
        rename_i same
        rw [same]

theorem errorAt_snoc (raw : List Char) (i : Nat) :
    errorAt caller caps (lines ++ [raw]) i =
      if i = lines.length then (compileRaw caller caps (stateAfter caller caps lines) raw).1
      else errorAt caller caps lines i := by
  unfold errorAt
  rcases Nat.lt_trichotomy i lines.length with before | rfl | after
  · rw [if_neg (by omega), List.getElem?_append_left before,
      List.take_append_of_le_length (by omega)]
  · simp
  · rw [if_neg (by omega), List.getElem?_eq_none (by simp; omega),
      List.getElem?_eq_none (by omega)]
    rfl

theorem errorAt_end : errorAt caller caps lines lines.length = none := by
  simp [errorAt]

/-- The failures of a macro are the lines that fail, by number. -/
theorem mem_macroFold {n : Nat} {error : LineError} :
    (n, error) ∈ (macroFold caller caps lines).2 ↔
      ∃ i, n = i + 1 ∧ errorAt caller caps lines i = some error := by
  induction lines using List.reverseRecOn with
  | nil => simp [macroFold, errorAt]
  | append_singleton lines raw ih =>
      have split : (∃ i, n = i + 1 ∧ errorAt caller caps (lines ++ [raw]) i = some error) ↔
          (∃ i, n = i + 1 ∧ errorAt caller caps lines i = some error) ∨
            n = lines.length + 1 ∧
              (compileRaw caller caps (stateAfter caller caps lines) raw).1 = some error := by
        simp only [errorAt_snoc]
        constructor
        · rintro ⟨i, number, fails⟩
          by_cases last : i = lines.length
          · rw [if_pos last] at fails
            exact .inr ⟨by rw [number, last], fails⟩
          · rw [if_neg last] at fails
            exact .inl ⟨i, number, fails⟩
        · rintro (⟨i, number, fails⟩ | ⟨number, fails⟩)
          · refine ⟨i, number, ?_⟩
            by_cases last : i = lines.length
            · rw [last, errorAt_end] at fails
              cases fails
            · rwa [if_neg last]
          · exact ⟨lines.length, number, by rwa [if_pos rfl]⟩
      rw [macroFold_snoc, split, ← ih, ← macroFold_state]
      unfold macroStep
      rcases compileRaw caller caps (macroFold caller caps lines).1 raw with ⟨_ | found, after⟩
      · simp
      · simp [eq_comm]

theorem reported_fold (source : List Char) :
    reported caller caps source = (macroFold caller caps (linesOf source)).2 := by
  unfold reported compileMacro
  dsimp only
  rcases macroFold caller caps (linesOf source) with ⟨state, _ | ⟨first, _ | ⟨second, rest⟩⟩⟩
  · by_cases empty : state.script.steps = [] <;> simp [macroResult, empty]
  · rfl
  · rfl

theorem mem_reported {source : List Char} {n : Nat} {error : LineError} :
    (n, error) ∈ reported caller caps source ↔
      ∃ i, n = i + 1 ∧ errorAt caller caps (linesOf source) i = some error := by
  rw [reported_fold, mem_macroFold]

theorem mem_failing {source : List Char} {i : Nat} :
    i + 1 ∈ failing caller caps source ↔ errorAt caller caps (linesOf source) i ≠ none := by
  simp only [failing, List.mem_map, Prod.exists, mem_reported, Option.ne_none_iff_exists']
  constructor
  · rintro ⟨n, error, ⟨j, rfl, fails⟩, number⟩
    obtain rfl : j = i := by omega
    exact ⟨error, fails⟩
  · rintro ⟨error, fails⟩
    exact ⟨i + 1, error, ⟨i, rfl, fails⟩, rfl⟩

/-- With nothing to report a macro compiles, or has no step. -/
theorem compileMacro_clean {source : List Char} (clean : failing caller caps source = []) :
    compileMacro source caller caps =
      if (stateAfter caller caps (linesOf source)).script.steps = [] then .error .emptyMacro
      else .ok (stateAfter caller caps (linesOf source)).script := by
  rw [failing, reported_fold, List.map_eq_nil_iff] at clean
  unfold compileMacro
  dsimp only
  rw [clean, macroFold_state]
  rfl

end Report

/-! ## One line -/

/-- What the name of a directive can be wrong for. -/
def nameError (caller : Option Layout) (name : List Char) : Option LineError :=
  match caller with
  | some want => if Layout.parse name ≠ some want then some (.layoutConflict name want) else none
  | none =>
      match Layout.parse name with
      | some _ => none
      | none => some (.layout name)

/-- What a line that is no directive comes to, by its own text. -/
def lineSteps (caps : CapsLock) (word rest : List Char) : Except LineError (List Step) :=
  match compileStep caps ⟨⟨[]⟩, Layout.default, true⟩ word rest with
  | (some error, _) => .error error
  | (none, state) => .ok state.script.steps

def rawSteps (caps : CapsLock) (raw : List Char) : Except LineError (List Step) :=
  if significant raw then lineSteps caps (leadingWord raw) (argument raw) else .ok []

section Line
variable {caller : Option Layout} {caps : CapsLock} {state : MacroState} {raw : List Char}

theorem pushChord_steps (script : Script) (chord : Chord) (label : StepLabel) :
    pushChord script chord label = (pushChord ⟨[]⟩ chord label).map fun pushed =>
      ⟨script.steps ++ pushed.steps⟩ := by
  unfold pushChord
  cases chord.key with
  | none => rfl
  | some key =>
      cases mapped : usageOf key with
      | error e => simp [mapped, Bind.bind, Except.bind, Except.map]
      | ok usage => simp [mapped, Bind.bind, Except.bind, pure, Except.pure, Except.map, Script.tap]

/-- There is one layout, so the state only gets the steps of the line. -/
theorem compileStep_steps (caps : CapsLock) (state : MacroState) (word rest : List Char) :
    compileStep caps state word rest =
      match lineSteps caps word rest with
      | .error error => (some error, state)
      | .ok steps => (none, { state with script := ⟨state.script.steps ++ steps⟩ }) := by
  have active : state.active = Layout.default := by
    cases state.active
    rfl
  unfold lineSteps compileStep
  dsimp only
  rw [active]
  split
  · split
    · rfl
    cases parseChordWith Layout.default (trim rest) with
    | error error => rfl
    | ok chord =>
        dsimp only
        rw [pushChord_steps]
        cases pushChord ⟨[]⟩ chord (.key (String.ofList (trim rest))) <;> rfl
  split
  · cases compileType rest Layout.default caps <;> rfl
  split
  · cases parseU64 (trim rest) with
    | none => rfl
    | some ms =>
        dsimp only
        split <;> rfl
  · rfl

theorem compileRaw_step (other : directive raw = false) :
    compileRaw caller caps state raw =
      match rawSteps caps raw with
      | .error error => (some error, { state with declared := state.declared || significant raw })
      | .ok steps => (none,
          { state with
            script := ⟨state.script.steps ++ steps⟩
            declared := state.declared || significant raw }) := by
  unfold compileRaw rawSteps
  by_cases counts : significant raw = true
  · have word : eqIgnoreAsciiCase (leadingWord raw) layoutWord = false := by
      simpa [directive, counts] using other
    rw [if_pos counts, if_pos counts]
    unfold compileLine
    change (if eqIgnoreAsciiCase (leadingWord raw) layoutWord = true then _
      else compileStep caps { state with declared := true } (leadingWord raw) (argument raw)) = _
    rw [if_neg (by rw [word]; exact Bool.false_ne_true), compileStep_steps, counts, Bool.or_true]
  · rw [if_neg counts, if_neg counts]
    simp [counts]

theorem compileRaw_directive (caller : Option Layout) (caps : CapsLock)
    (here : directive raw = true)
    (settled : state.script.steps ≠ [] → state.declared = true) :
    (compileRaw caller caps state raw).1 =
        (if nameless raw then some (.missingArgument "layout" "a layout name")
          else if state.declared then some .layoutTooLate
          else nameError caller (trim (argument raw))) ∧
      (compileRaw caller caps state raw).2.script = state.script ∧
      (compileRaw caller caps state raw).2.declared = (state.declared || !nameless raw) := by
  have counts : significant raw = true := by
    unfold directive at here
    simp only [Bool.and_eq_true] at here
    exact here.1
  have word : eqIgnoreAsciiCase (leadingWord raw) layoutWord = true := by
    simpa [directive, counts] using here
  have line : compileRaw caller caps state raw = compileLayout caller state (argument raw) := by
    unfold compileRaw compileLine
    rw [if_pos counts]
    exact if_pos word
  rw [line]
  unfold compileLayout nameless nameError
  dsimp only
  rw [here]
  by_cases unnamed : trim (argument raw) = []
  · simp [unnamed]
  have late : (state.script.steps ≠ [] || state.declared) = state.declared := by
    cases declared : state.declared with
    | true => simp
    | false =>
        have empty : state.script.steps = [] := by
          by_contra some
          exact absurd (settled some) (by rw [declared]; exact Bool.false_ne_true)
        simp [empty]
  simp only [if_neg unnamed, late, decide_eq_false unnamed, Bool.and_false, Bool.false_eq_true,
    if_false, Bool.not_false, Bool.or_true]
  cases declared : state.declared with
  | true => simp [declared]
  | false =>
      simp only [Bool.false_eq_true, if_false]
      cases caller with
      | some want =>
          dsimp only
          split <;> simp
      | none => cases Layout.parse (trim (argument raw)) <;> simp

/-- After this line no layout directive is accepted. -/
def declares (raw : List Char) : Bool := significant raw && !nameless raw

/-- The steps of a line, wherever it stands. -/
def addedSteps (caps : CapsLock) (raw : List Char) : List Step :=
  if directive raw then [] else (rawSteps caps raw).toOption.getD []

theorem compileRaw_declared (caller : Option Layout) (caps : CapsLock) (raw : List Char)
    (settled : state.script.steps ≠ [] → state.declared = true) :
    (compileRaw caller caps state raw).2.declared = (state.declared || declares raw) := by
  unfold declares
  by_cases here : directive raw = true
  · rw [(compileRaw_directive caller caps here settled).2.2]
    unfold directive at here
    simp only [Bool.and_eq_true] at here
    rw [here.1, Bool.true_and]
  · have other : directive raw = false := by simpa using here
    rw [compileRaw_step other]
    have named : nameless raw = false := by
      unfold nameless
      rw [other, Bool.false_and]
    rw [named, Bool.not_false, Bool.and_true]
    cases rawSteps caps raw <;> rfl

theorem compileRaw_added (caller : Option Layout) (caps : CapsLock) (raw : List Char)
    (settled : state.script.steps ≠ [] → state.declared = true) :
    (compileRaw caller caps state raw).2.script.steps =
      state.script.steps ++ addedSteps caps raw := by
  unfold addedSteps
  by_cases here : directive raw = true
  · rw [(compileRaw_directive caller caps here settled).2.1, if_pos here, List.append_nil]
  · rw [compileRaw_step (by simpa using here), if_neg here]
    cases rawSteps caps raw with
    | error error => exact (List.append_nil _).symm
    | ok steps => rfl

end Line

section State
variable {caller : Option Layout} {caps : CapsLock} {lines : List (List Char)}

/-- Only a line that declares adds steps. -/
theorem addedSteps_declares {raw : List Char} (some : addedSteps caps raw ≠ []) :
    declares raw = true := by
  unfold addedSteps at some
  by_cases here : directive raw = true
  · rw [if_pos here] at some
    exact absurd rfl some
  · rw [if_neg here] at some
    unfold declares nameless
    simp only [Bool.not_eq_true] at here
    rw [here]
    by_cases counts : significant raw = true
    · rw [counts]
      rfl
    · rw [rawSteps, if_neg counts] at some
      exact absurd rfl some

theorem stateAfter_settled :
    (stateAfter caller caps lines).script.steps ≠ [] →
      (stateAfter caller caps lines).declared = true := by
  induction lines using List.reverseRecOn with
  | nil => exact fun some => absurd rfl some
  | append_singleton lines raw ih =>
      rw [stateAfter_snoc, compileRaw_declared caller caps raw ih,
        compileRaw_added caller caps raw ih, Bool.or_eq_true]
      intro some
      by_cases before : (stateAfter caller caps lines).script.steps = []
      · rw [before, List.nil_append] at some
        exact .inr (addedSteps_declares some)
      · exact .inl (ih before)

theorem stateAfter_declared :
    (stateAfter caller caps lines).declared = true ↔ ∃ raw ∈ lines, declares raw = true := by
  induction lines using List.reverseRecOn with
  | nil => simp [stateAfter, MacroState.start]
  | append_singleton lines raw ih =>
      rw [stateAfter_snoc, compileRaw_declared caller caps raw stateAfter_settled,
        Bool.or_eq_true, ih]
      constructor
      · rintro (⟨other, member, declares⟩ | declares)
        · exact ⟨other, List.mem_append_left _ member, declares⟩
        · exact ⟨raw, List.mem_append_right _ (List.mem_singleton.mpr rfl), declares⟩
      · rintro ⟨other, member, declares⟩
        rcases List.mem_append.mp member with earlier | last
        · exact .inl ⟨other, earlier, declares⟩
        · rw [List.mem_singleton.mp last] at declares
          exact .inr declares

theorem stateAfter_steps :
    (stateAfter caller caps lines).script.steps = lines.flatMap (addedSteps caps) := by
  induction lines using List.reverseRecOn with
  | nil => rfl
  | append_singleton lines raw ih =>
      rw [stateAfter_snoc, compileRaw_added caller caps raw stateAfter_settled, ih]
      simp

/-- A line adds the steps its text comes to. -/
theorem stepsAt_added (i : Nat) :
    stepsAt caller caps lines i = (lines[i]?.map (addedSteps caps)).getD [] := by
  unfold stepsAt
  rw [stateAfter_steps, stateAfter_steps, List.take_add_one, List.flatMap_append,
    List.drop_left]
  cases lines[i]? <;> simp

/-- What a line reports: a directive by where it stands, any other by its text. -/
theorem errorAt_directive {i : Nat} {raw : List Char} (listed : lines[i]? = some raw)
    (here : directive raw = true) :
    errorAt caller caps lines i =
      if nameless raw then some (.missingArgument "layout" "a layout name")
      else if (stateAfter caller caps (lines.take i)).declared then some .layoutTooLate
      else nameError caller (trim (argument raw)) := by
  unfold errorAt
  rw [listed]
  exact (compileRaw_directive caller caps here stateAfter_settled).1

theorem errorAt_step {i : Nat} {raw : List Char} (listed : lines[i]? = some raw)
    (other : directive raw = false) :
    errorAt caller caps lines i =
      match rawSteps caps raw with
      | .error error => some error
      | .ok _ => none := by
  unfold errorAt
  rw [listed]
  change (compileRaw caller caps (stateAfter caller caps (lines.take i)) raw).1 = _
  rw [compileRaw_step other]
  cases rawSteps caps raw <;> rfl

end State

/-! ## What the leading word decides -/

section Word
variable {caller : Option Layout} {caps : CapsLock} {raw repaired : List Char}

theorem significant_word :
    significant raw = (leadingWord raw ≠ [] && (leadingWord raw).head? ≠ some '#') := by
  unfold significant leadingWord splitWord
  dsimp only
  cases trimmed : trimStart raw with
  | nil => rfl
  | cons c rest =>
      have visible : whiteSpace c = false := by
        have head := List.head?_dropWhile_not whiteSpace raw
        have dropped : raw.dropWhile whiteSpace = c :: rest := trimmed
        rwa [dropped] at head
      have word : c ≠ ' ' := by
        rintro rfl
        exact absurd visible (by decide)
      simp [word]

theorem significant_kept (same : leadingWord repaired = leadingWord raw) :
    significant repaired = significant raw := by
  rw [significant_word, significant_word, same]

theorem directive_kept (same : leadingWord repaired = leadingWord raw) :
    directive repaired = directive raw := by
  unfold directive
  rw [significant_kept same, same]

/-- A directive that compiles alone has a name, and the right one. -/
theorem alone_directive (here : directive raw = true)
    (alone : (compileRaw caller caps (MacroState.start caller) raw).1 = none) :
    nameless raw = false ∧ nameError caller (trim (argument raw)) = none := by
  rw [(compileRaw_directive caller caps here fun some => absurd rfl some).1] at alone
  by_cases unnamed : nameless raw = true
  · rw [if_pos unnamed] at alone
    cases alone
  · rw [if_neg unnamed] at alone
    exact ⟨by simpa using unnamed, alone⟩

/-- Any other line that compiles alone compiles anywhere. -/
theorem alone_step (other : directive raw = false)
    (alone : (compileRaw caller caps (MacroState.start caller) raw).1 = none) :
    ∃ steps, rawSteps caps raw = .ok steps := by
  rw [compileRaw_step other] at alone
  cases own : rawSteps caps raw with
  | error error =>
      rw [own] at alone
      cases alone
  | ok steps => exact ⟨steps, rfl⟩

theorem pushChord_nonempty {chord : Chord} {label : StepLabel} {script pushed : Script}
    (push : pushChord script chord label = .ok pushed) : pushed.steps ≠ [] := by
  unfold pushChord at push
  cases chosen : chord.key with
  | none =>
      rw [chosen] at push
      cases push
      simp [Script.tap, tapSteps]
  | some key =>
      rw [chosen] at push
      cases mapped : usageOf key with
      | error error => simp [mapped, Bind.bind, Except.bind] at push
      | ok usage =>
          simp only [mapped, Bind.bind, Except.bind, pure, Except.pure, Except.ok.injEq] at push
          rw [← push]
          simp [Script.tap, tapSteps]

theorem compileType_nonempty {text : List Char} {layout : Layout} {script : Script}
    (typed : compileType text layout caps = .ok script) : script.steps ≠ [] := by
  obtain ⟨reached, steps⟩ := compileType_ok typed
  cases text with
  | nil => cases typed
  | cons c rest =>
      obtain ⟨⟨usage, shift⟩, stroke⟩ := Option.isSome_iff_exists.mp (reached c (by simp))
      rw [steps, List.flatMap_cons]
      simp [Layout.tap, stroke, tapSteps]

/-- A `key`, `type` or `wait` line that compiles adds a step. -/
theorem lineSteps_nonempty {word rest : List Char} {steps : List Step}
    (own : lineSteps caps word rest = .ok steps) : steps ≠ [] := by
  unfold lineSteps compileStep at own
  dsimp only at own
  split at own
  · cases own
  rename_i state compiled
  cases own
  split at compiled
  · split at compiled
    · cases compiled
    split at compiled
    · cases compiled
    split at compiled
    · rename_i script pushed
      cases compiled
      exact pushChord_nonempty pushed
    · cases compiled
  split at compiled
  · split at compiled
    · rename_i typed compiles
      cases compiled
      simpa using compileType_nonempty compiles
    · cases compiled
  split at compiled
  · split at compiled
    · cases compiled
    split at compiled
    · cases compiled
    · cases compiled
      simp
  · cases compiled

theorem addedSteps_nonempty {steps : List Step} (counts : significant raw = true)
    (other : directive raw = false) (own : rawSteps caps raw = .ok steps) :
    addedSteps caps raw ≠ [] := by
  unfold addedSteps
  rw [if_neg (by rw [other]; exact Bool.false_ne_true), own]
  rw [rawSteps, if_pos counts] at own
  exact lineSteps_nonempty own

end Word

/-! ## Repairing a macro -/

/-- A directive that follows one without a name is not accepted. -/
def Named (caller : Option Layout) (caps : CapsLock) (source : List Char) : Prop :=
  ∀ i, directiveAfter nameless (linesOf source) i = true → i + 1 ∈ failing caller caps source

theorem directiveAfter_iff {kind : List Char → Bool} {lines : List (List Char)} {i : Nat} :
    directiveAfter kind lines i = true ↔
      (∃ raw, lines[i]? = some raw ∧ directive raw = true) ∧
        ∃ j raw, j < i ∧ lines[j]? = some raw ∧ kind raw = true := by
  unfold directiveAfter
  rw [Bool.and_eq_true, Option.any_eq_true, List.any_eq_true]
  apply and_congr_right'
  constructor
  · rintro ⟨raw, member, fits⟩
    obtain ⟨j, listed⟩ := List.mem_iff_getElem?.mp member
    rw [List.getElem?_take] at listed
    split at listed
    · rename_i before
      exact ⟨j, raw, before, listed, fits⟩
    · cases listed
  · rintro ⟨j, raw, before, listed, fits⟩
    refine ⟨raw, ?_, fits⟩
    rw [List.mem_iff_getElem?]
    exact ⟨j, by rw [List.getElem?_take, if_pos before, listed]⟩

section Repair
variable {caller : Option Layout} {caps : CapsLock} {source fixed : List Char}

theorem nameless_fails {i : Nat} {raw : List Char} (listed : (linesOf source)[i]? = some raw)
    (unnamed : nameless raw = true) : i + 1 ∈ failing caller caps source := by
  have here : directive raw = true := by
    unfold nameless at unnamed
    simp only [Bool.and_eq_true] at unnamed
    exact unnamed.1
  rw [mem_failing, errorAt_directive listed here, if_pos unnamed]
  exact Option.some_ne_none _

theorem Repairs.listed (repairs : Repairs caller caps source fixed) {i : Nat} {raw : List Char}
    (original : (linesOf source)[i]? = some raw) :
    ∃ repaired, (linesOf fixed)[i]? = some repaired := by
  obtain ⟨within, -⟩ := List.getElem?_eq_some_iff.mp original
  rw [← repairs.length] at within
  exact ⟨_, List.getElem?_eq_getElem within⟩

/-- A line keeps what its leading word decides. -/
theorem Repairs.word (repairs : Repairs caller caps source fixed) {i : Nat}
    {repaired : List Char} (listed : (linesOf fixed)[i]? = some repaired) :
    ∃ raw, (linesOf source)[i]? = some raw ∧ significant repaired = significant raw ∧
      directive repaired = directive raw := by
  obtain ⟨within, -⟩ := List.getElem?_eq_some_iff.mp listed
  rw [repairs.length] at within
  have original : (linesOf source)[i]? = some (linesOf source)[i] :=
    List.getElem?_eq_getElem within
  refine ⟨(linesOf source)[i], original, ?_⟩
  by_cases bad : i + 1 ∈ failing caller caps source
  · have same := (repairs.replaced i _ _ bad original listed).1
    exact ⟨significant_kept same, directive_kept same⟩
  · rw [repairs.kept i bad, original] at listed
    cases listed
    exact ⟨rfl, rfl⟩

/-- No line is without a name any more. -/
theorem Repairs.name (repairs : Repairs caller caps source fixed) {i : Nat}
    {repaired : List Char} (listed : (linesOf fixed)[i]? = some repaired) :
    nameless repaired = false := by
  obtain ⟨raw, original, -, same⟩ := repairs.word listed
  by_cases bad : i + 1 ∈ failing caller caps source
  · by_cases here : directive repaired = true
    · exact (alone_directive here (repairs.replaced i _ _ bad original listed).2).1
    · unfold nameless
      simp [here]
  · rw [repairs.kept i bad] at listed
    rw [Bool.eq_false_iff]
    exact fun unnamed => bad (nameless_fails listed unnamed)

/-- A directive is too late in the repaired file if any line that counts stands before it. -/
theorem Repairs.late (repairs : Repairs caller caps source fixed) {i : Nat} {raw : List Char}
    (original : (linesOf source)[i]? = some raw) (here : directive raw = true) :
    (stateAfter caller caps ((linesOf fixed).take i)).declared = true ↔
      directiveAfter significant (linesOf source) i = true := by
  rw [stateAfter_declared, directiveAfter_iff]
  constructor
  · rintro ⟨repaired, member, declares⟩
    obtain ⟨j, listed⟩ := List.mem_iff_getElem?.mp member
    rw [List.getElem?_take] at listed
    split at listed
    · rename_i before
      obtain ⟨earlier, present, counts, -⟩ := repairs.word listed
      unfold Script.declares at declares
      simp only [Bool.and_eq_true] at declares
      exact ⟨⟨raw, original, here⟩, j, earlier, before, present, by rw [← counts]; exact declares.1⟩
    · cases listed
  · rintro ⟨-, j, earlier, before, present, counts⟩
    obtain ⟨repaired, listed⟩ := repairs.listed present
    obtain ⟨found, present', counts', -⟩ := repairs.word listed
    rw [present] at present'
    cases present'
    refine ⟨repaired, ?_, ?_⟩
    · rw [List.mem_iff_getElem?]
      exact ⟨j, by rw [List.getElem?_take, if_pos before, listed]⟩
    · unfold Script.declares
      rw [counts', counts, repairs.name listed]
      rfl

/-- A directive that was accepted is the first line that counts. -/
theorem accepted_first (named : Named caller caps source) {i : Nat} {raw : List Char}
    (listed : (linesOf source)[i]? = some raw) (here : directive raw = true)
    (good : i + 1 ∉ failing caller caps source) :
    directiveAfter significant (linesOf source) i = false ∧
      nameError caller (trim (argument raw)) = none := by
  have fine := good
  rw [mem_failing, not_not, errorAt_directive listed here] at fine
  split at fine
  · cases fine
  split at fine
  · cases fine
  rename_i undeclared
  refine ⟨?_, fine⟩
  rw [Bool.eq_false_iff, Ne, directiveAfter_iff]
  rintro ⟨-, j, earlier, before, present, counts⟩
  by_cases unnamed : nameless earlier = true
  · refine good (named i (directiveAfter_iff.mpr ⟨⟨raw, listed, here⟩, ?_⟩))
    exact ⟨j, earlier, before, present, unnamed⟩
  · refine undeclared (stateAfter_declared.mpr ⟨earlier, ?_, ?_⟩)
    · rw [List.mem_iff_getElem?]
      exact ⟨j, by rw [List.getElem?_take, if_pos before, present]⟩
    · unfold declares
      simp [counts, unnamed]

/-- A line of the repaired file is fine by its own text. -/
theorem Repairs.text (repairs : Repairs caller caps source fixed)
    (named : Named caller caps source) {i : Nat} {repaired : List Char}
    (listed : (linesOf fixed)[i]? = some repaired) :
    if directive repaired then nameError caller (trim (argument repaired)) = none
    else ∃ steps, rawSteps caps repaired = .ok steps := by
  obtain ⟨raw, original, -, same⟩ := repairs.word listed
  by_cases bad : i + 1 ∈ failing caller caps source
  · have alone := (repairs.replaced i _ _ bad original listed).2
    split
    · rename_i here
      exact (alone_directive here alone).2
    · rename_i other
      exact alone_step (by simpa using other) alone
  · rw [repairs.kept i bad] at listed
    split
    · rename_i here
      exact (accepted_first named listed here bad).2
    · rename_i other
      rw [mem_failing, not_not, errorAt_step listed (by simpa using other)] at bad
      cases own : rawSteps caps repaired with
      | error error =>
          rw [own] at bad
          cases bad
      | ok steps => exact ⟨steps, rfl⟩

/-- All that a repaired file still reports is a directive out of place. -/
theorem Repairs.errorAt (repairs : Repairs caller caps source fixed)
    (named : Named caller caps source) (i : Nat) :
    errorAt caller caps (linesOf fixed) i =
      if directiveAfter significant (linesOf source) i then some .layoutTooLate else none := by
  cases listed : (linesOf fixed)[i]? with
  | none =>
      have beyond : (linesOf source)[i]? = none := by
        rw [List.getElem?_eq_none_iff] at listed ⊢
        rwa [← repairs.length]
      unfold Script.errorAt directiveAfter
      rw [listed, beyond]
      rfl
  | some repaired =>
      obtain ⟨raw, original, -, same⟩ := repairs.word listed
      have text := repairs.text named listed
      by_cases here : directive repaired = true
      · rw [if_pos here] at text
        rw [errorAt_directive listed here, repairs.name listed, if_neg Bool.false_ne_true, text]
        exact if_congr (repairs.late original (by rw [← same]; exact here)) rfl rfl
      · rw [if_neg here] at text
        obtain ⟨steps, own⟩ := text
        rw [errorAt_step listed (by simpa using here), own]
        unfold directiveAfter
        rw [original, Option.any_some, ← same, Bool.not_eq_true _ |>.mp here]
        rfl

theorem Repairs.reported (repairs : Repairs caller caps source fixed)
    (named : Named caller caps source) (n : Nat) (error : LineError) :
    (n, error) ∈ reported caller caps fixed ↔
      ∃ i, n = i + 1 ∧ n ∈ failing caller caps source ∧
        directiveAfter significant (linesOf source) i = true ∧ error = .layoutTooLate := by
  rw [mem_reported]
  apply exists_congr
  intro i
  rw [repairs.errorAt named]
  constructor
  · rintro ⟨rfl, fails⟩
    split at fails
    · rename_i misplaced
      cases fails
      obtain ⟨raw, listed, here⟩ := (directiveAfter_iff.mp misplaced).1
      refine ⟨rfl, ?_, misplaced, rfl⟩
      by_contra good
      rw [(accepted_first named listed here good).1] at misplaced
      cases misplaced
    · cases fails
  · rintro ⟨number, -, misplaced, rfl⟩
    exact ⟨number, if_pos misplaced⟩

/-- The repaired file has a step if the file had a line other than directives. -/
theorem Repairs.steps (repairs : Repairs caller caps source fixed)
    (named : Named caller caps source) :
    (stateAfter caller caps (linesOf fixed)).script.steps ≠ [] ↔
      ∃ raw ∈ linesOf source, significant raw = true ∧ directive raw = false := by
  rw [stateAfter_steps, Ne, List.flatMap_eq_nil_iff]
  push Not
  constructor
  · rintro ⟨repaired, member, adds⟩
    obtain ⟨i, listed⟩ := List.mem_iff_getElem?.mp member
    obtain ⟨raw, original, counts, same⟩ := repairs.word listed
    refine ⟨raw, List.mem_of_getElem? original, ?_, ?_⟩
    · have declares := addedSteps_declares adds
      unfold Script.declares at declares
      simp only [Bool.and_eq_true] at declares
      rw [← counts]
      exact declares.1
    · rw [← same, Bool.eq_false_iff]
      intro here
      exact adds (if_pos here)
  · rintro ⟨raw, member, counts, other⟩
    obtain ⟨i, original⟩ := List.mem_iff_getElem?.mp member
    obtain ⟨repaired, listed⟩ := repairs.listed original
    obtain ⟨raw', original', counts', same⟩ := repairs.word listed
    rw [original] at original'
    cases original'
    have text := repairs.text named listed
    rw [same, other, if_neg Bool.false_ne_true] at text
    obtain ⟨steps, own⟩ := text
    exact ⟨repaired, List.mem_of_getElem? listed,
      addedSteps_nonempty (by rw [counts', counts]) (by rw [same, other]) own⟩

/-- Repairing the reported lines leaves the directives out of place to report, and no
step of another line changes. -/
theorem repairs_complete (repairs : Repairs caller caps source fixed)
    (named : Named caller caps source) :
    (∀ n error, (n, error) ∈ reported caller caps fixed ↔
      ∃ i, n = i + 1 ∧ n ∈ failing caller caps source ∧
        directiveAfter significant (linesOf source) i = true ∧ error = .layoutTooLate) ∧
    ((∀ i, i + 1 ∈ failing caller caps source →
        directiveAfter significant (linesOf source) i = false) →
      ((∃ script, compileMacro fixed caller caps = .ok script) ↔
        ∃ raw ∈ linesOf source, significant raw = true ∧ directive raw = false)) ∧
    ∀ i, i + 1 ∉ failing caller caps source →
      stepsAt caller caps (linesOf fixed) i = stepsAt caller caps (linesOf source) i := by
  refine ⟨repairs.reported named, fun placed => ?_, fun i good => ?_⟩
  · have clean : failing caller caps fixed = [] := by
      rw [failing, List.map_eq_nil_iff, List.eq_nil_iff_forall_not_mem]
      rintro ⟨n, error⟩ member
      obtain ⟨i, rfl, bad, misplaced, -⟩ := (repairs.reported named n error).mp member
      rw [placed i bad] at misplaced
      cases misplaced
    rw [← repairs.steps named, compileMacro_clean clean]
    split
    · rename_i empty
      simp [empty]
    · rename_i some
      simp [some]
  · rw [stepsAt_added, stepsAt_added, repairs.kept i good]

end Repair

/-- An unknown layout and a chord that is missing, put right. -/
def typoMacro : List Char := "layout dvorak\nkey\ntype a".toList

def fixedMacro : List Char := "layout us\nkey enter\ntype a".toList

theorem typoMacro_lines :
    linesOf typoMacro = ["layout dvorak".toList, "key".toList, "type a".toList] := by
  rfl

theorem fixedMacro_lines :
    linesOf fixedMacro = ["layout us".toList, "key enter".toList, "type a".toList] := by
  rfl

theorem typoMacro_failing : failing none .off typoMacro = [1, 2] := by rfl

/-- The lines in error are the first two. -/
theorem typoMacro_place {i : Nat} (bad : i + 1 ∈ failing none .off typoMacro) :
    i = 0 ∨ i = 1 := by
  rw [typoMacro_failing] at bad
  simp only [List.mem_cons, List.not_mem_nil, or_false] at bad
  omega

theorem fixedMacro_repairs : Repairs none .off typoMacro fixedMacro where
  length := by
    rw [typoMacro_lines, fixedMacro_lines]
    rfl
  kept := by
    intro i good
    rw [typoMacro_failing] at good
    rw [typoMacro_lines, fixedMacro_lines]
    match i with
    | 0 => simp at good
    | 1 => simp at good
    | 2 => rfl
    | i + 3 => rfl
  replaced := by
    intro i raw repaired bad listed listed'
    rw [typoMacro_lines] at listed
    rw [fixedMacro_lines] at listed'
    rcases typoMacro_place bad with rfl | rfl
    · cases listed
      cases listed'
      decide +kernel
    · cases listed
      cases listed'
      decide +kernel

theorem repairs_complete_typo :
    failing none .off typoMacro = [1, 2] ∧
      (∃ script, compileMacro fixedMacro none .off = .ok script) ∧
      stepsAt none .off (linesOf fixedMacro) 2 = stepsAt none .off (linesOf typoMacro) 2 := by
  have named : Named none .off typoMacro := by
    intro i unnamed
    obtain ⟨-, j, raw, -, listed, lacks⟩ := directiveAfter_iff.mp unnamed
    have all : ∀ raw ∈ linesOf typoMacro, nameless raw = false := by decide
    rw [all raw (List.mem_of_getElem? listed)] at lacks
    cases lacks
  obtain ⟨-, clean, steps⟩ := repairs_complete fixedMacro_repairs named
  refine ⟨rfl, (clean ?_).mpr ?_, steps 2 (by rw [typoMacro_failing]; decide)⟩
  · intro i member
    rcases typoMacro_place member with rfl | rfl <;> rfl
  · exact ⟨"type a".toList, by decide, rfl, rfl⟩

/-- A directive out of place compiles alone, so it stands for its own repair. -/
def lateLayout : List Char := "type a\nlayout us".toList

theorem late_layout_stays :
    Repairs none .off lateLayout lateLayout ∧
      compileMacro lateLayout none .off = .error (.line 2 .layoutTooLate) := by
  refine ⟨⟨rfl, fun _ _ => rfl, ?_⟩, rfl⟩
  intro i raw repaired bad listed listed'
  rw [listed] at listed'
  cases listed'
  refine ⟨rfl, ?_⟩
  have late : failing none .off lateLayout = [2] := rfl
  rw [late] at bad
  obtain rfl : i = 1 := by simpa using bad
  have second : (linesOf lateLayout)[1]? = some "layout us".toList := rfl
  rw [second] at listed
  cases listed
  rfl

end NanoKvm.Script
