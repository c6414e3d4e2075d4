import NanoKvm.Script.Chord

/-!
# Macros

The chord and macro half of `script/compile.rs`, and `affected_by_caps_lock` of
`cli/keys.rs`.  A macro line is compiled against the layout in force, whether a
step or a layout was seen, and the steps so far; a failing line leaves a trace in
the second only.
-/

set_option autoImplicit false
set_option linter.dupNamespace false

namespace NanoKvm.Script

open NanoKvm.Proto

/-- `str::parse::<Layout>` -/
def Layout.parse (name : List Char) : Option Layout :=
  if eqIgnoreAsciiCase name "us".toList || eqIgnoreAsciiCase name "us-qwerty".toList then some .us
  else none

/-- The default of `Layout`. -/
def Layout.default : Layout := .us

/-- What one line can go wrong with; `text` is an error of its text or its key. -/
inductive LineError where
  | text (error : CompileError)
  | chord (error : ChordError)
  | layout (name : List Char)
  | missingArgument (step argument : String)
  | layoutTooLate
  | layoutConflict (found : List Char) (want : Layout)
  | badWait (value : List Char)
  | waitTooLong (ms : Nat)
  | unknownStep (word : List Char)
  deriving DecidableEq, Repr

inductive KeyError where
  | text (error : CompileError)
  | chords (chords : List ChordError)
  | missingArgument (step argument : String)
  deriving DecidableEq, Repr

inductive MacroError where
  | line (line : Nat) (source : LineError)
  | lines (lines : List (Nat × LineError))
  | emptyMacro
  deriving DecidableEq, Repr

/-! ## Chords -/

/-- One chord of `compile_key`: bad ones are collected. -/
def keyChord (layout : Layout) (state : Script × List ChordError) (text : List Char) :
    Except KeyError (Script × List ChordError) :=
  match parseChordWith layout text with
  | .ok chord =>
      match pushChord state.1 chord (.key (String.ofList text)) with
      | .ok script => .ok (script, state.2)
      | .error error => .error (.text error)
  | .error error => .ok (state.1, state.2 ++ [error])

def compileKey (chords : List (List Char)) (layout : Layout) : Except KeyError Script :=
  match chords.foldlM (keyChord layout) (⟨[]⟩, []) with
  | .error error => .error error
  | .ok (script, invalid) =>
      if invalid ≠ [] then .error (.chords invalid)
      else if script.steps = [] then .error (.missingArgument "key" "a chord")
      else .ok script

/-! ## Lines -/

def maxWait : Nat := 3600000

structure MacroState where
  script : Script
  active : Layout
  declared : Bool
  deriving DecidableEq, Repr

def layoutWord : List Char := "layout".toList
def keyWord : List Char := "key".toList
def typeWord : List Char := "type".toList
def waitWord : List Char := "wait".toList

/-- A `layout` directive. -/
def compileLayout (caller : Option Layout) (state : MacroState) (rest : List Char) :
    Option LineError × MacroState :=
  let name := trim rest
  if name = [] then (some (.missingArgument "layout" "a layout name"), state)
  else if state.script.steps ≠ [] || state.declared then (some .layoutTooLate, state)
  else
    let state := { state with declared := true }
    match caller with
    -- The name is compared before it is parsed.
    | some want =>
        if Layout.parse name ≠ some want then (some (.layoutConflict name want), state)
        else (none, state)
    | none =>
        match Layout.parse name with
        | some layout => (none, { state with active := layout })
        | none => (some (.layout name), state)

/-- A `key`, `type` or `wait` line. -/
def compileStep (caps : CapsLock) (state : MacroState) (word rest : List Char) :
    Option LineError × MacroState :=
  if eqIgnoreAsciiCase word keyWord then
    let text := trim rest
    if text = [] then (some (.missingArgument "key" "a chord"), state)
    else
      match parseChordWith state.active text with
      | .error error => (some (.chord error), state)
      | .ok chord =>
          match pushChord state.script chord (.key (String.ofList text)) with
          | .ok script => (none, { state with script := script })
          | .error error => (some (.text error), state)
  else if eqIgnoreAsciiCase word typeWord then
    match compileType rest state.active caps with
    | .ok typed => (none, { state with script := ⟨state.script.steps ++ typed.steps⟩ })
    | .error error => (some (.text error), state)
  else if eqIgnoreAsciiCase word waitWord then
    let value := trim rest
    match parseU64 value with
    | none => (some (.badWait value), state)
    | some ms =>
        if ms > maxWait then (some (.waitTooLong ms), state)
        else (none, { state with script := ⟨state.script.steps ++ [.wait ms]⟩ })
  else (some (.unknownStep word), state)

/-- One line, neither blank nor a comment. -/
def compileLine (caller : Option Layout) (caps : CapsLock) (state : MacroState)
    (line : List Char) : Option LineError × MacroState :=
  let (word, rest) := splitWord line
  if eqIgnoreAsciiCase word layoutWord then compileLayout caller state rest
  -- Any step at all fixes the layout, also one that does not compile.
  else compileStep caps { state with declared := true } word rest

/-- Neither blank nor a comment, once trimmed. -/
def significant (raw : List Char) : Bool :=
  let line := trimStart raw
  line ≠ [] && line.head? ≠ some '#'

/-- One line of the file; blank lines and comments are ignored. -/
def compileRaw (caller : Option Layout) (caps : CapsLock) (state : MacroState)
    (raw : List Char) : Option LineError × MacroState :=
  if significant raw then compileLine caller caps state (trimStart raw) else (none, state)

def macroStep (caller : Option Layout) (caps : CapsLock)
    (acc : MacroState × List (Nat × LineError)) (numbered : List Char × Nat) :
    MacroState × List (Nat × LineError) :=
  match compileRaw caller caps acc.1 numbered.1 with
  | (some error, state) => (state, acc.2 ++ [(numbered.2 + 1, error)])
  | (none, state) => (state, acc.2)

def MacroState.start (caller : Option Layout) : MacroState :=
  ⟨⟨[]⟩, caller.getD Layout.default, false⟩

/-- One failure keeps the wording of a single mistake. -/
def macroResult (script : Script) : List (Nat × LineError) → Except MacroError Script
  | [] => if script.steps = [] then .error .emptyMacro else .ok script
  | [(line, error)] => .error (.line line error)
  | failures => .error (.lines failures)

/-- The lines of a file, compiled in order, and the ones that failed. -/
def macroFold (caller : Option Layout) (caps : CapsLock) (lines : List (List Char)) :
    MacroState × List (Nat × LineError) :=
  lines.zipIdx.foldl (macroStep caller caps) (MacroState.start caller, [])

def compileMacro (source : List Char) (caller : Option Layout) (caps : CapsLock) :
    Except MacroError Script :=
  let folded := macroFold caller caps (linesOf source)
  macroResult folded.1.script folded.2

/-! ## What the command line compiles -/

structure Compiled where
  script : Script
  /-- The same source under `compensate`; none for chords. -/
  compensated : Option Script
  deriving DecidableEq, Repr

/-- Asked of the compiler: whether the two compilations differ. -/
def Compiled.affectedByCapsLock (compiled : Compiled) : Bool :=
  compiled.compensated.any (· ≠ compiled.script)

/-- What `run_macro` prepares before it opens anything. -/
def compiledMacro (source : List Char) (layout : Option Layout) : Except MacroError Compiled :=
  match compileMacro source layout .off with
  | .error error => .error error
  | .ok script =>
      match compileMacro source layout .compensate with
      | .error error => .error error
      | .ok compensated => .ok ⟨script, some compensated⟩

end NanoKvm.Script
