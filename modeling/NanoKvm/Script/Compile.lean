import Mathlib.Data.List.Induction
import NanoKvm.Proto.Keymap

/-!
# Text compiled to keyboard reports

`script/layout.rs`, `script/mod.rs` and the text half of `script/compile.rs`.
A label keeps what it is made from, not its formatted text.  Text is the list
of its characters.
-/

set_option autoImplicit false
set_option linter.dupNamespace false

namespace NanoKvm.Script

open NanoKvm.Proto

inductive Layout where
  | us
  deriving DecidableEq, Repr

def letters : List KeyCode :=
  [.keyA, .keyB, .keyC, .keyD, .keyE, .keyF, .keyG, .keyH, .keyI, .keyJ, .keyK, .keyL, .keyM,
    .keyN, .keyO, .keyP, .keyQ, .keyR, .keyS, .keyT, .keyU, .keyV, .keyW, .keyX, .keyY, .keyZ]

/-- Indexed by the digit, so that `digit0` comes first. -/
def digits : List KeyCode :=
  [.digit0, .digit1, .digit2, .digit3, .digit4, .digit5, .digit6, .digit7, .digit8, .digit9]

def shiftedDigits : List Char := [')', '!', '@', '#', '$', '%', '^', '&', '*', '(']

/-- Unshifted, shifted, key.  Quotes, braces, the backslash and the backtick stand
by their code points. -/
def punctuation : List (Char × Char × KeyCode) :=
  [('-', '_', .minus), ('=', '+', .equal), ('[', Char.ofNat 0x7B, .bracketLeft),
    (']', Char.ofNat 0x7D, .bracketRight), (Char.ofNat 0x5C, '|', .backslash),
    (';', ':', .semicolon), (Char.ofNat 0x27, Char.ofNat 0x22, .quote),
    (Char.ofNat 0x60, '~', .backquote), (',', '<', .comma), ('.', '>', .period),
    ('/', '?', .slash)]

def usKeyForChar (c : Char) : Option (KeyCode × Bool) :=
  if c.isLower then some (letters.getD (c.toNat - 'a'.toNat) .keyA, false)
  else if c.isUpper then some (letters.getD (c.toNat - 'A'.toNat) .keyA, true)
  else if c.isDigit then some (digits.getD (c.toNat - '0'.toNat) .digit0, false)
  else
    match shiftedDigits.findIdx? (· == c) with
    | some digit => some (digits.getD digit .digit0, true)
    | none =>
        if c = ' ' then some (.space, false)
        else if c = '\n' then some (.enter, false)
        else if c = '\t' then some (.tab, false)
        else punctuation.findSome? fun (plain, shifted, key) =>
          if c = plain then some (key, false)
          else if c = shifted then some (key, true)
          else none

/-- The physical key that produces `c`, and whether shift is held for it. -/
def Layout.keyForChar (layout : Layout) (c : Char) : Option (KeyCode × Bool) :=
  match layout with
  | .us => usKeyForChar c

/-! ## Scripts -/

inductive StepLabel where
  | typed (c : Char)
  | key (chord : String)
  | release
  deriving DecidableEq, Repr

structure Outgoing where
  label : StepLabel
  report : KeyboardReport
  deriving DecidableEq, Repr

inductive Step where
  | send (outgoing : Outgoing)
  | wait (millis : Nat)
  deriving DecidableEq, Repr

structure Script where
  steps : List Step
  deriving DecidableEq, Repr

/-- The reports of one tap: a press, then a release of everything. -/
def tapSteps (usage modifiers : U8) (label : StepLabel) : List Step :=
  [.send ⟨label, ⟨modifiers, #v[usage, 0#8, 0#8, 0#8, 0#8, 0#8]⟩⟩,
    .send ⟨.release, KeyboardReport.releaseAll⟩]

/-- The report of the press. -/
def tapReport (usage modifiers : U8) : KeyboardReport :=
  ⟨modifiers, #v[usage, 0#8, 0#8, 0#8, 0#8, 0#8]⟩

def Script.tap (script : Script) (usage modifiers : U8) (label : StepLabel) : Script :=
  ⟨script.steps ++ tapSteps usage modifiers label⟩

inductive CapsLock where
  | off
  | ignore
  | compensate
  deriving DecidableEq, Repr

/-- The shift bit to send for `c`, given what the layout asked for. -/
def CapsLock.shiftFor (caps : CapsLock) (c : Char) (shift : Bool) : Bool :=
  match caps with
  | .off | .ignore => shift
  | .compensate => if c.isAlpha then !shift else shift

inductive CompileError where
  | unforwarded (key : KeyCode)
  | nothingToType
  /-- Each unreachable character once, with the position of its first occurrence. -/
  | unreachable (layout : Layout) (chars : List (Char × Nat))
  deriving DecidableEq, Repr

def usageOf (key : KeyCode) : Except CompileError U8 :=
  match hidKey key with
  | some (.usage usage) => .ok usage
  | _ => .error (.unforwarded key)

/-- Modifier bits and at most one key. -/
structure Chord where
  modifiers : U8
  key : Option KeyCode
  deriving DecidableEq, Repr

/-- Press with the modifiers held, then release everything. -/
def pushChord (script : Script) (chord : Chord) (label : StepLabel) :
    Except CompileError Script := do
  let usage ← match chord.key with
    | some key => usageOf key
    | none => .ok 0#8
  return script.tap usage chord.modifiers label

def unreachableChars (layout : Layout) (text : List Char) : List (Char × Nat) :=
  text.zipIdx.foldl
    (fun found (c, i) =>
      if (layout.keyForChar c).isNone && !found.any (·.1 == c) then found ++ [(c, i + 1)]
      else found)
    []

def typeChar (layout : Layout) (caps : CapsLock) (script : Script) (c : Char) :
    Except CompileError Script :=
  match layout.keyForChar c with
  | some (key, shift) => do
      let modifiers := if caps.shiftFor c shift then Modifier.leftShift else 0#8
      let usage ← usageOf key
      return script.tap usage modifiers (.typed c)
  -- `expect("checked above")`
  | none => .ok script

/-- One press and one release per character, or every character the layout lacks. -/
def compileType (text : List Char) (layout : Layout) (caps : CapsLock) :
    Except CompileError Script :=
  if text = [] then .error .nothingToType
  else
    let chars := unreachableChars layout text
    if chars ≠ [] then .error (.unreachable layout chars)
    else text.foldlM (typeChar layout caps) ⟨[]⟩

/-! ## What a compilation holds -/

/-- The usage and the shift the layout types a character with. -/
def Layout.stroke (layout : Layout) (c : Char) : Option (U8 × Bool) :=
  match layout.keyForChar c with
  | some (key, shift) => (usageOf key).toOption.map fun usage => (usage, shift)
  | none => none

/-- The tap of one character. -/
def Layout.tap (layout : Layout) (caps : CapsLock) (c : Char) : List Step :=
  match layout.stroke c with
  | some (usage, shift) =>
      tapSteps usage (if caps.shiftFor c shift then Modifier.leftShift else 0#8) (.typed c)
  | none => []

/-- One more character is listed if the layout lacks it and it was not met before. -/
theorem unreachableChars_snoc (layout : Layout) (text : List Char) (c : Char) :
    unreachableChars layout (text ++ [c]) =
      if (layout.keyForChar c).isNone && !(unreachableChars layout text).any (·.1 == c) then
        unreachableChars layout text ++ [(c, text.length + 1)]
      else unreachableChars layout text := by
  simp [unreachableChars, List.zipIdx_append]
  rfl

/-- The list holds every character the layout lacks, at its first position. -/
theorem mem_unreachableChars {layout : Layout} {text : List Char} {c : Char} {n : Nat} :
    (c, n) ∈ unreachableChars layout text ↔
      c ∈ text ∧ layout.keyForChar c = none ∧ n = text.idxOf c + 1 := by
  induction text using List.reverseRecOn generalizing c n with
  | nil => simp [unreachableChars]
  | append_singleton text last ih =>
      have listed : (unreachableChars layout text).any (·.1 == last) = true ↔
          last ∈ text ∧ layout.keyForChar last = none := by
        simp only [List.any_eq_true, beq_iff_eq, Prod.exists]
        constructor
        · rintro ⟨c, n, member, rfl⟩
          have found := ih.mp member
          exact ⟨found.1, found.2.1⟩
        · rintro ⟨member, lacks⟩
          exact ⟨last, _, ih.mpr ⟨member, lacks, rfl⟩, rfl⟩
      have grown : (c, n) ∈ unreachableChars layout (text ++ [last]) ↔
          (c, n) ∈ unreachableChars layout text ∨
            (last ∉ text ∧ layout.keyForChar last = none) ∧ c = last ∧ n = text.length + 1 := by
        rw [unreachableChars_snoc]
        by_cases lacks : layout.keyForChar last = none
        · by_cases seen : last ∈ text
          · simp [listed.mpr ⟨seen, lacks⟩, seen]
          · have fresh : (unreachableChars layout text).any (·.1 == last) = false := by
              rw [Bool.eq_false_iff, Ne, listed]
              exact fun both => seen both.1
            simp [fresh, seen, lacks]
        · simp [lacks, Option.isNone_iff_eq_none]
      rw [grown, ih]
      by_cases seen : c ∈ text
      · have other : last ∉ text → c ≠ last := by
          rintro new rfl
          exact new seen
        rw [List.idxOf_append_of_mem seen]
        constructor
        · rintro (⟨-, found⟩ | ⟨⟨new, -⟩, same, -⟩)
          · exact ⟨by simp [seen], found⟩
          · exact absurd same (other new)
        · rintro ⟨-, found⟩
          exact .inl ⟨seen, found⟩
      · rw [List.idxOf_append_of_notMem seen]
        constructor
        · rintro (⟨member, -⟩ | ⟨⟨-, lacks⟩, rfl, rfl⟩)
          · exact absurd member seen
          · simp [lacks]
        · rintro ⟨member, lacks, rfl⟩
          obtain rfl : c = last := by simpa [seen] using member
          exact .inr ⟨⟨seen, lacks⟩, rfl, by simp⟩

/-- It is in the order of the positions. -/
theorem unreachableChars_ordered (layout : Layout) (text : List Char) :
    (unreachableChars layout text).Pairwise fun first second => first.2 < second.2 := by
  induction text using List.reverseRecOn with
  | nil => simp [unreachableChars]
  | append_singleton text last ih =>
      rw [unreachableChars_snoc]
      split
      · rw [List.pairwise_append]
        refine ⟨ih, by simp, ?_⟩
        intro earlier listed new here
        rw [mem_unreachableChars] at listed
        obtain ⟨member, -, position⟩ := listed
        have := List.idxOf_lt_length_of_mem member
        rw [List.mem_singleton] at here
        rw [here, position]
        dsimp only
        omega
      · exact ih

theorem unreachableChars_nil {layout : Layout} {text : List Char}
    (complete : unreachableChars layout text = []) :
    ∀ c ∈ text, (layout.keyForChar c).isSome = true := by
  intro c member
  by_contra lacks
  have listed : (c, text.idxOf c + 1) ∈ unreachableChars layout text := by
    rw [mem_unreachableChars]
    exact ⟨member, by simpa using lacks, rfl⟩
  rw [complete] at listed
  exact List.not_mem_nil listed

/-- Typing one character appends its tap. -/
theorem typeChar_ok {layout : Layout} {caps : CapsLock} {script after : Script} {c : Char}
    (reachable : (layout.keyForChar c).isSome = true)
    (typed : typeChar layout caps script c = .ok after) :
    (layout.stroke c).isSome = true ∧ after.steps = script.steps ++ layout.tap caps c := by
  unfold typeChar at typed
  cases found : layout.keyForChar c with
  | none => simp [found] at reachable
  | some stroke =>
      obtain ⟨key, shift⟩ := stroke
      simp only [found] at typed
      cases mapped : usageOf key with
      | error e => simp [mapped, Bind.bind, Except.bind] at typed
      | ok usage =>
          simp only [mapped, Bind.bind, Except.bind, pure, Except.pure, Except.ok.injEq] at typed
          subst typed
          simp [Layout.stroke, Layout.tap, found, mapped, Except.toOption, Script.tap]

theorem foldlM_typeChar {layout : Layout} {caps : CapsLock} (text : List Char)
    (reachable : ∀ c ∈ text, (layout.keyForChar c).isSome = true) {script after : Script}
    (typed : text.foldlM (typeChar layout caps) script = .ok after) :
    (∀ c ∈ text, (layout.stroke c).isSome = true) ∧
      after.steps = script.steps ++ text.flatMap (layout.tap caps) := by
  induction text generalizing script with
  | nil =>
      simp only [List.foldlM_nil, pure, Except.pure, Except.ok.injEq] at typed
      subst typed
      simp
  | cons c rest ih =>
      rw [List.foldlM_cons] at typed
      cases first : typeChar layout caps script c with
      | error e => simp [first, Bind.bind, Except.bind] at typed
      | ok middle =>
          simp only [first, Bind.bind, Except.bind] at typed
          obtain ⟨here, tapped⟩ := typeChar_ok (reachable c (by simp)) first
          obtain ⟨later, steps⟩ := ih (fun other member => reachable other (by simp [member])) typed
          refine ⟨?_, by rw [steps, tapped]; simp⟩
          intro other member
          rcases List.mem_cons.mp member with rfl | member
          · exact here
          · exact later other member

/-- A compiled text is the taps of its characters, every one of them on the layout. -/
theorem compileType_ok {text : List Char} {layout : Layout} {caps : CapsLock} {script : Script}
    (compiled : compileType text layout caps = .ok script) :
    (∀ c ∈ text, (layout.stroke c).isSome = true) ∧
      script.steps = text.flatMap (layout.tap caps) := by
  unfold compileType at compiled
  by_cases empty : text = []
  · simp [empty] at compiled
  by_cases unreachable : unreachableChars layout text ≠ []
  · simp [empty, unreachable] at compiled
  · simp only [empty, if_false, if_neg unreachable] at compiled
    obtain ⟨reached, steps⟩ :=
      foldlM_typeChar text (unreachableChars_nil (by simpa using unreachable)) compiled
    exact ⟨reached, by simpa using steps⟩

end NanoKvm.Script
