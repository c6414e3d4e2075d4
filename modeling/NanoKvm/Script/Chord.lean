import NanoKvm.Script.Compile
import NanoKvm.Script.Text

/-!
# Chords

`script/keynames.rs` and `script/chord.rs`: names joined by `+`, of which all but
the last are modifiers.  A single character is the layout's before it is a name.
-/

set_option autoImplicit false
set_option linter.dupNamespace false

namespace NanoKvm.Script

open NanoKvm.Proto

/-! ## Key names -/

/-- Name, key, and whether the name means the shifted glyph. -/
def keyNames : List (String × KeyCode × Bool) :=
  [("a", .keyA, false), ("b", .keyB, false), ("c", .keyC, false), ("d", .keyD, false),
    ("e", .keyE, false), ("f", .keyF, false), ("g", .keyG, false), ("h", .keyH, false),
    ("i", .keyI, false), ("j", .keyJ, false), ("k", .keyK, false), ("l", .keyL, false),
    ("m", .keyM, false), ("n", .keyN, false), ("o", .keyO, false), ("p", .keyP, false),
    ("q", .keyQ, false), ("r", .keyR, false), ("s", .keyS, false), ("t", .keyT, false),
    ("u", .keyU, false), ("v", .keyV, false), ("w", .keyW, false), ("x", .keyX, false),
    ("y", .keyY, false), ("z", .keyZ, false),
    ("0", .digit0, false), ("1", .digit1, false), ("2", .digit2, false), ("3", .digit3, false),
    ("4", .digit4, false), ("5", .digit5, false), ("6", .digit6, false), ("7", .digit7, false),
    ("8", .digit8, false), ("9", .digit9, false),
    ("f1", .f1, false), ("f2", .f2, false), ("f3", .f3, false), ("f4", .f4, false),
    ("f5", .f5, false), ("f6", .f6, false), ("f7", .f7, false), ("f8", .f8, false),
    ("f9", .f9, false), ("f10", .f10, false), ("f11", .f11, false), ("f12", .f12, false),
    ("f13", .f13, false), ("f14", .f14, false), ("f15", .f15, false), ("f16", .f16, false),
    ("f17", .f17, false), ("f18", .f18, false), ("f19", .f19, false), ("f20", .f20, false),
    ("f21", .f21, false), ("f22", .f22, false), ("f23", .f23, false), ("f24", .f24, false),
    ("enter", .enter, false), ("esc", .escape, false), ("tab", .tab, false),
    ("space", .space, false), ("backspace", .backspace, false), ("delete", .delete, false),
    ("insert", .insert, false), ("home", .home, false), ("end", .endKey, false),
    ("pgup", .pageUp, false), ("pgdn", .pageDown, false), ("up", .arrowUp, false),
    ("down", .arrowDown, false), ("left", .arrowLeft, false), ("right", .arrowRight, false),
    ("capslock", .capsLock, false), ("numlock", .numLock, false),
    ("scrolllock", .scrollLock, false), ("printscreen", .printScreen, false),
    ("pause", .pause, false), ("menu", .contextMenu, false),
    ("minus", .minus, false), ("equal", .equal, false), ("bracketleft", .bracketLeft, false),
    ("bracketright", .bracketRight, false), ("backslash", .backslash, false),
    ("semicolon", .semicolon, false), ("quote", .quote, false), ("backquote", .backquote, false),
    ("comma", .comma, false), ("period", .period, false), ("slash", .slash, false),
    -- A chord is split at `+`, so the shifted glyph of `=` needs a word.
    ("plus", .equal, true),
    ("kp0", .numpad0, false), ("kp1", .numpad1, false), ("kp2", .numpad2, false),
    ("kp3", .numpad3, false), ("kp4", .numpad4, false), ("kp5", .numpad5, false),
    ("kp6", .numpad6, false), ("kp7", .numpad7, false), ("kp8", .numpad8, false),
    ("kp9", .numpad9, false), ("kpenter", .numpadEnter, false), ("kpplus", .numpadAdd, false),
    ("kpminus", .numpadSubtract, false), ("kpmultiply", .numpadMultiply, false),
    ("kpdivide", .numpadDivide, false), ("kpdecimal", .numpadDecimal, false)]

/-- Other spellings, and each punctuation key by its unshifted glyph. -/
def aliases : List (List Char × KeyCode) :=
  [("return".toList, .enter), ("escape".toList, .escape), ("del".toList, .delete),
    ("ins".toList, .insert), ("pageup".toList, .pageUp), ("pagedown".toList, .pageDown),
    ("prtsc".toList, .printScreen), ("sysrq".toList, .printScreen),
    ("contextmenu".toList, .contextMenu), ("grave".toList, .backquote),
    (['-'], .minus), (['='], .equal), (['['], .bracketLeft), ([']'], .bracketRight),
    ([Char.ofNat 0x5C], .backslash), ([';'], .semicolon), ([Char.ofNat 0x27], .quote),
    ([Char.ofNat 0x60], .backquote), ([','], .comma), (['.'], .period), (['/'], .slash)]

def modifierNames : List (String × KeyCode) :=
  [("ctrl", .controlLeft), ("control", .controlLeft), ("alt", .altLeft), ("shift", .shiftLeft),
    ("super", .superLeft), ("win", .superLeft), ("meta", .superLeft), ("cmd", .superLeft),
    ("rctrl", .controlRight), ("ralt", .altRight), ("altgr", .altRight), ("rshift", .shiftRight),
    ("rsuper", .superRight)]

def keyByNameWithShift (name : List Char) : Option (KeyCode × Bool) :=
  match keyNames.find? fun entry => eqIgnoreAsciiCase entry.1.toList name with
  | some (_, key, shifted) => some (key, shifted)
  | none => (aliases.find? fun entry => eqIgnoreAsciiCase entry.1 name).map fun entry =>
      (entry.2, false)

/-- The bit is the keymap's. -/
def modifierByName (name : List Char) : Option U8 :=
  match modifierNames.find? fun entry => eqIgnoreAsciiCase entry.1.toList name with
  | some (_, key) =>
      match hidKey key with
      | some (.modifier bit) => some bit
      | _ => none
  | none => none

/-! ## Chords -/

inductive ChordError where
  | empty
  | emptyToken (chord : List Char)
  | unknownKey (token chord : List Char)
  | notAModifier (token chord : List Char)
  deriving DecidableEq, Repr

def resolveKey (layout : Layout) (token : List Char) : Option (KeyCode × Bool) :=
  match token with
  | [c] =>
      match layout.keyForChar c with
      | some found => some found
      | none => keyByNameWithShift token
  | _ => keyByNameWithShift token

/-- The bits of the tokens before the last. -/
def holdModifier (chord : List Char) (modifiers : U8) (token : List Char) :
    Except ChordError U8 :=
  match modifierByName token with
  | some bit => .ok (modifiers ||| bit)
  | none => .error (.notAModifier token chord)

def parseChordWith (layout : Layout) (chord : List Char) : Except ChordError Chord :=
  if chord = [] then .error .empty
  else
    let tokens := chord.splitOn '+'
    if tokens.any (· = []) then .error (.emptyToken chord)
    else
      match tokens.dropLast.foldlM (holdModifier chord) 0#8 with
      | .error error => .error error
      | .ok modifiers =>
          let last := tokens.getLast?.getD []
          -- A modifier last is a chord of modifiers alone.
          match modifierByName last with
          | some bit => .ok ⟨modifiers ||| bit, none⟩
          | none =>
              match resolveKey layout last with
              | none => .error (.unknownKey last chord)
              | some (key, shift) =>
                  .ok ⟨if shift then modifiers ||| Modifier.leftShift else modifiers, some key⟩

/-! ## What a chord presses -/

/-- Every modifier name holds a bit. -/
theorem modifierByName_bit {name : List Char} {bit : U8} (found : modifierByName name = some bit) :
    bit ≠ 0#8 := by
  have all : ∀ entry ∈ modifierNames, hidKey entry.2 ≠ some (.modifier 0#8) := by
    decide
  unfold modifierByName at found
  split at found
  · rename_i _ key listed
    split at found
    · rename_i held
      cases found
      rintro rfl
      exact all _ (List.mem_of_find?_eq_some listed) held
    · cases found
  · cases found

/-- No key of the keymap has the usage that stands for none. -/
theorem usageOf_key {key : KeyCode} {usage : U8} (mapped : usageOf key = .ok usage) :
    usage ≠ 0#8 := by
  have all : decide (hidKey key = some (.usage 0#8)) = false := by
    cases key <;> rfl
  unfold usageOf at mapped
  split at mapped
  · rename_i found
    cases mapped
    rintro rfl
    exact of_decide_eq_false all found
  · cases mapped

/-- A chord without a key holds a modifier. -/
theorem parseChordWith_holds {layout : Layout} {text : List Char} {chord : Chord}
    (parsed : parseChordWith layout text = .ok chord) :
    chord.key = none → chord.modifiers ≠ 0#8 := by
  unfold parseChordWith at parsed
  split at parsed
  · cases parsed
  dsimp only at parsed
  split at parsed
  · cases parsed
  split at parsed
  · cases parsed
  split at parsed
  · rename_i bit found
    cases parsed
    intro _ none
    exact modifierByName_bit found (BitVec.or_eq_zero_iff.mp none).2
  · split at parsed
    · cases parsed
    · cases parsed
      exact nofun

end NanoKvm.Script
