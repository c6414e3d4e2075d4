import NanoKvm.Proto.Report

/-!
# Physical keys and their HID usages

`proto/keymap.rs`.  The keys are those of winit's `KeyCode`; the ones the source
lists as unmapped, and any key winit adds later, are not forwarded.
-/

set_option autoImplicit false

namespace NanoKvm.Proto

inductive KeyCode where
  | controlLeft | shiftLeft | altLeft | superLeft | controlRight | shiftRight | altRight
  | superRight | keyA | keyB | keyC | keyD | keyE | keyF | keyG | keyH | keyI | keyJ | keyK
  | keyL | keyM | keyN | keyO | keyP | keyQ | keyR | keyS | keyT | keyU | keyV | keyW | keyX
  | keyY | keyZ | digit1 | digit2 | digit3 | digit4 | digit5 | digit6 | digit7 | digit8 | digit9
  | digit0 | enter | escape | backspace | tab | space | minus | equal | bracketLeft
  | bracketRight | backslash | semicolon | quote | backquote | comma | period | slash | capsLock
  | f1 | f2 | f3 | f4 | f5 | f6 | f7 | f8 | f9 | f10 | f11 | f12 | printScreen | scrollLock
  | pause | insert | home | pageUp | delete | endKey | pageDown | arrowRight | arrowLeft
  | arrowDown | arrowUp | numLock | numpadDivide | numpadMultiply | numpadSubtract | numpadAdd
  | numpadEnter | numpad1 | numpad2 | numpad3 | numpad4 | numpad5 | numpad6 | numpad7 | numpad8
  | numpad9 | numpad0 | numpadDecimal | intlBackslash | contextMenu | power | numpadEqual | f13
  | f14 | f15 | f16 | f17 | f18 | f19 | f20 | f21 | f22 | f23 | f24 | help | props | select
  | again | undo | cut | copy | paste | find | audioVolumeMute | audioVolumeUp | audioVolumeDown
  | numpadComma | intlRo | kanaMode | intlYen | convert | nonConvert | lang1 | lang2 | lang3
  | lang4 | lang5 | numpadParenLeft | numpadParenRight | numpadBackspace | numpadMemoryStore
  | numpadMemoryRecall | numpadMemoryClear | numpadMemoryAdd | numpadMemorySubtract | numpadClear
  | numpadClearEntry | mediaPlayPause | mediaStop | mediaTrackPrevious | mediaTrackNext | eject
  | mediaSelect | launchMail | launchApp1 | launchApp2 | browserSearch | browserHome
  | browserBack | browserForward | browserStop | browserRefresh | browserFavorites | sleep
  | wakeUp | fn | fnLock | numpadStar | numpadHash | metaKey | hyper | turbo | abort | resume
  | suspend | openKey | hiragana | katakana | f25 | f26 | f27 | f28 | f29 | f30 | f31 | f32 | f33
  | f34 | f35
  deriving DecidableEq, Repr

def hidKey : KeyCode → Option HidKey
  | .controlLeft => some (.modifier Modifier.leftCtrl)
  | .shiftLeft => some (.modifier Modifier.leftShift)
  | .altLeft => some (.modifier Modifier.leftAlt)
  | .superLeft => some (.modifier Modifier.leftMeta)
  | .controlRight => some (.modifier Modifier.rightCtrl)
  | .shiftRight => some (.modifier Modifier.rightShift)
  | .altRight => some (.modifier Modifier.rightAlt)
  | .superRight => some (.modifier Modifier.rightMeta)
  | .keyA => some (.usage 0x04#8)
  | .keyB => some (.usage 0x05#8)
  | .keyC => some (.usage 0x06#8)
  | .keyD => some (.usage 0x07#8)
  | .keyE => some (.usage 0x08#8)
  | .keyF => some (.usage 0x09#8)
  | .keyG => some (.usage 0x0a#8)
  | .keyH => some (.usage 0x0b#8)
  | .keyI => some (.usage 0x0c#8)
  | .keyJ => some (.usage 0x0d#8)
  | .keyK => some (.usage 0x0e#8)
  | .keyL => some (.usage 0x0f#8)
  | .keyM => some (.usage 0x10#8)
  | .keyN => some (.usage 0x11#8)
  | .keyO => some (.usage 0x12#8)
  | .keyP => some (.usage 0x13#8)
  | .keyQ => some (.usage 0x14#8)
  | .keyR => some (.usage 0x15#8)
  | .keyS => some (.usage 0x16#8)
  | .keyT => some (.usage 0x17#8)
  | .keyU => some (.usage 0x18#8)
  | .keyV => some (.usage 0x19#8)
  | .keyW => some (.usage 0x1a#8)
  | .keyX => some (.usage 0x1b#8)
  | .keyY => some (.usage 0x1c#8)
  | .keyZ => some (.usage 0x1d#8)
  | .digit1 => some (.usage 0x1e#8)
  | .digit2 => some (.usage 0x1f#8)
  | .digit3 => some (.usage 0x20#8)
  | .digit4 => some (.usage 0x21#8)
  | .digit5 => some (.usage 0x22#8)
  | .digit6 => some (.usage 0x23#8)
  | .digit7 => some (.usage 0x24#8)
  | .digit8 => some (.usage 0x25#8)
  | .digit9 => some (.usage 0x26#8)
  | .digit0 => some (.usage 0x27#8)
  | .enter => some (.usage 0x28#8)
  | .escape => some (.usage 0x29#8)
  | .backspace => some (.usage 0x2a#8)
  | .tab => some (.usage 0x2b#8)
  | .space => some (.usage 0x2c#8)
  | .minus => some (.usage 0x2d#8)
  | .equal => some (.usage 0x2e#8)
  | .bracketLeft => some (.usage 0x2f#8)
  | .bracketRight => some (.usage 0x30#8)
  | .backslash => some (.usage 0x31#8)
  | .semicolon => some (.usage 0x33#8)
  | .quote => some (.usage 0x34#8)
  | .backquote => some (.usage 0x35#8)
  | .comma => some (.usage 0x36#8)
  | .period => some (.usage 0x37#8)
  | .slash => some (.usage 0x38#8)
  | .capsLock => some (.usage 0x39#8)
  | .f1 => some (.usage 0x3a#8)
  | .f2 => some (.usage 0x3b#8)
  | .f3 => some (.usage 0x3c#8)
  | .f4 => some (.usage 0x3d#8)
  | .f5 => some (.usage 0x3e#8)
  | .f6 => some (.usage 0x3f#8)
  | .f7 => some (.usage 0x40#8)
  | .f8 => some (.usage 0x41#8)
  | .f9 => some (.usage 0x42#8)
  | .f10 => some (.usage 0x43#8)
  | .f11 => some (.usage 0x44#8)
  | .f12 => some (.usage 0x45#8)
  | .printScreen => some (.usage 0x46#8)
  | .scrollLock => some (.usage 0x47#8)
  | .pause => some (.usage 0x48#8)
  | .insert => some (.usage 0x49#8)
  | .home => some (.usage 0x4a#8)
  | .pageUp => some (.usage 0x4b#8)
  | .delete => some (.usage 0x4c#8)
  | .endKey => some (.usage 0x4d#8)
  | .pageDown => some (.usage 0x4e#8)
  | .arrowRight => some (.usage 0x4f#8)
  | .arrowLeft => some (.usage 0x50#8)
  | .arrowDown => some (.usage 0x51#8)
  | .arrowUp => some (.usage 0x52#8)
  | .numLock => some (.usage 0x53#8)
  | .numpadDivide => some (.usage 0x54#8)
  | .numpadMultiply => some (.usage 0x55#8)
  | .numpadSubtract => some (.usage 0x56#8)
  | .numpadAdd => some (.usage 0x57#8)
  | .numpadEnter => some (.usage 0x58#8)
  | .numpad1 => some (.usage 0x59#8)
  | .numpad2 => some (.usage 0x5a#8)
  | .numpad3 => some (.usage 0x5b#8)
  | .numpad4 => some (.usage 0x5c#8)
  | .numpad5 => some (.usage 0x5d#8)
  | .numpad6 => some (.usage 0x5e#8)
  | .numpad7 => some (.usage 0x5f#8)
  | .numpad8 => some (.usage 0x60#8)
  | .numpad9 => some (.usage 0x61#8)
  | .numpad0 => some (.usage 0x62#8)
  | .numpadDecimal => some (.usage 0x63#8)
  | .intlBackslash => some (.usage 0x64#8)
  | .contextMenu => some (.usage 0x65#8)
  | .power => some (.usage 0x66#8)
  | .numpadEqual => some (.usage 0x67#8)
  | .f13 => some (.usage 0x68#8)
  | .f14 => some (.usage 0x69#8)
  | .f15 => some (.usage 0x6a#8)
  | .f16 => some (.usage 0x6b#8)
  | .f17 => some (.usage 0x6c#8)
  | .f18 => some (.usage 0x6d#8)
  | .f19 => some (.usage 0x6e#8)
  | .f20 => some (.usage 0x6f#8)
  | .f21 => some (.usage 0x70#8)
  | .f22 => some (.usage 0x71#8)
  | .f23 => some (.usage 0x72#8)
  | .f24 => some (.usage 0x73#8)
  | .help => some (.usage 0x75#8)
  | .props => some (.usage 0x76#8)
  | .select => some (.usage 0x77#8)
  | .again => some (.usage 0x79#8)
  | .undo => some (.usage 0x7a#8)
  | .cut => some (.usage 0x7b#8)
  | .copy => some (.usage 0x7c#8)
  | .paste => some (.usage 0x7d#8)
  | .find => some (.usage 0x7e#8)
  | .audioVolumeMute => some (.usage 0x7f#8)
  | .audioVolumeUp => some (.usage 0x80#8)
  | .audioVolumeDown => some (.usage 0x81#8)
  | .numpadComma => some (.usage 0x85#8)
  | .intlRo => some (.usage 0x87#8)
  | .kanaMode => some (.usage 0x88#8)
  | .intlYen => some (.usage 0x89#8)
  | .convert => some (.usage 0x8a#8)
  | .nonConvert => some (.usage 0x8b#8)
  | .lang1 => some (.usage 0x90#8)
  | .lang2 => some (.usage 0x91#8)
  | .lang3 => some (.usage 0x92#8)
  | .lang4 => some (.usage 0x93#8)
  | .lang5 => some (.usage 0x94#8)
  | .numpadParenLeft => some (.usage 0xb6#8)
  | .numpadParenRight => some (.usage 0xb7#8)
  | .numpadBackspace => some (.usage 0xbb#8)
  | .numpadMemoryStore => some (.usage 0xd0#8)
  | .numpadMemoryRecall => some (.usage 0xd1#8)
  | .numpadMemoryClear => some (.usage 0xd2#8)
  | .numpadMemoryAdd => some (.usage 0xd3#8)
  | .numpadMemorySubtract => some (.usage 0xd4#8)
  | .numpadClear => some (.usage 0xd8#8)
  | .numpadClearEntry => some (.usage 0xd9#8)
  | .mediaPlayPause => some (.usage 0xe8#8)
  | .mediaStop => some (.usage 0xe9#8)
  | .mediaTrackPrevious => some (.usage 0xea#8)
  | .mediaTrackNext => some (.usage 0xeb#8)
  | .eject => some (.usage 0xec#8)
  | .mediaSelect => some (.usage 0xed#8)
  | .launchMail => some (.usage 0xee#8)
  | .launchApp1 => some (.usage 0xef#8)
  | .launchApp2 => some (.usage 0xf0#8)
  | .browserSearch => some (.usage 0xf0#8)
  | .browserHome => some (.usage 0xf1#8)
  | .browserBack => some (.usage 0xf2#8)
  | .browserForward => some (.usage 0xf3#8)
  | .browserStop => some (.usage 0xf4#8)
  | .browserRefresh => some (.usage 0xf5#8)
  | .browserFavorites => some (.usage 0xf6#8)
  | .sleep => some (.usage 0xf8#8)
  | .wakeUp => some (.usage 0xf9#8)
  | .fn | .fnLock | .numpadStar | .numpadHash | .metaKey | .hyper | .turbo | .abort | .resume
  | .suspend | .openKey | .hiragana | .katakana | .f25 | .f26 | .f27 | .f28 | .f29 | .f30
  | .f31 | .f32 | .f33 | .f34 | .f35 => none

end NanoKvm.Proto
