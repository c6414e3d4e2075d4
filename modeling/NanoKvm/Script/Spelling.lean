import NanoKvm.Lib.Mask
import NanoKvm.Script.Chord

/-!
# What the chord grammar accepts

Modifier names before the last token, and last a modifier name, a character the
layout reaches or a key name.  The byte is the named bits, with left shift for a
shifted last token, so that only the set of held names counts.
-/

set_option autoImplicit false
set_option linter.dupNamespace false

namespace NanoKvm.Script

open NanoKvm.Proto
open NanoKvm.Lib (mem_setBits foldl_or_set gather_setBits freshFrom nodup_of_freshFrom)

def IsModifierName (token : List Char) : Prop :=
  ∃ entry ∈ modifierNames, eqIgnoreAsciiCase entry.1.toList token = true

/-- A canonical name or another spelling, in any case. -/
def IsKeyName (token : List Char) : Prop :=
  (∃ entry ∈ keyNames, eqIgnoreAsciiCase entry.1.toList token = true) ∨
    ∃ entry ∈ aliases, eqIgnoreAsciiCase entry.1 token = true

/-- A single character the layout has a key for. -/
def IsReached (layout : Layout) (token : List Char) : Prop :=
  ∃ c, token = [c] ∧ (layout.keyForChar c).isSome = true

/-- A shifted character, or a name that stands for one. -/
def IsShifted (layout : Layout) (token : List Char) : Prop :=
  (∃ c key, token = [c] ∧ layout.keyForChar c = some (key, true)) ∨
    ∃ entry ∈ keyNames, entry.2.2 = true ∧ eqIgnoreAsciiCase entry.1.toList token = true

/-- The tokens of a chord, the last apart. -/
structure Spelled (layout : Layout) (held : List (List Char)) (last : List Char) : Prop where
  nonempty : ∀ token ∈ held ++ [last], token ≠ []
  modifiers : ∀ token ∈ held, IsModifierName token
  ends : IsModifierName last ∨ IsReached layout last ∨ IsKeyName last

/-- The bit a modifier name holds, of other tokens none. -/
def namedBit (token : List Char) : U8 := (modifierByName token).getD 0#8

def namedBits (tokens : List (List Char)) : U8 := (tokens.map namedBit).foldl (· ||| ·) 0#8

/-! ## The tables -/

section Tables
variable {token : List Char}

theorem eqIgnoreAsciiCase_length {text other : List Char}
    (same : eqIgnoreAsciiCase text other = true) : text.length = other.length := by
  have mapped := congrArg List.length (of_decide_eq_true same)
  simpa using mapped

theorem eqIgnoreAsciiCase_trans {text other third : List Char}
    (first : eqIgnoreAsciiCase text third = true) (second : eqIgnoreAsciiCase other third = true) :
    eqIgnoreAsciiCase text other = true :=
  decide_eq_true ((of_decide_eq_true first).trans (of_decide_eq_true second).symm)

/-- A number for a name in any case.  The modulus sets the names of the tables apart. -/
def nameHash (name : List Char) : Nat :=
  (name.map Char.toLower).foldl (fun hash c => hash * 256 + c.toNat) 0 % 1205

theorem nameHash_same {text other : List Char} (same : eqIgnoreAsciiCase text other = true) :
    nameHash text = nameHash other := by
  unfold nameHash
  rw [of_decide_eq_true same]

/-- Checked in one pass: no name is listed twice; no modifier is a single character; a
key name is one token, a single character is what the layout has for it, and one name
stands for a shifted glyph. -/
theorem tables_checked :
    freshFrom 0 (modifierNames.map (fun entry => nameHash entry.1.toList) ++
      keyNames.map fun entry => nameHash entry.1.toList) = true ∧
    (∀ entry ∈ modifierNames, entry.1.toList.length ≠ 1) ∧
    ∀ entry ∈ keyNames, entry.1.toList ≠ [] ∧ '+' ∉ entry.1.toList ∧
      (entry.1.toList.length = 1 → entry.1.toList.head?.bind usKeyForChar = some entry.2) ∧
      (entry.2.2 = true → entry = ("plus", .equal, true)) := by
  decide +kernel

theorem names_distinct : (modifierNames.map (fun entry => nameHash entry.1.toList) ++
    keyNames.map fun entry => nameHash entry.1.toList).Nodup :=
  nodup_of_freshFrom tables_checked.1

theorem keyNames_apart {entry other : String × KeyCode × Bool} (listed : entry ∈ keyNames)
    (listed' : other ∈ keyNames)
    (same : eqIgnoreAsciiCase entry.1.toList other.1.toList = true) : entry = other :=
  List.inj_on_of_nodup_map (List.nodup_append.mp names_distinct).2.1 listed listed'
    (nameHash_same same)

/-- No name is of a modifier and of a key. -/
theorem modifier_apart {modifier : String × KeyCode} {entry : String × KeyCode × Bool}
    (listed : modifier ∈ modifierNames) (listed' : entry ∈ keyNames) :
    ¬ eqIgnoreAsciiCase modifier.1.toList entry.1.toList = true := fun same =>
  (List.nodup_append.mp names_distinct).2.2 _ (List.mem_map_of_mem listed) _
    (List.mem_map_of_mem listed') (nameHash_same same)

theorem modifierByName_isSome : (modifierByName token).isSome = true ↔ IsModifierName token := by
  have bits : ∀ entry ∈ modifierNames, ∃ bit, hidKey entry.2 = some (.modifier bit) := by
    simp only [modifierNames, List.forall_mem_cons, List.not_mem_nil, false_implies, implies_true,
      and_true]
    exact ⟨⟨_, rfl⟩, ⟨_, rfl⟩, ⟨_, rfl⟩, ⟨_, rfl⟩, ⟨_, rfl⟩, ⟨_, rfl⟩, ⟨_, rfl⟩, ⟨_, rfl⟩,
      ⟨_, rfl⟩, ⟨_, rfl⟩, ⟨_, rfl⟩, ⟨_, rfl⟩, ⟨_, rfl⟩⟩
  unfold modifierByName IsModifierName
  cases found : modifierNames.find? fun entry => eqIgnoreAsciiCase entry.1.toList token with
  | none =>
      rw [List.find?_eq_none] at found
      simp only [Option.isSome_none, Bool.false_eq_true, false_iff, not_exists, not_and]
      exact found
  | some entry =>
      obtain ⟨bit, mapped⟩ := bits entry (List.mem_of_find?_eq_some found)
      have same := List.find?_some found
      simp only [mapped, Option.isSome_some, true_iff]
      exact ⟨entry, List.mem_of_find?_eq_some found, same⟩

theorem keyByName_isSome : (keyByNameWithShift token).isSome = true ↔ IsKeyName token := by
  unfold keyByNameWithShift IsKeyName
  cases found : keyNames.find? fun entry => eqIgnoreAsciiCase entry.1.toList token with
  | some entry =>
      have same := List.find?_some found
      simp only [Option.isSome_some, true_iff]
      exact .inl ⟨entry, List.mem_of_find?_eq_some found, same⟩
  | none =>
      rw [List.find?_eq_none] at found
      have unnamed : ¬ ∃ entry ∈ keyNames, eqIgnoreAsciiCase entry.1.toList token = true := by
        rintro ⟨entry, member, same⟩
        exact found entry member same
      simp only [Option.isSome_map, List.find?_isSome, unnamed, false_or]

/-- One name stands for a shifted glyph. -/
theorem shifted_plus {entry : String × KeyCode × Bool} (listed : entry ∈ keyNames) :
    entry.2.2 = true → entry = ("plus", .equal, true) :=
  (tables_checked.2.2 entry listed).2.2.2

theorem keyByName_shift {key : KeyCode} {shift : Bool}
    (found : keyByNameWithShift token = some (key, shift)) :
    shift = true ↔
      ∃ entry ∈ keyNames, entry.2.2 = true ∧ eqIgnoreAsciiCase entry.1.toList token = true := by
  unfold keyByNameWithShift at found
  cases named : keyNames.find? fun entry => eqIgnoreAsciiCase entry.1.toList token with
  | some entry =>
      have member := List.mem_of_find?_eq_some named
      have same := List.find?_some named
      simp only [named, Option.some.injEq, Prod.mk.injEq] at found
      rw [← found.2]
      constructor
      · exact fun shifted => ⟨entry, member, shifted, same⟩
      · rintro ⟨other, listed, shifted, same'⟩
        rw [keyNames_apart member listed (eqIgnoreAsciiCase_trans same same')]
        exact shifted
  | none =>
      rw [List.find?_eq_none] at named
      simp only [List.find?_eq_none.mpr named, Option.map_eq_some_iff, Prod.mk.injEq] at found
      obtain ⟨_, _, _, plain⟩ := found
      rw [← plain]
      simp only [Bool.false_eq_true, false_iff]
      rintro ⟨entry, member, -, same⟩
      exact named entry member same

theorem resolveKey_isSome {layout : Layout} :
    (resolveKey layout token).isSome = true ↔ IsReached layout token ∨ IsKeyName token := by
  rw [← keyByName_isSome]
  unfold resolveKey IsReached
  split
  · rename_i c
    cases reached : layout.keyForChar c with
    | some found => simp [reached]
    | none => simp [reached]
  · rename_i several
    simp only [iff_or_self]
    rintro ⟨c, rfl, _⟩
    exact absurd rfl (several c)

/-- No shifted name is a single character. -/
theorem shifted_long {c : Char} : ¬ ∃ entry ∈ keyNames, entry.2.2 = true ∧
    eqIgnoreAsciiCase entry.1.toList [c] = true := by
  rintro ⟨entry, member, shifted, same⟩
  rw [shifted_plus member shifted] at same
  have length := eqIgnoreAsciiCase_length same
  simp at length

theorem resolveKey_shift {layout : Layout} {key : KeyCode} {shift : Bool}
    (found : resolveKey layout token = some (key, shift)) :
    shift = true ↔ IsShifted layout token := by
  unfold resolveKey at found
  unfold IsShifted
  split at found
  · rename_i c
    cases reached : layout.keyForChar c with
    | some entry =>
        simp only [reached, Option.some.injEq] at found
        subst found
        simp only [shifted_long, or_false]
        constructor
        · rintro rfl
          exact ⟨c, key, rfl, reached⟩
        · rintro ⟨c', key', same, reached'⟩
          cases same
          rw [reached] at reached'
          cases reached'
          rfl
    | none =>
        simp only [reached] at found
        rw [keyByName_shift found]
        refine ⟨.inr, ?_⟩
        rintro (⟨c', key', same, reached'⟩ | named)
        · cases same
          rw [reached] at reached'
          cases reached'
        · exact named
  · rename_i several
    rw [keyByName_shift found]
    refine ⟨.inr, ?_⟩
    rintro (⟨c, key, rfl, _⟩ | named)
    · exact absurd rfl (several c)
    · exact named

/-- A modifier name stands for no glyph. -/
theorem modifier_plain {layout : Layout} (modifier : IsModifierName token) :
    ¬ IsShifted layout token := by
  obtain ⟨entry, member, same⟩ := modifier
  rintro (⟨c, key, rfl, _⟩ | ⟨named, listed, shifted, same'⟩)
  · exact tables_checked.2.1 entry member (eqIgnoreAsciiCase_length same)
  · exact modifier_apart member listed (eqIgnoreAsciiCase_trans same same')

end Tables

/-! ## The tokens -/

/-- What the last token adds: its bit, or a key with the shift it needs. -/
def lastToken (layout : Layout) (last : List Char) : Option (U8 × Option KeyCode) :=
  match modifierByName last with
  | some bit => some (bit, none)
  | none => (resolveKey layout last).map fun (key, shift) =>
      (if shift then Modifier.leftShift else 0#8, some key)

theorem foldlM_holdModifier (chord : List Char) (tokens : List (List Char)) (start bits : U8) :
    tokens.foldlM (holdModifier chord) start = .ok bits ↔
      (∀ token ∈ tokens, IsModifierName token) ∧
        bits = (tokens.map namedBit).foldl (· ||| ·) start := by
  induction tokens generalizing start with
  | nil =>
      simp only [List.foldlM_nil, List.map_nil, List.foldl_nil, List.not_mem_nil, false_implies,
        implies_true, true_and]
      constructor
      · intro same
        cases same
        rfl
      · rintro rfl
        rfl
  | cons token rest ih =>
      rw [List.foldlM_cons, List.forall_mem_cons, ← modifierByName_isSome]
      cases named : modifierByName token with
      | none => simp [holdModifier, named, Bind.bind, Except.bind]
      | some bit =>
          have bitNamed : namedBit token = bit := by rw [namedBit, named, Option.getD_some]
          have held : holdModifier chord start token = .ok (start ||| bit) := by
            rw [holdModifier, named]
          rw [held, List.map_cons, List.foldl_cons, bitNamed]
          exact (ih (start ||| bit)).trans (by simp)

theorem namedBits_snoc (held : List (List Char)) (last : List Char) :
    namedBits (held ++ [last]) = namedBits held ||| namedBit last := by
  simp [namedBits]

theorem tokens_split (text : List Char) : ∃ held last, text.splitOn '+' = held ++ [last] := by
  have nonempty : text.splitOn '+' ≠ [] := List.splitOn_ne_nil _ _
  exact ⟨_, _, (List.dropLast_append_getLast nonempty).symm⟩

/-- A chord by its tokens. -/
theorem parseChordWith_tokens {layout : Layout} {text last : List Char}
    {held : List (List Char)} (split : text.splitOn '+' = held ++ [last]) (chord : Chord) :
    parseChordWith layout text = .ok chord ↔
      (∀ token ∈ held ++ [last], token ≠ []) ∧ (∀ token ∈ held, IsModifierName token) ∧
        ∃ added, lastToken layout last = some added ∧
          chord = ⟨namedBits held ||| added.1, added.2⟩ := by
  unfold parseChordWith
  by_cases empty : text = []
  · rw [if_pos empty]
    have tokens : held ++ [last] = [[]] := by rw [← split, empty]; rfl
    rw [tokens]
    simp
  rw [if_neg empty]
  simp only [split]
  by_cases left : (held ++ [last]).any (· = []) = true
  · rw [if_pos left]
    obtain ⟨token, member, none⟩ := List.any_eq_true.mp left
    constructor
    · intro parsed
      cases parsed
    · rintro ⟨nonempty, -⟩
      exact absurd (of_decide_eq_true none) (nonempty token member)
  have nonempty : ∀ token ∈ held ++ [last], token ≠ [] := by
    intro token member none
    exact left (List.any_eq_true.mpr ⟨token, member, decide_eq_true none⟩)
  rw [if_neg left, List.dropLast_concat, List.getLast?_concat, Option.getD_some]
  cases folded : held.foldlM (holdModifier text) 0#8 with
  | error e =>
      constructor
      · intro parsed
        cases parsed
      · rintro ⟨-, modifiers, -⟩
        rw [(foldlM_holdModifier text held 0#8 _).mpr ⟨modifiers, rfl⟩] at folded
        cases folded
  | ok bits =>
      obtain ⟨modifiers, same⟩ := (foldlM_holdModifier text held 0#8 bits).mp folded
      have named : bits = namedBits held := same
      rw [and_iff_right nonempty, and_iff_right modifiers, named]
      unfold lastToken
      cases modifierByName last with
      | some bit =>
          constructor
          · intro parsed
            exact ⟨_, rfl, (Except.ok.inj parsed).symm⟩
          · rintro ⟨added, found, rfl⟩
            cases found
            rfl
      | none =>
          rcases resolveKey layout last with _ | ⟨key, shift⟩
          · constructor
            · intro parsed
              cases parsed
            · rintro ⟨added, found, -⟩
              cases found
          · have byte : (if shift then namedBits held ||| Modifier.leftShift else namedBits held) =
                namedBits held ||| if shift then Modifier.leftShift else 0#8 := by
              cases shift
              · exact BitVec.or_zero.symm
              · rfl
            dsimp only [Option.map_some]
            rw [byte]
            constructor
            · intro parsed
              exact ⟨_, rfl, (Except.ok.inj parsed).symm⟩
            · rintro ⟨added, found, rfl⟩
              cases found
              rfl

/-! ## What is accepted, and what it holds -/

section Accepted
variable {layout : Layout} {text last : List Char} {held : List (List Char)}

theorem lastToken_isSome :
    (lastToken layout last).isSome = true ↔
      IsModifierName last ∨ IsReached layout last ∨ IsKeyName last := by
  rw [← modifierByName_isSome, ← resolveKey_isSome]
  unfold lastToken
  cases modifierByName last <;> simp

theorem parseChordWith_accepts (split : text.splitOn '+' = held ++ [last]) :
    (∃ chord, parseChordWith layout text = .ok chord) ↔ Spelled layout held last := by
  constructor
  · rintro ⟨chord, parsed⟩
    obtain ⟨nonempty, modifiers, added, found, -⟩ :=
      (parseChordWith_tokens split chord).mp parsed
    exact ⟨nonempty, modifiers, lastToken_isSome.mp (by rw [found]; rfl)⟩
  · rintro ⟨nonempty, modifiers, ends⟩
    obtain ⟨added, found⟩ := Option.isSome_iff_exists.mp (lastToken_isSome.mpr ends)
    exact ⟨_, (parseChordWith_tokens split _).mpr ⟨nonempty, modifiers, added, found, rfl⟩⟩

/-- The last token's own bits: its modifier, or the shift it needs. -/
theorem lastToken_bits {added : U8 × Option KeyCode} (found : lastToken layout last = some added) :
    (IsShifted layout last → added.1 = namedBit last ||| Modifier.leftShift) ∧
      (¬ IsShifted layout last → added.1 = namedBit last) ∧
      (added.2 = none ↔ IsModifierName last) := by
  unfold lastToken at found
  rw [← modifierByName_isSome]
  unfold namedBit
  cases named : modifierByName last with
  | some bit =>
      have plain : ¬ IsShifted layout last :=
        modifier_plain (modifierByName_isSome.mp (by rw [named]; rfl))
      simp only [named, Option.some.injEq] at found
      subst found
      exact ⟨fun shifted => absurd shifted plain, fun _ => rfl, by simp⟩
  | none =>
      simp only [named] at found
      cases resolved : resolveKey layout last with
      | none => simp [resolved] at found
      | some entry =>
          obtain ⟨key, shift⟩ := entry
          have shifts := resolveKey_shift resolved
          simp only [resolved, Option.map_some, Option.some.injEq] at found
          subst found
          refine ⟨fun shifted => ?_, fun plain => ?_, by simp⟩
          · rw [if_pos (shifts.mpr shifted), Option.getD_none, BitVec.zero_or]
          · rw [if_neg (fun shifted => plain (shifts.mp shifted))]
            rfl

theorem parseChordWith_byte (split : text.splitOn '+' = held ++ [last]) {chord : Chord}
    (parsed : parseChordWith layout text = .ok chord) :
    (IsShifted layout last →
        chord.modifiers = namedBits (held ++ [last]) ||| Modifier.leftShift) ∧
      (¬ IsShifted layout last → chord.modifiers = namedBits (held ++ [last])) ∧
      (chord.key = none ↔ IsModifierName last) := by
  obtain ⟨-, -, added, found, rfl⟩ := (parseChordWith_tokens split chord).mp parsed
  obtain ⟨shifted, plain, bare⟩ := lastToken_bits found
  rw [namedBits_snoc]
  refine ⟨fun shift => ?_, fun none => ?_, bare⟩
  · rw [shifted shift, BitVec.or_assoc]
  · rw [plain none]

/-- The named bits are those of the set of tokens. -/
theorem namedBits_set {first second : List (List Char)}
    (same : ∀ token, token ∈ first ↔ token ∈ second) : namedBits first = namedBits second := by
  apply foldl_or_set
  intro bit
  simp only [List.mem_map, same]

/-- Neither the order of the held tokens nor saying one twice matters. -/
theorem parseChordWith_set {text' : List Char} {held' : List (List Char)} {chord : Chord}
    (split : text.splitOn '+' = held ++ [last]) (split' : text'.splitOn '+' = held' ++ [last])
    (same : ∀ token, token ∈ held ↔ token ∈ held')
    (parsed : parseChordWith layout text = .ok chord) :
    parseChordWith layout text' = .ok chord := by
  obtain ⟨nonempty, modifiers, added, found, rfl⟩ := (parseChordWith_tokens split chord).mp parsed
  refine (parseChordWith_tokens split' _).mpr ⟨?_, ?_, added, found, ?_⟩
  · intro token member
    apply nonempty
    simpa [same] using member
  · exact fun token member => modifiers token ((same token).mpr member)
  · rw [namedBits_set same]

end Accepted

/-! ## Every chord has a spelling -/

/-- A name for each bit. -/
def bitNames : List (U8 × List Char) :=
  [(Modifier.leftCtrl, "ctrl".toList), (Modifier.leftAlt, "alt".toList),
    (Modifier.leftShift, "shift".toList), (Modifier.leftMeta, "super".toList),
    (Modifier.rightCtrl, "rctrl".toList), (Modifier.rightAlt, "ralt".toList),
    (Modifier.rightShift, "rshift".toList), (Modifier.rightMeta, "rsuper".toList)]

def heldNames (modifiers : U8) : List (List Char) :=
  (bitNames.filter fun entry => modifiers &&& entry.1 ≠ 0#8).map Prod.snd

/-- The plain name of a key: the one name that means a shifted glyph has another. -/
def plainName (entry : String × KeyCode × Bool) : List Char :=
  if entry.2.2 then "equal".toList else entry.1.toList

def spelling (modifiers : U8) (entry : String × KeyCode × Bool) : List Char :=
  ['+'].intercalate (heldNames modifiers ++ [plainName entry])

/-- The named bits are the eight, and each name is one token for its bit. -/
theorem bitNames_checked :
    (bitNames.map Prod.fst).Perm ((List.range 8).map (BitVec.twoPow 8)) ∧
    ∀ entry ∈ bitNames,
      entry.2 ≠ [] ∧ '+' ∉ entry.2 ∧ modifierByName entry.2 = some entry.1 := by
  decide +kernel

/-- A plain name is listed, for the key itself. -/
theorem plainName_listed {entry : String × KeyCode × Bool} (member : entry ∈ keyNames) :
    ∃ plain ∈ keyNames, plainName entry = plain.1.toList ∧ plain.2 = (entry.2.1, false) := by
  unfold plainName
  cases shifted : entry.2.2 with
  | true =>
      rw [shifted_plus member shifted]
      exact ⟨("equal", .equal, false), by simp [keyNames], rfl, rfl⟩
  | false => exact ⟨entry, member, rfl, by rw [← shifted]⟩

theorem keyByName_listed {entry : String × KeyCode × Bool} (member : entry ∈ keyNames) :
    keyByNameWithShift entry.1.toList = some entry.2 := by
  unfold keyByNameWithShift
  cases found : keyNames.find? fun other =>
      eqIgnoreAsciiCase other.1.toList entry.1.toList with
  | some other =>
      have same := List.find?_some found
      rw [keyNames_apart (List.mem_of_find?_eq_some found) member same]
  | none => exact absurd (decide_eq_true rfl) (List.find?_eq_none.mp found entry member)

theorem lastToken_listed (layout : Layout) {entry : String × KeyCode × Bool}
    (member : entry ∈ keyNames) :
    lastToken layout entry.1.toList =
      some (if entry.2.2 then Modifier.leftShift else 0#8, some entry.2.1) := by
  have bare : modifierByName entry.1.toList = none := by
    rw [← Option.not_isSome_iff_eq_none, modifierByName_isSome]
    rintro ⟨modifier, listed, same⟩
    exact modifier_apart listed member same
  have resolved : resolveKey layout entry.1.toList = some entry.2 := by
    have single := (tables_checked.2.2 entry member).2.2.1
    unfold resolveKey
    split
    · rename_i c name
      rw [name] at single
      have reached : usKeyForChar c = some entry.2 := single rfl
      cases layout
      rw [Layout.keyForChar, reached]
    · exact keyByName_listed member
  rw [lastToken, bare, resolved]
  rfl

theorem plainName_spells (layout : Layout) : ∀ entry ∈ keyNames,
    plainName entry ≠ [] ∧ '+' ∉ plainName entry ∧
      lastToken layout (plainName entry) = some (0#8, some entry.2.1) := by
  intro entry member
  obtain ⟨plain, listed, name, means⟩ := plainName_listed member
  obtain ⟨nonempty, whole, -⟩ := tables_checked.2.2 plain listed
  rw [name, lastToken_listed layout listed, means]
  exact ⟨nonempty, whole, rfl⟩

theorem heldNames_bits (modifiers : U8) : namedBits (heldNames modifiers) = modifiers := by
  have named : (heldNames modifiers).map namedBit =
      (bitNames.map Prod.fst).filter fun bit => modifiers &&& bit ≠ 0#8 := by
    unfold heldNames
    rw [List.map_map, List.filter_map]
    apply List.map_congr_left
    intro entry member
    have spelt := (bitNames_checked.2 entry (List.mem_filter.mp member).1).2.2
    change namedBit entry.2 = entry.1
    rw [namedBit, spelt, Option.getD_some]
  rw [namedBits, named]
  refine (foldl_or_set ?_ _).trans (gather_setBits modifiers)
  intro bit
  rw [List.mem_filter, bitNames_checked.1.mem_iff, mem_setBits, decide_eq_true_iff]
  rfl

theorem spelling_parses (layout : Layout) (modifiers : U8) {entry : String × KeyCode × Bool}
    (named : entry ∈ keyNames) :
    parseChordWith layout (spelling modifiers entry) = .ok ⟨modifiers, some entry.2.1⟩ := by
  obtain ⟨nonempty, joined, added⟩ := plainName_spells layout entry named
  have names : ∀ token ∈ heldNames modifiers,
      token ≠ [] ∧ '+' ∉ token ∧ IsModifierName token := by
    intro token member
    obtain ⟨bit, listed, rfl⟩ := List.mem_map.mp member
    obtain ⟨some, plain, found⟩ := bitNames_checked.2 bit (List.mem_filter.mp listed).1
    exact ⟨some, plain, modifierByName_isSome.mp (by rw [found]; rfl)⟩
  have split : (spelling modifiers entry).splitOn '+' =
      heldNames modifiers ++ [plainName entry] := by
    refine List.splitOn_intercalate '+' ?_ (by simp)
    intro token member
    rcases List.mem_append.mp member with member | last
    · exact (names token member).2.1
    · rw [List.mem_singleton.mp last]
      exact joined
  refine (parseChordWith_tokens split _).mpr ⟨?_, ?_, _, added, ?_⟩
  · intro token member
    rcases List.mem_append.mp member with member | last
    · exact (names token member).1
    · rw [List.mem_singleton.mp last]
      exact nonempty
  · exact fun token member => (names token member).2.2
  · rw [heldNames_bits, BitVec.or_zero]

/-- A text is a chord exactly when its tokens spell one; the byte is the named bits and
the shift of a shifted last token, whatever the order of the held names and however
often each is said; and every named key has a spelling under every modifier byte. -/
theorem parseChordWith_grammar (layout : Layout) (text : List Char) :
    ((∃ chord, parseChordWith layout text = .ok chord) ↔
      ∃ held last, text.splitOn '+' = held ++ [last] ∧ Spelled layout held last) ∧
    (∀ held last, text.splitOn '+' = held ++ [last] →
      ∀ chord, parseChordWith layout text = .ok chord →
        (IsShifted layout last →
          chord.modifiers = namedBits (held ++ [last]) ||| Modifier.leftShift) ∧
        (¬ IsShifted layout last → chord.modifiers = namedBits (held ++ [last])) ∧
        (chord.key = none ↔ IsModifierName last)) ∧
    (∀ held last, text.splitOn '+' = held ++ [last] →
      ∀ text' held', text'.splitOn '+' = held' ++ [last] →
        (∀ token, token ∈ held ↔ token ∈ held') →
        ∀ chord, parseChordWith layout text = .ok chord ↔ parseChordWith layout text' = .ok chord) ∧
    ∀ modifiers, ∀ entry ∈ keyNames, ∃ spelled,
      parseChordWith layout spelled = .ok ⟨modifiers, some entry.2.1⟩ := by
  refine ⟨⟨?_, ?_⟩, ?_, ?_, ?_⟩
  · intro accepted
    obtain ⟨held, last, split⟩ := tokens_split text
    exact ⟨held, last, split, (parseChordWith_accepts split).mp accepted⟩
  · rintro ⟨held, last, split, spelled⟩
    exact (parseChordWith_accepts split).mpr spelled
  · exact fun held last split chord parsed => parseChordWith_byte split parsed
  · intro held last split text' held' split' same chord
    exact ⟨parseChordWith_set split split' same,
      parseChordWith_set split' split fun token => (same token).symm⟩
  · exact fun modifiers entry named => ⟨_, spelling_parses layout modifiers named⟩

/-- Control, held twice, before a capital letter. -/
theorem parseChordWith_grammar_capital :
    parseChordWith .us "ctrl+Ctrl+alt+A".toList = .ok ⟨0x07#8, some .keyA⟩ ∧
      parseChordWith .us "alt+Ctrl+ctrl+ctrl+A".toList = .ok ⟨0x07#8, some .keyA⟩ := by
  have parsed : parseChordWith .us "ctrl+Ctrl+alt+A".toList = .ok ⟨0x07#8, some .keyA⟩ := by
    decide +kernel
  refine ⟨parsed, ?_⟩
  refine ((parseChordWith_grammar .us "ctrl+Ctrl+alt+A".toList).2.2.1
    ["ctrl".toList, "Ctrl".toList, "alt".toList] "A".toList (by decide +kernel)
    "alt+Ctrl+ctrl+ctrl+A".toList
    ["alt".toList, "Ctrl".toList, "ctrl".toList, "ctrl".toList] (by decide +kernel) ?_ _).mp parsed
  intro token
  simp only [List.mem_cons, List.not_mem_nil, or_false]
  tauto

end NanoKvm.Script
