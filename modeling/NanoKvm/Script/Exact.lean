import NanoKvm.Script.Target

/-!
# What text compiles

A text compiles exactly when every character of it can be typed, and what it
compiles to reads as the text; otherwise the error names what cannot be typed.
-/

set_option autoImplicit false
set_option linter.dupNamespace false

namespace NanoKvm.Script

open NanoKvm.Proto

/-- Printable ASCII, a newline or a tab. -/
def typeable (c : Char) : Bool := (' ' ≤ c && c ≤ '~') || c == '\n' || c == '\t'

theorem ascii_typeable :
    ∀ n : Fin 128, (usKeyForChar (Char.ofNat n)).isSome = typeable (Char.ofNat n) := by
  decide +kernel

theorem typeable_ascii {c : Char} (types : typeable c = true) : c.toNat < 128 := by
  simp only [typeable, Bool.or_eq_true, Bool.and_eq_true, decide_eq_true_eq, beq_iff_eq] at types
  rcases types with (⟨-, printable⟩ | rfl) | rfl
  · have below : c.toNat ≤ '~'.toNat := printable
    exact Nat.lt_of_le_of_lt below (by decide)
  · decide
  · decide

/-- The layout has a key for exactly the characters that can be typed. -/
theorem reachable_iff (layout : Layout) (c : Char) :
    (layout.keyForChar c).isSome = typeable c := by
  cases layout with
  | us =>
      change (usKeyForChar c).isSome = typeable c
      by_cases ascii : c.toNat < 128
      · have same := ascii_typeable ⟨c.toNat, ascii⟩
        rwa [Char.ofNat_toNat] at same
      · have missing : usKeyForChar c = none := by
          rw [Option.eq_none_iff_forall_ne_some]
          intro stroke found
          exact ascii (reachable_ascii found)
        have outside : typeable c = false := by
          rw [Bool.eq_false_iff]
          intro types
          exact ascii (typeable_ascii types)
        rw [missing, outside]
        rfl

theorem unreachable_iff (layout : Layout) (c : Char) :
    layout.keyForChar c = none ↔ typeable c = false := by
  rw [← reachable_iff layout, Option.isSome_eq_false_iff, Option.isNone_iff_eq_none]

/-! ## Success -/

/-- No table entry names a key that is not forwarded. -/
theorem typeChar_types (layout : Layout) (caps : CapsLock) (script : Script) {c : Char}
    (types : typeable c = true) : ∃ after, typeChar layout caps script c = .ok after := by
  cases layout with
  | us =>
      rw [← reachable_iff .us, Option.isSome_iff_exists] at types
      obtain ⟨⟨key, shift⟩, found⟩ := types
      obtain ⟨usage, mapped, -, -⟩ := stroke_types found
      simp [typeChar, found, usageOf, mapped, Bind.bind, Except.bind, pure, Except.pure]

theorem foldlM_types (layout : Layout) (caps : CapsLock) {text : List Char}
    (types : ∀ c ∈ text, typeable c = true) (script : Script) :
    ∃ after, text.foldlM (typeChar layout caps) script = .ok after := by
  induction text generalizing script with
  | nil => exact ⟨script, rfl⟩
  | cons c rest ih =>
      obtain ⟨middle, first⟩ := typeChar_types layout caps script (types c (by simp))
      rw [List.foldlM_cons, first]
      exact ih (fun other member => types other (by simp [member])) middle

theorem compileType_types {text : List Char} (layout : Layout) (caps : CapsLock)
    (something : text ≠ []) (types : ∀ c ∈ text, typeable c = true) :
    ∃ script, compileType text layout caps = .ok script := by
  have complete : unreachableChars layout text = [] := by
    rw [List.eq_nil_iff_forall_not_mem]
    rintro ⟨c, n⟩ listed
    obtain ⟨member, lacks, -⟩ := mem_unreachableChars.mp listed
    rw [unreachable_iff, types c member] at lacks
    cases lacks
  obtain ⟨script, typed⟩ := foldlM_types layout caps types ⟨[]⟩
  exact ⟨script, by simp [compileType, something, complete, typed]⟩

/-! ## Failure -/

/-- The characters of a text that cannot be typed, each once, with the position of
its first occurrence, in that order. -/
structure Untypeable (text : List Char) (chars : List (Char × Nat)) : Prop where
  listed : ∀ c n, (c, n) ∈ chars ↔ c ∈ text ∧ typeable c = false ∧ n = text.idxOf c + 1
  once : (chars.map Prod.fst).Nodup
  ordered : chars.Pairwise fun first second => first.2 < second.2

theorem unreachableChars_untypeable (layout : Layout) (text : List Char) :
    Untypeable text (unreachableChars layout text) := by
  refine ⟨?_, ?_, unreachableChars_ordered layout text⟩
  · intro c n
    rw [mem_unreachableChars, unreachable_iff]
  · rw [List.nodup_iff_pairwise_ne, List.pairwise_map]
    refine (unreachableChars_ordered layout text).imp_of_mem ?_
    rintro ⟨c, n⟩ ⟨c', n'⟩ first second earlier rfl
    have here := (mem_unreachableChars.mp first).2.2
    have there := (mem_unreachableChars.mp second).2.2
    dsimp only at earlier here there
    omega

theorem compileType_error {text : List Char} {layout : Layout} {caps : CapsLock}
    {error : CompileError} (refused : compileType text layout caps = .error error) :
    (text = [] ∧ error = .nothingToType) ∨
      text ≠ [] ∧ ∃ chars, error = .unreachable layout chars ∧ Untypeable text chars := by
  by_cases empty : text = []
  · rw [compileType, if_pos empty] at refused
    exact .inl ⟨empty, by simpa using refused.symm⟩
  · refine .inr ⟨empty, unreachableChars layout text, ?_, unreachableChars_untypeable layout text⟩
    by_cases types : ∀ c ∈ text, typeable c = true
    · obtain ⟨script, compiled⟩ := compileType_types layout caps empty types
      rw [compiled] at refused
      cases refused
    · obtain ⟨c, member, untypeable⟩ : ∃ c ∈ text, ¬ typeable c = true := by
        simpa using types
      have listed := mem_unreachableChars.mpr
        ⟨member, (unreachable_iff layout c).mpr (by simpa using untypeable), rfl⟩
      have some : unreachableChars layout text ≠ [] := List.ne_nil_of_mem listed
      simp only [compileType, if_neg empty, if_pos some, Except.error.injEq] at refused
      exact refused.symm

/-- Text compiles exactly when it can be typed; what it compiles to reads as the text
on the target the mode is for; and what does not compile is named. -/
theorem compileType_exact (text : List Char) (layout : Layout) (caps : CapsLock) :
    ((∃ script, compileType text layout caps = .ok script) ↔
        text ≠ [] ∧ ∀ c ∈ text, typeable c = true) ∧
      (∀ script, compileType text layout caps = .ok script →
        ∀ target : Target, AllUp target.report →
          (target.receiveAll caps.meantFor script.reports).typed = target.typed ++ text) ∧
      ∀ error, compileType text layout caps = .error error →
        (text = [] ∧ error = .nothingToType) ∨
          text ≠ [] ∧ ∃ chars, error = .unreachable layout chars ∧ Untypeable text chars := by
  refine ⟨⟨?_, ?_⟩, ?_, ?_⟩
  · rintro ⟨script, compiled⟩
    refine ⟨?_, ?_⟩
    · rintro rfl
      cases compiled
    · intro c member
      have found := (compileType_ok compiled).1 c member
      rw [← reachable_iff layout]
      by_contra lacks
      have missing : layout.keyForChar c = none := by simpa using lacks
      simp [Layout.stroke, missing] at found
  · rintro ⟨something, types⟩
    exact compileType_types layout caps something types
  · intro script compiled target up
    exact script_reads compiled up
  · intro error refused
    exact compileType_error refused

end NanoKvm.Script
