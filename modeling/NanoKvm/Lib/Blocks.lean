import Mathlib.Data.List.Forall2

/-!
# Blocks between separators

A list falls into blocks: what stands before each separator, and what is left
after the last.  Two lists whose blocks correspond are built up together, a run
without separators at a time.
-/

set_option autoImplicit false

namespace NanoKvm.Lib

section Blocks
variable {α β σ : Type}

/-- The blocks of a list, each with the separator that ends it, and the open one. -/
abbrev Blocks (α σ : Type) := List (List α × σ) × List α

/-- Items that come before everything else. -/
def Blocks.prepend (items : List α) : Blocks α σ → Blocks α σ
  | ([], rest) => ([], items ++ rest)
  | ((block, last) :: others, rest) => ((items ++ block, last) :: others, rest)

def blocks (separator : α → Option σ) : List α → Blocks α σ
  | [] => ([], [])
  | item :: rest =>
      match separator item with
      | some last => (([], last) :: (blocks separator rest).1, (blocks separator rest).2)
      | none => (blocks separator rest).prepend [item]

theorem blocks_cons (separator : α → Option σ) (item : α) (rest : List α) :
    blocks separator (item :: rest) =
      match separator item with
      | some last => (([], last) :: (blocks separator rest).1, (blocks separator rest).2)
      | none => (blocks separator rest).prepend [item] :=
  rfl

@[simp] theorem prepend_nil (parts : Blocks α σ) : parts.prepend [] = parts := by
  rcases parts with ⟨_ | ⟨_, _⟩, _⟩ <;> rfl

theorem prepend_prepend (first second : List α) (parts : Blocks α σ) :
    (parts.prepend second).prepend first = parts.prepend (first ++ second) := by
  rcases parts with ⟨_ | ⟨_, _⟩, _⟩ <;> simp [Blocks.prepend]

theorem blocks_append {separator : α → Option σ} {items : List α}
    (plain : ∀ item ∈ items, separator item = none) (rest : List α) :
    blocks separator (items ++ rest) = (blocks separator rest).prepend items := by
  induction items with
  | nil => simp
  | cons item items ih =>
      have here := plain item (by simp)
      have later := ih fun other member => plain other (by simp [member])
      rw [List.cons_append, blocks_cons, here, later]
      exact prepend_prepend [item] items _

/-- The separators are those of the list, in order. -/
theorem blocks_separators (separator : α → Option σ) (items : List α) :
    (blocks separator items).1.map Prod.snd = items.filterMap separator := by
  induction items with
  | nil => rfl
  | cons item items ih =>
      have same : ((blocks separator items).prepend [item]).1.map Prod.snd =
          (blocks separator items).1.map Prod.snd := by
        rcases blocks separator items with ⟨_ | ⟨_, _⟩, _⟩ <;> rfl
      cases found : separator item with
      | some last => simp [blocks_cons, found, ih]
      | none => simp [blocks_cons, found, same, ih]

/-- What comes later closes no block again. -/
theorem blocks_prefix (separator : α → Option σ) (items later : List α) :
    (blocks separator items).1 <+: (blocks separator (items ++ later)).1 := by
  induction items with
  | nil => exact List.nil_prefix
  | cons item items ih =>
      rw [List.cons_append, blocks_cons, blocks_cons]
      cases separator item with
      | some last => exact (List.prefix_cons_inj _).mpr ih
      | none =>
          dsimp only
          generalize blocks separator items = first at ih ⊢
          generalize blocks separator (items ++ later) = second at ih ⊢
          rcases first with ⟨_ | ⟨⟨block, last⟩, others⟩, tail⟩
          · exact List.nil_prefix
          · obtain ⟨more, shape⟩ := ih
            rcases second with ⟨_ | ⟨_, others'⟩, tail'⟩
            · cases shape
            · cases shape
              exact ⟨more, rfl⟩

/-- Block by block the same separators, with `related` blocks between them. -/
structure Blocks.Match (related : List α → List β → Prop) (left : Blocks α σ)
    (right : Blocks β σ) : Prop where
  closed : List.Forall₂ (fun one other => related one.1 other.1 ∧ one.2 = other.2) left.1 right.1
  rest : related left.2 right.2

variable {related : List α → List β → Prop} {left : Blocks α σ} {right : Blocks β σ}

theorem Blocks.Match.prepend {items : List α} {others : List β} (same : left.Match related right)
    (grow : ∀ one other, related one other → related (items ++ one) (others ++ other)) :
    (left.prepend items).Match related (right.prepend others) := by
  obtain ⟨closed, rest⟩ := same
  rcases left with ⟨_ | ⟨⟨block, last⟩, done⟩, tail⟩
  · rcases right with ⟨_ | ⟨_, _⟩, tail'⟩
    · exact ⟨.nil, grow _ _ rest⟩
    · cases closed
  · rcases right with ⟨_ | ⟨⟨block', last'⟩, done'⟩, tail'⟩
    · cases closed
    · obtain ⟨⟨here, ends⟩, later⟩ := List.forall₂_cons.mp closed
      exact ⟨.cons ⟨grow _ _ here, ends⟩ later, rest⟩

theorem Blocks.Match.separators (same : left.Match related right) :
    left.1.map Prod.snd = right.1.map Prod.snd := by
  obtain ⟨closed, -⟩ := same
  rcases left with ⟨done, tail⟩
  rcases right with ⟨done', tail'⟩
  dsimp only at closed ⊢
  induction closed with
  | nil => rfl
  | cons here _ ih => simp [here.2, ih]

end Blocks

end NanoKvm.Lib
