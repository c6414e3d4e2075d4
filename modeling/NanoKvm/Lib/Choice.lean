import Mathlib.Data.List.Nodup
import Mathlib.Data.List.ProdSigma

/-!
# The one that qualifies

Choosing from lists where there is exactly one to choose: by positions or by
value, whatever the order.
-/

set_option autoImplicit false

namespace NanoKvm.Lib

section Choice
variable {α β γ δ : Type}

theorem singleton_iff_existsUnique {l : List α} (nodup : l.Nodup) :
    (∃ x, l = [x]) ↔ ∃! x, x ∈ l := by
  constructor
  · rintro ⟨x, rfl⟩
    exact ⟨x, List.mem_singleton_self x, fun _ member => List.mem_singleton.mp member⟩
  · rintro ⟨x, member, only⟩
    refine ⟨x, ?_⟩
    cases l with
    | nil => cases member
    | cons first rest =>
        cases only first List.mem_cons_self
        cases rest with
        | nil => rfl
        | cons second more =>
            cases only second (List.mem_cons_of_mem _ List.mem_cons_self)
            exact absurd List.mem_cons_self (List.nodup_cons.mp nodup).1

theorem filterMap_zipIdx {as : List α} {f : α × Nat → Option β} {g : α → Option β}
    (agree : ∀ a i, as[i]? = some a → f (a, i) = g a) : as.zipIdx.filterMap f = as.filterMap g := by
  have values : as.filterMap g = as.zipIdx.filterMap fun p => g p.1 := by
    conv_lhs => rw [← List.zipIdx_map_fst 0 as, List.filterMap_map]
    rfl
  rw [values]
  apply List.filterMap_congr
  rintro ⟨a, i⟩ member
  exact agree a i (List.mem_zipIdx_iff_getElem?.mp member)

theorem flatMap_zipIdx {as : List α} {f : α × Nat → List β} {g : α → List β}
    (agree : ∀ a i, as[i]? = some a → f (a, i) = g a) : as.zipIdx.flatMap f = as.flatMap g := by
  have values : as.flatMap g = as.zipIdx.flatMap fun p => g p.1 := by
    conv_lhs => rw [← List.zipIdx_map_fst 0 as, List.flatMap_map]
  rw [values]
  apply List.flatMap_congr
  rintro ⟨a, i⟩ member
  exact agree a i (List.mem_zipIdx_iff_getElem?.mp member)

theorem product_map {as : List α} {bs : List β} {f : α → γ} {g : β → δ} :
    as.map f ×ˢ bs.map g = (as ×ˢ bs).map (Prod.map f g) := by
  change ((as.map f).flatMap fun c => (bs.map g).map (Prod.mk c)) =
    (as.flatMap fun a => bs.map (Prod.mk a)).map (Prod.map f g)
  rw [List.flatMap_map, List.map_flatMap]
  apply List.flatMap_congr
  intro a _
  rw [List.map_map, List.map_map]
  rfl

/-- What `f` joins, noted by its positions and looked up there again, is what it joins in the
product. -/
theorem filterMap_positions {as : List α} {bs : List β} {f : α → β → Option γ}
    {g : Nat × Nat × γ → Option δ} {h : α → β → γ → Option δ}
    (agree : ∀ a i b j c, as[i]? = some a → bs[j]? = some b → g (i, j, c) = h a b c) :
    ((as.zipIdx.flatMap fun (a, i) => bs.zipIdx.filterMap fun (b, j) =>
        (f a b).map fun c => (i, j, c)).filterMap g) =
      (as ×ˢ bs).filterMap fun (a, b) => (f a b).bind (h a b) := by
  rw [List.filterMap_flatMap]
  change _ = (as.flatMap fun a => bs.map fun b => (a, b)).filterMap _
  rw [List.filterMap_flatMap]
  apply flatMap_zipIdx
  intro a i here
  rw [List.filterMap_filterMap, List.filterMap_map]
  apply filterMap_zipIdx
  intro b j there
  change ((f a b).map fun c => (i, j, c)).bind g = (f a b).bind (h a b)
  cases f a b with
  | none => rfl
  | some c => exact agree a i b j c here there

end Choice

end NanoKvm.Lib
