import Mathlib.Data.List.Basic
import Mathlib.Tactic.Common

/-!
# A slot looked at now and then

A slot holds the latest of a history of values whose stamps rise.  Somebody looks at
it from time to time and tells what it holds, unless the stamp is the one told last.
-/

set_option autoImplicit false

namespace NanoKvm.Lib

section Noticed
variable {Value : Type} (stamp : Value → Nat)

/-- What is told of a look at the slot. -/
def noticed (told : Option Nat) (seen : Option Value) : Option Value :=
  seen.filter fun value => decide (told ≠ some (stamp value))

def Rising (history : List Value) : Prop := history.Pairwise fun x y => stamp x < stamp y

variable {stamp} {history reported : List Value} {x y : Value}

theorem Rising.snoc (rising : Rising stamp history)
    (above : ∀ last, history.getLast? = some last → stamp last < stamp y) :
    Rising stamp (history ++ [y]) := by
  refine List.pairwise_append.mpr ⟨rising, List.pairwise_singleton _ _, fun x member z new => ?_⟩
  rw [List.mem_singleton.mp new]
  cases held : history.getLast? with
  | none =>
      rw [List.getLast?_eq_none_iff.mp held] at member
      cases member
  | some last =>
      obtain ⟨before, rfl⟩ := List.getLast?_eq_some_iff.mp held
      rcases List.mem_append.mp member with early | same
      · have below := (List.pairwise_append.mp rising).2.2 x early last (List.mem_singleton_self _)
        exact Nat.lt_trans below (above last held)
      · rw [List.mem_singleton.mp same]
        exact above last held

/-- A value is known by its stamp. -/
theorem Rising.unique (rising : Rising stamp history) (here : x ∈ history) (there : y ∈ history)
    (same : stamp x = stamp y) : x = y := by
  induction history with
  | nil => cases here
  | cons first rest ih =>
      obtain ⟨above, later⟩ := List.pairwise_cons.mp rising
      rcases List.mem_cons.mp here with rfl | xLater
      · rcases List.mem_cons.mp there with rfl | yLater
        · rfl
        · exact absurd same (Nat.ne_of_lt (above y yLater))
      · rcases List.mem_cons.mp there with rfl | yLater
        · exact absurd same.symm (Nat.ne_of_lt (above x xLater))
        · exact ih later xLater yLater

/-- What has been told stays a part of the history in order, and after a look it ends
with what the slot held. -/
theorem noticed_told (rising : Rising stamp history) (part : reported.Sublist history) :
    (reported ++ (noticed stamp (reported.getLast?.map stamp) history.getLast?).toList).Sublist
        history ∧
      (reported ++ (noticed stamp (reported.getLast?.map stamp) history.getLast?).toList).getLast? =
        history.getLast? := by
  cases held : history.getLast? with
  | none =>
      obtain rfl := List.getLast?_eq_none_iff.mp held
      obtain rfl := List.sublist_nil.mp part
      exact ⟨List.Sublist.refl _, rfl⟩
  | some value =>
      by_cases old : reported.getLast?.map stamp = some (stamp value)
      · obtain ⟨last, ended, same⟩ := Option.map_eq_some_iff.mp old
        have member : last ∈ history := part.subset (List.mem_of_getLast? ended)
        have known := rising.unique member (List.mem_of_getLast? held) same
        have silent : noticed stamp (reported.getLast?.map stamp) (some value) = none := by
          rw [noticed, old, Option.filter_some, if_neg (by simp)]
        rw [silent, Option.toList_none, List.append_nil]
        exact ⟨part, known ▸ ended⟩
      · have news : noticed stamp (reported.getLast?.map stamp) (some value) = some value := by
          rw [noticed, Option.filter_some, if_pos (decide_eq_true old)]
        obtain ⟨before, rfl⟩ := List.getLast?_eq_some_iff.mp held
        obtain ⟨early, late, rfl, within, tail⟩ := List.sublist_append_iff.mp part
        rw [news, Option.toList_some]
        refine ⟨?_, List.getLast?_concat⟩
        rcases List.sublist_singleton.mp tail with rfl | rfl
        · rw [List.append_nil]
          exact within.append (List.Sublist.refl _)
        · exact absurd (by rw [List.getLast?_concat, Option.map_some]) old

end Noticed

end NanoKvm.Lib
