import Mathlib.Data.List.Induction
import NanoKvm.Input.Held

/-!
# Which held keys the report shows

A key is admitted as reported or suppressed by how many keys are reported at its
press, and stays so for the whole hold.  The report is read here off the
sequence of key transitions alone.
-/

set_option autoImplicit false

namespace NanoKvm.Input

open NanoKvm.Proto

/-- A key and whether it goes down. -/
abbrev KeyEdge := HidKey × Bool

def HeldState.applyKeys (held : HeldState) (edges : List KeyEdge) : HeldState :=
  edges.foldl (fun held edge => (held.applyKey edge.1 edge.2).1) held

/-- What is held after the edges, from nothing held. -/
def heldAfter (edges : List KeyEdge) : HeldState := HeldState.new.applyKeys edges

/-- Whether the last edge of the key took it down. -/
def isDown (key : HidKey) (edges : List KeyEdge) : Bool :=
  edges.foldl (fun down edge => if edge.1 = key then edge.2 else down) false

/-- The hold of `usage` that the edges end in began with the press after `before`. -/
def HoldsSince (edges before : List KeyEdge) (usage : U8) : Prop :=
  isDown (.usage usage) before = false ∧
    ∃ after, edges = before ++ (.usage usage, true) :: after ∧ (.usage usage, false) ∉ after

/-- The status a key pressed now is given. -/
def HeldState.admission (held : HeldState) : Status :=
  if reportedCount held.keys < slots then .reported else .suppressed

section Edges
variable {edges before : List KeyEdge} {edge : KeyEdge} {usage : U8} {held : HeldState}

@[simp] theorem heldAfter_snoc (edges : List KeyEdge) (edge : KeyEdge) :
    heldAfter (edges ++ [edge]) = ((heldAfter edges).applyKey edge.1 edge.2).1 := by
  simp [heldAfter, HeldState.applyKeys]

theorem isDown_snoc (key : HidKey) :
    isDown key (edges ++ [edge]) = if edge.1 = key then edge.2 else isDown key edges := by
  simp [isDown]

theorem holdsSince_snoc :
    HoldsSince (edges ++ [edge]) before usage ↔
      HoldsSince edges before usage ∧ edge ≠ (.usage usage, false) ∨
        edge = (.usage usage, true) ∧ before = edges ∧ isDown (.usage usage) edges = false := by
  constructor
  · rintro ⟨up, after, shape, kept⟩
    cases after using List.reverseRecOn with
    | nil =>
        obtain ⟨same, last⟩ := List.append_inj' shape rfl
        exact Or.inr ⟨List.singleton_injective last, same.symm, same ▸ up⟩
    | append_singleton after last =>
        rw [← List.cons_append, ← List.append_assoc] at shape
        obtain ⟨same, here⟩ := List.append_inj' shape rfl
        cases here
        refine Or.inl ⟨⟨up, after, same, fun member => ?_⟩, ?_⟩
        · exact kept (List.mem_append_left _ member)
        · rintro rfl
          exact kept (List.mem_append_right _ (List.mem_singleton_self _))
  · rintro (⟨⟨up, after, shape, kept⟩, other⟩ | ⟨rfl, rfl, up⟩)
    · refine ⟨up, after ++ [edge], by rw [shape]; simp, fun member => ?_⟩
      rcases List.mem_append.mp member with old | new
      · exact kept old
      · exact other (List.mem_singleton.mp new).symm
    · exact ⟨up, [], rfl, List.not_mem_nil⟩

theorem not_holdsSince_nil : ¬ HoldsSince [] before usage := by
  rintro ⟨-, after, shape, -⟩
  exact absurd shape.symm (List.append_ne_nil_of_right_ne_nil _ (List.cons_ne_nil _ _))

/-- A key is down exactly when some press began a hold that lasts. -/
theorem isDown_iff :
    isDown (.usage usage) edges = true ↔ ∃ before, HoldsSince edges before usage := by
  induction edges using List.reverseRecOn with
  | nil => exact iff_of_false Bool.false_ne_true fun ⟨_, since⟩ => not_holdsSince_nil since
  | append_singleton edges edge ih =>
      simp only [isDown_snoc, holdsSince_snoc, exists_or, exists_and_right, ← ih]
      obtain ⟨key, down⟩ := edge
      by_cases same : key = .usage usage
      · subst same
        cases down with
        | false => simp
        | true =>
            cases up : isDown (.usage usage) edges with
            | false => simp
            | true => simp
      · simp [same]

/-- A press begins one hold only. -/
theorem holdsSince_unique {other : List KeyEdge} (since : HoldsSince edges before usage)
    (also : HoldsSince edges other usage) : before = other := by
  induction edges using List.reverseRecOn generalizing before other with
  | nil => exact absurd since not_holdsSince_nil
  | append_singleton edges edge ih =>
      rcases holdsSince_snoc.mp since with ⟨first, -⟩ | ⟨-, rfl, up⟩ <;>
        rcases holdsSince_snoc.mp also with ⟨second, -⟩ | ⟨-, rfl, up'⟩
      · exact ih first second
      · exact absurd (isDown_iff.mpr ⟨_, first⟩) (by rw [up']; exact Bool.false_ne_true)
      · exact absurd (isDown_iff.mpr ⟨_, second⟩) (by rw [up]; exact Bool.false_ne_true)
      · rfl

/-! ## What a transition does to the physical set -/

/-- A press of a key that is not held adds it, with the status of the moment. -/
theorem applyKey_down_keys (held : HeldState) (usage : U8) :
    (held.applyKey (.usage usage) true).1.keys =
      if held.holds usage then held.keys else held.keys ++ [⟨usage, held.admission⟩] := by
  simp only [HeldState.applyKey, if_true, HeldState.admission]
  by_cases fresh : held.holds usage
  · rw [dif_pos fresh, if_pos fresh]
  · rw [dif_neg fresh, if_neg fresh]
    by_cases room : reportedCount held.keys < slots
    · rw [dif_pos room, if_pos room]
      rfl
    · rw [dif_neg room, if_neg room]
      rfl

theorem mem_keys_press {key : HeldKey} :
    key ∈ (held.applyKey (.usage usage) true).1.keys ↔
      key ∈ held.keys ∨ ¬ held.holds usage ∧ key = ⟨usage, held.admission⟩ := by
  rw [applyKey_down_keys]
  by_cases fresh : held.holds usage
  · simp [fresh]
  · simp [fresh]

theorem mem_keys_release {key : HeldKey} :
    key ∈ (held.applyKey (.usage usage) false).1.keys ↔ key ∈ held.keys ∧ key.usage ≠ usage := by
  rw [applyKey_up_keys]
  constructor
  · intro member
    have kept : key ∈ held.keys := List.mem_of_mem_eraseP member
    refine ⟨kept, fun same => ?_⟩
    have still : (held.applyKey (.usage usage) false).1.holds key.usage := by
      rw [HeldState.holds, applyKey_up_keys]
      exact List.mem_map_of_mem member
    exact ((applyKey_up_holds held usage key.usage).mp still).2 same
  · rintro ⟨member, other⟩
    exact (List.mem_eraseP_of_neg (by simpa using other)).mpr member

theorem holds_iff_isDown : (heldAfter edges).holds usage ↔ isDown (.usage usage) edges = true := by
  induction edges using List.reverseRecOn with
  | nil => simp [heldAfter, HeldState.applyKeys, HeldState.new, HeldState.holds, isDown]
  | append_singleton edges edge ih =>
      obtain ⟨key, down⟩ := edge
      rw [heldAfter_snoc, isDown_snoc]
      cases key with
      | modifier bit => simpa [HeldState.holds] using ih
      | usage pressed =>
          cases down with
          | false =>
              rw [applyKey_up_holds, ih]
              by_cases same : pressed = usage
              · simp [same]
              · simp [same, Ne.symm same]
          | true =>
              simp only [HeldState.holds, List.mem_map, mem_keys_press] at ih ⊢
              by_cases same : pressed = usage
              · subst same
                simp only [if_true, iff_true]
                by_cases already : ∃ entry ∈ (heldAfter edges).keys, entry.usage = pressed
                · obtain ⟨entry, member, here⟩ := already
                  exact ⟨entry, Or.inl member, here⟩
                · exact ⟨_, Or.inr ⟨already, rfl⟩, rfl⟩
              · have apart : HidKey.usage pressed ≠ .usage usage := by simpa using same
                rw [if_neg apart, ← ih]
                constructor
                · rintro ⟨entry, old | ⟨-, rfl⟩, here⟩
                  · exact ⟨entry, old, here⟩
                  · exact absurd here same
                · rintro ⟨entry, old, here⟩
                  exact ⟨entry, Or.inl old, here⟩

/-- A held key carries the status its press was given. -/
theorem mem_keys_iff {status : Status} :
    (⟨usage, status⟩ : HeldKey) ∈ (heldAfter edges).keys ↔
      ∃ before, HoldsSince edges before usage ∧ status = (heldAfter before).admission := by
  induction edges using List.reverseRecOn with
  | nil =>
      refine iff_of_false List.not_mem_nil ?_
      rintro ⟨before, since, -⟩
      exact not_holdsSince_nil since
  | append_singleton edges edge ih =>
      obtain ⟨key, down⟩ := edge
      simp only [heldAfter_snoc, holdsSince_snoc]
      cases key with
      | modifier bit => simpa using ih
      | usage pressed =>
          cases down with
          | false =>
              rw [mem_keys_release, ih]
              by_cases same : pressed = usage
              · simp [same]
              · simp [same, Ne.symm same]
          | true =>
              rw [mem_keys_press, ih, holds_iff_isDown]
              by_cases same : pressed = usage
              · subst same
                constructor
                · rintro (⟨before, since, rfl⟩ | ⟨up, made⟩)
                  · exact ⟨before, Or.inl ⟨since, by simp⟩, rfl⟩
                  · cases made
                    exact ⟨edges, Or.inr ⟨rfl, rfl, by simpa using up⟩, rfl⟩
                · rintro ⟨before, began, rfl⟩
                  rcases began with ⟨since, -⟩ | ⟨-, rfl, up⟩
                  · exact Or.inl ⟨before, since, rfl⟩
                  · exact Or.inr ⟨by simp [up], rfl⟩
              · simp [same, Ne.symm same]

/-! ## What the report shows -/

theorem mem_reported :
    usage ∈ held.reported ↔ (⟨usage, .reported⟩ : HeldKey) ∈ held.keys := by
  simp only [HeldState.reported, List.mem_map, List.mem_filter, HeldKey.isReported,
    decide_eq_true_eq]
  constructor
  · rintro ⟨key, ⟨member, reported⟩, rfl⟩
    exact reported ▸ member
  · intro member
    exact ⟨_, ⟨member, rfl⟩, rfl⟩

/-- A usage is in the report exactly when the hold it is in began below six reported. -/
theorem mem_report_iff (real : usage ≠ 0#8) :
    usage ∈ (heldAfter edges).report.keys.toList ↔
      ∃ before, HoldsSince edges before usage ∧ reportedCount (heldAfter before).keys < slots := by
  rw [mem_report _ real, mem_reported, mem_keys_iff]
  have admits (before : List KeyEdge) : .reported = (heldAfter before).admission ↔
      reportedCount (heldAfter before).keys < slots := by
    unfold HeldState.admission
    split
    · rename_i room
      exact iff_of_true rfl room
    · rename_i full
      exact iff_of_false Status.noConfusion full
  simp only [admits]

theorem report_keys_eq (held : HeldState) :
    held.report.keys.toList = held.reported ++ List.replicate (6 - held.reported.length) 0#8 := by
  have few : held.reported.length ≤ 6 := by
    have fits := held.fits
    rw [reportedCount, List.countP_eq_length_filter] at fits
    simpa [HeldState.reported, slots] using fits
  apply List.ext_getElem?
  intro slot
  simp only [HeldState.report, Vector.toList_ofFn, List.getElem?_ofFn]
  by_cases used : slot < held.reported.length
  · rw [List.getElem?_append_left used, dif_pos (by omega)]
    simp [List.getElem?_eq_getElem used]
  · rw [List.getElem?_append_right (by omega), List.getElem?_replicate]
    by_cases inside : slot < 6
    · rw [dif_pos inside, if_pos (by omega)]
      simp [List.getElem?_eq_none (Nat.le_of_not_lt used)]
    · rw [dif_neg inside, if_neg (by omega)]

theorem reported_nodup (held : HeldState) : held.reported.Nodup :=
  held.distinct.sublist (List.filter_sublist.map HeldKey.usage)

/-- No usage is in two slots. -/
theorem report_distinct (held : HeldState) :
    (held.report.keys.toList.filter (· ≠ 0#8)).Nodup := by
  have filler : (List.replicate (6 - held.reported.length) 0#8).filter (· ≠ 0#8) = [] := by
    simp
  rw [report_keys_eq, List.filter_append, filler, List.append_nil]
  exact (reported_nodup held).filter _

/-- A report is sent only for a change, unless the key is the filler of empty slots. -/
theorem applyKey_some_changes {key : HidKey} {down : Bool} {report : KeyboardReport}
    (real : key ≠ .usage 0#8) (sent : (held.applyKey key down).2 = some report) :
    (held.applyKey key down).1.report ≠ held.report := by
  cases key with
  | modifier bit =>
      intro same
      have mask := congrArg KeyboardReport.modifiers same
      change (held.applyKey (.modifier bit) down).1.modifiers = held.modifiers at mask
      rw [applyKey_modifier_modifiers] at mask
      simp only [HeldState.applyKey, if_pos mask] at sent
      cases sent
  | usage usage =>
      have nonzero : usage ≠ 0#8 := fun zero => real (by rw [zero])
      intro same
      have shown := mem_report held nonzero
      rw [← same, mem_report _ nonzero, mem_reported, mem_reported] at shown
      cases down with
      | true =>
          simp only [HeldState.applyKey, if_true] at sent
          split at sent
          · cases sent
          rename_i fresh
          split at sent
          · rename_i room
            have now : (⟨usage, .reported⟩ : HeldKey) ∈
                (held.applyKey (.usage usage) true).1.keys := by
              rw [mem_keys_press, HeldState.admission, if_pos room]
              exact Or.inr ⟨fresh, rfl⟩
            exact fresh (List.mem_map_of_mem (shown.mp now))
          · cases sent
      | false =>
          simp only [HeldState.applyKey, Bool.false_eq_true, if_false] at sent
          cases found : held.keys.find? fun key => key.usage = usage with
          | none => simp [found] at sent
          | some removed =>
              have here : removed.usage = usage := by simpa using List.find?_some found
              have before : removed ∈ held.keys := List.mem_of_find?_eq_some found
              cases status : removed.status with
              | suppressed => simp [found, status] at sent
              | reported =>
                  have held_ : (⟨usage, .reported⟩ : HeldKey) ∈ held.keys := by
                    rw [← here, ← status]
                    exact before
                  exact (mem_keys_release.mp (shown.mpr held_)).2 rfl

/-- What a transition sends: the new projection if it differs, else nothing. -/
theorem applyKey_sends {key : HidKey} (down : Bool) (real : key ≠ .usage 0#8) :
    (held.applyKey key down).2 =
      if (held.applyKey key down).1.report = held.report then none
      else some (held.applyKey key down).1.report := by
  have projected := applyKey_report held key down
  cases sent : (held.applyKey key down).2 with
  | none =>
      rw [sent] at projected
      exact (if_pos projected.symm).symm
  | some report =>
      rw [if_neg (applyKey_some_changes real sent)]
      rw [sent] at projected
      exact congrArg some projected

/-! ## Modifiers -/

/-- The modifier byte of the edges. -/
def modifiersAfter (edges : List KeyEdge) : U8 :=
  edges.foldl (fun mask edge =>
    match edge.1 with
    | .modifier bit => if edge.2 then mask ||| bit else mask &&& ~~~bit
    | .usage _ => mask) 0#8

def HidKey.takesSlot : HidKey → Bool
  | .modifier _ => false
  | .usage _ => true

theorem heldAfter_modifiers (edges : List KeyEdge) :
    (heldAfter edges).modifiers = modifiersAfter edges := by
  induction edges using List.reverseRecOn with
  | nil => rfl
  | append_singleton edges edge ih =>
      obtain ⟨key, down⟩ := edge
      rw [heldAfter_snoc, modifiersAfter, List.foldl_append]
      cases key with
      | modifier bit =>
          rw [applyKey_modifier_modifiers, ih]
          rfl
      | usage usage =>
          rw [applyKey_usage_modifiers, ih]
          rfl

/-- The keys do not depend on the modifiers pressed between them. -/
theorem heldAfter_keys (edges : List KeyEdge) :
    (heldAfter edges).keys =
      (heldAfter (edges.filter fun edge => HidKey.takesSlot edge.1)).keys := by
  induction edges using List.reverseRecOn with
  | nil => rfl
  | append_singleton edges edge ih =>
      obtain ⟨key, down⟩ := edge
      rw [heldAfter_snoc, List.filter_append]
      cases key with
      | modifier bit =>
          rw [applyKey_modifier_keys, ih]
          simp [HidKey.takesSlot]
      | usage usage =>
          rw [show [(HidKey.usage usage, down)].filter (fun edge => HidKey.takesSlot edge.1) =
            [(HidKey.usage usage, down)] from rfl, heldAfter_snoc]
          cases down with
          | true =>
              rw [applyKey_down_keys, applyKey_down_keys]
              refine if_ctx_congr ?_ (fun _ => ih) fun _ => ?_
              · rw [HeldState.holds, ih]
                rfl
              · rw [HeldState.admission, ih]
                rfl
          | false => rw [applyKey_up_keys, applyKey_up_keys, ih]

/-! ## Every sequence of transitions -/

/-- What the report after `edges` shows, and what the next transition sends. -/
structure Projects (edges : List KeyEdge) : Prop where
  distinct : ((heldAfter edges).report.keys.toList.filter (· ≠ 0#8)).Nodup
  held : ∀ usage, (heldAfter edges).holds usage ↔ isDown (.usage usage) edges = true
  shown : ∀ usage, usage ≠ 0#8 →
    (usage ∈ (heldAfter edges).report.keys.toList ↔
      ∃ before, HoldsSince edges before usage ∧ reportedCount (heldAfter before).keys < slots)
  suppressed : ∀ before usage, usage ≠ 0#8 → HoldsSince edges before usage →
    ¬ reportedCount (heldAfter before).keys < slots →
      usage ∉ (heldAfter edges).report.keys.toList
  modifiers : (heldAfter edges).report.modifiers = modifiersAfter edges
  unaffected : (heldAfter edges).report.keys =
    (heldAfter (edges.filter fun edge => HidKey.takesSlot edge.1)).report.keys
  sends : ∀ key down, key ≠ .usage 0#8 →
    ((heldAfter edges).applyKey key down).2 =
      if (heldAfter (edges ++ [(key, down)])).report = (heldAfter edges).report then none
      else some (heldAfter (edges ++ [(key, down)])).report

theorem keys_project (edges : List KeyEdge) : Projects edges where
  distinct := report_distinct _
  held _ := holds_iff_isDown
  shown _ real := mem_report_iff real
  suppressed before usage real since full shown := by
    obtain ⟨other, also, room⟩ := (mem_report_iff real).mp shown
    exact full (holdsSince_unique since also ▸ room)
  modifiers := heldAfter_modifiers edges
  unaffected := by
    simp only [HeldState.report, HeldState.reported, heldAfter_keys edges]
  sends key down real := by
    rw [heldAfter_snoc]
    exact applyKey_sends down real

/-- Usage 0 is no key: a press of it is sent although the report stays as it was. -/
theorem zero_sent_unchanged :
    (HeldState.new.applyKey (.usage 0#8) true).2 = some HeldState.new.report ∧
      (heldAfter [(.usage 0#8, true)]).report = HeldState.new.report := by
  decide

end Edges

end NanoKvm.Input
