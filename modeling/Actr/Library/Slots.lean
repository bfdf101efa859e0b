import Mathlib.Data.List.Nodup

/-!
# Slots

A system that numbers its parts in the order in which they start keeps them in a list: a new one is appended, and an
old one is replaced or changed where it stands.
-/

namespace Actr.Library.Slots

variable {α : Type*} {slots : List α} {element found : α} {index number : Nat} {change : α → α}

theorem of_snoc (listed : (slots ++ [element])[index]? = some found) :
    slots[index]? = some found ∨ (index = slots.length ∧ found = element) := by
  rcases Nat.lt_trichotomy index slots.length with below | equal | above
  · rw [List.getElem?_append_left below] at listed
    exact .inl listed
  · subst equal
    simp only [List.getElem?_concat_length, Option.some.injEq] at listed
    exact .inr ⟨rfl, listed.symm⟩
  · rw [List.getElem?_append_right (Nat.le_of_lt above)] at listed
    rw [List.getElem?_eq_none (by simp; omega)] at listed
    cases listed

theorem snoc (listed : slots[index]? = some found) : (slots ++ [element])[index]? = some found := by
  rw [List.getElem?_append_left (List.getElem?_eq_some_iff.mp listed).1]
  exact listed

theorem mem_snoc (member : found ∈ slots ++ [element]) : found ∈ slots ∨ found = element := by
  rw [List.mem_append, List.mem_singleton] at member
  exact member

theorem nodup_snoc (distinct : slots.Nodup) (fresh : element ∉ slots) : (slots ++ [element]).Nodup := by
  rw [List.nodup_append]
  refine ⟨distinct, List.nodup_singleton element, ?_⟩
  rintro found member _ single rfl
  exact fresh (List.mem_singleton.mp single ▸ member)

theorem of_set (listed : (slots.set number element)[index]? = some found) :
    (index = number ∧ found = element) ∨ (index ≠ number ∧ slots[index]? = some found) := by
  by_cases same : index = number
  · subst same
    rw [List.getElem?_set_self'] at listed
    obtain ⟨_, -, rfl⟩ := Option.map_eq_some_iff.mp listed
    exact .inl ⟨rfl, rfl⟩
  · rw [List.getElem?_set_ne (Ne.symm same)] at listed
    exact .inr ⟨same, listed⟩

theorem of_modify (listed : (slots.modify number change)[index]? = some found) :
    ∃ before, slots[index]? = some before ∧
      ((index = number ∧ found = change before) ∨ (index ≠ number ∧ found = before)) := by
  rw [List.getElem?_modify] at listed
  obtain ⟨before, old, changed⟩ := Option.map_eq_some_iff.mp listed
  refine ⟨before, old, ?_⟩
  by_cases same : number = index
  · rw [if_pos same] at changed
    exact .inl ⟨same.symm, changed.symm⟩
  · rw [if_neg same] at changed
    exact .inr ⟨Ne.symm same, changed.symm⟩

theorem modify_other (other : number ≠ index) : (slots.modify number change)[index]? = slots[index]? :=
  List.getElem?_modify_ne change slots other

section

variable (listed : slots[number]? = some found)
include listed

theorem modify_self : (slots.modify number change)[number]? = some (change found) := by
  rw [List.getElem?_modify_eq, listed]
  rfl

theorem modify_eq_set : slots.modify number change = slots.set number (change found) := by
  apply List.ext_getElem?
  intro index
  by_cases same : number = index
  · subst same
    rw [modify_self listed, List.getElem?_set_self (List.getElem?_eq_some_iff.mp listed).1]
  · rw [modify_other same, List.getElem?_set_ne same]

theorem set_self : (slots.set number element)[number]? = some element :=
  List.getElem?_set_self (List.getElem?_eq_some_iff.mp listed).1

theorem kept_or_set {other : α} (old : slots[index]? = some other) :
    (index = number ∧ other = found) ∨ (slots.set number element)[index]? = some other := by
  by_cases same : number = index
  · subst same
    exact .inl ⟨rfl, Option.some.inj (old.symm.trans listed)⟩
  · exact .inr ((List.getElem?_set_ne same).trans old)

theorem mem_kept_or_set {other : α} (member : other ∈ slots) : other = found ∨ other ∈ slots.set number element := by
  obtain ⟨index, old⟩ := List.mem_iff_getElem?.mp member
  exact (kept_or_set listed old).imp And.right List.mem_of_getElem?

theorem exists_set {P : α → Prop} :
    (∃ x, (slots.set number element)[index]? = some x ∧ P x) ↔
      index = number ∧ P element ∨ index ≠ number ∧ ∃ x, slots[index]? = some x ∧ P x := by
  by_cases same : index = number
  · subst same
    simp [set_self listed]
  · simp [same, List.getElem?_set_ne (Ne.symm same)]

theorem map_set {β : Type*} {f : α → β} (same : f element = f found) :
    (slots.set number element).map f = slots.map f := by
  apply List.ext_getElem?
  intro index
  rw [List.getElem?_map, List.getElem?_map]
  by_cases here : number = index
  · subst here
    rw [set_self listed, listed, Option.map_some, Option.map_some, same]
  · rw [List.getElem?_set_ne here]

theorem count_set [DecidableEq α] (wanted : α) :
    (slots.set number element).count wanted + (if found = wanted then 1 else 0) =
      slots.count wanted + (if element = wanted then 1 else 0) := by
  obtain ⟨below, rfl⟩ := List.getElem?_eq_some_iff.mp listed
  rw [List.count_set below]
  have counted : slots[number] = wanted → 0 < slots.count wanted := by
    rintro rfl
    exact List.count_pos_iff.mpr (List.getElem_mem below)
  simp only [beq_iff_eq]
  split
  · next same =>
    have positive := counted same
    omega
  · omega

end

theorem map_modify {β : Type*} {f : α → β} (same : ∀ element, f (change element) = f element) :
    (slots.modify number change).map f = slots.map f := by
  apply List.ext_getElem?
  intro index
  rw [List.getElem?_map, List.getElem?_map, List.getElem?_modify]
  cases slots[index]? with
  | none => rfl
  | some =>
    simp only [Option.map_eq_map, Option.map_some]
    split
    · rw [same]
    · rfl

end Actr.Library.Slots
