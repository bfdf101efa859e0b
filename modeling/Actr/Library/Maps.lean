import Actr.Library.Slots
import Mathlib.Data.List.AList

/-!
# Finite maps to lists, and lists without repetitions

`retain` visits every entry of a map and keeps it with a new value or drops it.
-/

namespace Actr.Library.Maps

section Retain

variable {K V : Type*} [DecidableEq K] {map : AList fun _ : K => V} {keep : V → Option V} {key other : K} {value found : V}

def retain (map : AList fun _ : K => V) (keep : V → Option V) : AList fun _ : K => V where
  entries := map.entries.filterMap fun entry => (keep entry.2).map fun value => ⟨entry.1, value⟩
  nodupKeys := by
    have sublist : (map.entries.filterMap fun entry =>
        (keep entry.2).map fun value => (⟨entry.1, value⟩ : Sigma fun _ : K => V)).keys.Sublist map.entries.keys := by
      generalize map.entries = entries
      induction entries with
      | nil => exact List.Sublist.slnil
      | cons entry rest ih =>
        cases kept : keep entry.2 with
        | none =>
          rw [List.filterMap_cons_none (by rw [kept]; rfl)]
          exact ih.cons _
        | some =>
          rw [List.filterMap_cons_some (by rw [kept]; rfl)]
          exact ih.cons_cons _
    exact sublist.nodup map.nodupKeys

theorem lookup_retain : (retain map keep).lookup key = (map.lookup key).bind keep := by
  apply Option.ext
  intro value
  rw [← Option.mem_def, AList.mem_lookup_iff, Option.bind_eq_some_iff]
  constructor
  · intro member
    obtain ⟨⟨found, old⟩, listed, same⟩ := List.mem_filterMap.mp member
    obtain ⟨new, kept, same⟩ := Option.map_eq_some_iff.mp same
    cases same
    exact ⟨old, AList.mem_lookup_iff.mpr listed, kept⟩
  · rintro ⟨old, found, kept⟩
    apply List.mem_filterMap.mpr
    exact ⟨⟨key, old⟩, AList.mem_lookup_iff.mp found, by simp [kept]⟩

@[simp] theorem lookup_singleton : (AList.singleton key value : AList fun _ : K => V).lookup key = some value :=
  List.dlookup_cons_eq _ _ _

@[simp] theorem erase_singleton : (AList.singleton key value : AList fun _ : K => V).erase key = ∅ :=
  AList.ext (List.kerase_cons_eq rfl)

theorem exists_entry {P : (Sigma fun _ : K => V) → Prop} :
    (∃ entry ∈ map.entries, P entry) ↔ ∃ key value, map.lookup key = some value ∧ P ⟨key, value⟩ := by
  simp only [Sigma.exists, ← AList.mem_lookup_iff, Option.mem_def]

theorem of_lookup_erase (present : (map.erase key).lookup other = some found) :
    other ≠ key ∧ map.lookup other = some found := by
  by_cases same : other = key
  · rw [same, AList.lookup_erase] at present
    cases present
  · rw [AList.lookup_erase_ne same] at present
    exact ⟨same, present⟩

theorem lookup_erase_none (absent : map.lookup other = none) : (map.erase key).lookup other = none :=
  Option.eq_none_iff_forall_ne_some.mpr fun _ present => by
    cases absent.symm.trans (of_lookup_erase present).2

theorem of_lookup_insert (present : (map.insert key value).lookup other = some found) :
    other = key ∧ found = value ∨ other ≠ key ∧ map.lookup other = some found := by
  by_cases same : other = key
  · rw [same, AList.lookup_insert] at present
    exact .inl ⟨same, (Option.some.inj present).symm⟩
  · rw [AList.lookup_insert_ne same] at present
    exact .inr ⟨same, present⟩

theorem lookup_foldl_erase {keys : List K} :
    (keys.foldl (fun map key => map.erase key) map).lookup key = if key ∈ keys then none else map.lookup key := by
  induction keys generalizing map with
  | nil => simp
  | cons first rest ih =>
    rw [List.foldl_cons, ih]
    by_cases same : key = first
    · subst same
      simp
    · simp [same, AList.lookup_erase_ne same]

end Retain

section Lists

variable {K V : Type*} [DecidableEq K] {map : AList fun _ : K => List V} {key other : K} {list : List V}

def listAt (map : AList fun _ : K => List V) (key : K) : List V := (map.lookup key).getD []

def Full (map : AList fun _ : K => List V) : Prop := ∀ key, map.lookup key ≠ some []

theorem listAt_of_lookup (found : map.lookup key = some list) : listAt map key = list := by
  unfold listAt
  rw [found]
  rfl

theorem listAt_of_lookup_none (absent : map.lookup key = none) : listAt map key = [] := by
  unfold listAt
  rw [absent]
  rfl

theorem exists_mem_entry {value : V} : (∃ entry ∈ map.entries, value ∈ entry.2) ↔ ∃ key, value ∈ listAt map key := by
  rw [exists_entry]
  apply exists_congr
  intro key
  unfold listAt
  cases map.lookup key <;> simp

theorem listAt_insert : listAt (map.insert key list) other = if other = key then list else listAt map other := by
  unfold listAt
  split
  · next same =>
    subst same
    rw [AList.lookup_insert]
    rfl
  · next different => rw [AList.lookup_insert_ne different]

theorem listAt_erase : listAt (map.erase key) other = if other = key then [] else listAt map other := by
  unfold listAt
  split
  · next same =>
    subst same
    rw [AList.lookup_erase]
    rfl
  · next different => rw [AList.lookup_erase_ne different]

theorem full_insert (full : Full map) (filled : list ≠ []) : Full (map.insert key list) := by
  intro other present
  rcases of_lookup_insert present with ⟨-, same⟩ | ⟨-, before⟩
  · exact filled same.symm
  · exact full other before

theorem full_erase (full : Full map) : Full (map.erase key) :=
  fun other present => full other (of_lookup_erase present).2

end Lists

section PushNew

variable {α : Type*} [DecidableEq α] {elements items : List α} {element item : α}

def pushNew (elements : List α) (element : α) : List α :=
  if element ∈ elements then elements else elements ++ [element]

theorem mem_pushNew : item ∈ pushNew elements element ↔ item ∈ elements ∨ item = element := by
  unfold pushNew
  split
  · next present =>
    constructor
    · exact .inl
    · rintro (old | rfl)
      · exact old
      · exact present
  · simp

theorem nodup_pushNew (nodup : elements.Nodup) : (pushNew elements element).Nodup := by
  unfold pushNew
  split
  · exact nodup
  · next absent => exact Slots.nodup_snoc nodup absent

theorem mem_foldl_pushNew : item ∈ items.foldl pushNew elements ↔ item ∈ elements ∨ item ∈ items := by
  induction items generalizing elements with
  | nil => simp
  | cons first rest ih => rw [List.foldl_cons, ih, mem_pushNew, List.mem_cons, or_assoc]

theorem nodup_foldl_pushNew (nodup : elements.Nodup) : (items.foldl pushNew elements).Nodup := by
  induction items generalizing elements with
  | nil => exact nodup
  | cons first rest ih => exact ih (nodup_pushNew nodup)

end PushNew

end Actr.Library.Maps
