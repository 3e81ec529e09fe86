import Mathlib.Data.List.AList
import Mathlib.Data.List.Dedup
import Mathlib.Data.List.Perm.Subperm

/-! # Tables and exclusive resources

A table of values under distinct keys, as Mathlib's `AList` has it, with a filter, and tables whose
values each occupy a resource: `Exclusive` says that no two keys occupy the same one. -/

namespace AList

variable {κ α β : Type} [DecidableEq κ]

/-- The entries whose value passes. -/
def keep (p : α → Bool) (t : AList fun _ : κ => α) : AList fun _ : κ => α where
  entries := t.entries.filter fun entry => p entry.2
  nodupKeys := t.nodupKeys.sublist List.filter_sublist

theorem lookup_keep (p : α → Bool) (t : AList fun _ : κ => α) (k : κ) :
    (t.keep p).lookup k = (t.lookup k).filter p := by
  apply Option.ext
  intro a
  rw [← Option.mem_def, mem_lookup_iff, Option.filter_eq_some_iff, ← Option.mem_def, mem_lookup_iff]
  simp [keep]

@[simp] theorem lookup_keep_eq_some {p : α → Bool} {t : AList fun _ : κ => α} {k : κ} {a : α} :
    (t.keep p).lookup k = some a ↔ t.lookup k = some a ∧ p a = true := by
  rw [lookup_keep, Option.filter_eq_some_iff]

/-- No two keys occupy the same resource. -/
def Exclusive (resource : α → β) (t : AList fun _ : κ => α) : Prop :=
  ∀ ⦃k k' a a'⦄, t.lookup k = some a → t.lookup k' = some a' → resource a = resource a' → k = k'

/-- Every key occupies a resource of the list. -/
def Within (resource : α → β) (t : AList fun _ : κ => α) (resources : List β) : Prop :=
  ∀ ⦃k a⦄, t.lookup k = some a → resource a ∈ resources

variable {resource : α → β} {t : AList fun _ : κ => α} {resources : List β}

theorem exclusive_empty : Exclusive resource (∅ : AList fun _ : κ => α) := by
  intro k k' a a' h
  simp at h

theorem within_empty : Within resource (∅ : AList fun _ : κ => α) resources := by
  intro k a h
  simp at h

theorem Exclusive.mono {t' : AList fun _ : κ => α} (h : Exclusive resource t)
    (le : ∀ k a, t'.lookup k = some a → t.lookup k = some a) : Exclusive resource t' := by
  intro k k' a a' hk hk' same
  exact h (le k a hk) (le k' a' hk') same

theorem Within.mono {t' : AList fun _ : κ => α} (h : Within resource t resources)
    (le : ∀ k a, t'.lookup k = some a → t.lookup k = some a) : Within resource t' resources := by
  intro k a hk
  exact h (le k a hk)

theorem lookup_of_keep {p : α → Bool} (k : κ) (a : α) (h : (t.keep p).lookup k = some a) :
    t.lookup k = some a :=
  (lookup_keep_eq_some.mp h).1

theorem lookup_of_erase (gone k : κ) (a : α) (h : (t.erase gone).lookup k = some a) :
    t.lookup k = some a := by
  by_cases same : k = gone
  · subst same
    simp at h
  · rwa [lookup_erase_ne same] at h

/-- A resource given to a key that already has it, or that nobody has. -/
theorem Exclusive.insert (h : Exclusive resource t) {k : κ} {a : α}
    (free : ∀ k' a', t.lookup k' = some a' → resource a' = resource a → k' = k) :
    Exclusive resource (t.insert k a) := by
  intro k₁ k₂ a₁ a₂ h₁ h₂ same
  by_cases e₁ : k₁ = k
  · subst e₁
    rw [lookup_insert] at h₁
    cases h₁
    by_cases e₂ : k₂ = k₁
    · exact e₂.symm
    · rw [lookup_insert_ne e₂] at h₂
      exact (free k₂ a₂ h₂ same.symm).symm
  · rw [lookup_insert_ne e₁] at h₁
    by_cases e₂ : k₂ = k
    · subst e₂
      rw [lookup_insert] at h₂
      cases h₂
      exact free k₁ a₁ h₁ same
    · rw [lookup_insert_ne e₂] at h₂
      exact h h₁ h₂ same

theorem Within.insert (h : Within resource t resources) {k : κ} {a : α}
    (mem : resource a ∈ resources) : Within resource (t.insert k a) resources := by
  intro k' a' h'
  by_cases e : k' = k
  · subst e
    rw [lookup_insert] at h'
    cases h'
    exact mem
  · rw [lookup_insert_ne e] at h'
    exact h h'

private theorem lookup_of_mem_entries {entry : Sigma fun _ : κ => α} (h : entry ∈ t.entries) :
    t.lookup entry.1 = some entry.2 :=
  mem_lookup_iff.mpr h

/-- A table cannot have more keys than there are resources to occupy. -/
theorem length_le_of_exclusive [DecidableEq β] (exclusive : Exclusive resource t)
    (within : Within resource t resources) : t.entries.length ≤ resources.dedup.length := by
  have nodup : (t.entries.map fun entry => resource entry.2).Nodup := by
    apply List.Nodup.map_on
    · intro x hx y hy same
      have keys := exclusive (lookup_of_mem_entries hx) (lookup_of_mem_entries hy) same
      exact t.nodupKeys.eq_of_fst_eq hx hy keys
    · exact t.nodupKeys.nodup
  have sub : (t.entries.map fun entry => resource entry.2) ⊆ resources.dedup := by
    intro b hb
    obtain ⟨entry, hentry, rfl⟩ := List.mem_map.mp hb
    exact List.mem_dedup.mpr (within (lookup_of_mem_entries hentry))
  have := (nodup.subperm sub).length_le
  rwa [List.length_map] at this

end AList
