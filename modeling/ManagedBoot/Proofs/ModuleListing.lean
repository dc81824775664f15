import ManagedBoot.Module.List
import Mathlib.Data.List.Induction
import Mathlib.Data.List.Nodup
/-!
What a module list accepts.

`keep` adds descriptors one at a time, so descriptors without repeats that fit only move over to
those already kept (`keep_append`). From this, a list without repeats is accepted as it is and the
first repeat is the one refused. Every list either has no repeats or has a first one.
-/
namespace ManagedBoot

namespace Descriptor

theorem address_injective : Function.Injective Descriptor.address := by
  rintro ⟨a, ha⟩ ⟨b, hb⟩ rfl
  rfl

theorem ofAddress?_zero : ofAddress? 0 = none := by simp [ofAddress?]

theorem ofAddress?_of_ne_zero {address : UInt64} (h : address ≠ 0) :
    ofAddress? address = some ⟨address, h⟩ := by simp [ofAddress?, h]

@[simp] theorem ofAddress?_address (d : Descriptor) : ofAddress? d.address = some d :=
  ofAddress?_of_ne_zero d.nonnull

/-- Addresses that are not null are those of descriptors. -/
theorem exists_map_address : ∀ {addresses : List UInt64}, (∀ a ∈ addresses, a ≠ 0) →
    ∃ ds : List Descriptor, ds.map (·.address) = addresses
  | [], _ => ⟨[], rfl⟩
  | a :: rest, nonnull => by
    obtain ⟨ds, hds⟩ := exists_map_address fun b hb => nonnull b (List.mem_cons_of_mem a hb)
    refine ⟨⟨a, nonnull a List.mem_cons_self⟩ :: ds, ?_⟩
    rw [List.map_cons, hds]

end Descriptor

/-- A list has no repeats, or there is a first element that repeats. -/
theorem nodup_or_repeat (ds : List Descriptor) :
    ds.Nodup ∨ ∃ before d rest, ds = before ++ d :: rest ∧ before.Nodup ∧ d ∈ before := by
  induction ds using List.reverseRecOn with
  | nil => exact .inl List.nodup_nil
  | append_singleton ds d ih =>
    rcases ih with nodup | ⟨before, d', rest, rfl, nodup, repeats⟩
    · by_cases old : d ∈ ds
      · exact .inr ⟨ds, d, [], rfl, nodup, old⟩
      · rw [← List.concat_eq_append]
        exact .inl (nodup.concat old)
    · refine .inr ⟨before, d', rest ++ [d], ?_, nodup, repeats⟩
      rw [List.append_assoc, List.cons_append]

namespace ModuleList

/-- Descriptors without repeats that fit are kept before anything else is looked at. -/
theorem keep_append {limit : Nat} : ∀ (before kept rest : List Descriptor),
    (before.reverse ++ kept).Nodup → (before.reverse ++ kept).length ≤ limit →
    keep limit kept (before ++ rest) = keep limit (before.reverse ++ kept) rest
  | [], _, _, _, _ => rfl
  | d :: before, kept, rest, nodup, fits => by
    simp only [List.reverse_cons, List.append_assoc, List.singleton_append] at nodup fits ⊢
    -- The limit is tested first, so room has to be shown before novelty.
    have room : kept.length ≠ limit := by
      simp only [List.length_append, List.length_cons] at fits
      omega
    have new : d ∉ kept := (List.nodup_cons.mp nodup.of_append_right).1
    rw [List.cons_append, keep, if_neg room, if_neg new]
    exact keep_append before (d :: kept) rest nodup fits

/-- A list that is accepted holds all it was made of, in order. -/
theorem keep_ok {limit : Nat} {list : ModuleList} :
    ∀ {ds kept : List Descriptor}, keep limit kept ds = .ok list → list.modules = kept.reverse ++ ds
  | [], kept, h => by
    cases h
    exact (List.append_nil _).symm
  | d :: rest, kept, h => by
    rw [keep] at h
    split at h
    · cases h
    split at h
    · cases h
    · rw [keep_ok h, List.reverse_cons, List.append_assoc, List.singleton_append]

/-- Whatever comes first without repeats and fits is kept. -/
theorem bounded_append {limit : Nat} {before : List Descriptor} (rest : List Descriptor)
    (nodup : before.Nodup) (fits : before.length ≤ limit) :
    bounded (before ++ rest) limit = keep limit before.reverse rest := by
  have moved : keep limit [] (before ++ rest) = keep limit (before.reverse ++ []) rest :=
    keep_append before [] rest (by simpa using nodup) (by simpa using fits)
  rwa [List.append_nil] at moved

/-- Descriptors without repeats that fit are the list. -/
theorem bounded_of_nodup {limit : Nat} {ds : List Descriptor} (nodup : ds.Nodup)
    (fits : ds.length ≤ limit) : bounded ds limit = .ok ⟨ds⟩ := by
  have kept := bounded_append [] nodup fits
  rwa [List.append_nil, keep, List.reverse_reverse] at kept

/-- The first descriptor that repeats is refused. -/
theorem bounded_of_repeat {limit : Nat} {before rest : List Descriptor} {d : Descriptor}
    (nodup : before.Nodup) (repeats : d ∈ before) (fits : before.length < limit) :
    bounded (before ++ d :: rest) limit = .error (.duplicateModule d.address) := by
  have room : before.reverse.length ≠ limit := by
    rw [List.length_reverse]
    omega
  rw [bounded_append _ nodup (Nat.le_of_lt fits), keep, if_neg room,
    if_pos (List.mem_reverse.mpr repeats)]

/-- A descriptor for which there is no room is refused, even one that repeats. -/
theorem bounded_of_full {limit : Nat} {before rest : List Descriptor} {d : Descriptor}
    (nodup : before.Nodup) (full : before.length = limit) :
    bounded (before ++ d :: rest) limit = .error (.tooManyModules (limit + 1)) := by
  have noRoom : before.reverse.length = limit := List.length_reverse.trans full
  rw [bounded_append _ nodup (Nat.le_of_eq full), keep, if_pos noRoom]

/-- Descriptors that fit are the list, or the first that repeats is refused. -/
theorem ofDescriptors_cases {ds : List Descriptor} (fits : ds.length ≤ maxModules) :
    (ds.Nodup ∧ ofDescriptors ds = .ok ⟨ds⟩) ∨
      ∃ before d rest, ds = before ++ d :: rest ∧ before.Nodup ∧ d ∈ before ∧
        ofDescriptors ds = .error (.duplicateModule d.address) := by
  rcases nodup_or_repeat ds with nodup | ⟨before, d, rest, rfl, nodup, repeats⟩
  · exact .inl ⟨nodup, bounded_of_nodup nodup fits⟩
  · have room : before.length < maxModules := by
      simp only [List.length_append, List.length_cons] at fits
      omega
    exact .inr ⟨before, d, rest, rfl, nodup, repeats, bounded_of_repeat nodup repeats room⟩

end ModuleList

end ManagedBoot
