import ManagedBoot.Proofs.ModuleListing
import Mathlib.Data.Nat.Find
import Mathlib.Algebra.Group.Nat.Defs
/-!
Which descriptors make a list, and what the runtime is handed of it.

Descriptors are looked at in order. One breaks a rule if there is no room for it any more or if an
equal one came before; the first such index decides the result, and without one the list is what was
given (`bounded_eq_iff`). What is accepted under the runtime's own limit can be counted in 32 bits
with a sign, so the runtime is handed the array as it is and the count of its entries (`handed`).
-/
namespace ManagedBoot.ModuleList

/-- The descriptor at an index has no room or repeats an earlier one. -/
structure Breaks (ds : List Descriptor) (limit k : Nat) : Prop where
  inside : k < ds.length
  rule : k = limit ∨ ∃ j, j < k ∧ ds[j]? = ds[k]?

/-- No earlier descriptor breaks a rule. -/
structure FirstBreak (ds : List Descriptor) (limit k : Nat) : Prop where
  breaks : Breaks ds limit k
  least : ∀ j, j < k → ¬Breaks ds limit j

/-- What becomes of descriptors under a limit. -/
inductive Decided (ds : List Descriptor) (limit : Nat) : Except RegistryError ModuleList → Prop
  | accepted (keeps : ∀ k, ¬Breaks ds limit k) : Decided ds limit (.ok ⟨ds⟩)
  | full (first : FirstBreak ds limit limit) :
    Decided ds limit (.error (.tooManyModules (limit + 1)))
  | repeated {k : Nat} {d : Descriptor} (first : FirstBreak ds limit k) (room : k ≠ limit)
      (entry : ds[k]? = some d) : Decided ds limit (.error (.duplicateModule d.address))

section
variable {ds : List Descriptor} {limit k : Nat}

/-- Up to an index with no break before it, nothing repeats. -/
theorem nodup_take (least : ∀ j, j < k → ¬Breaks ds limit j) : (ds.take k).Nodup := by
  rw [List.nodup_iff_getElem?_ne_getElem?]
  intro i j hij hj same
  have hjk : j < k := by
    rw [List.length_take] at hj
    omega
  have inside : j < ds.length := by
    rw [List.length_take] at hj
    omega
  rw [List.getElem?_take_of_lt hjk, List.getElem?_take_of_lt (by omega)] at same
  exact least j hjk ⟨inside, .inr ⟨i, hij, same⟩⟩

theorem nodup_of_keeps (keeps : ∀ k, ¬Breaks ds limit k) : ds.Nodup := by
  rw [← List.take_length (l := ds)]
  exact nodup_take fun j _ => keeps j

theorem length_le_of_keeps (keeps : ∀ k, ¬Breaks ds limit k) : ds.length ≤ limit := by
  by_contra long
  exact keeps limit ⟨by omega, .inl rfl⟩

namespace FirstBreak

theorem le (h : FirstBreak ds limit k) : k ≤ limit := by
  by_contra behind
  have inside := h.breaks.inside
  exact h.least limit (by omega) ⟨by omega, .inl rfl⟩

theorem unique {k' : Nat} (h : FirstBreak ds limit k) (h' : FirstBreak ds limit k') : k = k' := by
  rcases Nat.lt_trichotomy k k' with before | same | behind
  · exact absurd h.breaks (h'.least k before)
  · exact same
  · exact absurd h'.breaks (h.least k' behind)

theorem mem_take {d : Descriptor} (h : FirstBreak ds limit k) (room : k ≠ limit)
    (entry : ds[k]? = some d) : d ∈ ds.take k := by
  rcases h.breaks.rule with full | ⟨j, hj, same⟩
  · exact absurd full room
  · rw [List.mem_iff_getElem?]
    exact ⟨j, by rw [List.getElem?_take_of_lt hj, same, entry]⟩

/-- The descriptors fall into those before the break, which do not repeat, and the rest. -/
theorem split (h : FirstBreak ds limit k) {d : Descriptor} (entry : ds[k]? = some d) :
    ds = ds.take k ++ d :: ds.drop (k + 1) ∧ (ds.take k).Nodup ∧ (ds.take k).length = k := by
  obtain ⟨inside, rfl⟩ := List.getElem?_eq_some_iff.mp entry
  refine ⟨?_, nodup_take h.least, ?_⟩
  · rw [← List.drop_eq_getElem_cons inside, List.take_append_drop]
  · rw [List.length_take]
    omega

end FirstBreak

/-- Some index is the first to break a rule, or none breaks one. -/
theorem keeps_or_first (ds : List Descriptor) (limit : Nat) :
    (∀ k, ¬Breaks ds limit k) ∨ ∃ k, FirstBreak ds limit k := by
  classical
  by_cases some_break : ∃ k, Breaks ds limit k
  · exact .inr ⟨Nat.find some_break, Nat.find_spec some_break, fun _ => Nat.find_min some_break⟩
  · exact .inl (not_exists.mp some_break)

theorem exists_decided (ds : List Descriptor) (limit : Nat) :
    ∃ result, Decided ds limit result := by
  rcases keeps_or_first ds limit with keeps | ⟨k, first⟩
  · exact ⟨_, .accepted keeps⟩
  · by_cases full : k = limit
    · subst full
      exact ⟨_, .full first⟩
    · exact ⟨_, .repeated first full (List.getElem?_eq_getElem first.breaks.inside)⟩

theorem Decided.bounded {result : Except RegistryError ModuleList} (h : Decided ds limit result) :
    bounded ds limit = result := by
  cases h with
  | accepted keeps => exact bounded_of_nodup (nodup_of_keeps keeps) (length_le_of_keeps keeps)
  | full first =>
    obtain ⟨hsplit, nodup, hlength⟩ := first.split (List.getElem?_eq_getElem first.breaks.inside)
    rw [hsplit]
    exact bounded_of_full nodup hlength
  | repeated first room entry =>
    obtain ⟨hsplit, nodup, hlength⟩ := first.split entry
    rw [hsplit]
    have hle := first.le
    exact bounded_of_repeat nodup (first.mem_take room entry) (by omega)

theorem bounded_eq_iff {result : Except RegistryError ModuleList} :
    bounded ds limit = result ↔ Decided ds limit result := by
  constructor
  · rintro rfl
    obtain ⟨result, decided⟩ := exists_decided ds limit
    rwa [decided.bounded]
  · exact Decided.bounded

end

/-! ## Handing over -/

/-- What the runtime is handed of an accepted list. -/
structure Handed (ds : List Descriptor) (list : ModuleList) : Prop where
  modules : list.modules = ds
  nodup : list.modules.Nodup
  nonnull : ∀ address ∈ list.rawParts.1, address ≠ 0
  size_le : list.size ≤ 2 ^ 31 - 1
  array : list.rawParts.1 = ds.map (·.address)
  length : list.rawParts.1.length = list.size
  count : list.rawParts.2.toInt = list.size

theorem handed {ds : List Descriptor} {list : ModuleList} (h : ofDescriptors ds = .ok list) :
    Handed ds list := by
  cases bounded_eq_iff.mp h with
  | accepted keeps =>
    have short : ds.length ≤ 2 ^ 31 - 1 := length_le_of_keeps keeps
    refine ⟨rfl, nodup_of_keeps keeps, ?_, short, rfl, List.length_map .., ?_⟩
    · intro address member
      obtain ⟨d, -, rfl⟩ := List.mem_map.mp member
      exact d.nonnull
    · have small : (ModuleList.mk ds).size < 2 ^ 31 := Nat.lt_of_le_pred (by decide) short
      exact Int32.toInt_ofNat_of_lt small

structure AcceptanceLaw (ds : List Descriptor) : Prop where
  decided : ∀ limit result, bounded ds limit = result ↔ Decided ds limit result
  handed : ∀ list, ofDescriptors ds = .ok list → Handed ds list

/-- The first descriptor that breaks a rule decides, the limit before the repetition, and what is
accepted is handed over as it was given. -/
theorem acceptanceLaw (ds : List Descriptor) : AcceptanceLaw ds where
  decided := fun _ _ => bounded_eq_iff
  handed := fun _ => handed

/-- A descriptor that repeats is refused for want of room if there is none. -/
example (d : Descriptor) : bounded [d, d] 1 = .error (.tooManyModules 2) := rfl

end ManagedBoot.ModuleList
