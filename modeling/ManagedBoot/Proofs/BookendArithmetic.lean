import ManagedBoot.Proofs.SectionReading
import Mathlib.Algebra.Group.Nat.Defs
/-!
The arithmetic of bookends.

The first slot stands one slot past the leading bookend, with addresses modulo 2 ^ 64, and all other
steps are steps of natural numbers. `ofBookends` refuses a pair exactly if its trailing bookend lies
below the first slot (`ofBookends_eq_error_iff`). The slots of a range that was not refused are
those that fit before the trailing bookend as a whole, however far apart the two stand
(`slotCount_eq_iff`, `slotAddress_within`). `bookendLaw` says so for all pairs of addresses and
tells those apart that wrap.
-/
namespace ManagedBoot.SectionRange

/-- Where a slot of a range stands. -/
def slotAddress (r : SectionRange) (i : Nat) : UInt64 := r.start + slotSize * .ofNat i

section
variable {leading trailing : UInt64}

theorem toNat_afterLeading (leading : UInt64) :
    (leading + slotSize).toNat = (leading.toNat + 8) % 2 ^ 64 := by
  rw [UInt64.toNat_add, toNat_slotSize]

theorem ofBookends_eq_error_iff {e : RegistryError} :
    ofBookends leading trailing = .error e ↔
      e = .invertedBounds leading trailing ∧ trailing.toNat < (leading.toNat + 8) % 2 ^ 64 := by
  rw [ofBookends, ← toNat_afterLeading, ← UInt64.lt_iff_toNat_lt]
  by_cases inverted : trailing < leading + slotSize
  · simp [inverted, eq_comm]
  · simp [inverted]

theorem ofBookends_eq_ok_iff {r : SectionRange} :
    ofBookends leading trailing = .ok r ↔
      r = ⟨leading + slotSize, trailing⟩ ∧ (leading.toNat + 8) % 2 ^ 64 ≤ trailing.toNat := by
  rw [ofBookends, ← toNat_afterLeading, ← UInt64.le_iff_toNat_le, ← UInt64.not_lt]
  by_cases inverted : trailing < leading + slotSize
  · simp [inverted]
  · simp [inverted, eq_comm]

end

/-- Its first slot does not lie behind its end. -/
def Ordered (r : SectionRange) : Prop := r.start.toNat ≤ r.stop.toNat

section
variable {r : SectionRange}

theorem Ordered.toNat_distance (h : r.Ordered) :
    (r.stop - r.start).toNat = r.stop.toNat - r.start.toNat :=
  UInt64.toNat_sub_of_le _ _ (UInt64.le_iff_toNat_le.mpr h)

theorem Ordered.toNat_slotCount (h : r.Ordered) :
    r.slotCount.toNat = (r.stop.toNat - r.start.toNat) / 8 := by
  rw [slotCount, UInt64.toNat_div, h.toNat_distance, toNat_slotSize]

/-- The slots counted are those that fit as a whole. -/
theorem Ordered.slotCount_eq_iff (h : r.Ordered) (c : Nat) :
    r.slotCount.toNat = c ↔
      r.start.toNat + 8 * c ≤ r.stop.toNat ∧ r.stop.toNat < r.start.toNat + 8 * c + 8 := by
  have horder : r.start.toNat ≤ r.stop.toNat := h
  rw [h.toNat_slotCount]
  omega

/-- The slots stand one after the other and the last ends no later than the range. -/
theorem Ordered.slotAddress_within (h : r.Ordered) {i : Nat} (hi : i < r.slotCount.toNat) :
    (r.slotAddress i).toNat = r.start.toNat + 8 * i ∧ r.start.toNat + 8 * i + 8 ≤ r.stop.toNat := by
  have hcount := ((h.slotCount_eq_iff _).mp rfl).1
  have hend : r.start.toNat + 8 * i + 8 ≤ r.stop.toNat := by omega
  have hfits : r.start.toNat + 8 * i < UInt64.size := by
    have hstop : r.stop.toNat < UInt64.size := r.stop.toNat_lt
    omega
  exact ⟨toNat_slot hfits, hend⟩

end

/-! ## The law -/

/-- What a range with the given bookends counts. -/
structure Counted (leading trailing : UInt64) (r : SectionRange) : Prop where
  start : r.start.toNat = (leading.toNat + 8) % 2 ^ 64
  stop : r.stop = trailing
  /-- The distance is that of the numbers. -/
  distance : r.start.toNat ≤ trailing.toNat ∧
    (r.stop - r.start).toNat = trailing.toNat - r.start.toNat
  slotCount_iff : ∀ c, r.slotCount.toNat = c ↔
    r.start.toNat + 8 * c ≤ trailing.toNat ∧ trailing.toNat < r.start.toNat + 8 * c + 8
  slots : ∀ memory, r.slots memory =
    (List.range r.slotCount.toNat).map fun i => memory (r.slotAddress i)
  within : ∀ i, i < r.slotCount.toNat →
    (r.slotAddress i).toNat = r.start.toNat + 8 * i ∧ (r.slotAddress i).toNat + 8 ≤ trailing.toNat

/-- What two bookends bound. -/
structure BookendLaw (leading trailing : UInt64) : Prop where
  error_iff : ∀ e, ofBookends leading trailing = .error e ↔
    e = .invertedBounds leading trailing ∧ trailing.toNat < (leading.toNat + 8) % 2 ^ 64
  ok_iff : (∃ r, ofBookends leading trailing = .ok r) ↔
    (leading.toNat + 8) % 2 ^ 64 ≤ trailing.toNat
  counted : ∀ r, ofBookends leading trailing = .ok r → Counted leading trailing r
  /-- Where the leading bookend is not in the last slot of all, a pair is refused exactly if there
  is no room for a bookend between its two addresses. -/
  refused_iff : leading.toNat < 2 ^ 64 - 8 →
    (ofBookends leading trailing = .error (.invertedBounds leading trailing) ↔
      trailing.toNat ≤ leading.toNat ∨ trailing.toNat < leading.toNat + 8)
  /-- Nor does any slot reach into a bookend there. -/
  between : leading.toNat < 2 ^ 64 - 8 → ∀ r, ofBookends leading trailing = .ok r →
    ∀ i, i < r.slotCount.toNat →
      leading.toNat + 8 ≤ (r.slotAddress i).toNat ∧ (r.slotAddress i).toNat + 8 ≤ trailing.toNat
  wraps : trailing.toNat < leading.toNat → ∀ r, ofBookends leading trailing = .ok r →
    2 ^ 64 - 8 ≤ leading.toNat

theorem counted_of_ok {leading trailing : UInt64} {r : SectionRange}
    (h : ofBookends leading trailing = .ok r) : Counted leading trailing r := by
  obtain ⟨rfl, hle⟩ := ofBookends_eq_ok_iff.mp h
  rw [← toNat_afterLeading] at hle
  have ordered : Ordered ⟨leading + slotSize, trailing⟩ := hle
  refine ⟨toNat_afterLeading leading, rfl, ⟨hle, ordered.toNat_distance⟩,
    ordered.slotCount_eq_iff, fun _ => rfl, ?_⟩
  intro i hi
  obtain ⟨haddress, hend⟩ := ordered.slotAddress_within hi
  exact ⟨haddress, haddress ▸ hend⟩

/-- Bookends bound a range unless the trailing one lies below the first slot, and the range counts
the slots that lie between them as a whole. Only a leading bookend in the last slot of all lets the
first slot wrap. -/
theorem bookendLaw (leading trailing : UInt64) : BookendLaw leading trailing where
  error_iff := fun _ => ofBookends_eq_error_iff
  ok_iff := by
    constructor
    · intro h
      obtain ⟨r, hok⟩ := h
      exact (ofBookends_eq_ok_iff.mp hok).2
    · intro hle
      exact ⟨_, ofBookends_eq_ok_iff.mpr ⟨rfl, hle⟩⟩
  counted := fun _ => counted_of_ok
  refused_iff := by
    intro hleading
    rw [ofBookends_eq_error_iff, Nat.mod_eq_of_lt (by omega)]
    constructor
    · intro h
      exact .inr h.2
    · intro h
      exact ⟨rfl, by omega⟩
  between := by
    intro hleading r hok i hi
    have hcounted := counted_of_ok hok
    have hstart := hcounted.start
    rw [Nat.mod_eq_of_lt (by omega)] at hstart
    obtain ⟨haddress, hend⟩ := hcounted.within i hi
    exact ⟨by omega, hend⟩
  wraps := by
    intro hbelow r hok
    have hle := (ofBookends_eq_ok_iff.mp hok).2
    -- Without a wrap the first slot lies above the leading bookend.
    by_contra hlow
    rw [Nat.mod_eq_of_lt (by omega)] at hle
    omega

/-- Past the last slot of all, the first slot is at address zero. -/
example : ofBookends 0xfffffffffffffff8 20 = .ok ⟨0, 20⟩ := by decide

end ManagedBoot.SectionRange
