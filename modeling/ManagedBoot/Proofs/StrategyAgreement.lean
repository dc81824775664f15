import ManagedBoot.Proofs.PendingQueueLaw
import ManagedBoot.Proofs.SectionReading
/-!
All ways of producing the module list agree.

The list of descriptors alone decides: it is the result if no descriptor repeats, and the first that
repeats is the error. A section is read into it directly. A registry finds the repeat when it
registers and has nothing left to find when it collects (`registerAll_bind_collect`); hooks of one
address each and a queue taken over both come down to registering the addresses in order.
-/
namespace ManagedBoot

/-- Runs the hooks of all units and then collects the registry. -/
def Registry.collectingUnits (hooks : List RegistrationHook) :
    Run Registry (Except RegistryError ModuleList) := do
  match (← RegistrationHook.runAll hooks).2 with
  | .error e => return .error e
  | .ok () => collecting

namespace PendingQueue

def announcingAll : List UInt64 → Run PendingQueue Unit
  | [] => return ()
  | address :: rest => do
    announcing address
    announcingAll rest

/-- Announces addresses, takes them over into a registry and then collects it. -/
def collectingAnnounced (addresses : List UInt64) :
    Run PendingQueue (Except RegistryError ModuleList) := do
  announcingAll addresses
  match ← takingOver with
  | .error e => return .error e
  | .ok r => return (← Run.apart r Registry.collecting).1

end PendingQueue

/-! ## Registering addresses in order -/

namespace Registry

/-- Descriptors registered in a new registry are collected as if they had been listed at once. -/
theorem registerAll_bind_collect {ds : List Descriptor} (fits : ds.length ≤ maxModules) :
    (registerAll {} (ds.map (·.address))).bind (·.collect.1) = ModuleList.ofDescriptors ds := by
  rcases Agrees.fresh.registerAll (ds.map (·.address)) rfl with
    ⟨r, hall, hr, -⟩ | ⟨accepted, address, rest, e, split, -, nodup, offends, hall⟩
  · have hmodules : r.modules = ds :=
      List.map_injective_iff.mpr Descriptor.address_injective (by simpa using hr.held)
    have hcollect := hr.collect rfl (by simpa using fits)
    have nodup := hr.nodup
    rw [hmodules] at hcollect nodup
    rw [hall]
    exact hcollect.trans (ModuleList.bounded_of_nodup nodup fits).symm
  · -- The registry refuses the repeat when it is registered, so nothing is collected.
    obtain ⟨before, others, rfl, rfl, hothers⟩ := List.map_eq_append_iff.mp split
    obtain ⟨d, rest, rfl, rfl, rfl⟩ := List.map_eq_cons_iff.mp hothers
    have room : before.length < maxModules := by
      simp only [List.length_append, List.length_cons] at fits
      omega
    rcases offends with ⟨null, -⟩ | ⟨-, old, rfl⟩
    · exact absurd null d.nonnull
    · rw [List.nil_append] at nodup old
      rw [List.mem_map_of_injective Descriptor.address_injective] at old
      rw [hall]
      exact (ModuleList.bounded_of_repeat (.of_map _ nodup) old room).symm

/-- Hooks of one address each register the addresses in order. -/
theorem runAll_registering : ∀ addresses : List UInt64,
    Prod.snd <$> RegistrationHook.runAll (addresses.map registering) = registeringAll addresses
  | [] => by simp [RegistrationHook.runAll, registeringAll]
  | address :: rest => by
    -- An error counts its hook and ends both; the count is dropped either way.
    rw [List.map_cons, RegistrationHook.runAll, registeringAll, ← runAll_registering rest,
      map_bind]
    congr
    funext result
    cases result <;> simp

/-- Collecting units of one address each collects what registering the addresses leaves. -/
theorem effect_collectingUnits (addresses : List UInt64) (p : Process Registry) :
    (Run.effect (collectingUnits (addresses.map registering)) p).1 =
      .ok ((p.runtime.registerAll addresses).bind (·.collect.1)) := by
  obtain ⟨r, hall, hr⟩ := effect_registeringAll addresses p
  rw [← runAll_registering, Run.effect_map] at hall
  rw [collectingUnits, Run.effect_bind]
  rcases hrun : Run.effect (RegistrationHook.runAll (addresses.map registering)) p with
    ⟨u | ⟨called, result⟩, q⟩ <;> rw [hrun] at hall
  · cases hall
  · obtain ⟨hresult, rfl⟩ : result = (p.runtime.registerAll addresses).map (fun _ => ()) ∧
        q = { p with runtime := r } := by simpa [Except.map] using hall
    subst hresult
    rcases h : p.runtime.registerAll addresses with e | r'
    · rfl
    · simp [Except.map, Except.bind, hr r' h]

end Registry

namespace PendingQueue

/-- An open queue keeps what is announced. -/
theorem effect_announcingAll : ∀ (addresses : List UInt64) {q : PendingQueue} (depth frames : Nat),
    q.drained = false →
    Run.effect (announcingAll addresses) ⟨q, depth, frames⟩ =
      (.ok (), ⟨{ q with addresses := q.addresses ++ addresses }, depth, frames⟩)
  | [], q, _, _, _ => by simp [announcingAll]
  | address :: rest, q, depth, frames, hopen => by
    have hrest := effect_announcingAll rest (q := q.push address) depth frames
      (by simp [push, hopen])
    rw [announcingAll, Run.effect_bind, effect_announcing]
    simp only [hrest]
    simp [push, hopen]

/-- Collecting what was announced collects what registering the addresses leaves. -/
theorem effect_collectingAnnounced (addresses : List UInt64) (depth frames : Nat) :
    (Run.effect (collectingAnnounced addresses) ⟨{}, depth, frames⟩).1 =
      .ok ((Registry.registerAll {} addresses).bind (·.collect.1)) := by
  have hqueue := effect_announcingAll addresses (q := {}) depth frames rfl
  rw [List.nil_append] at hqueue
  rw [collectingAnnounced, Run.effect_bind, hqueue]
  simp only [Run.effect_bind, effect_taking, drain, settled]
  rcases h : Registry.registerAll {} addresses with e | r <;> simp [h, Except.map, Except.bind]

end PendingQueue

/-! ## Agreement -/

/-- Addresses between bookends with any padding, one hook for each of them and a queue of them lead
to one result: the list of the addresses if none repeats, or the first that repeats as an error. -/
theorem strategies_agree {σ : Type} {memory : Memory} {leading trailing : UInt64}
    {words addresses : List UInt64}
    (placed : SectionRange.Placed memory leading trailing words)
    (padding : words.filter (· ≠ 0) = addresses) (fits : addresses.length ≤ maxModules) :
    ∃ range result,
      SectionRange.ofBookends leading trailing = .ok range ∧
      (∀ strategy, ∀ p : Process σ,
        ((Source.merged strategy range memory).collect p).outcome = .ok result) ∧
      (∀ depth frames, (Registry.collectingUnits (addresses.map Registry.registering)
        ⟨{}, depth, frames⟩).outcome = .ok result) ∧
      (∀ depth frames,
        (PendingQueue.collectingAnnounced addresses ⟨{}, depth, frames⟩).outcome = .ok result) ∧
      ((addresses.Nodup ∧ ∃ list, result = .ok list ∧ list.addresses = addresses) ∨
        ∃ before address rest, addresses = before ++ address :: rest ∧ before.Nodup ∧
          address ∈ before ∧ result = .error (.duplicateModule address)) := by
  have nonnull : ∀ a ∈ addresses, a ≠ 0 := by
    intro a ha
    rw [← padding] at ha
    simpa using (List.mem_filter.mp ha).2
  obtain ⟨ds, rfl⟩ := Descriptor.exists_map_address nonnull
  have fits : ds.length ≤ maxModules := by simpa using fits
  refine ⟨_, ModuleList.ofDescriptors ds, placed.ofBookends, ?_, ?_, ?_, ?_⟩
  · intro strategy p
    have hread := placed.read padding
    have hcollect := Source.effect_collect_merged strategy ⟨leading + slotSize, trailing⟩ memory p
    rw [hread] at hcollect
    exact congrArg Prod.fst hcollect
  · intro depth frames
    rw [← Registry.registerAll_bind_collect fits]
    exact Registry.effect_collectingUnits _ _
  · intro depth frames
    rw [← Registry.registerAll_bind_collect fits]
    exact PendingQueue.effect_collectingAnnounced _ _ _
  · rcases ModuleList.ofDescriptors_cases fits with
      ⟨nodup, hlist⟩ | ⟨before, d, rest, rfl, nodup, repeats, hlist⟩
    · exact .inl ⟨nodup.map Descriptor.address_injective, ⟨ds⟩, hlist, rfl⟩
    · refine .inr ⟨before.map (·.address), d.address, rest.map (·.address), ?_,
        nodup.map Descriptor.address_injective, List.mem_map_of_mem repeats, hlist⟩
      rw [List.map_append, List.map_cons]

/-- A repeat behind padding is refused by all of them. -/
theorem strategies_agree_on_repeat :
    ∃ range, SectionRange.ofBookends 0x10000 0x10028 = .ok range ∧
      (∀ strategy, ∀ p : Process Unit,
        ((Source.merged strategy range (.ofSlots 0x10000 [0, 0, 64, 0, 64, 0])).collect
          p).outcome = .ok (.error (.duplicateModule 64))) ∧
      (∀ depth frames, (Registry.collectingUnits ([64, 64].map Registry.registering)
        ⟨{}, depth, frames⟩).outcome = .ok (.error (.duplicateModule 64))) ∧
      ∀ depth frames, (PendingQueue.collectingAnnounced [64, 64] ⟨{}, depth, frames⟩).outcome =
        .ok (.error (.duplicateModule 64)) := by
  have placed := SectionRange.placed_ofSlots 0x10000 [0, 64, 0, 64] (by decide)
  obtain ⟨range, result, hrange, hmerged, hunits, hqueue, hcase⟩ :=
    @strategies_agree Unit _ _ _ _ [64, 64] placed (by decide) (by decide)
  have hresult : result = .error (.duplicateModule 64) := by
    rcases hcase with ⟨nodup, -⟩ | ⟨before, address, rest, heq, -, -, hresult⟩
    · exact absurd nodup (by decide)
    · have hmem : address ∈ [64, 64] := by
        rw [heq]
        simp
      have haddress : address = 64 := by simpa using hmem
      rw [hresult, haddress]
  subst hresult
  exact ⟨range, hrange, hmerged, hunits, hqueue⟩

end ManagedBoot
