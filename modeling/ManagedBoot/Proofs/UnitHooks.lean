import ManagedBoot.Proofs.StrategyAgreement
import Mathlib.Data.List.Chain
/-!
What the hooks of all units register.

Hooks are called in turn on one registry, and the first that does not succeed is the last that is
called, whatever code they run (`RegistrationHook.exists_inTurn`). A hook that only registers leaves
a registry that holds the first occurrences among all addresses passed so far, in order, also where
it ignored errors (`UnitHook.effect_run`). The hooks of all units together therefore register the
first occurrences of all they pass, or end with the error of one of them
(`units_register_first_occurrences`).
-/
namespace ManagedBoot

open Registry

/-- The addresses that count among all those passed to a registry: each that is not null, where it
occurs first. -/
def firstOccurrences (addresses : List UInt64) : List UInt64 := (addresses.filter (· ≠ 0)).eraseDups

/-! ## Hooks in turn -/

/-- A hook at its call. -/
structure HookCall where
  hook : RegistrationHook
  found : Process Registry

namespace HookCall

def ending (c : HookCall) : Ending Registry (Except RegistryError Unit) := c.hook c.found

/-- How the last call ended. Where nothing was called, nothing failed. -/
def lastEnding (p : Process Registry) (calls : List HookCall) :
    Ending Registry (Except RegistryError Unit) :=
  (calls.getLast?.map ending).getD ⟨.ok (.ok ()), p, []⟩

end HookCall

/-- The calls that a run of hooks makes from `p` on. -/
structure RegistrationHook.InTurn (hooks : List RegistrationHook) (p : Process Registry)
    (calls : List HookCall) : Prop where
  /-- The hooks are called in order, each at most once. -/
  ordered : calls.map (·.hook) <+: hooks
  first : ∀ c ∈ calls.head?, c.found = p
  /-- Every other hook finds the registry as the hook before left it. -/
  shared : calls.IsChain fun c next => next.found = c.ending.process
  /-- After a hook that does not succeed none is called. -/
  succeeded : ∀ c ∈ calls.dropLast, c.ending.outcome = .ok (.ok ())
  complete : (HookCall.lastEnding p calls).outcome = .ok (.ok ()) → calls.map (·.hook) = hooks
  /-- The run yields what the last hook did, and how many were called. -/
  outcome : (runAll hooks p).outcome =
    (HookCall.lastEnding p calls).outcome.map (calls.length, ·)
  process : (runAll hooks p).process = (HookCall.lastEnding p calls).process
  output : (runAll hooks p).output = calls.flatMap (·.ending.output)

namespace RegistrationHook

theorem runAll_of_failed {hook : RegistrationHook} {p q : Process Registry} {e : RegistryError}
    {out : List Output} (rest : List RegistrationHook) (h : hook p = ⟨.ok (.error e), q, out⟩) :
    runAll (hook :: rest) p = ⟨.ok (1, .error e), q, out⟩ := by
  rw [runAll, Run.bind_of_ok h]
  simp [Run.pure_apply]

theorem runAll_of_unwound {hook : RegistrationHook} {p q : Process Registry} {u : Unwind}
    {out : List Output} (rest : List RegistrationHook) (h : hook p = ⟨.error u, q, out⟩) :
    runAll (hook :: rest) p = ⟨.error u, q, out⟩ := by
  rw [runAll, Run.bind_of_error h]

theorem runAll_of_succeeded {hook : RegistrationHook} {p q : Process Registry}
    {out : List Output} (rest : List RegistrationHook) (h : hook p = ⟨.ok (.ok ()), q, out⟩) :
    runAll (hook :: rest) p =
      ⟨(runAll rest q).outcome.map (fun r => (r.1 + 1, r.2)), (runAll rest q).process,
        out ++ (runAll rest q).output⟩ := by
  rw [runAll, Run.bind_of_ok h]
  dsimp only
  rcases hrest : runAll rest q with ⟨u | r, q', out'⟩
  · rw [Run.bind_of_error hrest]
    rfl
  · rw [Run.bind_of_ok hrest]
    simp [Run.pure_apply, Except.map]

/-- A hook that does not succeed is the only one that is called. -/
theorem InTurn.stop {hook : RegistrationHook} {p : Process Registry}
    (rest : List RegistrationHook) (failed : (hook p).outcome ≠ .ok (.ok ())) :
    InTurn (hook :: rest) p [⟨hook, p⟩] := by
  have hrun : runAll (hook :: rest) p =
      ⟨(hook p).outcome.map (1, ·), (hook p).process, (hook p).output⟩ := by
    rcases h : hook p with ⟨u | e | _, q, out⟩
    · exact runAll_of_unwound rest h
    · exact runAll_of_failed rest h
    · rw [h] at failed
      exact absurd rfl failed
  exact {
    ordered := ⟨rest, rfl⟩
    first := by simp
    shared := .singleton _
    succeeded := by simp
    complete := fun h => absurd h failed
    outcome := congrArg Ending.outcome hrun
    process := congrArg Ending.process hrun
    output := by
      rw [hrun]
      simp [HookCall.ending]
  }

/-- A hook that succeeds hands its registry to those after it. -/
theorem InTurn.next {hook : RegistrationHook} {rest : List RegistrationHook}
    {p q : Process Registry} {out : List Output} {calls : List HookCall}
    (h : hook p = ⟨.ok (.ok ()), q, out⟩) (hcalls : InTurn rest q calls) :
    InTurn (hook :: rest) p (⟨hook, p⟩ :: calls) := by
  have hending : HookCall.ending ⟨hook, p⟩ = ⟨.ok (.ok ()), q, out⟩ := h
  have hlast : (HookCall.lastEnding p (⟨hook, p⟩ :: calls)).outcome =
        (HookCall.lastEnding q calls).outcome ∧
      (HookCall.lastEnding p (⟨hook, p⟩ :: calls)).process =
        (HookCall.lastEnding q calls).process := by
    rw [HookCall.lastEnding, HookCall.lastEnding, List.getLast?_cons]
    cases calls.getLast? with
    | none => simp [hending]
    | some c => simp
  have hrun := runAll_of_succeeded rest h
  exact {
    ordered := by
      rw [List.map_cons, List.prefix_cons_inj]
      exact hcalls.ordered
    first := by simp
    shared := by
      rw [List.isChain_cons]
      refine ⟨?_, hcalls.shared⟩
      intro c hc
      rw [hending]
      exact hcalls.first c hc
    succeeded := by
      intro c hc
      cases calls with
      | nil => simp at hc
      | cons c' calls =>
        rw [List.dropLast_cons_cons] at hc
        rcases List.mem_cons.mp hc with rfl | hc
        · rw [hending]
        · exact hcalls.succeeded c hc
    complete := by
      intro hok
      rw [hlast.1] at hok
      rw [List.map_cons, hcalls.complete hok]
    outcome := by
      rw [hrun, hlast.1, hcalls.outcome]
      cases (HookCall.lastEnding q calls).outcome <;> rfl
    process := by
      rw [hrun, hlast.2, hcalls.process]
    output := by
      rw [hrun, List.flatMap_cons, hending, hcalls.output]
  }

theorem exists_inTurn (hooks : List RegistrationHook) (p : Process Registry) :
    ∃ calls, InTurn hooks p calls := by
  induction hooks generalizing p with
  | nil => exact ⟨[], ⟨List.nil_prefix, by simp, .nil, by simp, fun _ => rfl, rfl, rfl, rfl⟩⟩
  | cons hook rest ih =>
    rcases h : hook p with ⟨u | e | _, q, out⟩
    · exact ⟨_, InTurn.stop rest (by simp [h])⟩
    · exact ⟨_, InTurn.stop rest (by simp [h])⟩
    · obtain ⟨calls, hcalls⟩ := ih q
      exact ⟨_, InTurn.next h hcalls⟩

end RegistrationHook

/-! ## First occurrences -/

/-- One more address counts if it is neither null nor known. -/
theorem firstOccurrences_concat (addresses : List UInt64) (address : UInt64) :
    firstOccurrences (addresses ++ [address]) =
      if address = 0 ∨ address ∈ firstOccurrences addresses then firstOccurrences addresses
      else firstOccurrences addresses ++ [address] := by
  by_cases null : address = 0
  · simp [firstOccurrences, null]
  · by_cases old : address ∈ addresses
    · simp [firstOccurrences, List.eraseDups_append, List.removeAll, null, old]
    · simp [firstOccurrences, List.eraseDups_append, List.removeAll, List.eraseDups_cons, null, old]

/-- Addresses that are all new and not null are all counted. -/
theorem firstOccurrences_append {passed : List UInt64} (more : List UInt64)
    (nonnull : ∀ a ∈ more, a ≠ 0) (new : (firstOccurrences passed ++ more).Nodup) :
    firstOccurrences (passed ++ more) = firstOccurrences passed ++ more := by
  induction more using List.reverseRecOn with
  | nil => simp
  | append_singleton more address ih =>
    rw [← List.append_assoc] at new
    have hmore := ih (fun a ha => nonnull a (List.mem_append_left _ ha)) new.of_append_left
    have known : address ∉ firstOccurrences passed ++ more := by
      intro hmem
      exact (List.nodup_append.mp new).2.2 address hmem address List.mem_cons_self rfl
    have counts : ¬(address = 0 ∨ address ∈ firstOccurrences passed ++ more) := by
      rintro (null | old)
      · exact nonnull address (by simp) null
      · exact known old
    rw [← List.append_assoc, firstOccurrences_concat, hmore, if_neg counts, List.append_assoc]

/-! ## One hook -/

/-- The ledger of an open registry to which the addresses were passed. -/
def Registry.Ledger.passed (addresses : List UInt64) : Registry.Ledger :=
  { accepted := firstOccurrences addresses }

section
variable {p : Process Registry} {passed : List UInt64}

/-- Whatever becomes of a registration, the registry then holds what counts. -/
theorem Registry.Agrees.registering (h : p.runtime.Agrees (.passed passed)) (address : UInt64) :
    ∃ result r, Run.effect (registering address) p = (.ok result, { p with runtime := r }) ∧
      r.Agrees (.passed (passed ++ [address])) := by
  obtain ⟨r, hrun, -, hr⟩ := h.applying (f := (·.register address)) (h.register address)
  refine ⟨_, r, hrun, ?_⟩
  have hnote : (Ledger.passed passed).noteRegistration address
      ((Ledger.passed passed).verdict address) = .passed (passed ++ [address]) := by
    rw [Ledger.passed, Ledger.passed, firstOccurrences_concat, Ledger.verdict]
    by_cases null : address = 0
    · rw [if_pos null, if_pos (.inl null), Ledger.noteRegistration]
    · by_cases old : address ∈ firstOccurrences passed
      · simp [null, old, Ledger.noteRegistration]
      · simp [null, old, Ledger.noteRegistration]
  rwa [hnote] at hr

theorem Registry.Agrees.registeringAny (addresses : List UInt64)
    (h : p.runtime.Agrees (.passed passed)) :
    ∃ r, Run.effect (UnitHook.registeringAny addresses) p = (.ok (), { p with runtime := r }) ∧
      r.Agrees (.passed (passed ++ addresses)) := by
  induction addresses generalizing p passed with
  | nil => exact ⟨p.runtime, rfl, by simpa using h⟩
  | cons address rest ih =>
    obtain ⟨result, r, hrun, hr⟩ := h.registering address
    obtain ⟨r', hrest, hr'⟩ := ih (p := { p with runtime := r }) hr
    refine ⟨r', ?_, ?_⟩
    · rw [UnitHook.registeringAny, Run.effect_bind, hrun]
      exact hrest
    · rwa [List.append_assoc] at hr'

/-- A registration in order registers all, or stops at the first address that is refused. -/
theorem Registry.Agrees.registeringAll (addresses : List UInt64)
    (h : p.runtime.Agrees (.passed passed)) :
    ∃ result r, Run.effect (Registry.registeringAll addresses) p =
        (.ok result, { p with runtime := r }) ∧
      ((result = .ok () ∧ r.Agrees (.passed (passed ++ addresses)) ∧
          firstOccurrences (passed ++ addresses) = firstOccurrences passed ++ addresses) ∨
        ∃ before address rest e, addresses = before ++ address :: rest ∧
          firstOccurrences (passed ++ before) = firstOccurrences passed ++ before ∧
          Offends (firstOccurrences (passed ++ before)) address e ∧ result = .error e) := by
  obtain ⟨r, hrun, hr⟩ := effect_registeringAll addresses p
  refine ⟨_, r, hrun, ?_⟩
  rcases h.registerAll addresses rfl with
    ⟨r', hall, hagrees, nonnull⟩ | ⟨before, address, rest, e, hsplit, nonnull, new, offends, hall⟩
  · have hcount := firstOccurrences_append addresses nonnull hagrees.distinct
    left
    rw [hall, hr r' hall, Ledger.passed, hcount]
    exact ⟨rfl, hagrees, rfl⟩
  · have hcount := firstOccurrences_append before nonnull new
    right
    rw [hall]
    refine ⟨before, address, rest, e, hsplit, hcount, ?_, rfl⟩
    rw [hcount]
    exact offends

end

namespace UnitHook

/-- Why a hook fails on a registry to which the addresses `passed` were passed before. -/
inductive Fails (hook : UnitHook) (passed : List UInt64) (e : RegistryError) : Prop
  /-- It stops at an address that is refused after all those before it were accepted. -/
  | refused (before : List UInt64) (address : UInt64) (rest : List UInt64)
      (strict : hook.tolerant = false) (split : hook.addresses = before ++ address :: rest)
      (accepted : firstOccurrences (passed ++ before) = firstOccurrences passed ++ before)
      (offends : Offends (firstOccurrences (passed ++ before)) address e)
  /-- It gets to its end and fails there. -/
  | own (reached : hook.tolerant = true ∨
        firstOccurrences (passed ++ hook.addresses) = firstOccurrences passed ++ hook.addresses)
      (failure : hook.failure = some e)

/-- A hook that succeeds leaves a registry with what counts. -/
theorem effect_run (hook : UnitHook) {p : Process Registry} {passed : List UInt64}
    (h : p.runtime.Agrees (.passed passed)) :
    ∃ result r, Run.effect hook.run p = (.ok result, { p with runtime := r }) ∧
      ((result = .ok () ∧ r.Agrees (.passed (passed ++ hook.addresses))) ∨
        ∃ e, result = .error e ∧ hook.Fails passed e) := by
  rw [run]
  cases htolerant : hook.tolerant with
  | true =>
    obtain ⟨r, hrun, hr⟩ := h.registeringAny hook.addresses
    cases hfailure : hook.failure with
    | none => exact ⟨.ok (), r, by simp [hrun, Except.map], .inl ⟨rfl, hr⟩⟩
    | some e =>
      refine ⟨.error e, r, by simp [hrun, Except.map], .inr ⟨e, rfl, ?_⟩⟩
      exact .own (.inl htolerant) hfailure
  | false =>
    obtain ⟨result, r, hrun, ⟨rfl, hr, hcount⟩ | ⟨before, address, rest, e, hsplit, hcount, offends,
      rfl⟩⟩ := h.registeringAll hook.addresses
    · cases hfailure : hook.failure with
      | none => exact ⟨.ok (), r, by simp [hrun], .inl ⟨rfl, hr⟩⟩
      | some e => exact ⟨.error e, r, by simp [hrun], .inr ⟨e, rfl, .own (.inr hcount) hfailure⟩⟩
    · refine ⟨.error e, r, by simp [hrun], .inr ⟨e, rfl, ?_⟩⟩
      exact .refused before address rest htolerant hsplit hcount offends

/-! ## The hooks of all units -/

/-- The addresses that hooks pass if all of them get to their end. -/
def passedBy (hooks : List UnitHook) : List UInt64 := hooks.flatMap (·.addresses)

theorem effect_runAll (hooks : List UnitHook) {p : Process Registry} {passed : List UInt64}
    (h : p.runtime.Agrees (.passed passed)) :
    (∃ r, Run.effect (RegistrationHook.runAll (hooks.map run)) p =
        (.ok (hooks.length, .ok ()), { p with runtime := r }) ∧
      r.Agrees (.passed (passed ++ passedBy hooks))) ∨
    ∃ before hook after e r, hooks = before ++ hook :: after ∧
      hook.Fails (passed ++ passedBy before) e ∧
      Run.effect (RegistrationHook.runAll (hooks.map run)) p =
        (.ok (before.length + 1, .error e), { p with runtime := r }) := by
  induction hooks generalizing p passed with
  | nil => exact .inl ⟨p.runtime, rfl, by simpa [passedBy] using h⟩
  | cons hook rest ih =>
    rw [List.map_cons, RegistrationHook.runAll, Run.effect_bind]
    obtain ⟨result, r, hrun, ⟨rfl, hr⟩ | ⟨e, rfl, fails⟩⟩ := hook.effect_run h
    · rcases ih (p := { p with runtime := r }) hr with
        ⟨r', hrest, hr'⟩ | ⟨before, failing, after, e, r', rfl, fails, hrest⟩
      · refine .inl ⟨r', ?_, ?_⟩
        · simp [hrun, hrest, Except.map]
        · rwa [List.append_assoc] at hr'
      · refine .inr ⟨hook :: before, failing, after, e, r', rfl, ?_, ?_⟩
        · rwa [List.append_assoc] at fails
        · simp only [hrun, Run.effect_bind, hrest]
          rfl
    · refine .inr ⟨[], hook, rest, e, r, rfl, ?_, ?_⟩
      · simpa [passedBy] using fails
      · simp [hrun]

end UnitHook

/-- Fewer addresses count than are passed. -/
theorem length_firstOccurrences_le (addresses : List UInt64) :
    (firstOccurrences addresses).length ≤ addresses.length := by
  induction addresses using List.reverseRecOn with
  | nil => exact Nat.le_refl _
  | append_singleton addresses address ih =>
    rw [firstOccurrences_concat]
    split
    · rw [List.length_append]
      omega
    · simpa using ih

/-- Hooks are called in turn on one registry up to the first that fails, and if none fails the
collection yields the first occurrences of all addresses passed. -/
theorem units_register_first_occurrences :
    (∀ (hooks : List RegistrationHook) (p : Process Registry),
      ∃ calls, RegistrationHook.InTurn hooks p calls) ∧
    ∀ (hooks : List UnitHook) (depth frames : Nat),
      (UnitHook.passedBy hooks).length ≤ maxModules →
      (∃ list, (RegistrationHook.runAll (hooks.map (·.run)) ⟨{}, depth, frames⟩).outcome =
          .ok (hooks.length, .ok ()) ∧
        (collectingUnits (hooks.map (·.run)) ⟨{}, depth, frames⟩).outcome = .ok (.ok list) ∧
        list.addresses = firstOccurrences (UnitHook.passedBy hooks)) ∨
      ∃ before hook after e, hooks = before ++ hook :: after ∧
        hook.Fails (UnitHook.passedBy before) e ∧
        (RegistrationHook.runAll (hooks.map (·.run)) ⟨{}, depth, frames⟩).outcome =
          .ok (before.length + 1, .error e) ∧
        (collectingUnits (hooks.map (·.run)) ⟨{}, depth, frames⟩).outcome = .ok (.error e) := by
  refine ⟨RegistrationHook.exists_inTurn, ?_⟩
  intro hooks depth frames fits
  have fresh : Agrees {} (.passed []) := Agrees.fresh
  rcases UnitHook.effect_runAll hooks (p := ⟨{}, depth, frames⟩) fresh with
    ⟨r, hrun, hr⟩ | ⟨before, hook, after, e, r, hsplit, fails, hrun⟩
  · rw [List.nil_append] at hr
    have hfits := Nat.le_trans (length_firstOccurrences_le (UnitHook.passedBy hooks)) fits
    have hcollect : r.collect.1 = .ok ⟨r.modules⟩ := hr.collect rfl hfits
    refine .inl ⟨⟨r.modules⟩, congrArg Prod.fst hrun, ?_, hr.held⟩
    have heffect : Run.effect (collectingUnits (hooks.map (·.run))) ⟨{}, depth, frames⟩ =
        (.ok r.collect.1, { runtime := r.collect.2, depth := depth, frames := frames }) := by
      rw [collectingUnits, Run.effect_bind, hrun]
      simp
    rw [← hcollect]
    exact congrArg Prod.fst heffect
  · refine .inr ⟨before, hook, after, e, hsplit, fails, congrArg Prod.fst hrun, ?_⟩
    have heffect : Run.effect (collectingUnits (hooks.map (·.run))) ⟨{}, depth, frames⟩ =
        (.ok (.error e), { runtime := r, depth := depth, frames := frames }) := by
      rw [collectingUnits, Run.effect_bind, hrun]
      simp
    exact congrArg Prod.fst heffect

/-- Hooks of three units. Two of them pass null or an address that is known, and go on. -/
def tolerantUnits : List UnitHook := [
  { addresses := [64, 0, 64, 128], tolerant := true },
  { addresses := [256] },
  { addresses := [128, 512, 256, 1024], tolerant := true }]

theorem units_register_first_occurrences_of_tolerant :
    (UnitHook.passedBy tolerantUnits).length ≤ maxModules ∧
    ∃ list, (collectingUnits (tolerantUnits.map (·.run)) ⟨{}, 0, 0⟩).outcome = .ok (.ok list) ∧
      list.addresses = [64, 128, 256, 512, 1024] := by
  have fits : (UnitHook.passedBy tolerantUnits).length ≤ maxModules := by decide
  refine ⟨fits, ?_⟩
  rcases units_register_first_occurrences.2 tolerantUnits 0 0 fits with
    ⟨list, -, hcollect, haddresses⟩ | ⟨before, hook, after, e, -, -, hrun, -⟩
  · exact ⟨list, hcollect, haddresses.trans (by decide)⟩
  · have hall : (RegistrationHook.runAll (tolerantUnits.map (·.run)) ⟨{}, 0, 0⟩).outcome =
        .ok (3, .ok ()) := rfl
    rw [hall] at hrun
    simp at hrun

end ManagedBoot
