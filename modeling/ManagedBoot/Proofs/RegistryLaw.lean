import ManagedBoot.Module.Source
import ManagedBoot.Proofs.ModuleListing
import ManagedBoot.Proofs.RunLaws
/-!
The law of a registry.

A ledger is what an observer can tell of a registry from the requests and their replies alone: the
addresses accepted since it was new and whether it was collected. The registry agrees with its
ledger after every request (`effect_serve`), so after any requests at all (`effect_serveAll`), and
the ledger decides the next reply (`served_lawfully`). Registering addresses in order and stopping at
the first that is refused comes down to finding the first that offends (`Agrees.registerAll`).
-/
namespace ManagedBoot
namespace Registry

/-- A call on a registry, or its replacement by a new one. -/
inductive Request where
  | register (address : UInt64)
  | registerDescriptor (d : Descriptor)
  | collect
  | replace
  deriving DecidableEq, Repr

inductive Reply where
  | registered (result : Except RegistryError Unit)
  | collected (result : Except RegistryError ModuleList)
  | replaced

def serve : Request → Run Registry Reply
  | .register address => return .registered (← registering address)
  | .registerDescriptor d => return .registered (← registeringDescriptor d)
  | .collect => return .collected (← collecting)
  | .replace => do
    Run.set {}
    return .replaced

/-- Serves requests in order. Yields each with its reply. -/
def serveAll : List Request → Run Registry (List (Request × Reply))
  | [] => return []
  | request :: rest => do
    let reply ← serve request
    return (request, reply) :: (← serveAll rest)

/-- What requests and replies tell of a registry. -/
structure Ledger where
  /-- The addresses whose registration succeeded, in order. -/
  accepted : List UInt64 := []
  collected : Bool := false

namespace Ledger

/-- The ledger after a registration of `address` with the given result. -/
def noteRegistration (l : Ledger) (address : UInt64) : Except RegistryError Unit → Ledger
  | .ok () => { l with accepted := l.accepted ++ [address] }
  | .error _ => l

/-- The ledger after one more request. -/
def note (l : Ledger) : Request × Reply → Ledger
  | (.register address, .registered result) => l.noteRegistration address result
  | (.registerDescriptor d, .registered result) => l.noteRegistration d.address result
  | (.collect, _) => { l with collected := true }
  | (.replace, _) => {}
  | _ => l

/-- The ledger of a registry that was new before the given requests. -/
def of (history : List (Request × Reply)) : Ledger := history.foldl note {}

/-- What registering an address must lead to. -/
def verdict (l : Ledger) (address : UInt64) : Except RegistryError Unit :=
  if address = 0 then .error .nullModule
  else if l.collected then .error .alreadyCollected
  else if address ∈ l.accepted then .error (.duplicateModule address)
  else .ok ()

end Ledger

/-- A registry is in the state that its ledger tells. -/
structure Agrees (r : Registry) (l : Ledger) : Prop where
  seen : ∀ d, d ∈ r.seen ↔ d ∈ r.modules
  collected : r.collected = l.collected
  distinct : l.accepted.Nodup
  held : r.modules.map (·.address) = if l.collected then [] else l.accepted

/-- Registering `address` led to what the ledger decides. -/
def Obeys (l : Ledger) (address : UInt64) (result : Except RegistryError Registry) : Prop :=
  l.verdict address = result.map (fun _ => ()) ∧
    ∀ r, result = .ok r → r.Agrees (l.noteRegistration address (.ok ()))

/-! ## One request -/

section
variable {r : Registry} {l : Ledger} {p : Process Registry}

theorem Agrees.fresh : Agrees {} {} := ⟨fun _ => Iff.rfl, rfl, List.nodup_nil, rfl⟩

theorem Agrees.nodup (h : r.Agrees l) : r.modules.Nodup := by
  have distinct : (r.modules.map (·.address)).Nodup := by
    rw [h.held]
    split
    · exact List.nodup_nil
    · exact h.distinct
  exact .of_map _ distinct

theorem Agrees.emptied (h : r.Agrees l) (hclosed : r.collected = true) :
    r.modules = [] ∧ r.seen = [] := by
  have held := h.held
  rw [if_pos (h.collected.symm.trans hclosed), List.map_eq_nil_iff] at held
  refine ⟨held, List.eq_nil_iff_forall_not_mem.mpr ?_⟩
  intro d hd
  rw [h.seen, held] at hd
  cases hd

theorem Agrees.mem_seen_iff (h : r.Agrees l) (hopen : l.collected = false) (d : Descriptor) :
    d ∈ r.seen ↔ d.address ∈ l.accepted := by
  have held := h.held
  rw [if_neg (by simp [hopen])] at held
  rw [h.seen, ← held, List.mem_map_of_injective Descriptor.address_injective]

theorem Agrees.registerDescriptor (h : r.Agrees l) (d : Descriptor) :
    Obeys l d.address (r.registerDescriptor d) := by
  have hcollected := h.collected
  simp only [Obeys, Ledger.verdict, if_neg d.nonnull, Registry.registerDescriptor, hcollected]
  cases hl : l.collected with
  | true =>
    -- Closed: refused before the set is looked at.
    exact ⟨rfl, by rintro _ ⟨⟩⟩
  | false =>
    have hseen := h.mem_seen_iff hl d
    have held := h.held
    simp only [hl, Bool.false_eq_true, if_false, hseen] at held ⊢
    by_cases old : d.address ∈ l.accepted
    · simp only [if_pos old]
      exact ⟨rfl, by rintro _ ⟨⟩⟩
    · simp only [if_neg old]
      refine ⟨rfl, ?_⟩
      rintro _ ⟨⟩
      exact {
        seen := by intro e; simp [h.seen, or_comm]
        collected := hl.symm
        distinct := by
          rw [Ledger.noteRegistration, ← List.concat_eq_append]
          exact h.distinct.concat old
        held := by simp [Ledger.noteRegistration, held, hl]
      }

theorem Agrees.register (h : r.Agrees l) (address : UInt64) :
    Obeys l address (r.register address) := by
  by_cases null : address = 0
  · subst null
    rw [Registry.register, Descriptor.ofAddress?_zero]
    exact ⟨rfl, by rintro _ ⟨⟩⟩
  · rw [Registry.register, Descriptor.ofAddress?_of_ne_zero null]
    exact h.registerDescriptor ⟨address, null⟩

/-- An open registry with few enough modules hands all of them out. -/
theorem Agrees.collect (h : r.Agrees l) (hopen : l.collected = false)
    (fits : l.accepted.length ≤ maxModules) : r.collect.1 = .ok ⟨r.modules⟩ := by
  have held := h.held
  rw [if_neg (by simp [hopen])] at held
  have hlength : r.modules.length = l.accepted.length := by rw [← held, List.length_map]
  rw [Registry.collect, if_neg (by simp [h.collected, hopen])]
  exact ModuleList.bounded_of_nodup h.nodup (by omega)

/-- Collecting leaves a registry closed and empty. -/
theorem Agrees.collected_after (h : r.Agrees l) :
    r.collect.2.Agrees { l with collected := true } := by
  have hcollected := h.collected
  have held := h.held
  rw [Registry.collect]
  split
  case isTrue hc =>
    rw [← hcollected, if_pos hc] at held
    exact ⟨h.seen, hc, h.distinct, held⟩
  case isFalse => exact ⟨fun _ => Iff.rfl, rfl, h.distinct, rfl⟩

/-- A registration that obeys the ledger yields its verdict, and changes nothing if refused. -/
theorem Agrees.applying {f : Registry → Except RegistryError Registry} {address : UInt64}
    (h : p.runtime.Agrees l) (hf : Obeys l address (f p.runtime)) :
    ∃ r, Run.effect (applying f address) p = (.ok (l.verdict address), { p with runtime := r }) ∧
      (∀ e, l.verdict address = .error e → r = p.runtime) ∧
      r.Agrees (l.noteRegistration address (l.verdict address)) := by
  obtain ⟨hverdict, hagrees⟩ := hf
  rw [hverdict, Registry.applying, Run.effect_bind, Run.effect_get]
  cases hres : f p.runtime with
  | error e =>
    refine ⟨p.runtime, ?_, fun _ _ => rfl, h⟩
    simp [hres, Except.map]
  | ok r =>
    refine ⟨r, ?_, ?_, hagrees r hres⟩
    · simp [hres, Except.map]
    · rintro e ⟨⟩

@[simp] theorem effect_collecting :
    Run.effect collecting p =
      (.ok p.runtime.collect.1, { p with runtime := p.runtime.collect.2 }) := by
  rw [collecting, Run.effect_bind, Run.effect_get]
  rcases h : p.runtime.collect with ⟨e | list, r⟩ <;> simp [h, Except.map]

/-- How a registry in the state `r`, with a ledger, serves a request that leaves it as `r'`. -/
structure Answers (l : Ledger) (r : Registry) (request : Request) (reply : Reply) (r' : Registry) :
    Prop where
  registers : ∀ address, request = .register address → reply = .registered (l.verdict address)
  registersDescriptor : ∀ d, request = .registerDescriptor d →
    reply = .registered (l.verdict d.address)
  /-- A registration that fails changes nothing, neither now nor for any later request. -/
  refused : ∀ e, reply = .registered (.error e) → r' = r
  /-- The first collection yields what was accepted, each address once. -/
  first : request = .collect → l.collected = false → l.accepted.length ≤ maxModules →
    l.accepted.Nodup ∧ ∃ list, reply = .collected (.ok list) ∧ list.addresses = l.accepted
  later : request = .collect → l.collected = true → reply = .collected (.error .alreadyCollected)
  replaced : request = .replace → r' = {}

/-- A registry that agrees with its ledger serves a request by it and agrees with it again. -/
theorem effect_serve (h : p.runtime.Agrees l) (request : Request) :
    ∃ reply r, Run.effect (serve request) p = (.ok reply, { p with runtime := r }) ∧
      Answers l p.runtime request reply r ∧ r.Agrees (l.note (request, reply)) := by
  cases request with
  | register address =>
    obtain ⟨r, hrun, refused, hr⟩ := h.applying (f := (·.register address)) (h.register address)
    refine ⟨.registered (l.verdict address), r, ?_, ?_, hr⟩
    · simp [serve, registering, hrun, Except.map]
    · exact ⟨by simp, by simp, by simpa using refused, by simp, by simp, by simp⟩
  | registerDescriptor d =>
    obtain ⟨r, hrun, refused, hr⟩ :=
      h.applying (f := (·.registerDescriptor d)) (h.registerDescriptor d)
    refine ⟨.registered (l.verdict d.address), r, ?_, ?_, hr⟩
    · simp [serve, registeringDescriptor, hrun, Except.map]
    · exact ⟨by simp, by simp, by simpa using refused, by simp, by simp, by simp⟩
  | collect =>
    refine ⟨.collected p.runtime.collect.1, p.runtime.collect.2, ?_, ?_, h.collected_after⟩
    · simp [serve, Except.map]
    · refine ⟨by simp, by simp, by simp, ?_, ?_, by simp⟩
      · intro _ hopen fits
        refine ⟨h.distinct, _, congrArg _ (h.collect hopen fits), ?_⟩
        rw [ModuleList.addresses, h.held, if_neg (by simp [hopen])]
      · intro _ hclosed
        rw [Registry.collect, if_pos (h.collected.trans hclosed)]
  | replace =>
    refine ⟨.replaced, {}, ?_, ?_, .fresh⟩
    · simp [serve, Except.map]
    · exact ⟨by simp, by simp, by simp, by simp, by simp, fun _ => rfl⟩

/-! ## Any number of requests -/

/-- Requests served in order leave a registry that agrees with its ledger. -/
theorem effect_serveAll : ∀ (requests : List Request) {l : Ledger} {p : Process Registry},
    p.runtime.Agrees l →
    ∃ history r, Run.effect (serveAll requests) p = (.ok history, { p with runtime := r }) ∧
      history.map Prod.fst = requests ∧ r.Agrees (history.foldl Ledger.note l)
  | [], l, p, h => ⟨[], p.runtime, rfl, rfl, h⟩
  | request :: rest, l, p, h => by
    obtain ⟨reply, r, hserve, -, hr⟩ := effect_serve h request
    obtain ⟨history, r', hrest, hmap, hr'⟩ := effect_serveAll rest (p := { p with runtime := r }) hr
    refine ⟨(request, reply) :: history, r', ?_, ?_, hr'⟩
    · rw [serveAll, Run.effect_bind, hserve]
      simp [hrest, Except.map]
    · rw [List.map_cons, hmap]

/-- Whatever a new registry was asked before, its ledger tells its state and its next reply. -/
theorem served_lawfully (requests : List Request) (next : Request) (depth frames : Nat) :
    ∃ history r reply r',
      Run.effect (serveAll requests) ⟨{}, depth, frames⟩ = (.ok history, ⟨r, depth, frames⟩) ∧
      history.map Prod.fst = requests ∧
      r.Agrees (Ledger.of history) ∧ r.modules.Nodup ∧
      (r.collected = true → r.modules = [] ∧ r.seen = []) ∧
      Run.effect (serve next) ⟨r, depth, frames⟩ = (.ok reply, ⟨r', depth, frames⟩) ∧
      Answers (Ledger.of history) r next reply r' := by
  obtain ⟨history, r, hrun, hmap, hr⟩ :=
    effect_serveAll requests (p := ⟨{}, depth, frames⟩) Agrees.fresh
  obtain ⟨reply, r', hserve, hanswers, -⟩ := effect_serve (p := ⟨r, depth, frames⟩) hr next
  exact ⟨history, r, reply, r', hrun, hmap, hr, hr.nodup, hr.emptied, hserve, hanswers⟩

end

/-! ## Registering addresses in order -/

/-- Addresses that a new registry accepts. -/
def Acceptable (addresses : List UInt64) : Prop := (∀ a ∈ addresses, a ≠ 0) ∧ addresses.Nodup

/-- After the addresses `accepted`, one more is refused with the error. -/
def Offends (accepted : List UInt64) (address : UInt64) (e : RegistryError) : Prop :=
  (address = 0 ∧ e = .nullModule) ∨
    (address ≠ 0 ∧ address ∈ accepted ∧ e = .duplicateModule address)

theorem Ledger.verdict_of_open {l : Ledger} (hopen : l.collected = false) (address : UInt64) :
    (l.verdict address = .ok () ∧ address ≠ 0) ∨
      ∃ e, l.verdict address = .error e ∧ Offends l.accepted address e := by
  by_cases null : address = 0
  · exact .inr ⟨_, by simp [verdict, null], .inl ⟨null, rfl⟩⟩
  · by_cases old : address ∈ l.accepted
    · exact .inr ⟨_, by simp [verdict, null, hopen, old], .inr ⟨null, old, rfl⟩⟩
    · exact .inl ⟨by simp [verdict, null, hopen, old], null⟩

/-- An open registry accepts all addresses, or all before the first that offends. -/
theorem Agrees.registerAll : ∀ (addresses : List UInt64) {r : Registry} {l : Ledger},
    r.Agrees l → l.collected = false →
    (∃ r', r.registerAll addresses = .ok r' ∧
      r'.Agrees { l with accepted := l.accepted ++ addresses } ∧ ∀ a ∈ addresses, a ≠ 0) ∨
    ∃ before address rest e, addresses = before ++ address :: rest ∧
      (∀ a ∈ before, a ≠ 0) ∧ (l.accepted ++ before).Nodup ∧
      Offends (l.accepted ++ before) address e ∧ r.registerAll addresses = .error e
  | [], r, l, h, _ => .inl ⟨r, rfl, by simpa using h, by simp⟩
  | address :: rest, r, l, h, hopen => by
    obtain ⟨hverdict, hagrees⟩ := h.register address
    rcases Ledger.verdict_of_open hopen address with ⟨hok, nonnull⟩ | ⟨e, herror, offends⟩
    · rw [hok] at hverdict
      rcases hr : r.register address with e | r'
      · simp [hr, Except.map] at hverdict
      have hall : r.registerAll (address :: rest) = r'.registerAll rest := by
        rw [Registry.registerAll, hr]
        rfl
      rw [hall]
      rcases registerAll rest (hagrees r' hr) hopen with
        ⟨r'', hrun, hr'', hrest⟩ | ⟨before, a, rest', e, rfl, hbefore, nodup, offends, hrun⟩
      · refine .inl ⟨r'', hrun, ?_, List.forall_mem_cons.mpr ⟨nonnull, hrest⟩⟩
        simpa [Ledger.noteRegistration] using hr''
      · refine .inr ⟨address :: before, a, rest', e, rfl,
          List.forall_mem_cons.mpr ⟨nonnull, hbefore⟩, ?_, ?_, hrun⟩
        · simpa [Ledger.noteRegistration] using nodup
        · simpa [Ledger.noteRegistration] using offends
    · rw [herror] at hverdict
      rcases hr : r.register address with e' | r'
      · rw [hr] at hverdict
        cases hverdict
        refine .inr ⟨[], address, rest, e, rfl, by simp, by simpa using h.distinct,
          by simpa using offends, ?_⟩
        rw [Registry.registerAll, hr]
        rfl
      · simp [hr, Except.map] at hverdict

theorem effect_registeringAll : ∀ (addresses : List UInt64) (p : Process Registry),
    ∃ r, Run.effect (registeringAll addresses) p =
        (.ok ((p.runtime.registerAll addresses).map fun _ => ()), { p with runtime := r }) ∧
      ∀ r', p.runtime.registerAll addresses = .ok r' → r = r'
  | [], p => ⟨p.runtime, rfl, by rintro _ ⟨⟩; rfl⟩
  | address :: rest, p => by
    rcases hr : p.runtime.register address with e | r
    · have hall : p.runtime.registerAll (address :: rest) = .error e := by
        rw [registerAll, hr]
        rfl
      rw [hall]
      exact ⟨p.runtime, by simp [registeringAll, registering, applying, hr, Except.map], nofun⟩
    · have hall : p.runtime.registerAll (address :: rest) = r.registerAll rest := by
        rw [registerAll, hr]
        rfl
      obtain ⟨r', hrun, hr'⟩ := effect_registeringAll rest { p with runtime := r }
      rw [hall]
      refine ⟨r', ?_, hr'⟩
      simp [registeringAll, registering, applying, hr, hrun]

end Registry
end ManagedBoot
