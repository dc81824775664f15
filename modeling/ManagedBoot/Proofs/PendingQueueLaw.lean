import ManagedBoot.Proofs.RegistryLaw
/-!
The pending queue drains once.

Announcements and takings-over reach the queue one at a time, in any order and from anywhere. A
taking-over reads and closes the queue at one moment (`accessing`) and registers what it read
afterwards (`settling`); the second part depends on nothing but what was read, so it may come any
time later. What happens before the first taking-over only adds to the queue, and everything after
it finds the queue closed (`effect_serveAll_first`).
-/
namespace ManagedBoot

namespace PendingQueue

open Registry

/-! ## Access and registration -/

/-- Reads everything queued and closes the queue, once. -/
def accessing : Run PendingQueue (Except RegistryError (List UInt64)) := do
  let (result, q) := (← Run.get).drain
  Run.set q
  return result

/-- Registers what was read in a new registry. -/
def settling : Except RegistryError (List UInt64) →
    Run PendingQueue (Except RegistryError Registry)
  | .error e => return .error e
  | .ok addresses => do
    match ← Run.apart {} (registeringAll addresses) with
    | (.ok (), r) => return .ok r
    | (.error e, _) => return .error e

/-- What registering leads to, which does not depend on the queue. -/
def settled (taken : Except RegistryError (List UInt64)) : Except RegistryError Registry :=
  taken.bind (Registry.registerAll {})

theorem takingOver_eq : takingOver = accessing >>= settling := by
  rw [takingOver, accessing]
  simp only [bind_assoc, pure_bind]
  congr

@[simp] theorem effect_accessing (p : Process PendingQueue) :
    Run.effect accessing p = (.ok p.runtime.drain.1, { p with runtime := p.runtime.drain.2 }) := by
  simp [accessing, Except.map]

@[simp] theorem effect_settling (taken : Except RegistryError (List UInt64))
    (p : Process PendingQueue) : Run.effect (settling taken) p = (.ok (settled taken), p) := by
  cases taken with
  | error e => rfl
  | ok addresses =>
    obtain ⟨r, hrun, hr⟩ := effect_registeringAll addresses ⟨{}, p.depth, p.frames⟩
    rw [settling, settled, Except.bind]
    rcases hall : Registry.registerAll {} addresses with e | r' <;> simp only [hall] at hrun hr
    · simp [hrun, Except.map]
    · simp [hrun, hr r' rfl, Except.map]

/-- What taking `addresses` over leads to. -/
inductive TakesOver (addresses : List UInt64) : Except RegistryError Registry → Prop where
  /-- All addresses stand in the registry, and in the list that it will hand out. -/
  | accepted (r : Registry) (acceptable : Acceptable addresses)
    (holds : r.modules.map (·.address) = addresses) (isOpen : r.collected = false)
    (lists : ∀ list, r.collect.1 = .ok list → list.addresses = addresses) :
    TakesOver addresses (.ok r)
  /-- The first address that offends decides the error. -/
  | refused (before rest : List UInt64) (address : UInt64) (e : RegistryError)
    (split : addresses = before ++ address :: rest) (acceptable : Acceptable before)
    (offends : Offends before address e) : TakesOver addresses (.error e)

theorem takesOver_registerAll (addresses : List UInt64) :
    TakesOver addresses (Registry.registerAll {} addresses) := by
  rcases Agrees.fresh.registerAll addresses rfl with
    ⟨r, hrun, hr, nonnull⟩ | ⟨before, address, rest, e, split, nonnull, nodup, offends, hrun⟩
  · have holds : r.modules.map (·.address) = addresses := by simpa using hr.held
    rw [hrun]
    refine .accepted r ⟨nonnull, hr.distinct⟩ holds hr.collected ?_
    intro list hlist
    have hopen : r.collected = false := hr.collected
    simp only [Registry.collect, hopen, Bool.false_eq_true, if_false] at hlist
    rw [ModuleList.addresses, ModuleList.keep_ok hlist]
    exact holds
  · rw [hrun]
    exact .refused before rest address e split ⟨nonnull, nodup⟩ offends

/-! ## Requests -/

/-- A call that reaches the queue. -/
inductive Request where
  | announce (address : UInt64)
  | takeOver
  deriving DecidableEq, Repr

inductive Reply where
  | announced
  | tookOver (result : Except RegistryError Registry)

def serve : Request → Run PendingQueue Reply
  | .announce address => do
    announcing address
    return .announced
  | .takeOver => return .tookOver (← takingOver)

/-- Serves requests in the order in which they reach the queue. Yields each with its reply. -/
def serveAll : List Request → Run PendingQueue (List (Request × Reply))
  | [] => return []
  | request :: rest => do
    let reply ← serve request
    return (request, reply) :: (← serveAll rest)

/-- The addresses announced, in order. -/
def announced (requests : List Request) : List UInt64 :=
  requests.filterMap fun | .announce address => some address | .takeOver => none

/-- The addresses in the registries that were handed out. -/
def delivered (history : List (Request × Reply)) : List UInt64 :=
  history.flatMap fun
    | (_, .tookOver (.ok r)) => r.modules.map (·.address)
    | _ => []

/-- The reply of a closed queue. -/
def Request.refusal : Request → Reply
  | .announce _ => .announced
  | .takeOver => .tookOver (.error .alreadyCollected)

@[simp] theorem effect_announcing (address : UInt64) (p : Process PendingQueue) :
    Run.effect (announcing address) p = (.ok (), { p with runtime := p.runtime.push address }) := by
  cases h : p.runtime.drained <;> simp [announcing, h]

@[simp] theorem effect_taking (p : Process PendingQueue) :
    Run.effect takingOver p =
      (.ok (settled p.runtime.drain.1), { p with runtime := p.runtime.drain.2 }) := by
  simp [takingOver_eq]

theorem serveAll_append : ∀ requests requests' : List Request,
    serveAll (requests ++ requests') = do
      let history ← serveAll requests
      let history' ← serveAll requests'
      return history ++ history'
  | [], requests' => by simp [serveAll]
  | request :: rest, requests' => by
    rw [List.cons_append, serveAll, serveAll, serveAll_append rest requests']
    simp

/-- Before anybody takes it over, a queue keeps all that is announced. -/
theorem effect_serveAll_open : ∀ (requests : List Request) {q : PendingQueue} (depth frames : Nat),
    .takeOver ∉ requests → q.drained = false →
    Run.effect (serveAll requests) ⟨q, depth, frames⟩ =
      (.ok (requests.map (·, .announced)),
        ⟨{ q with addresses := q.addresses ++ announced requests }, depth, frames⟩)
  | [], q, _, _, _, _ => by simp [serveAll, announced]
  | .takeOver :: rest, _, _, _, early, _ => absurd List.mem_cons_self early
  | .announce address :: rest, q, depth, frames, early, hopen => by
    have hrest := effect_serveAll_open rest (q := q.push address) depth frames
      (fun h => early (List.mem_cons_of_mem _ h)) (by simp [push, hopen])
    rw [serveAll, Run.effect_bind]
    simp [serve, hrest, Except.map]
    simp [push, hopen, announced]

/-- A closed queue stays as it is. -/
theorem effect_serveAll_closed : ∀ (requests : List Request) {q : PendingQueue}
    (depth frames : Nat), q.drained = true →
    Run.effect (serveAll requests) ⟨q, depth, frames⟩ =
      (.ok (requests.map fun r => (r, r.refusal)), ⟨q, depth, frames⟩)
  | [], _, _, _, _ => by simp [serveAll]
  | request :: rest, q, depth, frames, hclosed => by
    have hrest := effect_serveAll_closed rest depth frames hclosed
    rw [serveAll, Run.effect_bind]
    cases request <;>
      simp [serve, push, drain, settled, hclosed, hrest, Except.map, Except.bind, Request.refusal]

theorem effect_serveAll : ∀ (requests : List Request) (p : Process PendingQueue),
    ∃ history q, Run.effect (serveAll requests) p = (.ok history, { p with runtime := q }) ∧
      history.map Prod.fst = requests
  | [], p => ⟨[], p.runtime, rfl, rfl⟩
  | request :: rest, p => by
    obtain ⟨reply, q, hserve⟩ : ∃ reply q,
        Run.effect (serve request) p = (.ok reply, { p with runtime := q }) := by
      cases request <;> exact ⟨_, _, by simp [serve, Except.map]; exact ⟨rfl, rfl⟩⟩
    obtain ⟨history, q', hrest, hrequests⟩ := effect_serveAll rest { p with runtime := q }
    refine ⟨(request, reply) :: history, q', ?_, congrArg (request :: ·) hrequests⟩
    rw [serveAll, Run.effect_bind, hserve]
    simp [hrest, Except.map]

/-- The first taking-over gets what was announced before it and closes the queue. -/
theorem effect_serveAll_first {before : List Request} (early : .takeOver ∉ before)
    (after : List Request) (depth frames : Nat) :
    Run.effect (serveAll (before ++ .takeOver :: after)) ⟨{}, depth, frames⟩ =
      (.ok (before.map (·, .announced) ++
          (.takeOver, .tookOver (Registry.registerAll {} (announced before))) ::
            after.map fun r => (r, r.refusal)),
        ⟨{ drained := true }, depth, frames⟩) := by
  have hbefore := effect_serveAll_open before (q := {}) depth frames early rfl
  have hafter := effect_serveAll_closed after (q := { drained := true }) depth frames rfl
  rw [serveAll_append, Run.effect_bind, hbefore, serveAll]
  simp [serve, drain, settled, hafter, Except.map, Except.bind]

/-! ## The law -/

/-- Takes the queue over, and registers what it got after other requests have been served. -/
def settlingAfter (others : List Request) :
    Run PendingQueue (Except RegistryError Registry × List (Request × Reply)) := do
  let taken ← accessing
  let history ← serveAll others
  let result ← settling taken
  return (result, history)

/-- Takes the queue over in one go, and serves the other requests afterwards. -/
def settlingBefore (others : List Request) :
    Run PendingQueue (Except RegistryError Registry × List (Request × Reply)) := do
  let result ← takingOver
  let history ← serveAll others
  return (result, history)

/-- How a queue, new before the requests, served them and was left as `q`. -/
structure DrainsOnce (requests : List Request) (history : List (Request × Reply))
    (q : PendingQueue) : Prop where
  /-- Until it is taken over, the queue holds what was announced. -/
  waiting : .takeOver ∉ requests → q = { addresses := announced requests }
  /-- The first taking-over gets exactly what was announced before it. Any other is refused, and
  what is announced later is dropped. -/
  first : ∀ before after, requests = before ++ .takeOver :: after → .takeOver ∉ before →
    ∃ early result late, history = early ++ (.takeOver, .tookOver result) :: late ∧
      early.map Prod.fst = before ∧ late.map Prod.fst = after ∧
      TakesOver (announced before) result ∧
      (∀ result', (.takeOver, .tookOver result') ∈ late → result' = .error .alreadyCollected) ∧
      (∀ r, result = .ok r → delivered history = announced before) ∧
      (∀ e, result = .error e → delivered history = []) ∧
      q = { drained := true }
  /-- No address is handed out twice. -/
  once : (delivered history).Nodup
  /-- Registering what was taken over may come after any other requests. -/
  apart : ∀ (others : List Request) (p : Process PendingQueue),
    Run.effect (settlingAfter others) p = Run.effect (settlingBefore others) p

theorem delivered_announced (requests : List Request) :
    delivered (requests.map (·, .announced)) = [] := by
  simp [delivered, List.flatMap_map]

/-- Only the first taking-over hands anything out. -/
theorem delivered_first (before after : List Request) (result : Except RegistryError Registry) :
    delivered (before.map (·, .announced) ++
      (.takeOver, .tookOver result) :: after.map fun r => (r, r.refusal)) =
      match result with
      | .ok r => r.modules.map (·.address)
      | .error _ => [] := by
  have early := delivered_announced before
  have late : delivered (after.map fun r => (r, r.refusal)) = [] := by
    rw [delivered, List.flatMap_map, List.flatMap_eq_nil_iff]
    rintro (address | _) - <;> rfl
  rw [delivered, List.flatMap_append, List.flatMap_cons]
  simp only [delivered] at early late
  rw [early, late]
  cases result <;> simp

/-- What was read may be registered later. -/
theorem effect_settling_late (others : List Request) (p : Process PendingQueue) :
    Run.effect (settlingAfter others) p = Run.effect (settlingBefore others) p := by
  rw [settlingAfter, settlingBefore, Run.effect_bind, Run.effect_bind, effect_accessing,
    effect_taking]
  dsimp only
  rw [Run.effect_bind, Run.effect_bind]
  rcases Run.effect (serveAll others) { p with runtime := p.runtime.drain.2 } with ⟨u | history, q⟩
  · rfl
  · simp [Except.map]

/-- A queue drains once, whatever calls reach it in whatever order. -/
theorem serves_once (requests : List Request) (depth frames : Nat) :
    ∃ history q,
      Run.effect (serveAll requests) ⟨{}, depth, frames⟩ = (.ok history, ⟨q, depth, frames⟩) ∧
      history.map Prod.fst = requests ∧ DrainsOnce requests history q := by
  obtain ⟨history, q, hrun, hrequests⟩ := effect_serveAll requests ⟨{}, depth, frames⟩
  have waiting : .takeOver ∉ requests →
      history = requests.map (·, .announced) ∧ q = { addresses := announced requests } := by
    intro early
    have hopen := effect_serveAll_open requests (q := {}) depth frames early rfl
    rw [hrun] at hopen
    simpa using hopen
  have first : ∀ before after, requests = before ++ .takeOver :: after → .takeOver ∉ before →
      history = before.map (·, .announced) ++
          (.takeOver, .tookOver (Registry.registerAll {} (announced before))) ::
            after.map (fun r => (r, r.refusal)) ∧
        q = { drained := true } := by
    rintro before after rfl early
    have hfirst := effect_serveAll_first early after depth frames
    rw [hrun] at hfirst
    simpa using hfirst
  refine ⟨history, q, hrun, hrequests, ?_⟩
  exact {
    waiting := fun early => (waiting early).2
    first := by
      intro before after split early
      obtain ⟨hhistory, hq⟩ := first before after split early
      have takes := takesOver_registerAll (announced before)
      generalize Registry.registerAll {} (announced before) = result at hhistory takes
      have hdelivered := delivered_first before after result
      rw [← hhistory] at hdelivered
      refine ⟨_, result, _, hhistory, by simp [Function.comp_def], by simp [Function.comp_def],
        takes, ?_, ?_, ?_, hq⟩
      · intro result' hlate
        obtain ⟨request, -, heq⟩ := List.mem_map.mp hlate
        cases heq
        rfl
      · rintro r rfl
        cases takes with
        | accepted _ _ holds => exact hdelivered.trans holds
      · rintro e rfl
        exact hdelivered
    once := by
      -- Only what the first taking-over accepts is handed out, and that has no repeats.
      by_cases taken : .takeOver ∈ requests
      · obtain ⟨before, after, split, early⟩ := List.eq_append_cons_of_mem taken
        have takes := takesOver_registerAll (announced before)
        rw [(first before after split early).1, delivered_first]
        generalize Registry.registerAll {} (announced before) = result at takes
        cases takes with
        | accepted r acceptable holds =>
          rw [← holds] at acceptable
          exact acceptable.2
        | refused => exact List.nodup_nil
      · rw [(waiting taken).1, delivered_announced]
        exact List.nodup_nil
    apart := effect_settling_late
  }

end PendingQueue
end ManagedBoot
