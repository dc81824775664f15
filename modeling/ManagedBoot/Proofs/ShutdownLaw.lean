import ManagedBoot.Proofs.GatedStart
/-!
When a start-up shuts down.

A start-up up to its modules (`starting`) ends with an error of its own, with a list that was
started, or with a fault that the boundary caught. An error ends the run before any managed code and
without a shutdown. After the other two the run enters the shutdown step if it returns at all, and
nothing comes after it (`runReportingTo_closing`). An ordinary panic leaves through the boundary and
past the shutdown step (`panic_skips_shutdown`).
-/
namespace ManagedBoot

variable {σ : Type} {α β : Type}

/-- Whether a milestone is a call that runs managed code. -/
def Milestone.isManaged : Milestone → Bool
  | .call (.initializeModules _) | .call (.invoke _) => true
  | _ => false

/-- A milestone of a run that has not shut down. -/
def Milestone.Open (m : Milestone) : Prop := m ≠ .step .shutdown

/-- A milestone of a run that has not reached managed code either. -/
def Milestone.Early (m : Milestone) : Prop := m.Open ∧ m.isManaged = false

/-- The last stage of a preparation. -/
def Initializer.layoutCheck (boot : Initializer σ) : Run (Session σ) (Except BootError Unit) := do
  match ← Session.call .imageLayout boot.platform.imageLayout with
  | none => return .ok ()
  | some image => return (← Layout.Contract.host.checking image).mapError .layout

/-- The start-up up to its modules: an error, or what the boundary around them yields. -/
def Initializer.starting (boot : Initializer σ) :
    Run (Session σ) (Except BootError (Except Fault ModuleList)) := do
  match ← boot.prepare with
  | .error e => return .error e
  | .ok () =>
    match ← Run.boundary boot.startModules with
    | .ok (.error e) => return .error e
    | .ok (.ok list) => return .ok (.ok list)
    | .error fault => return .ok (.error fault)

/-- What follows once the modules have been started or have raised a fault. -/
def Initializer.proceed (destination : Destination) (args : ArgVector) (entry : Entry σ) :
    Except Fault ModuleList → Run (Session σ) Int32
  | .error fault => Session.reportFault destination fault
  | .ok list => do
    Run.log .info Session.target s!"Runtime initialized with {list.size} module(s)"
    Initializer.runEntry destination args entry

/-- Code and the shutdown step after it, if it returns. -/
def Session.closing (x : Run (Session σ) Int32) : Run (Session σ) Int32 := do
  let code ← x
  shutdown
  return code

/-- The record of entering the shutdown step. -/
def shutdownRecord : LogRecord := ⟨.debug, Session.target, "Bootstrap step: shutdown"⟩

/-! ## What unwinds -/

/-- Code that nothing unwinds but what satisfies `P`. -/
def Unwinds (P : Unwind → Prop) (x : Run σ α) : Prop :=
  ∀ p u, (x p).outcome = .error u → P u

section
variable {P : Unwind → Prop}

theorem Unwinds.bind {x : Run σ α} {f : α → Run σ β} (hx : Unwinds P x)
    (hf : ∀ a, Unwinds P (f a)) : Unwinds P (x >>= f) := by
  intro p u h
  rcases hp : x p with ⟨u' | a, q, out⟩
  · rw [Run.bind_of_error hp] at h
    cases h
    exact hx p u (congrArg Ending.outcome hp)
  · rw [Run.bind_of_ok hp] at h
    exact hf a q u h

theorem Unwinds.of_quiet {x : Run (Session σ) α} {a : α} (hx : Session.Quiet x a) :
    Unwinds P x := by
  intro s u h
  obtain ⟨t, ht, -, -⟩ := hx s
  have hok : (x s).outcome = .ok a := congrArg Prod.fst ht
  rw [hok] at h
  cases h

/-- Only a panic of its body unwinds a boundary. -/
theorem Run.outcome_of_boundary_unwound {x : Run σ α} {p : Process σ} {u : Unwind}
    (h : (Run.boundary x p).outcome = .error u) :
    ∃ text, u = .panic text ∧ (x p.deeper).outcome = .error (.panic text) := by
  rw [Run.boundary_apply] at h
  rcases hp : x p.deeper with ⟨(fault | text) | a, q, out⟩ <;> rw [hp] at h <;> cases h
  exact ⟨text, rfl, rfl⟩

theorem Unwinds.boundary {x : Run σ α}
    (hx : ∀ p text, (x p).outcome = .error (.panic text) → P (.panic text)) :
    Unwinds P (Run.boundary x) := by
  intro p u h
  obtain ⟨text, rfl, hpanic⟩ := Run.outcome_of_boundary_unwound h
  exact hx _ text hpanic

end

/-! ## The milestones that code adds -/

namespace Session

/-- Code that only adds milestones of one sort to those that the session in `s` has. -/
def Adds (P : Milestone → Prop) (x : Run (Session σ) α) (s : Process (Session σ)) : Prop :=
  ∃ added, (x s).process.runtime.milestones = s.runtime.milestones ++ added ∧ ∀ m ∈ added, P m

section
variable {P : Milestone → Prop} {s : Process (Session σ)}

theorem Adds.none {x : Run (Session σ) α}
    (h : (x s).process.runtime.milestones = s.runtime.milestones) : Adds P x s :=
  ⟨[], by rw [h, List.append_nil], by simp⟩

theorem Adds.one {x : Run (Session σ) α} {m : Milestone} (hm : P m)
    (h : (x s).process.runtime.milestones = s.runtime.milestones ++ [m]) : Adds P x s :=
  ⟨[m], h, by simpa using hm⟩

theorem Adds.pure (a : α) : Adds P (pure a : Run (Session σ) α) s := .none rfl

theorem Adds.bind {x : Run (Session σ) α} {f : α → Run (Session σ) β} (hx : Adds P x s)
    (hf : ∀ a t out, x s = ⟨.ok a, t, out⟩ → Adds P (f a) t) : Adds P (x >>= f) s := by
  obtain ⟨added, hadded, hall⟩ := hx
  rcases h : x s with ⟨u | a, t, out⟩ <;> rw [h] at hadded
  · refine ⟨added, ?_, hall⟩
    rw [Run.bind_of_error h]
    exact hadded
  · obtain ⟨more, hmore, hall'⟩ := hf a t out h
    refine ⟨added ++ more, ?_, ?_⟩
    · rw [Run.bind_of_ok h, ← List.append_assoc, ← hadded]
      exact hmore
    · intro m hm
      exact (List.mem_append.mp hm).elim (hall m) (hall' m)

theorem Adds.mono {Q : Milestone → Prop} {x : Run (Session σ) α} (hx : Adds P x s)
    (h : ∀ m, P m → Q m) : Adds Q x s := by
  obtain ⟨added, hadded, hall⟩ := hx
  exact ⟨added, hadded, fun m hm => h m (hall m hm)⟩

theorem Adds.enter {step : BootStep} (h : P (.step step)) (detail : String) :
    Adds P (enter step detail) s := .one h rfl

theorem Adds.call {c : Call} (h : P (.call c)) (body : Run σ α) : Adds P (call c body) s :=
  .one h rfl

theorem Adds.boundary {x : Run (Session σ) α} (hx : Adds P x s.deeper) :
    Adds P (Run.boundary x) s := by
  obtain ⟨added, hadded, hall⟩ := hx
  refine ⟨added, ?_, hall⟩
  rw [Run.boundary_apply]
  rcases h : x s.deeper with ⟨(fault | text) | a, t, out⟩ <;> rw [h] at hadded <;> exact hadded

theorem Adds.checking (host image : Layout.Contract) :
    Adds P (host.checking image : Run (Session σ) _) s := by
  unfold Layout.Contract.checking
  rcases h : host.ensureMatches image with (⟨f, x, y⟩ | n) | u <;> exact .none rfl

theorem Adds.reportFault (destination : Destination) (fault : Fault) :
    Adds P (reportFault destination fault : Run (Session σ) Int32) s := by
  cases destination with
  | stream stream => exact .none rfl
  | sink =>
    -- Only the sink of the session changes, whether the report fits or not.
    have hrun : ∃ a sink, Run.effect (Session.reportFault .sink fault : Run (Session σ) Int32) s =
        (a, { s with runtime := { s.runtime with sink := sink } }) := by
      rcases h : fault.report s.runtime.sink with ⟨e | u, sink⟩ <;>
        exact ⟨.ok faultExitCode, sink, by simp [Session.reportFault, h]; rfl⟩
    obtain ⟨a, sink, hrun⟩ := hrun
    exact .none (congrArg (fun e => e.2.runtime.milestones) hrun)

/-- A step with a call that is answered by a success flag. -/
theorem adds_flag {step : BootStep} {c : Call} (hstep : P (.step step))
    (hcall : P (.call c)) (detail : String) (body : Run σ Bool) (e : BootError)
    {rest : Run (Session σ) (Except BootError α)} (hrest : ∀ t, Adds P rest t) :
    Adds P (enter step detail >>= fun _ => call c body >>= fun success =>
      if !success then pure (.error e) else rest) s := by
  refine .bind (.enter hstep detail) fun _ _ _ _ => .bind (.call hcall body) ?_
  rintro (_ | _) t _ -
  · exact .pure _
  · exact hrest t

theorem adds_layoutCheck (boot : Initializer σ) : Adds Milestone.Early boot.layoutCheck s := by
  refine .bind (.call ⟨nofun, rfl⟩ _) ?_
  rintro (_ | image) t _ -
  · exact .pure _
  · exact .bind (.checking _ _) fun _ _ _ _ => .pure _

theorem closing_of_ok {x : Run (Session σ) Int32} {t : Process (Session σ)} {code : Int32}
    {out : List Output} (h : x s = ⟨.ok code, t, out⟩) :
    closing x s =
      ⟨.ok code,
        { t with runtime := { t.runtime with
          milestones := t.runtime.milestones ++ [.step .shutdown] } },
        out ++ [.log shutdownRecord]⟩ := Run.bind_of_ok h

end

end Session

namespace Initializer

open Session

variable {boot : Initializer σ} {s : Process (Session σ)}

/-! ## Up to the modules -/

theorem adds_prepare (boot : Initializer σ) (s : Process (Session σ)) :
    Adds Milestone.Early boot.prepare s := by
  unfold prepare
  refine adds_flag ⟨nofun, rfl⟩ ⟨nofun, rfl⟩ _ _ _ fun _ => ?_
  refine adds_flag ⟨nofun, rfl⟩ ⟨nofun, rfl⟩ _ _ _ fun _ => ?_
  refine adds_flag ⟨nofun, rfl⟩ ⟨nofun, rfl⟩ _ _ _ fun _ => ?_
  refine .bind (.call ⟨nofun, rfl⟩ _) ?_
  rintro (_ | image) t _ -
  · exact .bind (.none rfl) fun _ _ _ _ => adds_layoutCheck boot
  · exact adds_flag ⟨nofun, rfl⟩ ⟨nofun, rfl⟩ _ _ _ fun _ => adds_layoutCheck boot

theorem adds_startModules (boot : Initializer σ) (s : Process (Session σ)) :
    Adds Milestone.Open boot.startModules s := by
  unfold startModules
  refine .bind (.enter nofun _) fun _ _ _ _ => .bind (.call nofun _) ?_
  rintro (e | list) t _ -
  · exact .pure _
  · exact .bind (.call nofun _) fun _ _ _ _ => .pure _

/-- Modules are started before any managed code, or as their initializers end. -/
theorem adds_startModules_or (boot : Initializer σ) (s : Process (Session σ)) :
    Adds Milestone.Early boot.startModules s ∨
      ∃ list p, (boot.startModules s).outcome =
        (boot.platform.initializeModules list p).outcome.map fun _ => .ok list := by
  unfold startModules
  obtain ⟨t, out, ht⟩ : ∃ t out,
      enter .moduleInit s!" (strategy {boot.source.strategy.name})" s = ⟨.ok (), t, out⟩ :=
    ⟨_, _, rfl⟩
  rcases hc : call .collect boot.source.collect t with ⟨u | e | list, t', out'⟩
  case ok.ok =>
    -- From here on how the initializers end is how the start ends.
    refine .inr ⟨list, ⟨t'.runtime.runtime, t'.depth, t'.frames⟩, ?_⟩
    have hcall : (boot.platform.initializeModules list _).outcome =
        (call (.initializeModules list) (boot.platform.initializeModules list) t').outcome := rfl
    rw [hcall, Run.bind_of_ok ht, Run.bind_of_ok hc]
    dsimp only
    rcases hi : call (.initializeModules list) (boot.platform.initializeModules list) t' with
      ⟨u | _, t'', out''⟩
    · rw [Run.bind_of_error hi]
      rfl
    · rw [Run.bind_of_ok hi]
      rfl
  all_goals
    left
    refine .bind (.enter ⟨nofun, rfl⟩ _) fun _ t₁ out₁ h₁ => ?_
    cases ht.symm.trans h₁
    refine .bind (.call ⟨nofun, rfl⟩ _) fun _ t₂ out₂ h₂ => ?_
    cases hc.symm.trans h₂
  exact .pure _

/-- Up to its modules a start-up adds what starting the modules adds, and earlier milestones. -/
theorem adds_starting_of {P : Milestone → Prop} (early : ∀ m : Milestone, m.Early → P m)
    (hstart : ∀ t out, boot.prepare s = ⟨.ok (.ok ()), t, out⟩ →
      Adds P boot.startModules t.deeper) : Adds P boot.starting s := by
  unfold starting
  refine .bind ((adds_prepare boot s).mono early) ?_
  rintro (e | _) t out ht
  · exact .pure _
  · refine .bind (.boundary (hstart t out ht)) ?_
    rintro (fault | e | list) t' _ - <;> exact .pure _

theorem adds_starting (boot : Initializer σ) (s : Process (Session σ)) :
    Adds Milestone.Open boot.starting s :=
  adds_starting_of (fun _ h => h.1) fun t _ _ => adds_startModules boot t.deeper

/-- A start-up that ends with an error has reached no managed code. -/
theorem adds_starting_of_failed {e : BootError}
    (h : (boot.starting s).outcome = .ok (.error e)) : Adds Milestone.Early boot.starting s := by
  refine adds_starting_of (fun _ h => h) fun t out ht => ?_
  refine (adds_startModules_or boot t.deeper).resolve_right ?_
  rintro ⟨list, p, hmodules⟩
  -- An initializer ends in a list, a fault or a panic, none of which is an error of the start-up.
  unfold starting at h
  rw [Run.bind_of_ok ht] at h
  dsimp only at h
  have hb := Run.boundary_apply boot.startModules t
  rcases hm : boot.startModules t.deeper with ⟨(fault | text) | e' | list', t', out'⟩ <;>
    rw [hm] at hb hmodules
  · simp [Run.bind_of_ok hb, Run.pure_apply] at h
  · simp [Run.bind_of_error hb] at h
  · rcases hi : (boot.platform.initializeModules list p).outcome with u | _ <;>
      rw [hi] at hmodules <;> cases hmodules
  · simp [Run.bind_of_ok hb, Run.pure_apply] at h

/-- What unwinds a start-up comes before managed code, or is a panic out of an initializer. -/
theorem adds_starting_of_unwound {u : Unwind} (h : (boot.starting s).outcome = .error u) :
    Adds Milestone.Early boot.starting s ∨ ∃ text, u = .panic text ∧
      ∃ list p, (boot.platform.initializeModules list p).outcome = .error u := by
  by_cases early : ∀ t out, boot.prepare s = ⟨.ok (.ok ()), t, out⟩ →
      Adds Milestone.Early boot.startModules t.deeper
  · exact .inl (adds_starting_of (fun _ h => h) early)
  right
  simp only [Classical.not_forall] at early
  obtain ⟨t, out, ht, hlate⟩ := early
  obtain ⟨list, p, hmodules⟩ := (adds_startModules_or boot t.deeper).resolve_left hlate
  unfold starting at h
  rw [Run.bind_of_ok ht] at h
  dsimp only at h
  rcases hm : Run.boundary boot.startModules t with ⟨u' | (fault | e | list'), t', out'⟩
  · rw [Run.bind_of_error hm] at h
    cases h
    obtain ⟨text, rfl, hpanic⟩ := Run.outcome_of_boundary_unwound (congrArg Ending.outcome hm)
    rw [hpanic] at hmodules
    refine ⟨text, rfl, list, p, ?_⟩
    rcases hi : (boot.platform.initializeModules list p).outcome with u | _ <;>
      rw [hi] at hmodules <;> cases hmodules
    rfl
  all_goals simp [Run.bind_of_ok hm, Run.pure_apply] at h

/-! ## The whole run -/

theorem adds_runEntry (destination : Destination) (args : ArgVector) (entry : Entry σ)
    (s : Process (Session σ)) : Adds Milestone.Open (runEntry destination args entry) s := by
  unfold runEntry
  refine .bind (.enter nofun _) fun _ _ _ _ => .bind (.boundary (.call nofun _)) ?_
  rintro (fault | code) t _ -
  · exact .reportFault destination fault
  · exact .pure _

theorem adds_proceed (destination : Destination) (args : ArgVector) (entry : Entry σ)
    (started : Except Fault ModuleList) (s : Process (Session σ)) :
    Adds Milestone.Open (proceed destination args entry started) s := by
  cases started with
  | error fault => exact .reportFault destination fault
  | ok list => exact .bind (.none rfl) fun _ _ _ _ => adds_runEntry destination args entry _

/-- Only a panic out of the entry point unwinds its invocation. -/
theorem unwinds_runEntry (destination : Destination) (args : ArgVector) (entry : Entry σ) :
    Unwinds (fun u => ∃ text, u = .panic text ∧ ∃ p, (entry args p).outcome = .error u)
      (runEntry destination args entry) := by
  unfold runEntry
  refine .bind (.of_quiet (Quiet.enter _ _)) fun _ => .bind (.boundary ?_) ?_
  · exact fun p text h => ⟨text, rfl, _, h⟩
  · rintro (fault | code)
    · exact .of_quiet (Quiet.reportFault destination fault)
    · exact .of_quiet (Quiet.pure code)

theorem unwinds_proceed (destination : Destination) (args : ArgVector) (entry : Entry σ)
    (started : Except Fault ModuleList) :
    Unwinds (fun u => ∃ text, u = .panic text ∧ ∃ p, (entry args p).outcome = .error u)
      (proceed destination args entry started) := by
  cases started with
  | error fault => exact .of_quiet (Quiet.reportFault destination fault)
  | ok list =>
    exact .bind (.of_quiet (Quiet.log _ _ _)) fun _ => unwinds_runEntry destination args entry

theorem runReportingTo_eq (boot : Initializer σ) (destination : Destination) (args : ArgVector)
    (entry : Entry σ) :
    boot.runReportingTo destination args entry = (do
      match ← boot.starting with
      | .error e => fail e
      | .ok started => closing (proceed destination args entry started)) := by
  unfold runReportingTo starting closing proceed
  simp only [bind_assoc]
  congr
  funext r
  cases r with
  | error e => simp only [pure_bind]
  | ok _ =>
    simp only [bind_assoc]
    congr
    funext r
    rcases r with fault | e | list <;> simp only [pure_bind, bind_assoc]

/-- A run that went into the shutdown step once, with nothing after it. -/
def Closed (performed : List Milestone) (out : List Output) : Prop :=
  ∃ before shown, performed = before ++ [.step .shutdown] ∧ .step .shutdown ∉ before ∧
    out = shown ++ [.log shutdownRecord]

/-- Managed code of the start-up panics with the text: a module initializer or the entry point. -/
def Crash (boot : Initializer σ) (args : ArgVector) (entry : Entry σ) (text : String) : Prop :=
  (∃ list p, (boot.platform.initializeModules list p).outcome = .error (.panic text)) ∨
    ∃ p, (entry args p).outcome = .error (.panic text)

/-- How a start-up from `s` shuts down that adds the milestones `performed`. -/
structure Closing (boot : Initializer σ) (args : ArgVector) (entry : Entry σ)
    (s : Process (Session σ)) (e : Ending (Session σ) Int32) (performed : List Milestone) :
    Prop where
  /-- A run that fails before any managed code never shuts down. -/
  failed : ∀ cause, (boot.starting s).outcome = .ok (.error cause) →
    e.outcome = .ok (-1) ∧ (∀ m ∈ performed, m.isManaged = false) ∧ .step .shutdown ∉ performed
  /-- Any other run that returns shuts down. -/
  closed : (∀ cause, (boot.starting s).outcome ≠ .ok (.error cause)) →
    ∀ code, e.outcome = .ok code → Closed performed e.output
  /-- After managed code a run returns and shuts down, unless that code panics. -/
  managed : (∃ m ∈ performed, m.isManaged = true) →
    (∃ code, e.outcome = .ok code ∧ Closed performed e.output) ∨
      ∃ text, e.outcome = .error (.panic text) ∧ boot.Crash args entry text
  /-- What unwinds the whole run also unwinds past the shutdown step. -/
  unwound : ∀ u, e.outcome = .error u → .step .shutdown ∉ performed

section
variable {args : ArgVector} {entry : Entry σ} {t : Process (Session σ)} {out : List Output}

theorem Closing.of_unwound {u : Unwind} (h : boot.starting s = ⟨.error u, t, out⟩) :
    ∃ performed, t.runtime.milestones = s.runtime.milestones ++ performed ∧
      boot.Closing args entry s ⟨.error u, t, out⟩ performed := by
  obtain ⟨added, hadded, hopen⟩ := adds_starting boot s
  have hout : (boot.starting s).outcome = .error u := congrArg Ending.outcome h
  have managed : (∃ m ∈ added, m.isManaged = true) →
      ∃ text, u = .panic text ∧ boot.Crash args entry text := by
    rintro ⟨m, hm, hmanaged⟩
    rcases adds_starting_of_unwound hout with ⟨early, hsame, hearly⟩ | ⟨text, rfl, hcrash⟩
    · rw [hadded, List.append_cancel_left_eq] at hsame
      rw [hsame] at hm
      exact absurd hmanaged (by simp [(hearly m hm).2])
    · exact ⟨text, rfl, .inl hcrash⟩
  rw [h] at hadded
  refine ⟨added, hadded, ?_⟩
  exact {
    failed := by simp [hout]
    closed := by simp
    managed := fun hm => .inr ((managed hm).imp fun _ hu => hu.imp_left (congrArg _))
    unwound := fun _ _ hm => hopen _ hm rfl
  }

theorem Closing.of_failed {cause : BootError} {shown : List Output}
    (h : boot.starting s = ⟨.ok (.error cause), t, out⟩) :
    ∃ performed, t.runtime.milestones = s.runtime.milestones ++ performed ∧
      boot.Closing args entry s ⟨.ok (-1), t, shown⟩ performed := by
  have hout : (boot.starting s).outcome = .ok (.error cause) := congrArg Ending.outcome h
  obtain ⟨added, hadded, hearly⟩ := adds_starting_of_failed hout
  rw [h] at hadded
  have unmanaged : ∀ m ∈ added, m.isManaged = false := fun m hm => (hearly m hm).2
  refine ⟨added, hadded, ?_⟩
  exact {
    failed := fun _ _ => ⟨rfl, unmanaged, fun hm => (hearly _ hm).1 rfl⟩
    closed := fun hstarted => absurd hout (hstarted cause)
    managed := by
      rintro ⟨m, hm, hmanaged⟩
      exact absurd hmanaged (by simp [unmanaged m hm])
    unwound := by simp
  }

/-- What follows the modules closes the run if it returns. -/
theorem Closing.of_started {started : Except Fault ModuleList} (destination : Destination)
    (h : boot.starting s = ⟨.ok (.ok started), t, out⟩) :
    let ending := closing (proceed destination args entry started) t
    ∃ performed, ending.process.runtime.milestones = s.runtime.milestones ++ performed ∧
      boot.Closing args entry s ⟨ending.outcome, ending.process, out ++ ending.output⟩
        performed := by
  have hout : (boot.starting s).outcome = .ok (.ok started) := congrArg Ending.outcome h
  obtain ⟨added, hadded, hopen⟩ := adds_starting boot s
  obtain ⟨more, hmore, hopen'⟩ := adds_proceed destination args entry started t
  rw [h] at hadded
  have hnone : .step .shutdown ∉ added ++ more := by
    intro hm
    exact (List.mem_append.mp hm).elim (fun hm => hopen _ hm rfl) fun hm => hopen' _ hm rfl
  rcases hrun : proceed destination args entry started t with ⟨u | code, t', out'⟩ <;>
    rw [hrun, hadded, List.append_assoc] at hmore
  · obtain ⟨text, rfl, hcrash⟩ :=
      unwinds_proceed destination args entry started t u (congrArg Ending.outcome hrun)
    have hclosing : closing (proceed destination args entry started) t =
        ⟨.error (.panic text), t', out'⟩ := Run.bind_of_error hrun
    rw [hclosing]
    refine ⟨added ++ more, hmore, ?_⟩
    exact {
      failed := by simp [hout]
      closed := by simp
      managed := fun _ => .inr ⟨text, rfl, .inr hcrash⟩
      unwound := fun _ _ => hnone
    }
  · rw [closing_of_ok hrun]
    refine ⟨added ++ more ++ [.step .shutdown], ?_, ?_⟩
    · dsimp only at hmore ⊢
      rw [hmore]
      simp only [List.append_assoc]
    · have hclosed : Closed (added ++ more ++ [.step .shutdown])
          (out ++ (out' ++ [.log shutdownRecord])) :=
        ⟨added ++ more, out ++ out', rfl, hnone, (List.append_assoc _ _ _).symm⟩
      exact {
        failed := by simp [hout]
        closed := fun _ _ _ => hclosed
        managed := fun _ => .inl ⟨code, rfl, hclosed⟩
        unwound := by simp
      }

end

/-- A start-up fails without a shutdown, or shuts down once and last, or panics. -/
theorem runReportingTo_closing (boot : Initializer σ) (destination : Destination)
    (args : ArgVector) (entry : Entry σ) (s : Process (Session σ)) :
    ∃ performed,
      (boot.runReportingTo destination args entry s).process.runtime.milestones =
        s.runtime.milestones ++ performed ∧
      boot.Closing args entry s (boot.runReportingTo destination args entry s) performed := by
  rw [runReportingTo_eq]
  rcases h : boot.starting s with ⟨u | cause | started, t, out⟩
  · rw [Run.bind_of_error h]
    exact Closing.of_unwound h
  · rw [Run.bind_of_ok h]
    exact Closing.of_failed h
  · rw [Run.bind_of_ok h]
    exact Closing.of_started destination h

/-! ## A panic skips the shutdown -/

/-- A start-up whose platform agrees to everything, over a registry. -/
def overRegistry : Initializer Registry where
  platform := {
    palInit := pure true
    attach := pure true
    enableStackScan := pure true
    initializeModules := fun _ => pure () }
  source := .registry id fun _ r => r

/-- The entry point is invoked and panics, and the shutdown step is never entered. -/
theorem panic_skips_shutdown :
    ∃ milestones,
      (overRegistry.runReportingTo .sink (.ofArguments []) (fun _ => Run.panic "boom")
        ⟨{ runtime := {} }, 0, 0⟩).process.runtime.milestones = milestones ∧
      (∃ m ∈ milestones, m.isManaged = true) ∧ .step .shutdown ∉ milestones := by
  refine ⟨[.step .palInit, .call .palInit, .step .runtimeAttach, .call .attach,
    .step .conservativeStackScan, .call .stackScan, .call .image, .call .imageLayout,
    .step .moduleInit, .call .collect, .call (.initializeModules {}), .step .managedMain,
    .call (.invoke (.ofArguments []))], rfl, ?_, ?_⟩
  · exact ⟨.call (.invoke (.ofArguments [])), by simp, rfl⟩
  · simp

end Initializer
end ManagedBoot
