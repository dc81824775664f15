import ManagedBoot.Proofs.Course
/-!
The start-up follows its course.

`Quiet` code changes nothing of a session but the steps and the sink, and calls no collaborator.
`Follows c x` says that the run `x` makes the calls of a course that begins with `c`, leaves the
runtime as that course leaves it and ends as it ends. Each gate of the start-up is one lemma: a call
follows its course if what comes after it does for every answer that passes, and is quiet for every
other.
-/
namespace ManagedBoot

variable {σ : Type} {α β : Type}

/-- The calls that a session made, in order. -/
def Session.calls (s : Session σ) : List Call :=
  s.milestones.filterMap fun | .call c => some c | .step _ => none

namespace Process

/-- The process as the collaborators see it. -/
def inner (s : Process (Session σ)) : Process σ := ⟨s.runtime.runtime, s.depth, s.frames⟩

/-- The process after a call that left the collaborators' process as `q`. -/
def absorb (s : Process (Session σ)) (c : Call) (q : Process σ) : Process (Session σ) :=
  ⟨{ s.runtime with runtime := q.runtime, milestones := s.runtime.milestones ++ [.call c] },
    q.depth, q.frames⟩

@[simp] theorem runtime_deeper (p : Process σ) : p.deeper.runtime = p.runtime := rfl

@[simp] theorem runtime_shallower (p : Process σ) : p.shallower.runtime = p.runtime := rfl

@[simp] theorem inner_absorb (s : Process (Session σ)) (c : Call) (q : Process σ) :
    (s.absorb c q).inner = q := rfl

@[simp] theorem calls_absorb (s : Process (Session σ)) (c : Call) (q : Process σ) :
    (s.absorb c q).runtime.calls = s.runtime.calls ++ [c] := by
  simp [absorb, Session.calls]

end Process

namespace Session

/-- Code that yields `a`, makes no call and leaves the collaborators' process as it is. -/
def Quiet (x : Run (Session σ) α) (a : α) : Prop :=
  ∀ s, ∃ s', Run.effect x s = (.ok a, s') ∧ s'.runtime.calls = s.runtime.calls ∧ s'.inner = s.inner

theorem Quiet.pure (a : α) : Quiet (pure a : Run (Session σ) α) a := fun s => ⟨s, rfl, rfl, rfl⟩

theorem Quiet.bind {x : Run (Session σ) α} {f : α → Run (Session σ) β} {a : α} {b : β}
    (hx : Quiet x a) (hf : Quiet (f a) b) : Quiet (x >>= f) b := by
  intro s
  obtain ⟨s', hs', hcalls, hinner⟩ := hx s
  obtain ⟨t, ht, hcalls', hinner'⟩ := hf s'
  refine ⟨t, ?_, hcalls'.trans hcalls, hinner'.trans hinner⟩
  rw [Run.effect_bind, hs']
  exact ht

theorem Quiet.log (level : Level) (target message : String) :
    Quiet (Run.log level target message : Run (Session σ) Unit) () := fun s => ⟨s, rfl, rfl, rfl⟩

theorem Quiet.enter (step : BootStep) (detail : String) :
    Quiet (enter step detail : Run (Session σ) Unit) () := by
  refine Quiet.bind (a := ()) ?_ (Quiet.log _ _ _)
  intro s
  refine ⟨{ s with runtime.milestones := s.runtime.milestones ++ [.step step] }, rfl, ?_, rfl⟩
  simp [calls]

theorem Quiet.fail (e : BootError) : Quiet (fail e : Run (Session σ) Int32) (-1) :=
  Quiet.bind (Quiet.log _ _ _) (Quiet.pure _)

theorem Quiet.reportFault (destination : Destination) (fault : Fault) :
    Quiet (reportFault destination fault : Run (Session σ) Int32) (-1) := by
  cases destination with
  | stream stream =>
    refine Quiet.bind (Quiet.log _ _ _) (Quiet.bind (a := ()) ?_ (Quiet.pure _))
    exact fun s => ⟨s, rfl, rfl, rfl⟩
  | sink =>
    refine Quiet.bind (Quiet.log _ _ _) ?_
    intro s
    rcases h : fault.report s.runtime.sink with ⟨e | u, sink⟩
    · exact ⟨{ s with runtime := { s.runtime with sink := sink } }, by simp [h]; rfl, rfl, rfl⟩
    · exact ⟨{ s with runtime := { s.runtime with sink := sink } }, by simp [h]; rfl, rfl, rfl⟩

@[simp] theorem effect_call (c : Call) (body : Run σ α) (s : Process (Session σ)) :
    Run.effect (call c body) s =
      ((Run.effect body s.inner).1, s.absorb c (Run.effect body s.inner).2) := rfl

end Session

/-! ## The layout check -/

/-- Two contracts agree exactly if every field is the same. -/
theorem Layout.Contract.ensureMatches_eq_ok_iff (host image : Layout.Contract) :
    host.ensureMatches image = .ok () ↔ ∀ field, host.get field = image.get field := by
  have hall : ∀ field : Field, field ∈ Field.all := by
    intro field
    cases field <;> decide
  have hnone : host.firstMismatch image = none ↔ ∀ field, host.get field = image.get field := by
    simp [firstMismatch, hall]
  rw [← hnone, ensureMatches]
  cases host.firstMismatch image <;> simp

theorem Session.quiet_checking (host image : Layout.Contract) :
    Quiet (host.checking image : Run (Session σ) _) (host.ensureMatches image) := by
  unfold Layout.Contract.checking
  rcases h : host.ensureMatches image with (⟨f, x, y⟩ | n) | u
  · exact Quiet.bind (Quiet.log _ _ _) (Quiet.pure _)
  · exact Quiet.pure _
  · exact Quiet.pure _

/-! ## One gate -/

namespace Initializer

open Session

variable {boot : Initializer σ} {args : ArgVector} {entry : Entry σ} {c : Call}

/-- An effect of a session that started in `s` is that of a course from `c` on: the same calls, the
same outcome and the same state of the collaborators. -/
def Traces (boot : Initializer σ) (args : ArgVector) (entry : Entry σ) (c : Call)
    (s : Process (Session σ)) (e : Except Unwind Int32 × Process (Session σ)) : Prop :=
  ∃ log q, boot.Course args entry s.inner c log e.1 q ∧
    e.2.runtime.calls = s.runtime.calls ++ log.map Prod.fst ∧ e.2.inner = q

/-- The run traces a course from `c` on, wherever it starts. -/
def Follows (boot : Initializer σ) (args : ArgVector) (entry : Entry σ) (c : Call)
    (x : Run (Session σ) Int32) : Prop :=
  ∀ s, Traces boot args entry c s (Run.effect x s)

section
variable {s t : Process (Session σ)} {e : Except Unwind Int32 × Process (Session σ)} {a : Answer}
  {q : Process σ}

/-- The call made last. -/
theorem Traces.stop (asked : boot.ask entry c (c.arrive s.inner) = (a, q))
    (last : a.Passes → c.following args a = none) (hout : e.1 = c.exit a)
    (hinner : e.2.inner = c.depart a q) (hcalls : e.2.runtime.calls = s.runtime.calls ++ [c]) :
    Traces boot args entry c s e := by
  refine ⟨[(c, a)], c.depart a q, ?_, hcalls, hinner⟩
  rw [hout]
  exact .stop asked last

/-- The call made last, with quiet code after it. -/
theorem Traces.stop_of_quiet {x : Run (Session σ) Int32} {n : Int32} (hx : Quiet x n)
    (asked : boot.ask entry c (c.arrive s.inner) = (a, q))
    (last : a.Passes → c.following args a = none) (hexit : c.exit a = .ok n)
    (hinner : t.inner = c.depart a q) (hcalls : t.runtime.calls = s.runtime.calls ++ [c]) :
    Traces boot args entry c s (Run.effect x t) := by
  obtain ⟨t', ht', hcalls', hinner'⟩ := hx t
  rw [ht']
  exact .stop asked last hexit.symm (hinner'.trans hinner) (hcalls'.trans hcalls)

/-- A call that leads to the next one. -/
theorem Traces.next {c' : Call} (asked : boot.ask entry c (c.arrive s.inner) = (a, q))
    (passes : a.Passes) (follows : c.following args a = some c') (hinner : t.inner = c.depart a q)
    (hcalls : t.runtime.calls = s.runtime.calls ++ [c]) (rest : Traces boot args entry c' t e) :
    Traces boot args entry c s e := by
  obtain ⟨log, r, hcourse, hlog, hr⟩ := rest
  rw [hinner] at hcourse
  refine ⟨(c, a) :: log, r, .next asked passes follows hcourse, ?_, hr⟩
  rw [hlog, hcalls, List.append_assoc]
  rfl

end

theorem Follows.of_quiet {x : Run (Session σ) α} {k : α → Run (Session σ) Int32} {a : α}
    (hx : Quiet x a) (hk : Follows boot args entry c (k a)) :
    Follows boot args entry c (x >>= k) := by
  intro s
  obtain ⟨s', hs', hcalls, hinner⟩ := hx s
  obtain ⟨log, q, hcourse, hlog, hq⟩ := hk s'
  rw [hinner] at hcourse
  rw [hcalls] at hlog
  refine ⟨log, q, ?_, ?_, ?_⟩ <;> rw [Run.effect_bind, hs'] <;> assumption

/-- A call outside the boundaries follows its course if what comes after it does so for an answer
that passes, and quietly yields the exit code for any other. -/
theorem Follows.gate {body : Run σ α} {f : α → Answer} {k : α → Run (Session σ) Int32}
    (hc : c.guarded = false) (hask : boot.ask entry c = answered body f)
    (hpass : ∀ a, (f a).Passes →
      ∃ c', c.following args (f a) = some c' ∧ Follows boot args entry c' (k a))
    (hstop : ∀ a, ¬(f a).Passes → ∃ n, Quiet (k a) n ∧ c.exit (f a) = .ok n) :
    Follows boot args entry c (call c body >>= k) := by
  have harrive : ∀ p : Process σ, c.arrive p = p := by
    intro p
    cases c <;> first | rfl | cases hc
  have hdepart : ∀ (a : Answer) (p : Process σ), c.depart a p = p := by
    intro a p
    cases c <;> first | rfl | cases hc
  have hunwound : ∀ u, c.exit (.unwound u) = .error u := by
    intro u
    cases u <;> simp [Call.exit, hc]
  intro s
  -- Outside the boundaries an unwinding collaborator ends the whole run.
  rcases h : Run.effect body s.inner with ⟨u | a, q⟩
  · have hans : boot.ask entry c (c.arrive s.inner) = (.unwound u, q) := by
      rw [harrive, hask, answered, h]
    exact .stop hans (by intro hp; cases hp) (by simp [h, hunwound]) (by simp [h, hdepart])
      (by simp [h])
  · have hans : boot.ask entry c (c.arrive s.inner) = (f a, q) := by
      rw [harrive, hask, answered, h]
    have hrun : Run.effect (call c body >>= k) s = Run.effect (k a) (s.absorb c q) := by
      simp [h]
    by_cases hp : (f a).Passes
    · obtain ⟨c', hfollow, hk⟩ := hpass a hp
      rw [hrun]
      exact .next hans hp hfollow (by simp [hdepart]) (by simp) (hk _)
    · obtain ⟨n, hk, hexit⟩ := hstop a hp
      rw [hrun]
      exact .stop_of_quiet hk hans (fun h' => absurd h' hp) hexit (by simp [hdepart]) (by simp)

/-- A call answered by a success flag. -/
theorem Follows.flag {c' : Call} {body : Run σ Bool} {e : BootError}
    {rest : Run (Session σ) (Except BootError α)} {k : Except BootError α → Run (Session σ) Int32}
    (hc : c.guarded = false) (hask : boot.ask entry c = answered body .flag)
    (hfollow : c.following args (.flag true) = some c') (herror : Quiet (k (.error e)) (-1))
    (hrest : Follows boot args entry c' (rest >>= k)) :
    Follows boot args entry c
      (call c body >>= fun success => (if !success then pure (.error e) else rest) >>= k) := by
  refine .gate hc hask ?_ ?_
  · intro success hp
    cases hp
    exact ⟨c', hfollow, hrest⟩
  · intro success hp
    rw [Bool.not_eq_true _ |>.mp hp]
    refine ⟨-1, ?_, rfl⟩
    simpa using herror

/-- The layout of the image must agree with the host's, where the image records one. -/
theorem Follows.layout {k : Except BootError Unit → Run (Session σ) Int32}
    (herror : ∀ e, Quiet (k (.error e)) (-1))
    (hok : Follows boot args entry .collect (k (.ok ()))) :
    Follows boot args entry .imageLayout
      (call .imageLayout boot.platform.imageLayout >>= fun layout =>
        (match layout with
          | none => pure (.ok ())
          | some image => do
            return (← Layout.Contract.host.checking image).mapError .layout) >>= k) := by
  refine .gate rfl rfl ?_ ?_
  · rintro (_ | image) hp
    · exact ⟨_, rfl, by simpa using hok⟩
    · refine ⟨_, rfl, ?_⟩
      have hmatch := (Layout.Contract.ensureMatches_eq_ok_iff _ _).mpr hp
      rw [bind_assoc]
      refine .of_quiet (quiet_checking _ _) ?_
      rw [hmatch]
      rw [pure_bind]
      exact hok
  · rintro (_ | image) hp
    · exact absurd trivial hp
    · refine ⟨-1, ?_, rfl⟩
      rw [bind_assoc]
      refine (quiet_checking _ _).bind ?_
      rcases h : Layout.Contract.host.ensureMatches image with e | u
      · rw [pure_bind]
        exact herror (.layout e)
      · exact absurd ((Layout.Contract.ensureMatches_eq_ok_iff _ _).mp h) hp

/-! ## The two boundaries -/

/-- Starting the modules is one call, and a second one if the first yields a list. -/
theorem effect_startModules (boot : Initializer σ) (s : Process (Session σ)) :
    ∃ s₁ : Process (Session σ), s₁.inner = s.inner ∧ s₁.runtime.calls = s.runtime.calls ∧
      Run.effect boot.startModules s =
        match Run.effect boot.source.collect s₁.inner with
        | (.error u, q) => (.error u, s₁.absorb .collect q)
        | (.ok (.error e), q) => (.ok (.error (.registry e)), s₁.absorb .collect q)
        | (.ok (.ok list), q) =>
          ((Run.effect (boot.platform.initializeModules list) q).1.map fun _ => .ok list,
            (s₁.absorb .collect q).absorb (.initializeModules list)
              (Run.effect (boot.platform.initializeModules list) q).2) := by
  obtain ⟨s₁, hs₁, hcalls, hinner⟩ :=
    Quiet.enter .moduleInit s!" (strategy {boot.source.strategy.name})" s
  refine ⟨s₁, hinner, hcalls, ?_⟩
  rw [startModules, Run.effect_bind, hs₁]
  rcases h : Run.effect boot.source.collect s₁.inner with ⟨u | (e | list), q⟩ <;> simp [h]

/-- The modules are collected and started inside one boundary. -/
theorem Follows.modules {k : Except Fault (Except BootError ModuleList) → Run (Session σ) Int32}
    (hok : ∀ list, Follows boot args entry (.invoke args) (k (.ok (.ok list))))
    (herror : ∀ e, Quiet (k (.ok (.error e))) (-1))
    (hfault : ∀ fault, Quiet (k (.error fault)) (-1)) :
    Follows boot args entry .collect (Run.boundary boot.startModules >>= k) := by
  intro s
  obtain ⟨s₁, hinner, hcalls, hrun⟩ := effect_startModules boot s.deeper
  have hcollect : boot.ask entry .collect (Call.arrive .collect s.inner) =
      answered boot.source.collect .modules s₁.inner := by rw [hinner]; rfl
  have hcalled : ∀ q, (s₁.absorb .collect q).runtime.calls = s.runtime.calls ++ [.collect] := by
    intro q
    rw [Process.calls_absorb, hcalls, Process.runtime_deeper]
  rw [Run.effect_bind, Run.effect_boundary, hrun]
  -- Only a collected list leads to a second call inside the same boundary.
  rcases h : Run.effect boot.source.collect s₁.inner with ⟨(fault | text) | (e | list), q⟩
  · rw [answered_of_error h] at hcollect
    exact .stop_of_quiet (hfault fault) hcollect (by intro hp; cases hp) rfl rfl (hcalled q)
  · rw [answered_of_error h] at hcollect
    exact .stop hcollect (by intro hp; cases hp) rfl rfl (hcalled q)
  · rw [answered_of_ok h] at hcollect
    refine .stop_of_quiet (herror _) hcollect ?_ rfl rfl (hcalled q)
    rintro ⟨list, hlist⟩
    cases hlist
  · rw [answered_of_ok h] at hcollect
    refine .next hcollect ⟨list, rfl⟩ rfl (t := s₁.absorb .collect q) rfl (hcalled q) ?_
    have hinit : boot.ask entry (.initializeModules list)
          (Call.arrive (.initializeModules list) (s₁.absorb .collect q).inner) =
        answered (boot.platform.initializeModules list) (fun _ => .done) q := rfl
    dsimp only
    rcases h' : Run.effect (boot.platform.initializeModules list) q with
      ⟨(fault | text) | _, r⟩
    · rw [answered_of_error h'] at hinit
      exact .stop_of_quiet (hfault fault) hinit (by intro hp; cases hp) rfl rfl
        (Process.calls_absorb _ _ _)
    · rw [answered_of_error h'] at hinit
      exact .stop hinit (by intro hp; cases hp) rfl rfl (Process.calls_absorb _ _ _)
    · rw [answered_of_ok h'] at hinit
      exact .next (t := ((s₁.absorb .collect q).absorb (.initializeModules list) r).shallower)
        hinit trivial rfl rfl (Process.calls_absorb _ _ _) (hok list _)

/-- The entry point is invoked inside a boundary of its own. -/
theorem Follows.runEntry {destination : Destination} {k : Int32 → Run (Session σ) Int32}
    (hk : ∀ code, Quiet (k code) code) :
    Follows boot args entry (.invoke args) (Initializer.runEntry destination args entry >>= k) := by
  rw [Initializer.runEntry, bind_assoc]
  refine .of_quiet (Quiet.enter _ _) ?_
  intro s
  have hinvoke : boot.ask entry (.invoke args) (Call.arrive (.invoke args) s.inner) =
      answered (entry args) .code s.deeper.inner := rfl
  rw [bind_assoc, Run.effect_bind, Run.effect_boundary, effect_call]
  rcases h : Run.effect (entry args) s.deeper.inner with ⟨(fault | text) | code, q⟩
  · rw [answered_of_error h] at hinvoke
    have hquiet := (Quiet.reportFault (σ := σ) destination fault).bind (hk (-1))
    exact .stop_of_quiet hquiet hinvoke (by intro hp; cases hp) rfl rfl (by simp)
  · rw [answered_of_error h] at hinvoke
    exact .stop hinvoke (by intro hp; cases hp) rfl rfl (by simp)
  · rw [answered_of_ok h] at hinvoke
    have hquiet := (Quiet.pure (σ := σ) code).bind (hk code)
    exact .stop_of_quiet hquiet hinvoke (fun _ => rfl) rfl rfl (by simp)

/-! ## The whole start-up -/

theorem Follows.prepare {k : Except BootError Unit → Run (Session σ) Int32}
    (herror : ∀ e, Quiet (k (.error e)) (-1))
    (hok : Follows boot args entry .collect (k (.ok ()))) :
    Follows boot args entry .palInit (boot.prepare >>= k) := by
  rw [Initializer.prepare]
  simp only [bind_assoc]
  refine .of_quiet (Quiet.enter _ _) (.flag rfl rfl rfl (herror _) ?_)
  simp only [bind_assoc]
  refine .of_quiet (Quiet.enter _ _) (.flag rfl rfl rfl (herror _) ?_)
  simp only [bind_assoc]
  refine .of_quiet (Quiet.enter _ _) (.flag rfl rfl rfl (herror _) ?_)
  simp only [bind_assoc]
  refine .gate rfl rfl ?_ (fun _ hp => absurd trivial hp)
  rintro (_ | image) -
  · refine ⟨_, rfl, ?_⟩
    simp only [bind_assoc]
    exact .of_quiet (Quiet.log _ _ _) (.layout herror hok)
  · refine ⟨_, rfl, ?_⟩
    simp only [bind_assoc]
    refine .of_quiet (Quiet.enter _ _) (.flag rfl rfl rfl (herror _) ?_)
    simp only [bind_assoc]
    exact .layout herror hok

theorem runReportingTo_follows (boot : Initializer σ) (destination : Destination)
    (args : ArgVector) (entry : Entry σ) :
    Follows boot args entry .palInit (boot.runReportingTo destination args entry) := by
  refine .prepare (fun e => Quiet.fail e) (.modules ?_ (fun e => Quiet.fail e) ?_)
  · intro list
    refine .of_quiet (Quiet.log _ _ _) (.runEntry ?_)
    intro code
    exact (Quiet.enter _ _).bind (Quiet.pure code)
  · intro fault
    exact (Quiet.reportFault destination fault).bind ((Quiet.enter _ _).bind (Quiet.pure _))

/-- What the gates of a start-up allow: the calls of a run with their answers, and its outcome. -/
structure Gated (boot : Initializer σ) (args : ArgVector) (entry : Entry σ) (p : Process σ)
    (log : List (Call × Answer)) (outcome : Except Unwind Int32) (q : Process σ) : Prop where
  /-- The answers are the collaborators' own, each given in the state that the call before left. -/
  course : boot.Course args entry p .palInit log outcome q
  /-- The calls stand in the fixed order, each at most once. -/
  ordered : (log.map fun x => x.1.rank).Pairwise (· < ·)
  /-- Whatever was called before another call answered with success. -/
  gates : ∀ x ∈ log.dropLast, x.2.Passes
  /-- A run whose last answer was a success got as far as the entry point. -/
  complete : ∀ x, log.getLast? = some x → x.2.Passes → x.1 = .invoke args
  registers : ∀ image, .registerImage image ∈ log.map Prod.fst ↔
    (.image, .image (some image)) ∈ log
  collects : .collect ∈ log.map Prod.fst ↔ ∃ layout, (.imageLayout, .layout layout) ∈ log ∧
    ∀ image, layout = some image →
      ∀ field, Layout.Contract.host.get field = image.get field
  delivers : ∀ list, .initializeModules list ∈ log.map Prod.fst ↔
    (.collect, .modules (.ok list)) ∈ log
  invokes : ∀ v, .invoke v ∈ log.map Prod.fst ↔
    v = args ∧ ∃ list, (.initializeModules list, .done) ∈ log
  returned : ∀ v code, (.invoke v, .code code) ∈ log → outcome = .ok code
  /-- A refusal, a layout that differs and an error of the collection all give the same code. -/
  failed : ∀ c a, (c, a) ∈ log → ¬a.Passes → (∀ u, a ≠ .unwound u) → outcome = .ok (-1)
  /-- A fault is caught where the modules are collected or started and in the entry point. -/
  faulted : ∀ c fault, (c, .unwound (.fault fault)) ∈ log →
    outcome = if c.guarded then .ok (-1) else .error (.fault fault)
  panicked : ∀ c text, (c, .unwound (.panic text)) ∈ log → outcome = .error (.panic text)

/-- The calls of a whole start-up are gated, whatever the collaborators do. -/
theorem runReportingTo_gated (boot : Initializer σ) (destination : Destination)
    (args : ArgVector) (entry : Entry σ) (s : Process (Session σ)) :
    ∃ log,
      (boot.runReportingTo destination args entry s).process.runtime.calls =
        s.runtime.calls ++ log.map Prod.fst ∧
      boot.Gated args entry s.inner log (boot.runReportingTo destination args entry s).outcome
        (boot.runReportingTo destination args entry s).process.inner := by
  obtain ⟨log, q, hcourse, hcalls, rfl⟩ := runReportingTo_follows boot destination args entry s
  refine ⟨log, hcalls, ?_⟩
  exact {
    course := hcourse
    ordered := hcourse.ordered
    gates := hcourse.passed
    complete := fun _ => hcourse.complete
    registers := hcourse.registers
    collects := hcourse.collects
    delivers := hcourse.delivers
    invokes := hcourse.invokes
    returned := fun _ _ hx => hcourse.outcome_eq hx fun _ => rfl
    failed := by
      intro c a hx hp hu
      have hexit := hcourse.outcome_eq hx fun h => absurd h hp
      exact hexit.trans (Call.exit_of_refused hp hu)
    faulted := fun _ _ hx => hcourse.outcome_eq hx fun h => h.elim
    panicked := fun _ _ hx => hcourse.outcome_eq hx fun h => h.elim
  }

end Initializer
end ManagedBoot
