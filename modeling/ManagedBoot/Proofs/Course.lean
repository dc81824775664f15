import ManagedBoot.Boot.Sequence
import ManagedBoot.Proofs.RunLaws
/-!
The course of a start-up: its calls with what the collaborators answer.

A collaborator answers a call in the state in which the call before left the runtime. An answer that
passes opens the way to the one call that follows it; any other answer ends the start-up with an
exit code or lets it unwind. From these rules alone: the calls stand in a fixed order and none is
made twice (`ordered`), every answer but the last passes (`passed`), and a call is made exactly if
it is the first or the one before it passed (`made_iff`).
-/
namespace ManagedBoot

/-- What a collaborator gives back for a call. -/
inductive Answer where
  | flag (success : Bool)
  | image (image : Option Image)
  | layout (layout : Option Layout.Contract)
  | modules (result : Except RegistryError ModuleList)
  | done
  | code (code : Int32)
  | unwound (payload : Unwind)

/-- Whether the start-up goes on after an answer. A layout must agree with the host's in every
field. -/
def Answer.Passes : Answer → Prop
  | .flag success => success = true
  | .layout (some theirs) => ∀ field, Layout.Contract.host.get field = theirs.get field
  | .modules result => ∃ list, result = .ok list
  | .unwound _ => False
  | .image _ | .layout none | .done | .code _ => True

namespace Call

/-- Place in the order of the calls. -/
def rank : Call → Nat
  | .palInit => 0
  | .attach => 1
  | .stackScan => 2
  | .image => 3
  | .registerImage _ => 4
  | .imageLayout => 5
  | .collect => 6
  | .initializeModules _ => 7
  | .invoke _ => 8

/-- The call that follows one whose answer passed. -/
def following (args : ArgVector) : Call → Answer → Option Call
  | .palInit, _ => some .attach
  | .attach, _ => some .stackScan
  | .stackScan, _ => some .image
  | .image, .image (some i) => some (.registerImage i)
  | .image, _ => some .imageLayout
  | .registerImage _, _ => some .imageLayout
  | .imageLayout, _ => some .collect
  | .collect, .modules (.ok list) => some (.initializeModules list)
  | .initializeModules _, _ => some (.invoke args)
  | _, _ => none

/-- Whether a call is made inside a fault boundary. -/
def guarded : Call → Bool
  | .collect | .initializeModules _ | .invoke _ => true
  | _ => false

/-- How a start-up ends whose last call had this answer. -/
def exit (c : Call) : Answer → Except Unwind Int32
  | .code code => .ok code
  | .unwound (.fault fault) => if c.guarded then .ok (-1) else .error (.fault fault)
  | .unwound (.panic text) => .error (.panic text)
  | _ => .ok (-1)

variable {σ : Type}

/-- Entering the boundary that a call is the first to be made in. -/
def arrive : Call → Process σ → Process σ
  | .collect, p | .invoke _, p => p.deeper
  | _, p => p

/-- Leaving the boundary that a call is the last to be made in. -/
def depart : Call → Answer → Process σ → Process σ
  | .collect, .modules (.ok _), p => p
  | .collect, _, p | .initializeModules _, _, p | .invoke _, _, p => p.shallower
  | _, _, p => p

end Call

namespace Initializer

variable {σ : Type}

/-- Runs a collaborator and turns what it yields into an answer. -/
def answered {α : Type} (body : Run σ α) (f : α → Answer) (p : Process σ) : Answer × Process σ :=
  match Run.effect body p with
  | (.ok a, q) => (f a, q)
  | (.error u, q) => (.unwound u, q)

theorem answered_of_ok {α : Type} {body : Run σ α} {f : α → Answer} {p q : Process σ} {a : α}
    (h : Run.effect body p = (.ok a, q)) : answered body f p = (f a, q) := by
  rw [answered, h]

theorem answered_of_error {α : Type} {body : Run σ α} {f : α → Answer} {p q : Process σ}
    {u : Unwind} (h : Run.effect body p = (.error u, q)) :
    answered body f p = (.unwound u, q) := by
  rw [answered, h]

theorem answered_cases {α : Type} {body : Run σ α} {f : α → Answer} {p q : Process σ} {a : Answer}
    (h : answered body f p = (a, q)) : (∃ v, a = f v) ∨ ∃ u, a = .unwound u := by
  rcases hb : Run.effect body p with ⟨u | v, r⟩
  · rw [answered_of_error hb] at h
    exact .inr ⟨u, (congrArg Prod.fst h).symm⟩
  · rw [answered_of_ok hb] at h
    exact .inl ⟨v, (congrArg Prod.fst h).symm⟩

/-- Asks the collaborator that a call is for. -/
def ask (boot : Initializer σ) (entry : Entry σ) : Call → Process σ → Answer × Process σ
  | .palInit => answered boot.platform.palInit .flag
  | .attach => answered boot.platform.attach .flag
  | .stackScan => answered boot.platform.enableStackScan .flag
  | .image => answered boot.platform.image .image
  | .registerImage image => answered (boot.platform.registerImage image) .flag
  | .imageLayout => answered boot.platform.imageLayout .layout
  | .collect => answered boot.source.collect .modules
  | .initializeModules list => answered (boot.platform.initializeModules list) fun _ => .done
  | .invoke args => answered (entry args) .code

/-- The calls from `c` on, made from the state `p`: what was answered, how the start-up ended and in
which state. -/
inductive Course (boot : Initializer σ) (args : ArgVector) (entry : Entry σ) :
    Process σ → Call → List (Call × Answer) → Except Unwind Int32 → Process σ → Prop
  | stop {p q : Process σ} {c : Call} {a : Answer} (asked : boot.ask entry c (c.arrive p) = (a, q))
      (last : a.Passes → c.following args a = none) :
      Course boot args entry p c [(c, a)] (c.exit a) (c.depart a q)
  | next {p q r : Process σ} {c c' : Call} {a : Answer} {log : List (Call × Answer)}
      {outcome : Except Unwind Int32} (asked : boot.ask entry c (c.arrive p) = (a, q))
      (passes : a.Passes) (follows : c.following args a = some c')
      (rest : Course boot args entry (c.depart a q) c' log outcome r) :
      Course boot args entry p c ((c, a) :: log) outcome r

end Initializer

/-! ## What follows from the rules -/

theorem Call.rank_lt_of_following {args : ArgVector} {c c' : Call} {a : Answer}
    (h : c.following args a = some c') : c.rank < c'.rank := by
  unfold Call.following at h
  split at h <;> cases h <;> simp [Call.rank]

theorem Call.following_eq_registerImage {args : ArgVector} {c : Call} {a : Answer} {i : Image}
    (h : c.following args a = some (.registerImage i)) : c = .image ∧ a = .image (some i) := by
  unfold Call.following at h
  split at h <;> cases h
  exact ⟨rfl, rfl⟩

theorem Call.following_eq_collect {args : ArgVector} {c : Call} {a : Answer}
    (h : c.following args a = some .collect) : c = .imageLayout := by
  unfold Call.following at h
  split at h <;> cases h
  rfl

theorem Call.following_eq_initializeModules {args : ArgVector} {c : Call} {a : Answer}
    {list : ModuleList} (h : c.following args a = some (.initializeModules list)) :
    c = .collect ∧ a = .modules (.ok list) := by
  unfold Call.following at h
  split at h <;> cases h
  exact ⟨rfl, rfl⟩

theorem Call.following_eq_invoke {args v : ArgVector} {c : Call} {a : Answer}
    (h : c.following args a = some (.invoke v)) :
    v = args ∧ ∃ list, c = .initializeModules list := by
  unfold Call.following at h
  split at h <;> cases h
  exact ⟨rfl, _, rfl⟩

theorem Call.exit_of_refused {c : Call} {a : Answer} (hp : ¬a.Passes)
    (hu : ∀ u, a ≠ .unwound u) : c.exit a = .ok (-1) := by
  cases a with
  | code n => exact absurd trivial hp
  | unwound u => exact absurd rfl (hu u)
  | flag | image | layout | modules | done => rfl

namespace Initializer.Course

variable {σ : Type} {boot : Initializer σ} {args : ArgVector} {entry : Entry σ} {p q : Process σ}
  {c : Call} {log : List (Call × Answer)} {outcome : Except Unwind Int32}

/-- A course begins with its first call. -/
theorem begins (h : Course boot args entry p c log outcome q) : ∃ a rest, log = (c, a) :: rest := by
  cases h with
  | stop => exact ⟨_, _, rfl⟩
  | next => exact ⟨_, _, rfl⟩

theorem rank_le (h : Course boot args entry p c log outcome q) :
    ∀ x ∈ log, c.rank ≤ x.1.rank := by
  induction h with
  | stop => simp
  | next _ _ follows _ ih =>
    intro x hx
    rcases List.mem_cons.mp hx with rfl | hx
    · exact Nat.le_refl _
    · exact Nat.le_trans (Nat.le_of_lt (Call.rank_lt_of_following follows)) (ih x hx)

/-- The calls stand in order, and none is made twice. -/
theorem ordered (h : Course boot args entry p c log outcome q) :
    (log.map fun x => x.1.rank).Pairwise (· < ·) := by
  induction h with
  | stop => simp
  | next _ _ follows rest ih =>
    rw [List.map_cons, List.pairwise_cons]
    refine ⟨?_, ih⟩
    intro r hr
    obtain ⟨x, hx, rfl⟩ := List.mem_map.mp hr
    exact Nat.lt_of_lt_of_le (Call.rank_lt_of_following follows) (rest.rank_le x hx)

/-- Every answer but the last passes. -/
theorem passed (h : Course boot args entry p c log outcome q) : ∀ x ∈ log.dropLast, x.2.Passes := by
  induction h with
  | stop => simp
  | next _ passes _ rest ih =>
    obtain ⟨a', rest', hlog⟩ := rest.begins
    intro x hx
    rw [hlog, List.dropLast_cons_cons, ← hlog] at hx
    rcases List.mem_cons.mp hx with rfl | hx
    · exact passes
    · exact ih x hx

/-- The last answer does not pass, or nothing follows it. -/
theorem ends (h : Course boot args entry p c log outcome q) :
    ∃ x, log.getLast? = some x ∧ (x.2.Passes → x.1.following args x.2 = none) := by
  induction h with
  | stop _ last => exact ⟨_, rfl, last⟩
  | next _ _ _ rest ih =>
    obtain ⟨x, hlast, hstop⟩ := ih
    refine ⟨x, ?_, hstop⟩
    rw [List.getLast?_cons, hlast]
    rfl

/-- A call after which the start-up does not go on decides the outcome. -/
theorem outcome_eq (h : Course boot args entry p c log outcome q) {x : Call × Answer}
    (hx : x ∈ log) (hstop : x.2.Passes → x.1.following args x.2 = none) :
    outcome = x.1.exit x.2 := by
  induction h with
  | stop =>
    rw [List.mem_singleton] at hx
    rw [hx]
  | next _ passes follows rest ih =>
    rcases List.mem_cons.mp hx with rfl | hx
    · rw [hstop passes] at follows
      cases follows
    · exact ih hx

/-- Every answer is the one that the collaborator gave. -/
theorem asked_of_mem (h : Course boot args entry p c log outcome q) {x : Call × Answer}
    (hx : x ∈ log) : ∃ p' q', boot.ask entry x.1 p' = (x.2, q') := by
  induction h with
  | stop asked =>
    rw [List.mem_singleton] at hx
    rw [hx]
    exact ⟨_, _, asked⟩
  | next asked _ _ rest ih =>
    rcases List.mem_cons.mp hx with rfl | hx
    · exact ⟨_, _, asked⟩
    · exact ih hx

/-- A call is made exactly if it is the first or follows one that passed. -/
theorem made_iff (h : Course boot args entry p c log outcome q) (c' : Call) :
    c' ∈ log.map Prod.fst ↔
      c' = c ∨ ∃ x ∈ log, x.2.Passes ∧ x.1.following args x.2 = some c' := by
  induction h with
  | stop _ last =>
    constructor
    · intro hc
      exact .inl (by simpa using hc)
    · rintro (rfl | ⟨x, hx, hp, hf⟩)
      · simp
      · rw [List.mem_singleton] at hx
        subst hx
        rw [last hp] at hf
        cases hf
  | next _ passes follows rest ih =>
    rw [List.map_cons, List.mem_cons, ih]
    constructor
    · rintro (rfl | rfl | ⟨x, hx, hp, hf⟩)
      · exact .inl rfl
      · exact .inr ⟨_, List.mem_cons_self, passes, follows⟩
      · exact .inr ⟨x, List.mem_cons_of_mem _ hx, hp, hf⟩
    · rintro (rfl | ⟨x, hx, hp, hf⟩)
      · exact .inl rfl
      · rcases List.mem_cons.mp hx with rfl | hx
        · rw [follows] at hf
          exact .inr (.inl (Option.some.inj hf).symm)
        · exact .inr (.inr ⟨x, hx, hp, hf⟩)

/-! ## A course from the first call on -/

/-- The image is registered exactly if the platform has one. -/
theorem registers (h : Course boot args entry p .palInit log outcome q) (i : Image) :
    .registerImage i ∈ log.map Prod.fst ↔ (.image, .image (some i)) ∈ log := by
  rw [h.made_iff]
  constructor
  · rintro (hc | ⟨⟨c, a⟩, hx, -, hf⟩)
    · cases hc
    · obtain ⟨rfl, rfl⟩ := Call.following_eq_registerImage hf
      exact hx
  · intro hx
    exact .inr ⟨_, hx, trivial, rfl⟩

/-- The modules are collected exactly if the platform has answered with no layout or with one that
agrees with the host's. -/
theorem collects (h : Course boot args entry p .palInit log outcome q) :
    .collect ∈ log.map Prod.fst ↔ ∃ layout, (.imageLayout, .layout layout) ∈ log ∧
      ∀ image, layout = some image →
        ∀ field, Layout.Contract.host.get field = image.get field := by
  rw [h.made_iff]
  constructor
  · rintro (hc | ⟨⟨c, a⟩, hx, hp, hf⟩)
    · cases hc
    · obtain rfl := Call.following_eq_collect hf
      obtain ⟨p', q', hask⟩ := h.asked_of_mem hx
      rcases answered_cases hask with ⟨layout, rfl⟩ | ⟨u, rfl⟩
      · refine ⟨layout, hx, ?_⟩
        rintro image rfl
        exact hp
      · cases hp
  · rintro ⟨_ | image, hx, hagree⟩
    · exact .inr ⟨_, hx, trivial, rfl⟩
    · exact .inr ⟨_, hx, hagree image rfl, rfl⟩

/-- The runtime is handed exactly the list that was collected. -/
theorem delivers (h : Course boot args entry p .palInit log outcome q) (list : ModuleList) :
    .initializeModules list ∈ log.map Prod.fst ↔ (.collect, .modules (.ok list)) ∈ log := by
  rw [h.made_iff]
  constructor
  · rintro (hc | ⟨⟨c, a⟩, hx, -, hf⟩)
    · cases hc
    · obtain ⟨rfl, rfl⟩ := Call.following_eq_initializeModules hf
      exact hx
  · intro hx
    exact .inr ⟨_, hx, ⟨list, rfl⟩, rfl⟩

/-- The entry point is invoked, with the caller's arguments, exactly if the modules have started. -/
theorem invokes (h : Course boot args entry p .palInit log outcome q) (v : ArgVector) :
    .invoke v ∈ log.map Prod.fst ↔ v = args ∧ ∃ list, (.initializeModules list, .done) ∈ log := by
  rw [h.made_iff]
  constructor
  · rintro (hc | ⟨⟨c, a⟩, hx, hp, hf⟩)
    · cases hc
    · obtain ⟨rfl, list, rfl⟩ := Call.following_eq_invoke hf
      obtain ⟨p', q', hask⟩ := h.asked_of_mem hx
      rcases answered_cases hask with ⟨u, rfl⟩ | ⟨u, rfl⟩
      · exact ⟨rfl, list, hx⟩
      · cases hp
  · rintro ⟨rfl, list, hx⟩
    exact .inr ⟨_, hx, trivial, rfl⟩

/-- A success after which nothing follows is that of the entry point. -/
theorem complete (h : Course boot args entry p .palInit log outcome q) {x : Call × Answer}
    (hlast : log.getLast? = some x) (hp : x.2.Passes) : x.1 = .invoke args := by
  obtain ⟨c, a⟩ := x
  obtain ⟨y, hy, hstop⟩ := h.ends
  rw [hlast] at hy
  cases hy
  have hx : (c, a) ∈ log := List.mem_of_getLast? hlast
  obtain ⟨p', q', hask⟩ := h.asked_of_mem hx
  have hnone := hstop hp
  -- Every other call that passed is followed by one.
  cases c with
  | invoke v =>
    have hv := (h.invokes v).mp (List.mem_map_of_mem hx)
    rw [hv.1]
  | image =>
    rcases answered_cases hask with ⟨i | i, rfl⟩ | ⟨u, rfl⟩ <;> cases hnone
  | collect =>
    rcases answered_cases hask with ⟨r, rfl⟩ | ⟨u, rfl⟩
    · obtain ⟨list, rfl⟩ := hp
      cases hnone
    · cases hp
  | palInit | attach | stackScan | registerImage | imageLayout | initializeModules => cases hnone

end Initializer.Course
end ManagedBoot
