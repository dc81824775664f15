import ManagedBoot.Proofs.LoadFrames
/-!
What a run of loads and allocations does to a heap.

Every call extends the heap, whatever its allocator answers (`HeapCall.extending`). A run of calls
therefore keeps every object that any of its calls left behind, so a loaded string reads the same for
good, and no address is handed out twice (`undisturbed`).
-/
namespace ManagedBoot

open Layout

/-! ## Calls -/

/-- A call that asks an allocator for an object. -/
inductive HeapCall where
  | load (descriptor : UInt64) (text : String)
  | newArray (descriptor : UInt64) (length : UInt32)
  | newObject (descriptor : UInt64)

def HeapCall.run (allocator : Allocator) : HeapCall → Run Heap (Option Nat)
  | .load descriptor text => loadLiteral allocator descriptor text
  | .newArray descriptor length => allocator.newArray descriptor length
  | .newObject descriptor => allocator.newObject descriptor

theorem HeapCall.extending {allocator : Allocator} (disjoint : allocator.Disjoint)
    (call : HeapCall) : Extending (call.run allocator) := by
  cases call with
  | load descriptor text => exact disjoint.extending_load descriptor text
  | newArray descriptor length => exact disjoint.newArray descriptor length
  | newObject descriptor => exact disjoint.newObject descriptor

/-! ## Allocators that hand out new objects -/

namespace Allocator

theorem extending_request (grant : Grant) (descriptor : UInt64) (length : UInt32) :
    Extending (request grant descriptor length) := by
  constructor
  · intro p address o ho
    rcases request_cases grant descriptor length p with hrefused | ⟨total, -, hgranted⟩
    · rw [hrefused]
      exact ho
    · rw [hgranted]
      exact Heap.get?_push_of_some ho _
  · intro p address h
    rcases request_cases grant descriptor length p with hrefused | ⟨total, -, hgranted⟩
    · rw [hrefused] at h
      cases h
    · rw [hgranted] at h
      cases h
      exact List.getElem?_eq_none (Nat.le_refl _)

theorem direct_disjoint (grant : Grant) : (direct grant).Disjoint where
  newObject descriptor := extending_request grant descriptor 0
  newArray := extending_request grant

/-- The runtime library keeps the contract of the heap behind it. -/
theorem Lawful.throughLibrary {width : UInt64 → Nat} {runtime : Allocator}
    (lawful : runtime.Lawful width) : runtime.throughLibrary.Lawful width where
  newObject := lawful.newObject
  newArray := by
    intro descriptor length p address h
    rw [Allocator.throughLibrary] at h ⊢
    dsimp only at h ⊢
    by_cases hlong : 0x80000000 ≤ length.toNat
    · rw [if_pos hlong] at h
      cases h
    · rw [if_neg hlong] at h ⊢
      exact lawful.newArray descriptor length p address h

theorem Disjoint.throughLibrary {runtime : Allocator} (disjoint : runtime.Disjoint) :
    runtime.throughLibrary.Disjoint where
  newObject descriptor := by
    obtain ⟨hkeeps, hfresh⟩ := disjoint.newObject descriptor
    exact ⟨hkeeps, hfresh⟩
  newArray descriptor length := by
    obtain ⟨hkeeps, hfresh⟩ := disjoint.newArray descriptor length
    rw [Allocator.throughLibrary]
    dsimp only
    by_cases hlong : 0x80000000 ≤ length.toNat
    · rw [if_pos hlong]
      constructor
      · intro p address o ho
        exact ho
      · intro p address h
        cases h
    · rw [if_neg hlong]
      exact ⟨hkeeps, hfresh⟩

end Allocator

/-! ## A run of calls -/

/-- A call at its place in a run. -/
structure Turn where
  allocator : Allocator
  call : HeapCall
  before : Process Heap

namespace Turn

def ending (t : Turn) : Ending Heap (Option Nat) := t.call.run t.allocator t.before

/-- The heap after the call. -/
def heap (t : Turn) : Heap := t.ending.process.runtime

/-- The address that the call yielded, if it yielded one. -/
def address (t : Turn) : Option Nat := t.ending.outcome.toOption.join

end Turn

/-- Calls in a row, each with the allocator that answers it. An allocator whose answers differ from
call to call is one that changes along the way. -/
def turns : List (Allocator × HeapCall) → Process Heap → List Turn
  | [], _ => []
  | (allocator, call) :: rest, p =>
    ⟨allocator, call, p⟩ :: turns rest (call.run allocator p).process

/-- The heap after all the calls. -/
def lastHeap : List (Allocator × HeapCall) → Process Heap → Heap
  | [], p => p.runtime
  | (allocator, call) :: rest, p => lastHeap rest (call.run allocator p).process

/-- A call whose allocator keeps its contract and hands out new objects only. Arrays of a string
type have elements of two bytes. -/
structure HeapCall.Sound (width : UInt64 → Nat) (allocator : Allocator) (call : HeapCall) :
    Prop where
  lawful : allocator.Lawful width
  disjoint : allocator.Disjoint
  string_type : ∀ descriptor text, call = .load descriptor text → width descriptor = charSize

/-- What a run of calls leaves alone. -/
structure Undisturbed (calls : List (Allocator × HeapCall)) (p : Process Heap) : Prop where
  loads : ∀ t ∈ turns calls p, ∀ descriptor text, t.call = .load descriptor text →
    LoadLaw t.allocator descriptor text t.before
  /-- An object from before a call is there after it and after all the calls, byte for byte. -/
  kept : ∀ t ∈ turns calls p, ∀ address o, t.before.runtime.get? address = some o →
    t.heap.get? address = some o ∧ (lastHeap calls p).get? address = some o
  /-- A loaded string is in the end what it was at first. -/
  readable : ∀ t ∈ turns calls p, ∀ descriptor text address, t.call = .load descriptor text →
    t.address = some address → ∃ o, t.heap.get? address = some o ∧
      (lastHeap calls p).get? address = some o ∧ o.HoldsPadded descriptor text
  fresh : ∀ t ∈ turns calls p, ∀ address, t.address = some address →
    t.before.runtime.get? address = none
  distinct : ((turns calls p).filterMap Turn.address).Nodup

theorem Turn.outcome_of_address {t : Turn} {address : Nat} (h : t.address = some address) :
    t.ending.outcome = .ok (some address) := by
  rw [Turn.address] at h
  rcases houtcome : t.ending.outcome with u | _ | a <;> rw [houtcome] at h <;> cases h
  rfl

namespace HeapCall.Sound

variable {width : UInt64 → Nat} {allocator : Allocator} {call : HeapCall}

/-- The address that a call yields is that of an object. -/
theorem exists_object (sound : call.Sound width allocator) {p : Process Heap} {address : Nat}
    (h : (call.run allocator p).outcome = .ok (some address)) :
    ∃ o, (call.run allocator p).process.runtime.get? address = some o := by
  cases call with
  | load descriptor text =>
    have hstring := sound.string_type descriptor text rfl
    obtain ⟨-, hfilled⟩ := (loadLaw sound.lawful hstring text p).filled address h
    obtain ⟨-, o, -, ho, -⟩ := hfilled.array
    exact ⟨o, ho⟩
  | newArray descriptor length =>
    obtain ⟨o, ho, -⟩ := sound.lawful.newArray descriptor length p address h
    exact ⟨o, ho⟩
  | newObject descriptor =>
    obtain ⟨o, ho, -⟩ := sound.lawful.newObject descriptor p address h
    exact ⟨o, ho⟩

end HeapCall.Sound

section Runs

variable {width : UInt64 → Nat} {calls : List (Allocator × HeapCall)}

/-- Objects outlast all the calls that come after them. -/
theorem get?_lastHeap (sound : ∀ c ∈ calls, c.2.Sound width c.1) {p : Process Heap} {address : Nat}
    {o : Object} (h : p.runtime.get? address = some o) :
    (lastHeap calls p).get? address = some o := by
  induction calls generalizing p with
  | nil => exact h
  | cons c rest ih =>
    obtain ⟨hc, hrest⟩ := List.forall_mem_cons.mp sound
    apply ih hrest
    exact (c.2.extending hc.disjoint).keeps p address o h

/-- Every call of a run is sound, and what it leaves behind is there in the end. -/
theorem of_mem_turns (sound : ∀ c ∈ calls, c.2.Sound width c.1) {p : Process Heap} {t : Turn}
    (h : t ∈ turns calls p) : t.call.Sound width t.allocator ∧
      ∀ address o, t.heap.get? address = some o → (lastHeap calls p).get? address = some o := by
  induction calls generalizing p with
  | nil => cases h
  | cons c rest ih =>
    obtain ⟨hc, hrest⟩ := List.forall_mem_cons.mp sound
    rcases List.mem_cons.mp h with rfl | h
    · refine ⟨hc, ?_⟩
      intro address o ho
      exact get?_lastHeap hrest ho
    · exact ih hrest h

/-- No address that a run hands out was in use before it. -/
theorem get?_address_of_mem_turns (sound : ∀ c ∈ calls, c.2.Sound width c.1) {p : Process Heap}
    {t : Turn} (h : t ∈ turns calls p) {address : Nat} (haddress : t.address = some address) :
    p.runtime.get? address = none := by
  induction calls generalizing p with
  | nil => cases h
  | cons c rest ih =>
    obtain ⟨hc, hrest⟩ := List.forall_mem_cons.mp sound
    have hextends := c.2.extending hc.disjoint
    rcases List.mem_cons.mp h with rfl | h
    · exact hextends.fresh p address (Turn.outcome_of_address haddress)
    · -- An object there before the first call would still be there at the later one.
      have hlater := ih hrest h
      rcases hbefore : p.runtime.get? address with _ | o
      · rfl
      · rw [hextends.keeps p address o hbefore] at hlater
        cases hlater

theorem nodup_addresses (sound : ∀ c ∈ calls, c.2.Sound width c.1) (p : Process Heap) :
    ((turns calls p).filterMap Turn.address).Nodup := by
  induction calls generalizing p with
  | nil => exact List.nodup_nil
  | cons c rest ih =>
    obtain ⟨hc, hrest⟩ := List.forall_mem_cons.mp sound
    have htail := ih hrest (c.2.run c.1 p).process
    rw [turns, List.filterMap_cons]
    split
    · exact htail
    · next address haddress =>
      refine List.nodup_cons.mpr ⟨?_, htail⟩
      -- The object at this address is there when a later call is made.
      intro hmem
      obtain ⟨t, ht, hagain⟩ := List.mem_filterMap.mp hmem
      have hunused := get?_address_of_mem_turns hrest ht hagain
      obtain ⟨o, ho⟩ := hc.exists_object (Turn.outcome_of_address haddress)
      rw [ho] at hunused
      cases hunused

/-- Loads and allocations leave every object as it is: a load writes into no other object than the
one it yields, that one stays as the load left it, and no two calls yield the same one. -/
theorem undisturbed (sound : ∀ c ∈ calls, c.2.Sound width c.1) (p : Process Heap) :
    Undisturbed calls p where
  loads := by
    intro t ht descriptor text hcall
    obtain ⟨hsound, -⟩ := of_mem_turns sound ht
    exact loadLaw hsound.lawful (hsound.string_type descriptor text hcall) text t.before
  kept := by
    intro t ht address o ho
    obtain ⟨hsound, hlast⟩ := of_mem_turns sound ht
    have hafter := (t.call.extending hsound.disjoint).keeps t.before address o ho
    exact ⟨hafter, hlast address o hafter⟩
  readable := by
    intro t ht descriptor text address hcall haddress
    obtain ⟨hsound, hlast⟩ := of_mem_turns sound ht
    have hloaded := Turn.outcome_of_address haddress
    have hload : t.ending = loadLiteral t.allocator descriptor text t.before := by
      rw [Turn.ending, hcall]
      rfl
    rw [hload] at hloaded
    have hstring := hsound.string_type descriptor text hcall
    obtain ⟨-, hfilled⟩ := (loadLaw hsound.lawful hstring text t.before).filled address hloaded
    obtain ⟨-, o, -, ho, -, hholds⟩ := hfilled.array
    rw [← hload] at ho
    exact ⟨o, ho, hlast address o ho, hholds⟩
  fresh := by
    intro t ht address haddress
    obtain ⟨hsound, -⟩ := of_mem_turns sound ht
    exact (t.call.extending hsound.disjoint).fresh t.before address
      (Turn.outcome_of_address haddress)
  distinct := nodup_addresses sound p

end Runs

/-- Two loads of one text, the first from an array with a surplus element, and a refusal between
them. -/
def mixedCalls : List (Allocator × HeapCall) :=
  [(.library (.granted 1), .load 0x40 "é"), (.direct .refused, .newArray 0x40 3),
    (.direct (.granted 0), .load 0x40 "é"), (.library (.granted 0), .newObject 0x4D)]

theorem undisturbed_of_mixedCalls :
    (∀ c ∈ mixedCalls, c.2.Sound (fun _ => charSize) c.1) ∧ Undisturbed mixedCalls ⟨{}, 0, 0⟩ ∧
    (turns mixedCalls ⟨{}, 0, 0⟩).map Turn.address = [some 0, none, some 1, some 2] := by
  have hdirect : ∀ grant (call : HeapCall), call.Sound (fun _ => charSize) (.direct grant) :=
    fun grant _ => ⟨Allocator.direct_lawful grant, Allocator.direct_disjoint grant, fun _ _ _ => rfl⟩
  have hlibrary : ∀ grant (call : HeapCall), call.Sound (fun _ => charSize) (.library grant) := by
    intro grant call
    rw [Allocator.library]
    exact ⟨(Allocator.direct_lawful grant).throughLibrary,
      (Allocator.direct_disjoint grant).throughLibrary, fun _ _ _ => rfl⟩
  have sound : ∀ c ∈ mixedCalls, c.2.Sound (fun _ => charSize) c.1 := by
    intro c hc
    simp only [mixedCalls, List.mem_cons, List.not_mem_nil, or_false] at hc
    rcases hc with rfl | rfl | rfl | rfl
    · exact hlibrary _ _
    · exact hdirect _ _
    · exact hdirect _ _
    · exact hlibrary _ _
  exact ⟨sound, undisturbed sound _, rfl⟩

end ManagedBoot
