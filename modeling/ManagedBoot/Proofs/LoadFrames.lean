import ManagedBoot.Proofs.FlatMemory
/-!
What one load does to a heap.

A request to an allocator that hands out new objects only extends the heap (`Extending`), and so
does a load, since it writes nowhere but into the array that it was granted
(`Allocator.Disjoint.extending_load`). A load makes one request, for as many elements as its text has
units, or none if that number has no signed word; it yields null exactly if there was no request or
null came back, and otherwise it fills the array (`loadLaw`).
-/
namespace ManagedBoot

open Layout

/-! ## Requests that extend the heap -/

/-- Code that leaves every object as it is and yields no address that was in use. -/
structure Extending (x : Run Heap (Option Nat)) : Prop where
  keeps : ∀ p address o, p.runtime.get? address = some o →
    (x p).process.runtime.get? address = some o
  fresh : ∀ p address, (x p).outcome = .ok (some address) → p.runtime.get? address = none

namespace Allocator

/-- An allocator whose objects are all new ones. -/
structure Disjoint (allocator : Allocator) : Prop where
  newObject : ∀ descriptor, Extending (allocator.newObject descriptor)
  newArray : ∀ descriptor length, Extending (allocator.newArray descriptor length)

/-- The allocator with a record of every request, an object being asked for like an empty array. -/
def recording (allocator : Allocator) : Allocator where
  newObject descriptor := do
    Run.event (.allocation descriptor 0)
    allocator.newObject descriptor
  newArray descriptor length := do
    Run.event (.allocation descriptor length)
    allocator.newArray descriptor length

end Allocator

/-- A load extends the heap, for it writes only into the array that it was granted. -/
theorem Allocator.Disjoint.extending_load {allocator : Allocator} (disjoint : allocator.Disjoint)
    (descriptor : UInt64) (text : String) : Extending (loadLiteral allocator descriptor text) := by
  have hrequest := disjoint.newArray descriptor (.ofNat (Utf16.units text).length)
  constructor
  · intro p address o ho
    have hkept := hrequest.keeps p address o ho
    have hfresh := hrequest.fresh p
    have hloads := loadLiteral_loads allocator descriptor text p
    generalize loadLiteral allocator descriptor text p = e at hloads ⊢
    cases hloads with
    | long => exact ho
    | unwound _ request | refused _ request =>
      rw [request] at hkept
      exact hkept
    | @granted granted q out _ request =>
      rw [request] at hkept hfresh
      -- The address was not in use, so it is not that of `o`.
      have hne : granted ≠ address := by
        rintro rfl
        rw [hfresh granted rfl] at ho
        cases ho
      exact (q.runtime.get?_fill_of_ne hne _).trans hkept
  · intro p address loaded
    obtain ⟨q, out, -, request, -⟩ := exists_granted_of_loaded loaded
    have hfresh := hrequest.fresh p address
    rw [request] at hfresh
    exact hfresh rfl

/-! ## One load -/

/-- The heap `h'` is `h` with the units of a text written over the first data of a new array, and
nothing else. -/
structure Heap.FilledAt (h : Heap) (address : Nat) (descriptor : UInt64) (text : String)
    (h' : Heap) : Prop where
  array : ∃ o o', h.get? address = some o ∧ h'.get? address = some o' ∧
    o.Filled (Utf16.units text) o' ∧ o'.HoldsPadded descriptor text
  others : ∀ other, address ≠ other → h'.get? other = h.get? other
  /-- In a flat memory it is one store at the data of the array. -/
  bytes : ∀ place memory, h.LaidOut place memory → h'.LaidOut place
    (memory.store (place address + dataOffset) (unitBytes (Utf16.units text)))

/-- The request for as many elements as a text has units. -/
def Allocator.arrayFor (allocator : Allocator) (descriptor : UInt64) (text : String) :
    Run Heap (Option Nat) :=
  allocator.newArray descriptor (.ofNat (Utf16.units text).length)

/-- What one load asks for, yields and changes. -/
structure LoadLaw (allocator : Allocator) (descriptor : UInt64) (text : String)
    (p : Process Heap) : Prop where
  /-- It makes one request, and none for a text that is too long. -/
  requests : Output.events (loadLiteral allocator.recording descriptor text p).output =
    if (Utf16.units text).length ≤ 2 ^ 31 - 1 then
      .allocation descriptor (.ofNat (Utf16.units text).length) ::
        Output.events (allocator.arrayFor descriptor text p).output
    else []
  /-- The runtime library receives the same number. -/
  libraryRequests : Output.events (loadLiteral allocator.throughLibrary descriptor text p).output =
    if (Utf16.units text).length ≤ 2 ^ 31 - 1 then
      .library (.newArray (.ofNat (Utf16.units text).length)) ::
        Output.events (allocator.arrayFor descriptor text p).output
    else []
  /-- The number of units is neither changed by the unsigned word nor by the signed one. -/
  number : (Utf16.units text).length ≤ 2 ^ 31 - 1 →
    (UInt32.ofNat (Utf16.units text).length).toNat = (Utf16.units text).length ∧
    (UInt32.ofNat (Utf16.units text).length).toInt32.toInt = (Utf16.units text).length
  /-- It yields what the request yields. -/
  outcome : (loadLiteral allocator descriptor text p).outcome =
    if (Utf16.units text).length ≤ 2 ^ 31 - 1 then (allocator.arrayFor descriptor text p).outcome
    else .ok none
  null_iff : (loadLiteral allocator descriptor text p).outcome = .ok none ↔
    2 ^ 31 - 1 < (Utf16.units text).length ∨
      (allocator.arrayFor descriptor text p).outcome = .ok none
  /-- Where it yields null, the heap is as the request left it. -/
  unchanged : (loadLiteral allocator descriptor text p).outcome = .ok none →
    (loadLiteral allocator descriptor text p).process =
      if (Utf16.units text).length ≤ 2 ^ 31 - 1 then (allocator.arrayFor descriptor text p).process
      else p
  filled : ∀ address, (loadLiteral allocator descriptor text p).outcome = .ok (some address) →
    (allocator.arrayFor descriptor text p).outcome = .ok (some address) ∧
    (allocator.arrayFor descriptor text p).process.runtime.FilledAt address descriptor text
      (loadLiteral allocator descriptor text p).process.runtime

theorem outcome_loadLiteral (allocator : Allocator) (descriptor : UInt64) (text : String)
    (p : Process Heap) : (loadLiteral allocator descriptor text p).outcome =
      if (Utf16.units text).length ≤ 2 ^ 31 - 1 then (allocator.arrayFor descriptor text p).outcome
      else .ok none := by
  have hloads := loadLiteral_loads allocator descriptor text p
  generalize loadLiteral allocator descriptor text p = e at hloads ⊢
  cases hloads with
  | long hlong => rw [if_neg (by omega)]
  | unwound hshort request | refused hshort request | granted hshort request =>
    rw [if_pos (by omega), Allocator.arrayFor, request]

/-- What a load shows beside log records is what its request shows. -/
theorem events_loadLiteral (allocator : Allocator) (descriptor : UInt64) (text : String)
    (p : Process Heap) :
    Output.events (loadLiteral allocator descriptor text p).output =
      if (Utf16.units text).length ≤ 2 ^ 31 - 1 then
        Output.events (allocator.arrayFor descriptor text p).output
      else [] := by
  have hloads := loadLiteral_loads allocator descriptor text p
  generalize loadLiteral allocator descriptor text p = e at hloads ⊢
  cases hloads with
  | long hlong =>
    rw [if_neg (by omega)]
    rfl
  | unwound hshort request | granted hshort request =>
    rw [if_pos (by omega), Allocator.arrayFor, request]
  | @refused q out hshort request =>
    rw [if_pos (by omega), Allocator.arrayFor, request]
    show Output.events (out ++ [_]) = Output.events out
    rw [Output.events, List.filterMap_append]
    exact List.append_nil _

/-- The numbers of elements that loads ask for fit into a signed word. -/
theorem toInt32_length {units : List UInt16} (h : units.length < 2 ^ 31) :
    (UInt32.ofNat units.length).toInt32.toInt = units.length := by
  rw [UInt32.toInt32_ofNat']
  exact Int32.toInt_ofNat_of_lt h

namespace Allocator

theorem arrayFor_recording (allocator : Allocator) (descriptor : UInt64) (text : String)
    (p : Process Heap) :
    Output.events (allocator.recording.arrayFor descriptor text p).output =
      .allocation descriptor (.ofNat (Utf16.units text).length) ::
        Output.events (allocator.arrayFor descriptor text p).output := by
  have hevent : (Run.event (.allocation descriptor (.ofNat (Utf16.units text).length)) :
      Run Heap Unit) p = ⟨.ok (), p, [.event (.allocation descriptor _)]⟩ := rfl
  rw [arrayFor, recording]
  dsimp only
  rw [Run.bind_of_ok hevent]
  rfl

/-- The runtime library does not refuse a number that a load asks for. -/
theorem arrayFor_throughLibrary (allocator : Allocator) (descriptor : UInt64) {text : String}
    (h : (Utf16.units text).length < 2 ^ 31) (p : Process Heap) :
    Output.events (allocator.throughLibrary.arrayFor descriptor text p).output =
      .library (.newArray (.ofNat (Utf16.units text).length)) ::
        Output.events (allocator.arrayFor descriptor text p).output := by
  have hevent : (Run.event (.library (.newArray (.ofNat (Utf16.units text).length))) :
      Run Heap Unit) p = ⟨.ok (), p, [.event (.library (.newArray _))]⟩ := rfl
  have hnumber := toNat_length h
  rw [arrayFor, throughLibrary]
  dsimp only
  rw [if_neg (by omega), Run.bind_of_ok hevent]
  rfl

end Allocator

theorem Heap.filledAt {h : Heap} {address : Nat} {descriptor : UInt64} {text : String} {o : Object}
    {length : UInt32} (ho : h.get? address = some o)
    (fresh : o.FreshArray charSize descriptor length)
    (hlength : length.toNat = (Utf16.units text).length) :
    h.FilledAt address descriptor text (h.fill address (Utf16.units text)) where
  array := by
    have hfits : (Utf16.units text).length ≤ o.length.toNat := hlength ▸ fresh.length_le
    exact ⟨o, _, ho, get?_fill_self ho _, fresh.filled hfits, fresh.holdsPadded hlength⟩
  others := fun _ hne => h.get?_fill_of_ne hne _
  bytes := by
    intro place memory laid
    exact laid.store ho (fresh.filled (hlength ▸ fresh.length_le))

theorem loadLaw {width : UInt64 → Nat} {allocator : Allocator} (lawful : allocator.Lawful width)
    {descriptor : UInt64} (string_type : width descriptor = charSize) (text : String)
    (p : Process Heap) : LoadLaw allocator descriptor text p where
  requests := by
    rw [events_loadLiteral, Allocator.arrayFor_recording]
  libraryRequests := by
    rw [events_loadLiteral]
    split
    · exact allocator.arrayFor_throughLibrary descriptor (by omega) p
    · rfl
  number := by
    intro h
    have hshort : (Utf16.units text).length < 2 ^ 31 := by omega
    exact ⟨toNat_length hshort, toInt32_length hshort⟩
  outcome := outcome_loadLiteral allocator descriptor text p
  null_iff := by
    rw [outcome_loadLiteral]
    by_cases hshort : (Utf16.units text).length ≤ 2 ^ 31 - 1
    · rw [if_pos hshort]
      constructor
      · intro hnull
        exact .inr hnull
      · intro h
        exact h.resolve_left (by omega)
    · rw [if_neg hshort]
      exact ⟨fun _ => .inl (by omega), fun _ => rfl⟩
  unchanged := by
    intro hnone
    have hloads := loadLiteral_loads allocator descriptor text p
    generalize loadLiteral allocator descriptor text p = e at hloads hnone ⊢
    cases hloads with
    | long hlong => rw [if_neg (by omega)]
    | unwound | granted => cases hnone
    | refused hshort request => rw [if_pos (by omega), Allocator.arrayFor, request]
  filled := by
    intro address loaded
    obtain ⟨q, out, hshort, request, hfilled⟩ := exists_granted_of_loaded loaded
    obtain ⟨o, ho, hfresh⟩ := lawful.exists_granted request
    rw [string_type] at hfresh
    rw [Allocator.arrayFor, request, hfilled]
    exact ⟨rfl, Heap.filledAt ho hfresh (toNat_length hshort)⟩

end ManagedBoot
