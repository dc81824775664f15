import ManagedBoot.ArgVector
import ManagedBoot.Proofs.Utf8Decoding
/-!
What an argument vector hands on.

Arguments come out of their vector as what stands before their first NUL (`ArgVector.Renders`). A
decoded text has no NUL that its bytes did not have, so decoded arguments come through a second
vector unchanged (`ArgVector.toStrings_ofArguments_bytes`). Of a vector of any count as many entries
are read as it counts (`ArgVector.ReadsCounted`).
-/
namespace ManagedBoot

namespace Utf8

/-- Decoding makes no NUL. -/
theorem nul_not_mem_decodeLossy {bs : List UInt8} (h : 0 ∉ bs) : Char.ofNat 0 ∉ decodeLossy bs := by
  intro hmem
  obtain ⟨piece, hpiece, hchar⟩ := List.mem_map.mp hmem
  cases piece with
  | none => exact absurd hchar (by decide)
  | some c =>
    cases hchar
    exact h ((cuts_decode bs).mem hpiece (by decide))

theorem nul_not_mem_tails (k n : Nat) : 0 ∉ tails k n := by
  induction k with
  | zero => exact List.not_mem_nil
  | succ k ih =>
    intro hmem
    rcases List.mem_cons.mp hmem with hbyte | hmem
    · have hnat := toNat_tailByte k n
      rw [← hbyte, UInt8.toNat_zero] at hnat
      omega
    · exact ih hmem

/-- NUL alone has a byte that is NUL. -/
theorem eq_nul_of_mem_encodeChar {c : Char} (h : 0 ∈ String.utf8EncodeChar c) :
    c = Char.ofNat 0 := by
  by_cases hone : c.toNat < 0x80
  · rw [encodeChar_one hone, List.mem_singleton] at h
    have hnat : (0 : Nat) = c.toNat % 2 ^ 8 := congrArg UInt8.toNat h
    have hzero : c.toNat = 0 := by omega
    rw [← hzero, Char.ofNat_toNat]
  · obtain ⟨byte, p, hencoded, hlead, -⟩ := exists_lead (Nat.le_of_not_lt hone)
    rw [hencoded] at h
    rcases List.mem_cons.mp h with hbyte | htail
    · -- NUL is a character by itself and begins no sequence.
      rw [← hbyte] at hlead
      cases hlead
    · exact absurd htail (nul_not_mem_tails _ _)

/-- Encoding makes no NUL. -/
theorem nul_not_mem_encode {cs : List Char} (h : Char.ofNat 0 ∉ cs) : 0 ∉ encode cs := by
  intro hmem
  obtain ⟨c, hc, hbyte⟩ := List.mem_flatMap.mp hmem
  rw [eq_nul_of_mem_encodeChar hbyte] at hc
  exact h hc

end Utf8

namespace ArgVector

/-! ## Up to the first NUL -/

/-- The bytes of an argument before its first NUL, all of them if it has none. -/
def BeforeNul (text arg : List UInt8) : Prop :=
  0 ∉ text ∧ (arg = text ∨ ∃ rest, arg = text ++ 0 :: rest)

theorem beforeNul_upToNul (arg : List UInt8) : BeforeNul (upToNul arg) arg := by
  induction arg with
  | nil => exact ⟨List.not_mem_nil, .inl rfl⟩
  | cons byte arg ih =>
    obtain ⟨hnot, hsplit⟩ := ih
    by_cases hbyte : byte = 0
    · rw [hbyte]
      exact ⟨List.not_mem_nil, .inr ⟨arg, rfl⟩⟩
    · have htake : upToNul (byte :: arg) = byte :: upToNul arg :=
        List.takeWhile_cons_of_pos (bne_iff_ne.mpr hbyte)
      rw [htake]
      refine ⟨List.not_mem_cons_of_ne_of_not_mem (Ne.symm hbyte) hnot, ?_⟩
      rcases hsplit with hall | ⟨rest, hrest⟩
      · exact .inl (congrArg _ hall)
      · exact .inr ⟨rest, congrArg _ hrest⟩

theorem upToNul_append {text : List UInt8} (h : 0 ∉ text) (rest : List UInt8) :
    upToNul (text ++ rest) = text ++ upToNul rest := by
  refine List.takeWhile_append_of_pos ?_
  intro byte hbyte
  rw [bne_iff_ne]
  intro hzero
  exact h (hzero ▸ hbyte)

theorem upToNul_of_not_mem {text : List UInt8} (h : 0 ∉ text) : upToNul text = text := by
  have happend := upToNul_append h []
  rw [List.append_nil] at happend
  rw [happend]
  exact List.append_nil text

theorem upToNul_of_beforeNul {text arg : List UInt8} (h : BeforeNul text arg) :
    upToNul arg = text := by
  obtain ⟨hnot, harg | ⟨rest, harg⟩⟩ := h
  · rw [harg, upToNul_of_not_mem hnot]
  · rw [harg, upToNul_append hnot]
    exact List.append_nil text

/-- The text of an argument that was ended by a NUL. -/
theorem decodeEntry_ended {text arg : List UInt8} (h : BeforeNul text arg) :
    decodeEntry (some (upToNul arg ++ [0])) = Utf8.toStringLossy text := by
  rw [upToNul_of_beforeNul h, decodeEntry, upToNul_append h.1]
  exact congrArg Utf8.toStringLossy (List.append_nil text)

/-! ## Vectors of arguments -/

variable {args : List (List UInt8)}

theorem toInt_argc (h : args.length < 2 ^ 31) : (ofArguments args).argc.toInt = args.length := by
  have hsmall : args.length < 0x80000000 := h
  rw [ofArguments, if_pos hsmall]
  exact Int32.toInt_ofNat_of_lt h

theorem size_ofArguments (h : args.length < 2 ^ 31) : (ofArguments args).size = args.length := by
  rw [size, toInt_argc h, Int.toNat_natCast]

/-- No more entries are read than there are arguments. -/
theorem toStrings_ofArguments (h : args.length < 2 ^ 31) (more : List (Option (List UInt8))) :
    (ofRaw (ofArguments args).argc ((ofArguments args).argv ++ more)).toStrings =
      args.map fun arg => decodeEntry (some (upToNul arg ++ [0])) := by
  have hsize : (ofRaw (ofArguments args).argc ((ofArguments args).argv ++ more)).size =
      (args.map fun arg => some (upToNul arg ++ [0])).length := by
    rw [List.length_map]
    exact size_ofArguments h
  rw [toStrings, hsize]
  show List.map decodeEntry (List.take _ (List.map _ args ++ [none] ++ more)) = _
  rw [List.append_assoc, List.take_left, List.map_map]
  rfl

/-- A vector of the given arguments, and what is read from it. -/
structure Renders (v : ArgVector) (args : List (List UInt8)) : Prop where
  argc : v.argc.toInt = args.length
  entry : ∀ (i : Nat) (arg : List UInt8), args[i]? = some arg →
    ∃ text, BeforeNul text arg ∧ v.argv[i]? = some (some (text ++ [0]))
  terminator : v.argv[args.length]? = some none
  /-- Count and entries say it all, whatever follows the entries. -/
  raw : ∀ more, (ofRaw v.argc (v.argv ++ more)).toStrings = v.toStrings
  length : v.toStrings.length = args.length
  text : ∀ (i : Nat) (arg : List UInt8) (s : String), args[i]? = some arg →
    BeforeNul (Utf8.bytes s) arg → v.toStrings[i]? = some s

theorem renders_ofArguments (h : args.length < 2 ^ 31) : (ofArguments args).Renders args := by
  have hstrings := toStrings_ofArguments h
  have hown := hstrings []
  rw [List.append_nil] at hown
  have hown : (ofArguments args).toStrings = _ := hown
  exact {
    argc := toInt_argc h
    entry := by
      intro i arg harg
      have hlt : i < (args.map fun arg => some (upToNul arg ++ [0])).length := by
        rw [List.length_map]
        exact (List.getElem?_eq_some_iff.mp harg).1
      refine ⟨upToNul arg, beforeNul_upToNul arg, ?_⟩
      rw [ofArguments, List.getElem?_append_left hlt, List.getElem?_map, harg]
      rfl
    terminator := by
      have hlength : (args.map fun arg => some (upToNul arg ++ [0])).length = args.length :=
        List.length_map _
      rw [ofArguments, ← hlength, List.getElem?_concat_length]
    raw := fun more => by rw [hstrings, hown]
    length := by rw [hown, List.length_map]
    text := by
      intro i arg s harg hbefore
      rw [hown, List.getElem?_map, harg, Option.map_some, decodeEntry_ended hbefore,
        Utf8.toStringLossy_bytes]
  }

/-! ## Vectors of any count -/

theorem size_lt (v : ArgVector) : v.size < 2 ^ 31 := by
  have hlt := v.argc.toInt_lt
  rw [size]
  omega

theorem nul_not_mem_decodeEntry (entry : Option (List UInt8)) :
    Char.ofNat 0 ∉ (decodeEntry entry).toList := by
  cases entry with
  | none => exact List.not_mem_nil
  | some bytes =>
    rw [decodeEntry, Utf8.toStringLossy, String.toList_ofList]
    exact Utf8.nul_not_mem_decodeLossy (beforeNul_upToNul bytes).1

/-- Decoded arguments come through another vector unchanged. -/
theorem toStrings_ofArguments_bytes (v : ArgVector) :
    (ofArguments (v.toStrings.map Utf8.bytes)).toStrings = v.toStrings := by
  have hlength : (v.toStrings.map Utf8.bytes).length < 2 ^ 31 := by
    have hsize := v.size_lt
    rw [List.length_map, toStrings, List.length_map, List.length_take]
    omega
  have hstrings := toStrings_ofArguments hlength []
  rw [List.append_nil] at hstrings
  rw [List.map_map] at hstrings
  refine hstrings.trans ((List.map_congr_left ?_).trans (List.map_id _))
  intro s hs
  obtain ⟨entry, -, rfl⟩ := List.mem_map.mp hs
  have hnul : 0 ∉ Utf8.bytes (decodeEntry entry) :=
    Utf8.nul_not_mem_encode (nul_not_mem_decodeEntry entry)
  show decodeEntry (some (upToNul (Utf8.bytes (decodeEntry entry)) ++ [0])) = decodeEntry entry
  rw [decodeEntry_ended ⟨hnul, .inl rfl⟩, Utf8.toStringLossy_bytes]

/-- What is read of a vector that somebody else made. -/
structure ReadsCounted (argc : Int32) (argv : List (Option (List UInt8))) : Prop where
  /-- As many entries are read as the vector counts, none if the count is negative. -/
  length : argc.toInt ≤ argv.length → ((ofRaw argc argv).toStrings.length : Int) = max argc.toInt 0
  null : ∀ i : Nat, i < argc.toInt → argv[i]? = some none →
    (ofRaw argc argv).toStrings[i]? = some ""
  entry : ∀ (i : Nat) (text bytes : List UInt8), i < argc.toInt → argv[i]? = some (some bytes) →
    BeforeNul text bytes → (ofRaw argc argv).toStrings[i]? = some (Utf8.toStringLossy text)
  /-- No other entry is looked at. -/
  unread : ∀ other, (∀ i : Nat, i < argc.toInt → other[i]? = argv[i]?) →
    (ofRaw argc other).toStrings = (ofRaw argc argv).toStrings

theorem getElem?_toStrings {argc : Int32} {argv : List (Option (List UInt8))} {i : Nat}
    (h : i < argc.toInt) : (ofRaw argc argv).toStrings[i]? = argv[i]?.map decodeEntry := by
  have hlt : i < (ofRaw argc argv).size := by
    show i < argc.toInt.toNat
    omega
  rw [toStrings, List.getElem?_map, List.getElem?_take, if_pos hlt]
  rfl

theorem readsCounted (argc : Int32) (argv : List (Option (List UInt8))) :
    ReadsCounted argc argv where
  length := by
    intro h
    rw [toStrings, List.length_map, List.length_take]
    show ((min argc.toInt.toNat argv.length : Nat) : Int) = _
    omega
  null := by
    intro i hi hnull
    rw [getElem?_toStrings hi, hnull]
    rfl
  entry := by
    intro i text bytes hi hentry hbefore
    rw [getElem?_toStrings hi, hentry, Option.map_some, decodeEntry, upToNul_of_beforeNul hbefore]
  unread := by
    intro other hother
    refine congrArg (List.map decodeEntry) (List.ext_getElem? ?_)
    intro i
    rw [List.getElem?_take, List.getElem?_take]
    by_cases hi : i < argc.toInt.toNat
    · show (if i < argc.toInt.toNat then _ else _) = if i < argc.toInt.toNat then _ else _
      rw [if_pos hi, if_pos hi]
      exact hother i (by omega)
    · show (if i < argc.toInt.toNat then _ else _) = if i < argc.toInt.toNat then _ else _
      rw [if_neg hi, if_neg hi]

end ArgVector

/-- Arguments go into a vector and come out of it as their text before the first NUL, decoded
arguments unchanged, and the entries of any vector are read as far as it counts. -/
theorem arguments_rendered :
    (∀ args : List (List UInt8), args.length ≤ 2 ^ 31 - 1 →
      (ArgVector.ofArguments args).Renders args) ∧
    (∀ v : ArgVector,
      (ArgVector.ofArguments (v.toStrings.map Utf8.bytes)).toStrings = v.toStrings) ∧
    ∀ argc argv, ArgVector.ReadsCounted argc argv :=
  ⟨fun _ h => ArgVector.renders_ofArguments (by omega), ArgVector.toStrings_ofArguments_bytes,
    ArgVector.readsCounted⟩

/-- An argument with a NUL inside, an empty one and one that is not well-formed. -/
theorem arguments_rendered_of_mixed :
    [[0x61, 0, 0x62], [], [0xC3]].length ≤ 2 ^ 31 - 1 ∧
      (ArgVector.ofArguments [[0x61, 0, 0x62], [], [0xC3]]).Renders [[0x61, 0, 0x62], [], [0xC3]] :=
  have h : [[0x61, 0, 0x62], [], [0xC3]].length ≤ 2 ^ 31 - 1 := by decide
  ⟨h, arguments_rendered.1 [[0x61, 0, 0x62], [], [0xC3]] h⟩

end ManagedBoot
