import ManagedBoot.Proofs.ProperTables
import ManagedBoot.Toml.Document
/-!
Documents give proper tables.

Every reader of values yields proper values only: an integer that leaves 64 bits is refused, an
inline table is made by adding its entries, and all other values consist of such. So the statements
of a document are proper, and with them its root (`parse_proper`).
-/
namespace ManagedBoot.Toml

/-- What the reader takes from a text is proper. -/
def Reader.IsProper (item : Reader Value) : Prop :=
  ∀ s rest v, item s = some (v, rest) → v.Proper

theorem Value.Proper.of_map {α : Type} {read : Reader α} {make : α → Value} {s rest : List Char}
    {v : Value} (h : (read s).map (fun (a, rest) => (make a, rest)) = some (v, rest))
    (hmake : ∀ {a s'}, read s = some (a, s') → (make a).Proper) : v.Proper := by
  obtain ⟨⟨a, s'⟩, hread, heq⟩ := Option.map_eq_some_iff.mp h
  cases heq
  exact hmake hread

/-! ## Scalars -/

theorem inRange_of_guarded {read : Option (Int × List Char)} {rest : List Char} {n : Int}
    (h : (read.bind fun (n, rest) => if inRange n then some (n, rest) else none) = some (n, rest)) :
    inRange n = true := by
  obtain ⟨⟨m, s⟩, -, hm⟩ := Option.bind_eq_some_iff.mp h
  dsimp only at hm
  split at hm
  case isTrue range =>
    cases hm
    exact range
  case isFalse => cases hm

theorem inRange_of_integer {s rest : List Char} {n : Int} (h : integer s = some (n, rest)) :
    inRange n = true := by
  unfold integer at h
  split at h
  all_goals exact inRange_of_guarded h

theorem number_proper : Reader.IsProper number := by
  intro s rest v h
  simp only [number, Option.orElse_eq_orElse, Option.orElse_eq_or, Option.or_eq_some_iff] at h
  rcases h with hdate | ⟨-, hdecimal | ⟨-, hnamed | ⟨-, hinteger⟩⟩⟩
  · exact .of_map hdate fun _ => .datetime _
  · exact .of_map hdecimal fun _ => .float _
  · exact .of_map hnamed fun _ => .float _
  · exact .of_map hinteger fun hread => .integer (inRange_of_integer hread)

theorem scalar_proper : Reader.IsProper scalar := by
  intro s rest v h
  unfold scalar at h
  split at h
  case h_1 | h_2 => exact .of_map h fun _ => .string _
  case h_3 | h_4 =>
    cases h
    exact .boolean _
  case h_5 => exact number_proper _ _ _ h

/-! ## Arrays and inline tables -/

section
variable {item : Reader Value}

theorem placed_proper (hitem : item.IsProper) {s rest : List Char} {v : Placed Value}
    (h : placed item s = some (v, rest)) : v.value.Proper := by
  obtain ⟨⟨v', rest'⟩, hread, heq⟩ := Option.map_eq_some_iff.mp h
  cases heq
  exact hitem _ _ _ hread

theorem items_proper (hitem : item.IsProper) {s rest : List Char} {vs : List (Placed Value)}
    (h : items item s = some (vs, rest)) : ∀ v ∈ vs, v.value.Proper := by
  fun_induction items item s generalizing vs rest with
  | case1 =>
    cases h
    simp
  | case2 => cases h
  | case3 s v more rest' hmore hstart hv =>
    cases h
    simpa using placed_proper hitem hv
  | case4 s v rest' more hmore shorter hstart hv ih =>
    obtain ⟨⟨vs', rest''⟩, hrest, heq⟩ := Option.map_eq_some_iff.mp h
    cases heq
    rw [List.forall_mem_cons]
    exact ⟨placed_proper hitem hv, ih hrest⟩
  | case5 => cases h
  | case6 => cases h

theorem keyValue_proper (hitem : item.IsProper) {s rest : List Char}
    {e : List Key × Placed Value} (h : keyValue item s = some (e, rest)) : e.2.value.Proper := by
  rw [keyValue] at h
  split at h
  case h_1 path rest' hkey =>
    obtain ⟨⟨v, rest''⟩, hread, heq⟩ := Option.map_eq_some_iff.mp h
    cases heq
    exact placed_proper hitem hread
  case h_2 => cases h

theorem inlineEntries_proper (hitem : item.IsProper) {s rest : List Char}
    {es : List (List Key × Placed Value)} (h : inlineEntries item s = some (es, rest)) :
    ∀ e ∈ es, e.2.value.Proper := by
  fun_induction inlineEntries item s generalizing es rest with
  | case1 => cases h
  | case2 s e rest' he more hmore =>
    cases h
    simpa using keyValue_proper hitem he
  | case3 s e rest' he more hmore shorter ih =>
    obtain ⟨⟨es', rest''⟩, hrest, heq⟩ := Option.map_eq_some_iff.mp h
    cases heq
    rw [List.forall_mem_cons]
    exact ⟨keyValue_proper hitem he, ih hrest⟩
  | case4 => cases h
  | case5 => cases h

theorem inlineTable_proper (hitem : item.IsProper) : Reader.IsProper (inlineTable item) := by
  intro s rest v h
  rw [inlineTable] at h
  split at h
  case h_1 =>
    cases h
    exact Value.proper_table_iff.mpr Table.proper_nil
  case h_2 =>
    simp only [Option.bind_eq_bind, Option.bind_eq_some_iff] at h
    obtain ⟨⟨es, rest'⟩, hes, t, ht, heq⟩ := h
    cases heq
    exact Value.proper_table_iff.mpr (ofEntries_proper (inlineEntries_proper hitem hes) ht)

end

theorem value_proper : ∀ depth, Reader.IsProper (value depth)
  | 0 => scalar_proper
  | depth + 1 => by
    intro s rest v h
    unfold value at h
    split at h
    case h_1 =>
      exact .of_map h fun hread => .array (items_proper (value_proper depth) hread)
    case h_2 => exact inlineTable_proper (value_proper depth) _ _ _ h
    case h_3 => exact scalar_proper _ _ _ h

/-! ## Statements -/

theorem header_proper {s rest : List Char} {st : Statement} (h : header s = some (st, rest)) :
    st.Proper := by
  unfold header at h
  split at h
  case h_1 =>
    split at h <;> cases h
    trivial
  case h_2 =>
    split at h <;> cases h
    trivial
  case h_3 => cases h

theorem statement_proper {s rest : List Char} {st : Statement}
    (h : statement s = some (st, rest)) : st.Proper := by
  unfold statement at h
  split at h
  -- Both kinds of line are read first and then the end of the line.
  all_goals
    simp only [Option.bind_eq_bind, Option.bind_eq_some_iff] at h
    obtain ⟨⟨st', s'⟩, hread, rest', -, heq⟩ := h
    cases heq
  case h_1 => exact header_proper hread
  case h_2 =>
    obtain ⟨⟨e, s''⟩, hentry, heq⟩ := Option.map_eq_some_iff.mp hread
    cases heq
    exact keyValue_proper (value_proper _) hentry

theorem statements_proper {s : List Char} {sts : List Statement} (h : statements s = some sts) :
    ∀ st ∈ sts, st.Proper := by
  fun_induction statements s generalizing sts with
  | case1 =>
    cases h
    simp
  | case2 s rest shorter hstart hline ih => exact ih h
  | case3 => cases h
  | case4 => cases h
  | case5 s st rest shorter hstart hline hst ih =>
    obtain ⟨sts', hrest, rfl⟩ := Option.map_eq_some_iff.mp h
    rw [List.forall_mem_cons]
    exact ⟨statement_proper hst, ih hrest⟩
  | case6 => cases h

/-- The root of a document is proper. -/
theorem parse_proper {text : String} {root : Placed Table} (h : parse text = some root) :
    root.value.Proper := by
  rw [parse, Option.bind_eq_bind, Option.bind_eq_some_iff] at h
  obtain ⟨sts, hsts, hroot⟩ := h
  exact ofStatements_proper (statements_proper hsts) hroot

end ManagedBoot.Toml
