import ManagedBoot.Proofs.StringRoundTrip
import ManagedBoot.Toml.Document
/-!
Documents that are written line by line.

A plain document consists of empty lines, headers with one name and entries with one name. Its
statements are those of its lines, one for each that is not empty (`statements_text`). What they say
is compared without the places where they stand (`Statement.meaning`).
-/
namespace ManagedBoot.Toml

/-- What a statement says, wherever it stands. -/
inductive Meaning where
  | header (path : List String)
  | arrayHeader (path : List String)
  | entry (path : List String) (value : Value)

def Statement.meaning : Statement → Meaning
  | .header path _ => .header (path.map (·.text))
  | .arrayHeader path _ => .arrayHeader (path.map (·.text))
  | .entry path v => .entry (path.map (·.text)) v.value

theorem Statement.exists_header {st : Statement} {name : String}
    (h : st.meaning = .header [name]) : ∃ span span', st = .header [⟨name, span⟩] span' := by
  match st with
  | .header [⟨text, span⟩] span' =>
    cases h
    exact ⟨span, span', rfl⟩
  | .header [] _ | .header (_ :: _ :: _) _ | .arrayHeader _ _ | .entry _ _ =>
    simp [Statement.meaning] at h

theorem Statement.exists_entry {st : Statement} {name : String} {v : Value}
    (h : st.meaning = .entry [name] v) : ∃ span span', st = .entry [⟨name, span⟩] ⟨v, span'⟩ := by
  match st with
  | .entry [⟨text, span⟩] ⟨v', span'⟩ =>
    cases h
    exact ⟨span, span', rfl⟩
  | .entry [] _ | .entry (_ :: _ :: _) _ | .arrayHeader _ _ | .header _ _ =>
    simp [Statement.meaning] at h

/-- Statements that say entries with one name each are those of a table. -/
theorem Statement.exists_entries {named : List (String × Value)} {sts : List Statement}
    (h : sts.map Statement.meaning = named.map fun e => .entry [e.1] e.2) :
    ∃ t : Table, sts = t.map (fun e => .entry [e.1] e.2) ∧
      t.map (fun e => (e.1.text, e.2.value)) = named := by
  induction named generalizing sts with
  | nil =>
    rw [List.map_nil, List.map_eq_nil_iff] at h
    exact ⟨[], h, rfl⟩
  | cons e named ih =>
    rw [List.map_cons, List.map_eq_cons_iff] at h
    obtain ⟨st, sts, rfl, hst, hsts⟩ := h
    obtain ⟨span, span', rfl⟩ := st.exists_entry hst
    obtain ⟨t, rfl, rfl⟩ := ih hsts
    exact ⟨(⟨e.1, span⟩, ⟨e.2, span'⟩) :: t, rfl, rfl⟩

/-- A line of a plain document. -/
inductive Line where
  | blank
  | header (name : List Char)
  | entry (name written : List Char) (value : Value)

namespace Line

def text : Line → List Char
  | .blank => ['\n']
  | .header name => '[' :: (name ++ [']', '\n'])
  | .entry name written _ => name ++ ' ' :: '=' :: ' ' :: (written ++ ['\n'])

def meaning : Line → Option Meaning
  | .blank => none
  | .header name => some (.header [String.ofList name])
  | .entry name _ value => some (.entry [String.ofList name] value)

end Line

/-- A name that needs no quotes. -/
def IsBare (name : List Char) : Prop := name ≠ [] ∧ ∀ c ∈ name, isBareKeyChar c = true

instance (name : List Char) : Decidable (IsBare name) :=
  decidable_of_iff ((!name.isEmpty && name.all isBareKeyChar) = true) (by simp [IsBare])

/-- A text that starts a value and is read as it, up to the end of its line. -/
def Writes (written : List Char) (v : Value) : Prop :=
  (∀ rest, skipBlanks (written ++ rest) = written ++ rest) ∧
    ∀ rest, value (nestingLimit - 1) (written ++ '\n' :: rest) = some (v, '\n' :: rest)

/-- Its names need no quotes and its values are read back. -/
def Line.Plain : Line → Prop
  | .blank => True
  | .header name => IsBare name
  | .entry name written value => IsBare name ∧ Writes written value

/-! ## Keys -/

theorem ne_of_isBareKeyChar {c d : Char} (h : isBareKeyChar c = true)
    (hd : isBareKeyChar d = false) : c ≠ d := by
  rintro rfl
  simp [h] at hd

theorem skipBlanks_of_not_blank {c : Char} {rest : List Char} (h : isBlank c = false) :
    skipBlanks (c :: rest) = c :: rest := by simp [skipBlanks, h]

theorem isBlank_of_isBareKeyChar {c : Char} (h : isBareKeyChar c = true) : isBlank c = false := by
  have hspace := ne_of_isBareKeyChar h (d := ' ') rfl
  have htab := ne_of_isBareKeyChar h (d := '\t') rfl
  simp [isBlank, hspace, htab]

section
variable {name rest : List Char}

theorem keyPart_bare (h : IsBare name) (hrest : ∀ c ∈ rest.head?, isBareKeyChar c = false) :
    keyPart (name ++ rest) = some (String.ofList name, rest) := by
  have htake : (name ++ rest).takeWhile isBareKeyChar = name := by
    rw [List.takeWhile_append_of_pos h.2]
    cases rest <;> simp_all
  have hdrop : (name ++ rest).dropWhile isBareKeyChar = rest := by
    rw [List.dropWhile_append_of_pos h.2]
    cases rest <;> simp_all
  obtain ⟨hne, hbare⟩ := h
  obtain ⟨c, name, rfl⟩ := List.exists_cons_of_ne_nil hne
  have hc := hbare c List.mem_cons_self
  unfold keyPart
  split
  case h_1 heq => exact absurd (List.cons.inj heq).1 (ne_of_isBareKeyChar hc rfl)
  case h_2 heq => exact absurd (List.cons.inj heq).1 (ne_of_isBareKeyChar hc rfl)
  case h_3 => rw [htake, hdrop]; rfl

/-- A bare name in front of something that is neither part of it nor a dot is a key. -/
theorem key_bare (h : IsBare name) {c : Char} {after : List Char}
    (hrest : ∀ c ∈ rest.head?, isBareKeyChar c = false) (hafter : skipBlanks rest = c :: after)
    (hdot : c ≠ '.') :
    ∃ k, key (name ++ rest) = some ([k], c :: after) ∧ k.text = String.ofList name := by
  have hstart : skipBlanks (name ++ rest) = name ++ rest := by
    obtain ⟨d, name, rfl⟩ := List.exists_cons_of_ne_nil h.1
    exact skipBlanks_of_not_blank (isBlank_of_isBareKeyChar (h.2 d List.mem_cons_self))
  have hparts : keyParts (name ++ rest) =
      some ([⟨String.ofList name, .between (name ++ rest) rest⟩], c :: after) := by
    rw [keyParts, hstart, keyPart_bare h hrest]
    simp only [hafter]
    split
    · simp_all
    · rfl
  refine ⟨⟨String.ofList name, .between (name ++ rest) rest⟩, ?_, rfl⟩
  simp [key, hparts, nestingLimit]

/-! ## Statements -/

theorem lineEnd_newline (rest : List Char) : lineEnd ('\n' :: rest) = some rest := rfl

theorem statement_header (h : IsBare name) (rest : List Char) :
    ∃ st, statement ('[' :: (name ++ ']' :: '\n' :: rest)) = some (st, rest) ∧
      st.meaning = .header [String.ofList name] := by
  have hend : ∀ c ∈ (']' :: '\n' :: rest).head?, isBareKeyChar c = false := by
    intro c hc
    cases hc
    rfl
  obtain ⟨k, hkey, htext⟩ := key_bare h hend (skipBlanks_of_not_blank rfl) (by decide)
  obtain ⟨c, name', rfl⟩ := List.exists_cons_of_ne_nil h.1
  have hc : c ≠ '[' := ne_of_isBareKeyChar (h.2 c List.mem_cons_self) rfl
  rw [List.cons_append] at hkey ⊢
  obtain ⟨span, hheader⟩ : ∃ span, header ('[' :: c :: (name' ++ ']' :: '\n' :: rest)) =
      some (.header [k] span, '\n' :: rest) :=
    ⟨.between ('[' :: c :: (name' ++ ']' :: '\n' :: rest)) ('\n' :: rest), by
      simp [header, hc, hkey]⟩
  refine ⟨.header [k] span, ?_, by simp [Statement.meaning, htext]⟩
  simp [statement, hheader, lineEnd_newline]

theorem statement_entry {written : List Char} {v : Value} (h : IsBare name)
    (hw : Writes written v) (rest : List Char) :
    ∃ st, statement (name ++ ' ' :: '=' :: ' ' :: (written ++ '\n' :: rest)) = some (st, rest) ∧
      st.meaning = .entry [String.ofList name] v := by
  obtain ⟨hstart, hvalue⟩ := hw
  have hend : ∀ c ∈ (' ' :: '=' :: ' ' :: (written ++ '\n' :: rest)).head?,
      isBareKeyChar c = false := by
    intro c hc
    cases hc
    rfl
  obtain ⟨k, hkey, htext⟩ := key_bare h hend (c := '=') rfl (by decide)
  obtain ⟨span, hentry⟩ : ∃ span, keyValue (value (nestingLimit - 1))
      (name ++ ' ' :: '=' :: ' ' :: (written ++ '\n' :: rest)) =
        some (([k], ⟨v, span⟩), '\n' :: rest) := by
    have hskip : skipBlanks (' ' :: (written ++ '\n' :: rest)) = written ++ '\n' :: rest :=
      hstart ('\n' :: rest)
    refine ⟨some (.between (written ++ '\n' :: rest) ('\n' :: rest)), ?_⟩
    rw [keyValue, hkey]
    simp only [hskip, placed, hvalue rest, Option.map_some]
  obtain ⟨c, name', rfl⟩ := List.exists_cons_of_ne_nil h.1
  have hc : c ≠ '[' := ne_of_isBareKeyChar (h.2 c List.mem_cons_self) rfl
  rw [List.cons_append] at hentry ⊢
  refine ⟨.entry [k] ⟨v, span⟩, ?_, by simp [Statement.meaning, htext]⟩
  simp [statement, hc, hentry, lineEnd_newline]

/-! ## Values -/

/-- Outside brackets and braces a value has no parts. -/
theorem value_eq_scalar {c : Char} (hbracket : c ≠ '[') (hbrace : c ≠ '{') (s : List Char) :
    ∀ depth, value depth (c :: s) = scalar (c :: s)
  | 0 => rfl
  | depth + 1 => by simp [value, hbracket, hbrace]

theorem writeString_head (s : List Char) :
    ∃ t, writeString s = '"' :: t ∨ writeString s = '\'' :: t := by
  unfold writeString
  cases StringForm.of (Traits.of s) with
  | basic | multiBasic => exact ⟨_, .inl rfl⟩
  | literal | multiLiteral => exact ⟨_, .inr rfl⟩

theorem writes_string (s : List Char) : Writes (writeString s) (.string (String.ofList s)) := by
  have hread (rest : List Char) :
      string (writeString s ++ '\n' :: rest) = some (String.ofList s, '\n' :: rest) :=
    string_writeString s (by simp)
  obtain ⟨t, hs | hs⟩ := writeString_head s <;> rw [hs] at hread ⊢ <;>
    refine ⟨fun rest => skipBlanks_of_not_blank rfl, fun rest => ?_⟩ <;>
    rw [List.cons_append, value_eq_scalar (by decide) (by decide), scalar, ← List.cons_append,
      hread] <;>
    rfl

theorem writes_true : Writes ['t', 'r', 'u', 'e'] (.boolean true) :=
  ⟨fun _ => skipBlanks_of_not_blank rfl, fun _ => value_eq_scalar (by decide) (by decide) _ _⟩

theorem writes_false : Writes ['f', 'a', 'l', 's', 'e'] (.boolean false) :=
  ⟨fun _ => skipBlanks_of_not_blank rfl, fun _ => value_eq_scalar (by decide) (by decide) _ _⟩

/-! ## Lines -/

/-- A line that is not empty starts with something that is not skipped. -/
theorem Line.text_head {l : Line} (plain : l.Plain) {m : Meaning} (h : l.meaning = some m) :
    ∃ c text, l.text = c :: text ∧ isBlank c = false ∧ c ≠ '#' ∧ c ≠ '\n' ∧ c ≠ '\r' := by
  cases l with
  | blank => cases h
  | header name => exact ⟨'[', _, rfl, rfl, by decide, by decide, by decide⟩
  | entry name written v =>
    obtain ⟨⟨hne, hbare⟩, -⟩ := plain
    obtain ⟨c, name, rfl⟩ := List.exists_cons_of_ne_nil hne
    have hc := hbare c List.mem_cons_self
    exact ⟨c, _, rfl, isBlank_of_isBareKeyChar hc, ne_of_isBareKeyChar hc rfl,
      ne_of_isBareKeyChar hc rfl, ne_of_isBareKeyChar hc rfl⟩

theorem Line.statement_text {l : Line} (plain : l.Plain) {m : Meaning} (h : l.meaning = some m)
    (rest : List Char) :
    ∃ st, statement (l.text ++ rest) = some (st, rest) ∧ st.meaning = m := by
  cases l with
  | blank => cases h
  | header name =>
    cases h
    simpa [text] using statement_header plain rest
  | entry name written v =>
    cases h
    simpa [text] using statement_entry plain.1 plain.2 rest

/-! ## Documents -/

theorem statements_nil : statements [] = some [] := by
  rw [statements]
  rfl

theorem statements_newline (rest : List Char) : statements ('\n' :: rest) = statements rest := by
  rw [statements]
  simp [skipBlanks_of_not_blank, isBlank, lineEnd_newline]

/-- A line that is not empty gives its statement. -/
theorem statements_cons {l : Line} (plain : l.Plain) {m : Meaning} (h : l.meaning = some m)
    (rest : List Char) :
    ∃ st, statements (l.text ++ rest) = (statements rest).map (st :: ·) ∧ st.meaning = m := by
  obtain ⟨st, hstatement, hst⟩ := l.statement_text plain h rest
  obtain ⟨c, text, htext, hblank, hcomment, hn, hr⟩ := l.text_head plain h
  rw [htext, List.cons_append] at hstatement ⊢
  have hline : lineEnd (c :: (text ++ rest)) = none := by
    simp [lineEnd, skipBlanks_of_not_blank hblank, skipComment, hcomment, newline_of_ne hn hr]
  have shorter : rest.length < (c :: (text ++ rest)).length := by
    rw [List.length_cons, List.length_append]
    omega
  refine ⟨st, ?_, hst⟩
  rw [statements, skipBlanks_of_not_blank hblank]
  simp only [hline, hstatement, if_pos shorter]

/-- The statements of a plain document are those of its lines. -/
theorem statements_text : ∀ lines : List Line, (∀ l ∈ lines, l.Plain) →
    ∃ sts, statements (lines.flatMap Line.text) = some sts ∧
      sts.map Statement.meaning = lines.filterMap Line.meaning
  | [], _ => ⟨[], statements_nil, rfl⟩
  | l :: lines, plain => by
    obtain ⟨sts, hsts, hmeaning⟩ := statements_text lines fun k hk =>
      plain k (List.mem_cons_of_mem l hk)
    rw [List.flatMap_cons, List.filterMap_cons]
    cases hm : l.meaning with
    | none =>
      have hblank : l.text = ['\n'] := by cases l <;> first | rfl | cases hm
      refine ⟨sts, ?_, hmeaning⟩
      rw [hblank, ← hsts]
      exact statements_newline _
    | some m =>
      obtain ⟨st, hstatements, hst⟩ :=
        statements_cons (plain l List.mem_cons_self) hm (lines.flatMap Line.text)
      refine ⟨st :: sts, ?_, by rw [List.map_cons, hst, hmeaning]⟩
      rw [hstatements, hsts]
      rfl

end
end ManagedBoot.Toml
