import ManagedBoot.Toml.StringForm
/-!
Written strings read back.

Each of the four forms is undone by its reader, whatever follows the closing delimiter as long as it
is no quote (`string_writeString`). A character between double quotes stands for itself or is
escaped (`Escaped`), and both readers of escaped text undo that alike (`Unescapes`). Quotes that
stand for themselves come at most two in a row, so three of them close a string of several lines,
and up to two more in front of these belong to the text.
-/
namespace ManagedBoot

theorem hexDigit?_upperHexDigit :
    ∀ n < 16, hexDigit? (Toml.upperHexDigit n) = some n := by decide

theorem scalar?_toNat (c : Char) : scalar? c.toNat = some c := by
  have valid : c.toNat.isValidChar := c.valid
  rw [scalar?, if_pos valid, Char.ofNat_toNat]

namespace Toml

/-! ## Characters -/

theorem newline_of_ne {c : Char} {rest : List Char} (hn : c ≠ '\n') (hr : c ≠ '\r') :
    newline (c :: rest) = none := by
  unfold newline
  split <;> simp_all

theorem toNat_of_isControl {c : Char} (h : isControl c = true) : c.toNat < 256 := by
  simp only [isControl, Bool.or_eq_true, Bool.and_eq_true, decide_eq_true_eq] at h
  rcases h with ⟨⟨h, -⟩, -⟩ | rfl
  · have h : c.toNat < 32 := h
    omega
  · decide

theorem isCommentChar_of_not_control {c : Char} (h : isControl c = false) (hn : c ≠ '\n') :
    isCommentChar c = true := by
  simp only [isControl, Bool.or_eq_false_iff, Bool.and_eq_false_iff, decide_eq_false_iff_not] at h
  simp only [isCommentChar, isVisible, Bool.or_eq_true, Bool.and_eq_true, decide_eq_true_eq]
  obtain ⟨h, hdel⟩ := h
  by_cases ht : c = '\t'
  · exact .inl ht
  · refine .inr ⟨?_, hdel⟩
    rcases h with (h | h) | h
    · exact Char.not_lt.mp h
    · exact absurd ht h
    · exact absurd hn h

theorem ne_of_isBasicChar {c d : Char} (h : isBasicChar c = true) (hd : isBasicChar d = false) :
    c ≠ d := by
  rintro rfl
  simp [h] at hd

/-- The letters of escapes end no line. -/
theorem atLineEnd_of_simpleEscape {c l : Char} {rest : List Char} (h : simpleEscape? l = some c) :
    atLineEnd (l :: rest) = false := by
  unfold simpleEscape? at h
  split at h <;> first | rfl | cases h

/-! ## Escapes -/

/-- The written forms of a character other than a quote or a line feed. -/
inductive Escaped (c : Char) : List Char → Prop where
  | bare (basic : isBasicChar c = true) : Escaped c [c]
  | letter (l : Char) (escape : simpleEscape? l = some c) : Escaped c ['\\', l]
  | code (small : c.toNat < 256) : Escaped c (codeEscape c)

theorem escaped_escapeChar {c : Char} (hq : c ≠ '"') (hn : c ≠ '\n') :
    Escaped c (escapeChar c) := by
  unfold escapeChar
  split
  case h_6 hbackslash =>
    split
    case isTrue h => exact .code (toNat_of_isControl h)
    case isFalse h =>
      have hcomment := isCommentChar_of_not_control (Bool.eq_false_iff.mpr h) hn
      exact .bare (by simpa [isBasicChar, hcomment, hq] using hbackslash)
  all_goals exact .letter _ rfl

theorem Escaped.head {c : Char} {written : List Char} (h : Escaped c written) :
    ∃ d t, written = d :: t ∧ d ≠ '"' ∧ d ≠ '\n' ∧ d ≠ '\r' := by
  cases h with
  | bare basic =>
    exact ⟨c, [], rfl, ne_of_isBasicChar basic rfl, ne_of_isBasicChar basic rfl,
      ne_of_isBasicChar basic rfl⟩
  | letter l => exact ⟨'\\', [l], rfl, by decide⟩
  | code => exact ⟨'\\', _, rfl, by decide⟩

/-- A reader that undoes escapes. -/
structure Unescapes (read : Reader (List Char)) : Prop where
  bare : ∀ {c rest}, isBasicChar c = true → read (c :: rest) = cons c (read rest)
  letter : ∀ {c l rest}, simpleEscape? l = some c → read ('\\' :: l :: rest) = cons c (read rest)
  code : ∀ {c rest}, c.toNat < 256 → read (codeEscape c ++ rest) = cons c (read rest)

theorem Unescapes.escaped {read : Reader (List Char)} (h : Unescapes read) {c : Char}
    {written rest : List Char} (hw : Escaped c written) :
    read (written ++ rest) = cons c (read rest) := by
  cases hw with
  | bare basic => exact h.bare basic
  | letter l escape => exact h.letter escape
  | code small => exact h.code small

/-- The digits of a code point escape give back the character. -/
theorem scalar?_digits {c : Char} (h : c.toNat < 256) :
    hexDigit? (upperHexDigit (c.toNat / 16)) = some (c.toNat / 16) ∧
    hexDigit? (upperHexDigit (c.toNat % 16)) = some (c.toNat % 16) ∧
    scalar? (c.toNat / 16 * 16 + c.toNat % 16) = some c := by
  refine ⟨hexDigit?_upperHexDigit _ (by omega), hexDigit?_upperHexDigit _ (by omega), ?_⟩
  rw [Nat.div_add_mod']
  exact scalar?_toNat c

theorem unescapes_basicString : Unescapes (basicString (.plain false)) where
  bare h := by
    have hq := ne_of_isBasicChar h (d := '"') rfl
    have hb := ne_of_isBasicChar h (d := '\\') rfl
    rw [basicString, if_neg hq, if_neg hb, if_pos h]
  letter h := by simp [basicString, h]
  code h := by
    obtain ⟨hhigh, hlow, hscalar⟩ := scalar?_digits h
    have hzero : hexDigit? '0' = some 0 := rfl
    simp [codeEscape, basicString, simpleEscape?, codeWidth?, hzero, hhigh, hlow, hscalar]

theorem unescapes_multiBasicString : Unescapes (multiBasicString (.plain false)) where
  bare h := by
    have hq := ne_of_isBasicChar h (d := '"') rfl
    have hb := ne_of_isBasicChar h (d := '\\') rfl
    have hr := ne_of_isBasicChar h (d := '\r') rfl
    have hn := ne_of_isBasicChar h (d := '\n') rfl
    simp [multiBasicString, hq, hb, hr, hn, h]
  letter h := by simp [multiBasicString, h, atLineEnd_of_simpleEscape h]
  code h := by
    obtain ⟨hhigh, hlow, hscalar⟩ := scalar?_digits h
    have hzero : hexDigit? '0' = some 0 := rfl
    have hline : ∀ rest, atLineEnd ('u' :: rest) = false := fun _ => rfl
    simp [codeEscape, multiBasicString, simpleEscape?, codeWidth?, hzero, hhigh, hlow, hscalar,
      hline]

theorem escapeBasic_of_ne {c : Char} (hq : c ≠ '"') (hn : c ≠ '\n') (allowed run : Nat)
    (s : List Char) :
    escapeBasic allowed run (c :: s) = escapeChar c ++ escapeBasic allowed 0 s := by
  rw [escapeBasic, if_neg hq, if_neg hn]

/-- What is written of a character starts with a quote only if the quote may stand there. -/
theorem escapeBasic_head {allowed run : Nat} {c : Char} (h : c = '"' → allowed ≤ run)
    (s : List Char) :
    ∃ d t, escapeBasic allowed run (c :: s) = d :: t ∧ d ≠ '"' := by
  by_cases hq : c = '"'
  · exact ⟨'\\', _, by rw [escapeBasic, if_pos hq, if_neg (by have := h hq; omega)], by decide⟩
  by_cases hn : c = '\n'
  · subst hn
    by_cases ha : allowed = 0
    · exact ⟨'\\', _, by rw [escapeBasic, if_neg hq, if_pos rfl, if_pos ha], by decide⟩
    · exact ⟨'\n', _, by rw [escapeBasic, if_neg hq, if_pos rfl, if_neg ha], by decide⟩
  · rw [escapeBasic_of_ne hq hn]
    obtain ⟨d, t, hw, hd, -⟩ := (escaped_escapeChar hq hn).head
    exact ⟨d, _, by rw [hw, List.cons_append], hd⟩

theorem basicString_escapeBasic : ∀ s rest : List Char,
    basicString (.plain false) (escapeBasic 0 0 s ++ '"' :: rest) = some (s, rest)
  | [], rest => by simp [escapeBasic, basicString]
  | c :: s, rest => by
    have ih := basicString_escapeBasic s rest
    by_cases hq : c = '"'
    · subst hq
      rw [escapeBasic, if_pos rfl, if_neg (by omega), List.cons_append, List.cons_append,
        unescapes_basicString.letter rfl, ih]
      rfl
    by_cases hn : c = '\n'
    · subst hn
      rw [escapeBasic, if_neg hq, if_pos rfl, if_pos rfl, List.cons_append, List.cons_append,
        unescapes_basicString.letter rfl, ih]
      rfl
    · rw [escapeBasic_of_ne hq hn, List.append_assoc,
        unescapes_basicString.escaped (escaped_escapeChar hq hn), ih]
      rfl

/-! ## Several lines -/

/-- Up to two quotes in front of the closing ones belong to the text. -/
theorem closing?_quotes {q : Char} {quotes rest : List Char}
    (h : quotes = [] ∨ quotes = [q] ∨ quotes = [q, q]) (hrest : ∀ c ∈ rest.head?, c ≠ q) :
    closing? q (quotes ++ q :: q :: q :: rest) = some (quotes, rest) := by
  rcases rest with _ | ⟨d, _ | ⟨e, more⟩⟩ <;> rcases h with rfl | rfl | rfl <;>
    simp_all [closing?]

theorem closing?_second {q b : Char} (h : b ≠ q) (a : Char) (rest : List Char) :
    closing? q (a :: b :: rest) = none := by
  cases rest <;> simp [closing?, h]

theorem closing?_third {q c : Char} (h : c ≠ q) (a b : Char) (rest : List Char) :
    closing? q (a :: b :: c :: rest) = none := by
  simp [closing?, h]

/-- A quote that stands for itself closes the string only together with the delimiter. -/
theorem closing?_escapeBasic {rest : List Char} (hrest : ∀ c ∈ rest.head?, c ≠ '"') {run : Nat}
    (hrun : run < 2) (s : List Char) :
    let written := '"' :: (escapeBasic 2 (run + 1) s ++ '"' :: '"' :: '"' :: rest)
    closing? '"' written = some ('"' :: s, rest) ∨ closing? '"' written = none := by
  match s with
  | [] => exact .inl (closing?_quotes (.inr (.inl rfl)) hrest)
  | c :: s =>
    -- Either what follows the quote is written without one, or a second quote stands there and
    -- what follows that is.
    by_cases hc : c = '"' → 2 ≤ run + 1
    · obtain ⟨d, t, hw, hd⟩ := escapeBasic_head hc s
      rw [hw]
      exact .inr (closing?_second hd _ _)
    · simp only [Classical.not_imp, Nat.not_le] at hc
      obtain ⟨rfl, hrun'⟩ := hc
      obtain rfl : run = 0 := by omega
      rw [escapeBasic, if_pos rfl, if_pos (by omega)]
      match s with
      | [] => exact .inl (closing?_quotes (.inr (.inr rfl)) hrest)
      | d :: s =>
        have hd : d = '"' → 2 ≤ 2 := fun _ => Nat.le_refl 2
        obtain ⟨e, t, hw, he⟩ := escapeBasic_head hd s
        rw [hw]
        exact .inr (closing?_third he _ _ _)

theorem multiBasicString_escapeBasic {rest : List Char} (hrest : ∀ c ∈ rest.head?, c ≠ '"') :
    ∀ (s : List Char) (run : Nat),
    multiBasicString (.plain false) (escapeBasic 2 run s ++ '"' :: '"' :: '"' :: rest) =
      some (s, rest)
  | [], run => by
    have hclose := closing?_quotes (.inl rfl) hrest
    rw [List.nil_append] at hclose
    simp [escapeBasic, multiBasicString, hclose]
  | c :: s, run => by
    -- `run` counts the quotes written just before; the third in a row is escaped.
    by_cases hq : c = '"'
    · subst hq
      by_cases hrun : run < 2
      · have ih := multiBasicString_escapeBasic hrest s (run + 1)
        rw [escapeBasic, if_pos rfl, if_pos hrun, List.cons_append]
        rcases closing?_escapeBasic hrest hrun s with hclose | hclose <;>
          simp [multiBasicString, hclose, ih, cons]
      · have ih := multiBasicString_escapeBasic hrest s 0
        rw [escapeBasic, if_pos rfl, if_neg hrun, List.cons_append, List.cons_append,
          unescapes_multiBasicString.letter rfl, ih]
        rfl
    have ih := multiBasicString_escapeBasic hrest s 0
    by_cases hn : c = '\n'
    · subst hn
      rw [escapeBasic, if_neg hq, if_pos rfl, if_neg (by omega), List.cons_append]
      simp [multiBasicString, ih, cons]
    · rw [escapeBasic_of_ne hq hn, List.append_assoc,
        unescapes_multiBasicString.escaped (escaped_escapeChar hq hn), ih]
      rfl

/-! ## Literal strings -/

theorem isLiteralChar_of_not_control {c : Char} (h : isControl c = false) (hn : c ≠ '\n')
    (hq : c ≠ '\'') : isLiteralChar c = true := by
  simp [isLiteralChar, isCommentChar_of_not_control h hn, hq]

theorem literalString_append : ∀ (s rest : List Char), (∀ c ∈ s, isLiteralChar c = true) →
    literalString (s ++ '\'' :: rest) = some (s, rest)
  | [], rest, _ => by simp [literalString]
  | c :: s, rest, h => by
    have hc := h c List.mem_cons_self
    have hq : c ≠ '\'' := by
      rintro rfl
      exact absurd hc (by decide)
    have ih := literalString_append s rest fun d hd => h d (List.mem_cons_of_mem c hd)
    rw [List.cons_append, literalString, if_neg hq, if_pos hc, ih]
    rfl

theorem closing?_literal {rest : List Char} (hrest : ∀ c ∈ rest.head?, c ≠ '\'') (s : List Char)
    (h : hasTriple '\'' ('\'' :: s) = false) :
    let written := '\'' :: (s ++ '\'' :: '\'' :: '\'' :: rest)
    closing? '\'' written = some ('\'' :: s, rest) ∨ closing? '\'' written = none := by
  match s with
  | [] => exact .inl (closing?_quotes (.inr (.inl rfl)) hrest)
  | c :: s =>
    by_cases hc : c = '\''
    · subst hc
      match s with
      | [] => exact .inl (closing?_quotes (.inr (.inr rfl)) hrest)
      | d :: s =>
        have hd : d ≠ '\'' := by
          rintro rfl
          simp [hasTriple] at h
        exact .inr (closing?_third hd _ _ _)
    · exact .inr (closing?_second hc _ _)

theorem hasTriple_tail {q c : Char} {s : List Char} (h : hasTriple q (c :: s) = false) :
    hasTriple q s = false := by
  match s with
  | [] | [_] => rfl
  | a :: b :: s =>
    rw [hasTriple, Bool.or_eq_false_iff] at h
    exact h.2

theorem multiLiteralString_append {rest : List Char} (hrest : ∀ c ∈ rest.head?, c ≠ '\'') :
    ∀ s : List Char, (∀ c ∈ s, isControl c = false) → hasTriple '\'' s = false →
    multiLiteralString (s ++ '\'' :: '\'' :: '\'' :: rest) = some (s, rest)
  | [], _, _ => by
    have hclose := closing?_quotes (.inl rfl) hrest
    rw [List.nil_append] at hclose
    simp [multiLiteralString, hclose]
  | c :: s, hcontrol, htriple => by
    have hc := hcontrol c List.mem_cons_self
    have ih := multiLiteralString_append hrest s
      (fun d hd => hcontrol d (List.mem_cons_of_mem c hd)) (hasTriple_tail htriple)
    have hr : c ≠ '\r' := by
      rintro rfl
      exact absurd hc (by decide)
    rw [List.cons_append, multiLiteralString, if_neg hr]
    by_cases hq : c = '\''
    · subst hq
      rcases closing?_literal hrest s htriple with hclose | hclose <;> simp [hclose, ih, cons]
    · rw [if_neg hq, if_pos, ih]
      · rfl
      · by_cases hn : c = '\n'
        · simp [hn]
        · simp [isLiteralChar_of_not_control hc hn hq]

/-! ## All forms -/

/-- The line end after an opening delimiter is there exactly if the text has one of its own, so none
of the text is taken for it. -/
theorem skipFirstNewline_openingLine {s body : List Char}
    (h : '\n' ∉ s → newline body = none) : skipFirstNewline (openingLine s ++ body) = body := by
  by_cases hs : '\n' ∈ s
  · simp [openingLine, hs, skipFirstNewline, newline]
  · simp [openingLine, hs, skipFirstNewline, h hs]

theorem string_basic {t : List Char} (h : ∀ u, t ≠ '"' :: '"' :: u) :
    string ('"' :: t) =
      (basicString (.plain false) t).map fun (text, rest) => (String.ofList text, rest) := by
  unfold string
  split
  case h_1 u heq => exact absurd (List.cons.inj heq).2 (h u)
  all_goals simp_all

theorem string_literal {t : List Char} (h : ∀ u, t ≠ '\'' :: '\'' :: u) :
    string ('\'' :: t) =
      (literalString t).map fun (text, rest) => (String.ofList text, rest) := by
  unfold string
  split
  case h_3 u heq => exact absurd (List.cons.inj heq).2 (h u)
  all_goals simp_all

theorem Traits.control_of {s : List Char} (h : (Traits.of s).control = false) :
    ∀ c ∈ s, isControl c = false := by
  simpa [Traits.of] using h

theorem StringForm.of_literal {t : Traits} (h : StringForm.of t = .literal) :
    t.control = false ∧ t.singleQuote = false ∧ t.lineFeed = false := by
  unfold StringForm.of at h
  repeat' split at h
  all_goals simp_all

theorem StringForm.of_multiLiteral {t : Traits} (h : StringForm.of t = .multiLiteral) :
    t.control = false ∧ t.tripleSingle = false := by
  unfold StringForm.of at h
  repeat' split at h
  all_goals simp_all

section
variable {rest : List Char}

theorem string_write_basic (hrest : ∀ c ∈ rest.head?, c ≠ '"') (s : List Char) :
    string (StringForm.basic.write s ++ rest) = some (String.ofList s, rest) := by
  have hread := basicString_escapeBasic s rest
  -- Three quotes at the start would open a string of several lines.
  have hsingle : ∀ u, escapeBasic 0 0 s ++ '"' :: rest ≠ '"' :: '"' :: u := by
    rintro u heq
    cases s with
    | nil =>
      obtain rfl : rest = '"' :: u := by simpa [escapeBasic] using heq
      exact hrest '"' rfl rfl
    | cons c s =>
      have hc : c = '"' → 0 ≤ 0 := fun _ => Nat.le_refl 0
      obtain ⟨d, t, hw, hd⟩ := escapeBasic_head hc s
      rw [hw] at heq
      exact hd (List.cons.inj heq).1
  rw [StringForm.write, List.cons_append, List.append_assoc, List.singleton_append,
    string_basic hsingle, hread]
  rfl

theorem string_write_literal (hrest : ∀ c ∈ rest.head?, c ≠ '\'') {s : List Char}
    (h : ∀ c ∈ s, isLiteralChar c = true) :
    string (StringForm.literal.write s ++ rest) = some (String.ofList s, rest) := by
  have hread := literalString_append s rest h
  have hsingle : ∀ u, s ++ '\'' :: rest ≠ '\'' :: '\'' :: u := by
    rintro u heq
    cases s with
    | nil =>
      obtain rfl : rest = '\'' :: u := by simpa using heq
      exact hrest '\'' rfl rfl
    | cons c s =>
      have hc := h c List.mem_cons_self
      rw [(List.cons.inj heq).1] at hc
      exact absurd hc (by decide)
  rw [StringForm.write, List.cons_append, List.append_assoc, List.singleton_append,
    string_literal hsingle, hread]
  rfl

theorem string_write_multiBasic (hrest : ∀ c ∈ rest.head?, c ≠ '"') (s : List Char) :
    string (StringForm.multiBasic.write s ++ rest) = some (String.ofList s, rest) := by
  have hread := multiBasicString_escapeBasic hrest s 0
  have hskip :
      skipFirstNewline (openingLine s ++ (escapeBasic 2 0 s ++ '"' :: '"' :: '"' :: rest)) =
        escapeBasic 2 0 s ++ '"' :: '"' :: '"' :: rest := by
    refine skipFirstNewline_openingLine fun hs => ?_
    cases s with
    | nil => rfl
    | cons c s =>
      by_cases hq : c = '"'
      · subst hq
        rfl
      · have hn : c ≠ '\n' := fun hn => hs (by simp [hn])
        obtain ⟨d, t, hw, -, hdn, hdr⟩ := (escaped_escapeChar hq hn).head
        rw [escapeBasic_of_ne hq hn, hw]
        exact newline_of_ne hdn hdr
  have hwritten : StringForm.multiBasic.write s ++ rest = '"' :: '"' :: '"' ::
      (openingLine s ++ (escapeBasic 2 0 s ++ '"' :: '"' :: '"' :: rest)) := by
    simp [StringForm.write]
  rw [hwritten, string, hskip, hread]
  rfl

theorem string_write_multiLiteral (hrest : ∀ c ∈ rest.head?, c ≠ '\'') {s : List Char}
    (hcontrol : ∀ c ∈ s, isControl c = false) (htriple : hasTriple '\'' s = false) :
    string (StringForm.multiLiteral.write s ++ rest) = some (String.ofList s, rest) := by
  have hread := multiLiteralString_append hrest s hcontrol htriple
  have hskip : skipFirstNewline (openingLine s ++ (s ++ '\'' :: '\'' :: '\'' :: rest)) =
      s ++ '\'' :: '\'' :: '\'' :: rest := by
    refine skipFirstNewline_openingLine fun hs => ?_
    cases s with
    | nil => rfl
    | cons c s =>
      have hc := hcontrol c List.mem_cons_self
      refine newline_of_ne (fun hn => hs (by simp [hn])) ?_
      rintro rfl
      exact absurd hc (by decide)
  have hwritten : StringForm.multiLiteral.write s ++ rest = '\'' :: '\'' :: '\'' ::
      (openingLine s ++ (s ++ '\'' :: '\'' :: '\'' :: rest)) := by
    simp [StringForm.write]
  rw [hwritten, string, hskip, hread]
  rfl

/-- A written text is read back from in front of anything but a quote. -/
theorem string_writeString (s : List Char) (hrest : ∀ c ∈ rest.head?, c ≠ '"' ∧ c ≠ '\'') :
    string (writeString s ++ rest) = some (String.ofList s, rest) := by
  have hdouble : ∀ c ∈ rest.head?, c ≠ '"' := fun c hc => (hrest c hc).1
  have hsingle : ∀ c ∈ rest.head?, c ≠ '\'' := fun c hc => (hrest c hc).2
  unfold writeString
  cases hform : StringForm.of (Traits.of s) with
  | basic => exact string_write_basic hdouble s
  | literal =>
    obtain ⟨hcontrol, hquote, hline⟩ := StringForm.of_literal hform
    have hcontrol := Traits.control_of hcontrol
    simp only [Traits.of, List.contains_eq_mem, decide_eq_false_iff_not] at hquote hline
    refine string_write_literal hsingle fun c hc => ?_
    refine isLiteralChar_of_not_control (hcontrol c hc) ?_ ?_
    · rintro rfl
      exact hline hc
    · rintro rfl
      exact hquote hc
  | multiBasic => exact string_write_multiBasic hdouble s
  | multiLiteral =>
    obtain ⟨hcontrol, htriple⟩ := StringForm.of_multiLiteral hform
    exact string_write_multiLiteral hsingle (Traits.control_of hcontrol) htriple

end
end Toml
end ManagedBoot
