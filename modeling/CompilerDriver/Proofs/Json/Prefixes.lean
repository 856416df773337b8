import CompilerDriver.Json.Parser
import CompilerDriver.Proofs.Json.Scanning

/-!
# Documents that begin other documents

No document is the beginning of another one, blanks at the end and plain numbers apart
(`ofChars?_append`). A document that was cut short is thus none, and neither is one with something behind it.

The brackets need not be counted for this. Where the parser has a whole value, it takes no further token
(`step_after`), so a list of tokens that forms a value does not go on to form another (`ofTokens?_append`).
And a text that goes on keeps the tokens that it had, but for a number at its very end, which may
grow (`scan_append`). A number that grew stands for a number in the same place, so the parser gets as far
with it as it did before.
-/

namespace CompilerDriver

open Digits

namespace JsonToken

/-! ## Strings -/

/-- A literal that has its closing quote is read alike whatever follows. -/
theorem stringBody_append {cs tail : List Char} {pieces : List Piece}
    (h : stringBody cs = some (pieces, tail)) (ds : List Char) :
    stringBody (cs ++ ds) = some (pieces, tail ++ ds) := by
  obtain ⟨text, rfl, hbody⟩ := isBody_of_stringBody h
  rw [List.append_assoc, List.cons_append, hbody.read]

/-! ## Numbers -/

/-- Where a run of digits stopped, it stops whatever follows. -/
theorem takeWhile_of_stopped {cs : List Char} (h : cs.dropWhile isDigit ≠ []) (ds : List Char) :
    (cs ++ ds).takeWhile isDigit = cs.takeWhile isDigit ∧
      (cs ++ ds).dropWhile isDigit = cs.dropWhile isDigit ++ ds := by
  have hlength : (cs.takeWhile isDigit).length ≠ cs.length := by
    intro hall
    have hsum := congrArg List.length (List.takeWhile_append_dropWhile (p := isDigit) (l := cs))
    rw [List.length_append] at hsum
    exact h (List.length_eq_zero_iff.1 (by omega))
  rw [List.takeWhile_append, List.dropWhile_append, if_neg hlength, if_neg (by simpa using h)]
  exact ⟨rfl, rfl⟩

theorem minusSign_of_stopped {cs : List Char} (h : cs ≠ []) (ds : List Char) :
    minusSign (cs ++ ds) = ((minusSign cs).1, (minusSign cs).2 ++ ds) := by
  cases cs with
  | nil => exact absurd rfl h
  | cons c cs =>
    by_cases hminus : c = '-'
    · rw [hminus]
      rfl
    · simp [minusSign, hminus]

theorem eitherSign_of_stopped {cs : List Char} (h : cs ≠ []) (ds : List Char) :
    eitherSign (cs ++ ds) = ((eitherSign cs).1, (eitherSign cs).2 ++ ds) := by
  cases cs with
  | nil => exact absurd rfl h
  | cons c cs =>
    by_cases hplus : c = '+'
    · rw [hplus]
      rfl
    · by_cases hminus : c = '-'
      · rw [hminus]
        rfl
      · simp [eitherSign, hplus, hminus]

theorem fractionDigits_of_stopped {cs digits rest : List Char}
    (h : fractionDigits cs = some (digits, rest)) (hrest : rest ≠ []) (ds : List Char) :
    fractionDigits (cs ++ ds) = some (digits, rest ++ ds) := by
  rw [fractionDigits.eq_def] at h
  split at h
  next tail =>
    dsimp only at h
    split at h
    next => cases h
    next hdigits =>
      cases h
      obtain ⟨htake, hdrop⟩ := takeWhile_of_stopped hrest ds
      rw [List.cons_append, fractionDigits, htake, hdrop, if_neg hdigits]
  next hpoint =>
    cases h
    cases cs with
    | nil => exact absurd rfl hrest
    | cons c tail =>
      rw [List.cons_append, fractionDigits.eq_def]
      split
      next heq => exact absurd (by rw [(List.cons.inj heq).1]) (hpoint tail)
      next => rfl

theorem exponentPart_of_stopped {cs rest : List Char} {exponent? : Option Int}
    (h : exponentPart cs = some (exponent?, rest)) (hrest : rest ≠ []) (ds : List Char) :
    exponentPart (cs ++ ds) = some (exponent?, rest ++ ds) := by
  cases cs with
  | nil =>
    cases h
    exact absurd rfl hrest
  | cons c cs =>
    rw [exponentPart] at h
    rw [List.cons_append, exponentPart]
    split at h
    next hmark =>
      dsimp only at h
      split at h
      next => cases h
      next hdigits =>
        cases h
        have hsign : cs ≠ [] := by
          rintro rfl
          exact hdigits rfl
        obtain ⟨htake, hdrop⟩ := takeWhile_of_stopped hrest ds
        rw [if_pos hmark, eitherSign_of_stopped hsign]
        dsimp only
        rw [htake, hdrop, if_neg hdigits]
    next hmark =>
      cases h
      rw [if_neg hmark]
      rfl

/-- A number that something follows is read alike whatever follows that. -/
theorem scanNumber_of_stopped {cs rest : List Char} {n : JsonNumber}
    (h : scanNumber cs = some (n, rest)) (hrest : rest ≠ []) (ds : List Char) :
    scanNumber (cs ++ ds) = some (n, rest ++ ds) := by
  have hcs : cs ≠ [] := by
    rintro rfl
    cases h
  rw [scanNumber] at h ⊢
  rw [minusSign_of_stopped hcs]
  dsimp only at h ⊢
  split at h
  next => cases h
  next hwhole =>
    split at h
    next => cases h
    next digits tail hfraction =>
      -- what ends a later part stands behind the earlier parts, too
      have stopped {exponent? : Option Int} {rest' : List Char}
          (hexponent : exponentPart tail = some (exponent?, rest')) (hrest' : rest' ≠ []) :
          tail ≠ [] ∧ (minusSign cs).2.dropWhile isDigit ≠ [] := by
        have htail : tail ≠ [] := by
          rintro rfl
          cases hexponent
          exact hrest' rfl
        refine ⟨htail, fun hnil => ?_⟩
        rw [hnil] at hfraction
        cases hfraction
        exact htail rfl
      split at h
      next => cases h
      next rest' hexponent =>
        have hrest' : rest' = rest := by
          split at h <;> exact (Prod.mk.inj (Option.some.inj h)).2
        subst hrest'
        obtain ⟨htail, hpoint⟩ := stopped hexponent hrest
        obtain ⟨htake, hdrop⟩ := takeWhile_of_stopped hpoint ds
        rw [htake, hdrop, if_neg hwhole, fractionDigits_of_stopped hfraction htail]
        dsimp only
        rw [exponentPart_of_stopped hexponent hrest]
        dsimp only
        split at h
        next hdigits =>
          cases h
          rw [if_pos hdigits]
        next hdigits =>
          cases h
          rw [if_neg hdigits]
      next exponent rest' hexponent =>
        cases h
        obtain ⟨htail, hpoint⟩ := stopped hexponent hrest
        obtain ⟨htake, hdrop⟩ := takeWhile_of_stopped hpoint ds
        rw [htake, hdrop, if_neg hwhole, fractionDigits_of_stopped hfraction htail]
        dsimp only
        rw [exponentPart_of_stopped hexponent hrest]

/-! ## Tokens -/

theorem finishWord_append {token token' : JsonToken} {word rest rest' : List Char}
    (h : finishWord token word rest = some (token', rest')) (ds : List Char) :
    finishWord token word (rest ++ ds) = some (token', rest' ++ ds) := by
  rw [finishWord] at h
  split at h
  next hprefix =>
    cases h
    obtain ⟨tail, rfl⟩ := List.isPrefixOf_iff_prefix.1 hprefix
    rw [finishWord, List.append_assoc, List.drop_left, List.drop_left, if_pos]
    exact List.isPrefixOf_iff_prefix.2 (List.prefix_append word (tail ++ ds))
  next => cases h

/-- The first character of a token tells how the token is read. -/
theorem next_cases (c : Char) :
    (∃ mark, ∀ rest, next c rest = some (mark, rest)) ∨
    (∀ rest, next c rest = (stringBody rest).map fun found =>
      (.string ((assemble found.1).map String.ofList), found.2)) ∨
    (∃ token word, ∀ rest, next c rest = finishWord token word rest) ∨
    ∀ rest, next c rest = (scanNumber (c :: rest)).map fun found => (.number found.1, found.2) := by
  by_cases hmark : c = '\x7b' ∨ c = '\x7d' ∨ c = '[' ∨ c = ']' ∨ c = ',' ∨ c = ':'
  · left
    rcases hmark with rfl | rfl | rfl | rfl | rfl | rfl <;> exact ⟨_, fun _ => rfl⟩
  by_cases hquote : c = '"'
  · subst hquote
    exact .inr (.inl fun _ => rfl)
  by_cases hword : c = 'n' ∨ c = 't' ∨ c = 'f'
  · right; right; left
    rcases hword with rfl | rfl | rfl <;> exact ⟨_, _, fun _ => rfl⟩
  · right; right; right
    intro rest
    simp only [not_or] at hmark hword
    simp only [next, hmark, hquote, hword, ↓reduceIte]

/-- A token is read alike whatever follows. Only a number with nothing behind it may go on, as
another number. -/
theorem next_append {c : Char} {rest rest' : List Char} {token : JsonToken}
    (h : next c rest = some (token, rest')) (ds : List Char) :
    next c (rest ++ ds) = some (token, rest' ++ ds) ∨
    rest' = [] ∧ (∃ m, token = .number m) ∧
      ∀ token' tail, next c (rest ++ ds) = some (token', tail) → ∃ n, token' = .number n := by
  rcases next_cases c with ⟨mark, hnext⟩ | hnext | ⟨token', word, hnext⟩ | hnext
  · left
    rw [hnext] at h ⊢
    cases h
    rfl
  · left
    rw [hnext] at h ⊢
    obtain ⟨⟨pieces, tail⟩, hbody, hfound⟩ := Option.map_eq_some_iff.1 h
    cases hfound
    rw [stringBody_append hbody]
    rfl
  · left
    rw [hnext] at h ⊢
    exact finishWord_append h ds
  · rw [hnext] at h
    obtain ⟨⟨m, tail⟩, hscan, hfound⟩ := Option.map_eq_some_iff.1 h
    cases hfound
    by_cases hrest : tail = []
    · refine .inr ⟨hrest, ⟨m, rfl⟩, fun token' tail' h' => ?_⟩
      rw [hnext] at h'
      obtain ⟨⟨n, _⟩, -, hfound⟩ := Option.map_eq_some_iff.1 h'
      exact ⟨n, (Prod.mk.inj hfound).1.symm⟩
    · left
      rw [hnext, ← List.cons_append, scanNumber_of_stopped hscan hrest]
      rfl

/-- A text of tokens is at its end, begins with a blank or begins with a token. -/
theorem scan_cases {cs : List Char} {ts : List JsonToken} (h : scan cs = some ts) :
    (cs = [] ∧ ts = []) ∨
    (∃ c rest, cs = c :: rest ∧ isSpace c = true ∧ scan rest = some ts) ∨
    ∃ c rest token rest' later, cs = c :: rest ∧ isSpace c = false ∧
      next c rest = some (token, rest') ∧ ts = token :: later ∧ scan rest' = some later := by
  cases cs with
  | nil =>
    rw [scan] at h
    cases h
    exact .inl ⟨rfl, rfl⟩
  | cons c rest =>
    rw [scan] at h
    split at h
    next hspace => exact .inr (.inl ⟨c, rest, rfl, hspace, h⟩)
    next hspace =>
      split at h
      next => cases h
      next token rest' hnext =>
        obtain ⟨later, hlater, rfl⟩ := Option.map_eq_some_iff.1 h
        exact .inr (.inr ⟨c, rest, token, rest', later, rfl, by simpa using hspace, hnext, rfl, hlater⟩)

/-- The tokens of a text stay when more text follows, but for a number at its very end. -/
theorem scan_append {cs ds : List Char} {ts us : List JsonToken} (h : scan cs = some ts)
    (h' : scan (cs ++ ds) = some us) :
    (∃ later, scan ds = some later ∧ us = ts ++ later) ∨
    ∃ before m n later, ts = before ++ [.number m] ∧ us = before ++ .number n :: later := by
  induction hlength : cs.length using Nat.strongRecOn generalizing cs ts us with
  | ind n ih =>
    rcases scan_cases h with ⟨rfl, rfl⟩ | ⟨c, rest, rfl, hspace, hrest⟩ |
      ⟨c, rest, token, rest', later, rfl, hspace, hnext, rfl, hrest⟩
    · exact .inl ⟨us, h', rfl⟩
    · rw [List.cons_append, scan_space hspace] at h'
      exact ih rest.length (by rw [← hlength]; exact Nat.lt_succ_self _) hrest h' rfl
    · rcases next_append hnext ds with hsame | ⟨rfl, ⟨m, rfl⟩, hnumber⟩
      · rw [List.cons_append, scan_token hspace hsame] at h'
        obtain ⟨us, hus, rfl⟩ := Option.map_eq_some_iff.1 h'
        have hshorter : rest'.length < n := by
          rw [← hlength]
          exact Nat.lt_succ_of_le (length_next hnext)
        rcases ih rest'.length hshorter hrest hus rfl with ⟨more, hmore, rfl⟩ |
          ⟨before, m, n, more, rfl, rfl⟩
        · exact .inl ⟨more, hmore, rfl⟩
        · exact .inr ⟨token :: before, m, n, more, rfl, rfl⟩
      · -- the number ends the text, so it is the last token
        have hlater : later = [] := by
          rw [scan] at hrest
          exact (Option.some.inj hrest).symm
        subst hlater
        rw [List.cons_append] at h'
        rcases scan_cases h' with ⟨hnil, -⟩ | ⟨c', rest', heq, hspace', -⟩ |
          ⟨c', rest', token, tail, later, heq, -, hnext', rfl, -⟩
        · cases hnil
        · cases heq
          rw [hspace] at hspace'
          cases hspace'
        · cases heq
          obtain ⟨n, rfl⟩ := hnumber token tail hnext'
          exact .inr ⟨[], m, n, later, rfl, rfl⟩

/-- A text without tokens is blank. -/
theorem isSpace_of_scan_eq_nil {cs : List Char} (h : scan cs = some []) :
    ∀ c ∈ cs, isSpace c = true := by
  induction cs with
  | nil => exact fun c hc => absurd hc List.not_mem_nil
  | cons c rest ih =>
    rcases scan_cases h with ⟨hnil, -⟩ | ⟨c', rest', heq, hspace, hrest⟩ |
      ⟨c', rest', token, tail, later, heq, -, -, hcons, -⟩
    · cases hnil
    · cases heq
      exact List.forall_mem_cons.2 ⟨hspace, ih hrest⟩
    · cases hcons

end JsonToken

/-! ## Values -/

namespace Json

/-- Nothing may follow a whole value. -/
theorem step_after (value : Json) (token : JsonToken) : step (.after value []) token = none := by
  cases token <;> rfl

theorem foldlM_after {tokens : List JsonToken} {value : Json} {reached : Expectation}
    (h : tokens.foldlM step (.after value []) = some reached) :
    tokens = [] ∧ reached = .after value [] := by
  cases tokens with
  | nil =>
    cases h
    exact ⟨rfl, rfl⟩
  | cons token tokens =>
    rw [List.foldlM_cons, step_after] at h
    cases h

/-- A number completes the whole value only where nothing stands before it. -/
theorem eq_value_of_step_number {expected : Expectation} {n : JsonNumber} {value : Json}
    (h : step expected (.number n) = some (.after value [])) :
    expected = .value [] ∧ value = .number n := by
  cases expected with
  | value stack =>
    cases h
    exact ⟨rfl, rfl⟩
  | firstItem stack => cases h
  | firstMember stack => cases h
  | member members stack => cases h
  | colon members name stack => cases h
  | after value stack =>
    cases stack with
    | nil => cases h
    | cons frame stack => cases frame <;> cases h

theorem ofTokens?_eq_some {tokens : List JsonToken} {value : Json} (h : ofTokens? tokens = some value) :
    tokens.foldlM step (.value []) = some (.after value []) := by
  rw [ofTokens?] at h
  split at h
  next heq =>
    cases h
    exact heq
  next => cases h

/-- The tokens of a value are no beginning of the tokens of another one. -/
theorem ofTokens?_append {ts us : List JsonToken} {value other : Json}
    (h : ofTokens? ts = some value) (h' : ofTokens? (ts ++ us) = some other) :
    us = [] ∧ other = value := by
  have hus := ofTokens?_eq_some h'
  rw [List.foldlM_append, ofTokens?_eq_some h] at hus
  obtain ⟨hnil, hreached⟩ := foldlM_after hus
  cases hreached
  exact ⟨hnil, rfl⟩

/-- Tokens that end in a number form a value only if they are this number. Any other number in its place
is then a value, too, and nothing may follow it. -/
theorem ofTokens?_number {before later : List JsonToken} {m n : JsonNumber} {value other : Json}
    (h : ofTokens? (before ++ [.number m]) = some value)
    (h' : ofTokens? (before ++ .number n :: later) = some other) :
    value = .number m ∧ other = .number n := by
  have hm := ofTokens?_eq_some h
  have hn := ofTokens?_eq_some h'
  rw [List.foldlM_append] at hm hn
  obtain ⟨expected, hbefore, hstep⟩ := Option.bind_eq_some_iff.1 hm
  rw [List.foldlM_cons] at hstep
  obtain ⟨reached, hstep, hreached⟩ := Option.bind_eq_some_iff.1 hstep
  cases hreached
  obtain ⟨rfl, hvalue⟩ := eq_value_of_step_number hstep
  rw [hbefore] at hn
  change later.foldlM step (.after (.number n) []) = some (.after other []) at hn
  obtain ⟨-, hother⟩ := foldlM_after hn
  cases hother
  exact ⟨hvalue, rfl⟩

/-- No document begins another one, blanks at the end apart. Only a plain number may go on, as another
number. -/
theorem ofChars?_append {cs ds : List Char} {value other : Json} (h : ofChars? cs = some value)
    (h' : ofChars? (cs ++ ds) = some other) :
    (other = value ∧ ∀ c ∈ ds, JsonToken.isSpace c = true) ∨
    ∃ m n, value = .number m ∧ other = .number n := by
  obtain ⟨ts, hts, hvalue⟩ := Option.bind_eq_some_iff.1 h
  obtain ⟨us, hus, hother⟩ := Option.bind_eq_some_iff.1 h'
  rcases JsonToken.scan_append hts hus with ⟨later, hlater, rfl⟩ | ⟨before, m, n, later, rfl, rfl⟩
  · obtain ⟨rfl, hsame⟩ := ofTokens?_append hvalue hother
    exact .inl ⟨hsame, JsonToken.isSpace_of_scan_eq_nil hlater⟩
  · exact .inr ⟨m, n, ofTokens?_number hvalue hother⟩

/-- An object that was cut short is no document. -/
theorem ofChars?_torn {front back : List Char} {members : List (JsonText × Json)}
    (h : ofChars? (front ++ back) = some (.object members))
    (hback : ∃ c ∈ back, JsonToken.isSpace c = false) : ofChars? front = none := by
  cases hfront : ofChars? front with
  | none => rfl
  | some value =>
    obtain ⟨c, hc, hmark⟩ := hback
    rcases ofChars?_append hfront h with ⟨-, hspaces⟩ | ⟨m, n, -, hnumber⟩
    · rw [hspaces c hc] at hmark
      cases hmark
    · cases hnumber

/-- An object with anything but blanks behind it is no document. -/
theorem ofChars?_continued {cs ds : List Char} {members : List (JsonText × Json)}
    (h : ofChars? cs = some (.object members)) (hds : ∃ c ∈ ds, JsonToken.isSpace c = false) :
    ofChars? (cs ++ ds) = none := by
  cases hwhole : ofChars? (cs ++ ds) with
  | none => rfl
  | some other =>
    obtain ⟨c, hc, hmark⟩ := hds
    rcases ofChars?_append h hwhole with ⟨-, hspaces⟩ | ⟨m, n, hnumber, -⟩
    · rw [hspaces c hc] at hmark
      cases hmark
    · cases hnumber

end Json

end CompilerDriver
