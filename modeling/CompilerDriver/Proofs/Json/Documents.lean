import CompilerDriver.Proofs.Json.Prefixes
import CompilerDriver.Proofs.Json.RoundTrip

/-!
# What a document says

A text is read as a value if and only if it sets out the tokens of this value: `ofText?_eq_some_iff`. Setting out
(`SetOut`) is said without the scanner and the parser. Each token is spelled by one of its lexemes, and between them
there are any blanks. So the same value can be set out in many texts, and all of them are read alike.

For the scanner, two numbers side by side are one longer number, but the tokens of a value never have two of them
in a row (`apart_of_foldlM`). For the parser, each state is the memory of the tokens that led to it
(`Expectation.seen`), and one step adds one token to them (`seen_of_step`).
-/

namespace CompilerDriver

namespace JsonToken

/-! ## Tokens in a text -/

/-- The text consists of lexemes of these tokens, in their order, and of blanks between them. -/
inductive SetOut : List JsonToken → List Char → Prop
  | nil : SetOut [] []
  | blank {c : Char} {ts : List JsonToken} {cs : List Char} (hc : isSpace c = true)
      (h : SetOut ts cs) : SetOut ts (c :: cs)
  | token {t : JsonToken} {ts : List JsonToken} {text cs : List Char} (ht : Lexeme t text)
      (h : SetOut ts cs) : SetOut (t :: ts) (text ++ cs)

/-- Whether no number follows another one. -/
def apart : List JsonToken → Bool
  | .number _ :: .number _ :: _ => false
  | _ :: ts => apart ts
  | [] => true

theorem apart_tail {t : JsonToken} {ts : List JsonToken} (h : apart (t :: ts) = true) :
    apart ts = true := by
  cases t with
  | number n =>
    cases ts with
    | nil => rfl
    | cons u us => cases u <;> first | cases h | exact h
  | _ => exact h

theorem apart_cons {t : JsonToken} {ts : List JsonToken}
    (h : ∀ m, t = .number m → ∀ n later, ts ≠ .number n :: later) (hts : apart ts = true) :
    apart (t :: ts) = true := by
  cases t with
  | number m =>
    cases ts with
    | nil => rfl
    | cons u us =>
      cases u with
      | number n => exact absurd rfl (h m rfl n us)
      | _ => exact hts
  | _ => exact hts

theorem Lexeme.noNumberAhead {t : JsonToken} {text : List Char} (h : Lexeme t text)
    (ht : ∀ n, t ≠ .number n) (rest : List Char) : NoNumberAhead (text ++ rest) := by
  cases h with
  | number hn => exact absurd rfl (ht _)
  | _ => exact noNumberAhead_cons (by decide)

/-- Only a number can lengthen the number in front of it. -/
theorem SetOut.noNumberAhead {ts : List JsonToken} {cs : List Char} (h : SetOut ts cs)
    (hts : ∀ n later, ts ≠ .number n :: later) : NoNumberAhead cs := by
  induction h with
  | nil => exact noNumberAhead_nil
  | @blank c ts cs hc _ _ =>
    simp only [isSpace, Bool.or_eq_true, beq_iff_eq] at hc
    rcases hc with ((rfl | rfl) | rfl) | rfl <;> exact noNumberAhead_cons (by decide)
  | @token t ts text cs ht _ _ => exact ht.noNumberAhead (fun n hn => hts n ts (by rw [hn])) cs

theorem scan_of_setOut {ts : List JsonToken} {cs : List Char} (h : SetOut ts cs)
    (hts : apart ts = true) : scan cs = some ts := by
  induction h with
  | nil => exact scan_nil
  | blank hc _ ih => rw [scan_space hc, ih hts]
  | @token t ts text cs ht h ih =>
    have hbehind (n : JsonNumber) (hn : t = .number n) : NoNumberAhead cs := by
      refine h.noNumberAhead fun m later hm => ?_
      rw [hn, hm] at hts
      cases hts
    obtain ⟨c, tail, rfl, hspace, hnext⟩ := ht.next_eq hbehind
    rw [List.cons_append, scan_token hspace hnext, ih (apart_tail hts)]
    rfl

theorem setOut_of_scan {cs : List Char} {ts : List JsonToken} (h : scan cs = some ts) :
    SetOut ts cs := by
  -- a token may be several characters long
  induction hlength : cs.length using Nat.strongRecOn generalizing cs ts with
  | ind n ih =>
    rcases scan_cases h with ⟨rfl, rfl⟩ | ⟨c, rest, rfl, hspace, hrest⟩ |
      ⟨c, rest, token, rest', later, rfl, hspace, hnext, rfl, hrest⟩
    · exact .nil
    · exact .blank hspace (ih rest.length (by rw [← hlength]; exact Nat.lt_succ_self _) hrest rfl)
    · have hshorter : rest'.length < n := by
        rw [← hlength]
        exact Nat.lt_succ_of_le (length_next hnext)
      obtain ⟨text, htext, hlexeme⟩ := lexeme_of_next hnext
      rw [htext]
      exact .token hlexeme (ih rest'.length hshorter hrest rfl)

end JsonToken

/-! ## Tokens and values -/

namespace Json

open JsonToken (SetOut apart)

/-- What stands before a member that follows these ones. -/
def tokensBefore (members : List (JsonText × Json)) : List JsonToken :=
  members.flatMap fun member => .string member.1 :: .colon :: tokens member.2 ++ [.comma]

theorem tokensOfItems_concat (before : List JsonToken) (items : List Json) (item : Json) :
    before ++ items.flatMap (fun item => tokens item ++ [.comma]) ++ tokens item =
      tokensOfItems before (items ++ [item]) := by
  induction items generalizing before with
  | nil => simp [tokensOfItems]
  | cons first items ih =>
    rw [List.cons_append, tokensOfItems, ← ih [.comma]]
    simp

theorem tokensOfMembers_concat (before : List JsonToken) (members : List (JsonText × Json))
    (name : JsonText) (value : Json) :
    before ++ tokensBefore members ++ .string name :: .colon :: tokens value =
      tokensOfMembers before (members ++ [(name, value)]) := by
  induction members generalizing before with
  | nil => simp [tokensBefore, tokensOfMembers]
  | cons first members ih =>
    obtain ⟨name', value'⟩ := first
    rw [List.cons_append, tokensOfMembers, ← ih [.comma]]
    simp [tokensBefore]

/-- The tokens of an array or object that is still open, as far as they were read. -/
def Frame.seen : Frame → List JsonToken
  | .array items => .arrayStart :: items.reverse.flatMap fun item => tokens item ++ [.comma]
  | .object members name => .objectStart :: tokensBefore members.reverse ++ [.string name, .colon]

/-- The tokens of all that is still open. The outermost array or object lies at the bottom. -/
def seenBelow : List Frame → List JsonToken
  | [] => []
  | frame :: stack => seenBelow stack ++ frame.seen

/-- The tokens that were read before something is expected. -/
def Expectation.seen : Expectation → List JsonToken
  | .value stack => seenBelow stack
  | .firstItem stack => seenBelow stack ++ [.arrayStart]
  | .firstMember stack => seenBelow stack ++ [.objectStart]
  | .member members stack => seenBelow stack ++ .objectStart :: tokensBefore members.reverse
  | .colon members name stack =>
    seenBelow stack ++ .objectStart :: tokensBefore members.reverse ++ [.string name]
  | .after whole stack => seenBelow stack ++ tokens whole

theorem seen_of_stepValue {stack : List Frame} {token : JsonToken} {reached : Expectation}
    (h : stepValue stack token = some reached) : reached.seen = seenBelow stack ++ [token] := by
  cases token <;> cases h <;> rfl

/-- One step remembers one token. -/
theorem seen_of_step {expected reached : Expectation} {token : JsonToken}
    (h : step expected token = some reached) : reached.seen = expected.seen ++ [token] := by
  cases expected with
  | value stack => exact seen_of_stepValue h
  | firstItem stack =>
    by_cases hend : token = .arrayEnd
    · subst hend
      cases h
      simp [Expectation.seen, tokens, tokensOfItems]
    · rw [step_firstItem stack hend] at h
      exact seen_of_stepValue h
  | firstMember stack =>
    cases token with
    | objectEnd => cases h; simp [Expectation.seen, tokens, tokensOfMembers]
    | string name => cases h; simp [Expectation.seen, tokensBefore]
    | _ => cases h
  | member members stack =>
    cases token with
    | string name => cases h; rfl
    | _ => cases h
  | colon members name stack =>
    cases token with
    | colon => cases h; simp [Expectation.seen, seenBelow, Frame.seen]
    | _ => cases h
  | after value stack =>
    cases stack with
    | nil =>
      rw [step_after] at h
      cases h
    | cons frame stack =>
      cases frame with
      | array items =>
        cases token with
        | comma => cases h; simp [Expectation.seen, seenBelow, Frame.seen]
        | arrayEnd =>
          cases h
          have hitems := tokensOfItems_concat [] items.reverse value
          simp [Expectation.seen, seenBelow, Frame.seen, tokens, ← hitems]
        | _ => cases h
      | object members name =>
        cases token with
        | comma => cases h; simp [Expectation.seen, seenBelow, Frame.seen, tokensBefore]
        | objectEnd =>
          cases h
          have hmembers := tokensOfMembers_concat [] members.reverse name value
          simp [Expectation.seen, seenBelow, Frame.seen, tokens, ← hmembers]
        | _ => cases h

theorem seen_of_foldlM {ts : List JsonToken} {expected reached : Expectation}
    (h : ts.foldlM step expected = some reached) : reached.seen = expected.seen ++ ts := by
  induction ts generalizing expected with
  | nil =>
    cases h
    rw [List.append_nil]
  | cons token ts ih =>
    rw [List.foldlM_cons] at h
    obtain ⟨next, hstep, hrest⟩ := Option.bind_eq_some_iff.1 h
    rw [ih hrest, seen_of_step hstep, List.append_assoc, List.singleton_append]

/-- Tokens that form a value are the tokens of this value. -/
theorem tokens_of_ofTokens? {ts : List JsonToken} {value : Json} (h : ofTokens? ts = some value) :
    ts = tokens value :=
  (seen_of_foldlM (ofTokens?_eq_some h)).symm

/-- After a number the parser has a whole value, which no number continues. -/
theorem step_number_number {expected reached : Expectation} {m n : JsonNumber}
    (h : step expected (.number m) = some reached) : step reached (.number n) = none := by
  have hafter : ∃ stack, reached = .after (.number m) stack := by
    cases expected with
    | value stack => cases h; exact ⟨stack, rfl⟩
    | firstItem stack => cases h; exact ⟨.array [] :: stack, rfl⟩
    | firstMember stack => cases h
    | member members stack => cases h
    | colon members name stack => cases h
    | after value stack =>
      cases stack with
      | nil => cases h
      | cons frame stack => cases frame <;> cases h
  obtain ⟨stack, rfl⟩ := hafter
  cases stack with
  | nil => rfl
  | cons frame stack => cases frame <;> rfl

theorem apart_of_foldlM {ts : List JsonToken} {expected reached : Expectation}
    (h : ts.foldlM step expected = some reached) : apart ts = true := by
  induction ts generalizing expected with
  | nil => rfl
  | cons token ts ih =>
    rw [List.foldlM_cons] at h
    obtain ⟨next, hstep, hrest⟩ := Option.bind_eq_some_iff.1 h
    refine JsonToken.apart_cons ?_ (ih hrest)
    rintro m rfl n later rfl
    rw [List.foldlM_cons, step_number_number hstep] at hrest
    cases hrest

/-! ## Documents -/

/-- The text sets out the value: it consists of spellings of the tokens of the value, and of blanks
between them. -/
def IsWrittenAs (value : Json) (text : String) : Prop := SetOut value.tokens text.toList

/-- A text is read as a value if and only if it sets this value out. -/
theorem ofText?_eq_some_iff {text : String} {value : Json} :
    ofText? text = some value ↔ value.IsWrittenAs text := by
  rw [ofText?, ofChars?, IsWrittenAs]
  constructor
  · intro h
    obtain ⟨ts, hts, hvalue⟩ := Option.bind_eq_some_iff.1 h
    rw [← tokens_of_ofTokens? hvalue]
    exact JsonToken.setOut_of_scan hts
  · intro h
    have hvalue := ofTokens?_tokens value
    rw [JsonToken.scan_of_setOut h (apart_of_foldlM (ofTokens?_eq_some hvalue)), Option.bind_some, hvalue]

/-- A printed value is written out, in any layout. -/
theorem isWrittenAs_write (layout : Layout) {value : Json} (h : value.isWellFormed = true) :
    value.IsWrittenAs (String.ofList (write layout 0 value)) := by
  rw [← ofText?_eq_some_iff, ofText?, String.toList_ofList]
  exact ofChars?_write layout 0 h

end Json

end CompilerDriver
