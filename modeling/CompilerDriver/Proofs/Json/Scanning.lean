import CompilerDriver.Json.Printer
import CompilerDriver.Proofs.Json.Grammar

/-!
# Scanning what was printed

The text of a value is scanned into the tokens of that value, whatever layout it is printed in:
`spells_write`. All tokens but numbers end by themselves; a number ends where the text goes on with
something that cannot belong to it. So there are two ways for a text to *spell* tokens, before any text
(`AlwaysSpells`) and before a text that does not go on with a number (`Spells`). Numbers and strings are
printed as lexemes (`isNumeral_numeral`, `lexeme_literal`), and the rest of the proof follows the printer
piece by piece.
-/

namespace CompilerDriver

open Digits

/-- Whether only digits stand behind the point of a number. -/
def JsonNumber.isWellFormed : JsonNumber → Bool
  | .integer _ _ => true
  | .decimal _ _ fraction _ => fraction.all isDigit

namespace Json

mutual

/-- Whether only digits stand behind the point of every number. -/
def isWellFormed : Json → Bool
  | .number n => n.isWellFormed
  | .array items => areWellFormed items
  | .object members => haveWellFormed members
  | _ => true

/-- `isWellFormed` for every item. -/
def areWellFormed : List Json → Bool
  | [] => true
  | item :: rest => isWellFormed item && areWellFormed rest

/-- `isWellFormed` for the value of every member. -/
def haveWellFormed : List (JsonText × Json) → Bool
  | [] => true
  | (_, value) :: rest => isWellFormed value && haveWellFormed rest

end

end Json

namespace JsonToken

/-! ## Single steps of the scanner -/

theorem scan_nil : scan [] = some [] := by
  rw [scan]

theorem scan_space {c : Char} (h : isSpace c = true) (rest : List Char) :
    scan (c :: rest) = scan rest := by
  rw [scan, if_pos h]

theorem scan_token {c : Char} {rest rest' : List Char} {token : JsonToken}
    (hs : isSpace c = false) (h : next c rest = some (token, rest')) :
    scan (c :: rest) = (scan rest').map (token :: ·) := by
  rw [scan, if_neg (by simp [hs])]
  split
  next hn => rw [h] at hn; cases hn
  next hn => rw [h] at hn; cases hn; rfl

/-! ## Texts that spell tokens -/

/-- The text is scanned into these tokens, unless the text behind it goes on with a number. -/
def Spells (cs : List Char) (ts : List JsonToken) : Prop :=
  ∀ rest, NoNumberAhead rest → scan (cs ++ rest) = (scan rest).map (ts ++ ·)

/-- The text is scanned into these tokens, whatever stands behind it. -/
def AlwaysSpells (cs : List Char) (ts : List JsonToken) : Prop :=
  ∀ rest, scan (cs ++ rest) = (scan rest).map (ts ++ ·)

theorem alwaysSpells_nil : AlwaysSpells [] [] := by
  intro rest
  cases h : scan rest <;> simp [h]

theorem AlwaysSpells.spells {cs : List Char} {ts : List JsonToken} (h : AlwaysSpells cs ts) :
    Spells cs ts := fun rest _ => h rest

theorem map_append_map (ts us : List JsonToken) (scanned : Option (List JsonToken)) :
    (scanned.map (us ++ ·)).map (ts ++ ·) = scanned.map (ts ++ us ++ ·) := by
  rw [Option.map_map]
  congr 1
  funext vs
  exact (List.append_assoc ts us vs).symm

theorem AlwaysSpells.append {cs ds : List Char} {ts us : List JsonToken} (hc : AlwaysSpells cs ts)
    (hd : AlwaysSpells ds us) : AlwaysSpells (cs ++ ds) (ts ++ us) := by
  intro rest
  rw [List.append_assoc, hc, hd, map_append_map]

/-- In front of a number there may stand any text that ends by itself. -/
theorem AlwaysSpells.append_spells {cs ds : List Char} {ts us : List JsonToken}
    (hc : AlwaysSpells cs ts) (hd : Spells ds us) : Spells (cs ++ ds) (ts ++ us) := by
  intro rest hr
  rw [List.append_assoc, hc, hd rest hr, map_append_map]

/-- Behind a number the text has to go on with something else. -/
theorem Spells.append {cs ds : List Char} {ts us : List JsonToken} (hc : Spells cs ts)
    (hd : Spells ds us) (hn : NoNumberAhead ds) : Spells (cs ++ ds) (ts ++ us) := by
  intro rest hr
  rw [List.append_assoc, hc _ (hn.append hr), hd rest hr, map_append_map]

/-- A lexeme spells its token. -/
theorem Lexeme.spells {token : JsonToken} {text : List Char} (h : Lexeme token text) :
    Spells text [token] := by
  intro rest hr
  obtain ⟨c, cs, rfl, hs, hnext⟩ := h.next_eq fun _ _ => hr
  rw [List.cons_append, scan_token hs hnext]
  rfl

theorem Lexeme.alwaysSpells {token : JsonToken} {text : List Char} (h : Lexeme token text)
    (hn : ∀ n, token ≠ .number n) : AlwaysSpells text [token] := by
  intro rest
  have hr (n : JsonNumber) (hnumber : token = .number n) : NoNumberAhead rest := absurd hnumber (hn n)
  obtain ⟨c, cs, rfl, hs, hnext⟩ := h.next_eq hr
  rw [List.cons_append, scan_token hs hnext]
  rfl

theorem alwaysSpells_space {c : Char} (h : isSpace c = true) : AlwaysSpells [c] [] := by
  intro rest
  rw [List.singleton_append, scan_space h]
  exact alwaysSpells_nil rest

/-! ## Strings -/

theorem hexNumber?_escape {n : Nat} (h : n < 0x20) :
    hexNumber? ['0', '0', hexDigit (n / 16), hexDigit (n % 16)] = some n := by
  have all : ∀ n : Fin 0x20,
      hexNumber? ['0', '0', hexDigit (n.val / 16), hexDigit (n.val % 16)] = some n.val := by decide
  exact all ⟨n, h⟩

/-- A character inside a literal is printed as one piece, which stands for the character. -/
theorem exists_piece_escape (c : Char) :
    ∃ piece, IsPiece piece (Json.escape c) ∧
      ∀ pieces, assemble (piece :: pieces) = (assemble pieces).map (c :: ·) := by
  unfold Json.escape
  split
  · next h => subst h; exact ⟨.char '"', .named rfl, fun _ => rfl⟩
  split
  · next h => subst h; exact ⟨.char '\\', .named rfl, fun _ => rfl⟩
  split
  · next h => subst h; exact ⟨.char '\x08', .named rfl, fun _ => rfl⟩
  split
  · next h => subst h; exact ⟨.char '\x0c', .named rfl, fun _ => rfl⟩
  split
  · next h => subst h; exact ⟨.char '\n', .named rfl, fun _ => rfl⟩
  split
  · next h => subst h; exact ⟨.char '\r', .named rfl, fun _ => rfl⟩
  split
  · next h => subst h; exact ⟨.char '\t', .named rfl, fun _ => rfl⟩
  split
  · next h =>
    -- a control character is no surrogate, so its number stands for it alone
    refine ⟨.unit c.toNat, .unit (hexNumber?_escape h), fun pieces => ?_⟩
    rw [assemble.eq_def]
    simp only [if_pos (show c.toNat < 0xD800 ∨ 0xDFFF < c.toNat by omega), Char.ofNat_toNat]
  · next hquote hescape _ _ _ _ _ hcontrol =>
    exact ⟨.char c, .plain hquote hescape hcontrol, fun _ => rfl⟩

theorem exists_body_escape (cs : List Char) :
    ∃ pieces, IsBody pieces (cs.flatMap Json.escape) ∧ assemble pieces = some cs := by
  induction cs with
  | nil => exact ⟨[], .nil, rfl⟩
  | cons c cs ih =>
    obtain ⟨pieces, hbody, hpieces⟩ := ih
    obtain ⟨piece, hpiece, hstands⟩ := exists_piece_escape c
    exact ⟨piece :: pieces, .cons hpiece hbody, by rw [hstands, hpieces]; rfl⟩

/-- A string is printed as a lexeme of it. What is no text stays none. -/
theorem lexeme_literal (s : JsonText) : Lexeme (.string s) (Json.literal s) := by
  cases s with
  | none => exact .string (.cons (.unit (n := 0xD800) rfl) .nil)
  | some s =>
    obtain ⟨pieces, hbody, hpieces⟩ := exists_body_escape s.toList
    have hlexeme := Lexeme.string hbody
    rw [hpieces, Option.map_some, String.ofList_toList] at hlexeme
    exact hlexeme

theorem alwaysSpells_literal (s : JsonText) : AlwaysSpells (Json.literal s) [.string s] :=
  (lexeme_literal s).alwaysSpells fun _ h => nomatch h

/-! ## Numbers -/

theorem isWhole_decimal (n : Nat) : IsWhole (decimal n) := by
  refine ⟨decimal_ne_nil n, decimal_isDigit n, fun hzero => ?_⟩
  rw [eq_zero_of_head?_decimal hzero, decimal_of_lt_ten (by decide)]
  rfl

theorem isFraction_of_all_isDigit {fraction : List Char} (h : fraction.all isDigit = true) :
    IsFraction fraction (if fraction = [] then [] else '.' :: fraction) := by
  split
  next hnil => exact hnil ▸ .absent
  next hne => exact .digits hne h

theorem isExponent_signed (exponent : Int) : IsExponent (some exponent) ('e' :: signed exponent) := by
  have power {negative : Bool} {sign : List Char} (hsign : IsSign negative sign) :=
    IsExponent.power (.inl rfl) hsign (decimal_ne_nil exponent.natAbs) (decimal_isDigit exponent.natAbs)
  rw [signed]
  split
  next hneg =>
    have hminus := power .minus
    rw [value_decimal, signedInt, if_pos rfl] at hminus
    rwa [show -(exponent.natAbs : Int) = exponent by omega] at hminus
  next hpos =>
    have hplain := power .absent
    rw [value_decimal, signedInt, if_neg (by decide)] at hplain
    rwa [show (exponent.natAbs : Int) = exponent by omega] at hplain

/-- A number is printed as a spelling of it. -/
theorem isNumeral_numeral {n : JsonNumber} (hn : n.isWellFormed = true) :
    IsNumeral n (Json.numeral n) := by
  have hsign (negative : Bool) : IsMinus negative (if negative then ['-'] else []) := by
    cases negative with
    | false => exact .absent
    | true => exact .minus
  cases n with
  | integer negative magnitude =>
    have hparts := IsNumeral.parts (hsign negative) (isWhole_decimal magnitude) .absent .absent
    simpa [numberOf, Json.numeral] using hparts
  | decimal negative whole fraction exponent =>
    have hparts := IsNumeral.parts (hsign negative) (isWhole_decimal whole)
      (isFraction_of_all_isDigit hn) (isExponent_signed exponent)
    simpa [numberOf, Json.numeral] using hparts

end JsonToken

/-! ## Values -/

namespace Json

open JsonToken

theorem alwaysSpells_comma : AlwaysSpells [','] [.comma] :=
  Lexeme.comma.alwaysSpells fun _ h => nomatch h

theorem alwaysSpells_gap (layout : Layout) (depth : Nat) : AlwaysSpells (layout.gap depth) [] := by
  cases layout with
  | compact => exact alwaysSpells_nil
  | indented =>
    have blanks (n : Nat) : AlwaysSpells (List.replicate n ' ') [] := by
      induction n with
      | zero => exact alwaysSpells_nil
      | succ n ih => exact (alwaysSpells_space (c := ' ') rfl).append ih
    exact (alwaysSpells_space (c := '\n') rfl).append (blanks (2 * depth))

theorem alwaysSpells_colon (layout : Layout) : AlwaysSpells layout.colon [.colon] := by
  have mark : AlwaysSpells [':'] [.colon] := Lexeme.colon.alwaysSpells fun _ h => nomatch h
  cases layout with
  | compact => exact mark
  | indented => exact mark.append (alwaysSpells_space (c := ' ') rfl)

theorem alwaysSpells_finish (layout : Layout) (depth : Nat) (isEmpty : Bool) {mark : Char}
    {token : JsonToken} (h : AlwaysSpells [mark] [token]) :
    AlwaysSpells (layout.finish depth isEmpty mark) [token] := by
  unfold Layout.finish
  split
  · exact h
  · exact (alwaysSpells_gap layout depth).append h

theorem noNumberAhead_finish (layout : Layout) (depth : Nat) (isEmpty : Bool) {mark : Char}
    (h : isDigit mark = false ∧ mark ≠ '.' ∧ mark ≠ 'e' ∧ mark ≠ 'E') :
    NoNumberAhead (layout.finish depth isEmpty mark) := by
  unfold Layout.finish
  split
  · exact noNumberAhead_cons h
  · cases layout with
    | compact => exact noNumberAhead_cons h
    | indented => exact noNumberAhead_cons (by decide)

theorem noNumberAhead_writeItems (layout : Layout) (depth : Nat) (items : List Json) :
    NoNumberAhead (writeItems layout depth [','] items) := by
  cases items with
  | nil => exact noNumberAhead_nil
  | cons item rest => exact noNumberAhead_cons (by decide)

theorem noNumberAhead_writeMembers (layout : Layout) (depth : Nat)
    (members : List (JsonText × Json)) :
    NoNumberAhead (writeMembers layout depth [','] members) := by
  cases members with
  | nil => exact noNumberAhead_nil
  | cons member rest => exact noNumberAhead_cons (by decide)

mutual

/-- A printed value is scanned into its tokens. -/
theorem spells_write (layout : Layout) (depth : Nat) :
    (value : Json) → value.isWellFormed = true → Spells (write layout depth value) (tokens value)
  | .null, _ => Lexeme.null.spells
  | .bool true, _ => Lexeme.yes.spells
  | .bool false, _ => Lexeme.no.spells
  | .number _, h => (Lexeme.number (isNumeral_numeral h)).spells
  | .string s, _ => (lexeme_literal s).spells
  | .array items, h => by
    have hopen : AlwaysSpells ['['] [.arrayStart] := Lexeme.arrayStart.alwaysSpells fun _ h => nomatch h
    have hclose : AlwaysSpells [']'] [.arrayEnd] := Lexeme.arrayEnd.alwaysSpells fun _ h => nomatch h
    have hitems := spells_writeItems layout (depth + 1) alwaysSpells_nil items h
    have hbody := hitems.append (alwaysSpells_finish layout depth items.isEmpty hclose).spells
      (noNumberAhead_finish layout depth items.isEmpty (by decide))
    rw [write, tokens]
    exact hopen.append_spells hbody
  | .object members, h => by
    have hopen : AlwaysSpells ['\x7b'] [.objectStart] := Lexeme.objectStart.alwaysSpells fun _ h => nomatch h
    have hclose : AlwaysSpells ['\x7d'] [.objectEnd] := Lexeme.objectEnd.alwaysSpells fun _ h => nomatch h
    have hmembers := spells_writeMembers layout (depth + 1) alwaysSpells_nil members h
    have hbody := hmembers.append (alwaysSpells_finish layout depth members.isEmpty hclose).spells
      (noNumberAhead_finish layout depth members.isEmpty (by decide))
    rw [write, tokens]
    exact hopen.append_spells hbody

theorem spells_writeItems (layout : Layout) (depth : Nat) {before : List Char}
    {ts : List JsonToken} (hb : AlwaysSpells before ts) :
    (items : List Json) → areWellFormed items = true →
      Spells (writeItems layout depth before items) (tokensOfItems ts items)
  | [], _ => alwaysSpells_nil.spells
  | item :: rest, h => by
    rw [areWellFormed, Bool.and_eq_true] at h
    have hitem := spells_write layout depth item h.1
    have hrest := spells_writeItems layout depth alwaysSpells_comma rest h.2
    have hfront := hb.append (alwaysSpells_gap layout depth)
    rw [List.append_nil] at hfront
    rw [writeItems, tokensOfItems]
    exact (hfront.append_spells hitem).append hrest (noNumberAhead_writeItems layout depth rest)

theorem spells_writeMembers (layout : Layout) (depth : Nat) {before : List Char}
    {ts : List JsonToken} (hb : AlwaysSpells before ts) :
    (members : List (JsonText × Json)) → haveWellFormed members = true →
      Spells (writeMembers layout depth before members) (tokensOfMembers ts members)
  | [], _ => alwaysSpells_nil.spells
  | (name, value) :: rest, h => by
    rw [haveWellFormed, Bool.and_eq_true] at h
    have hvalue := spells_write layout depth value h.1
    have hrest := spells_writeMembers layout depth alwaysSpells_comma rest h.2
    have hfront := ((hb.append (alwaysSpells_gap layout depth)).append
      (alwaysSpells_literal name)).append (alwaysSpells_colon layout)
    rw [List.append_nil] at hfront
    have h := (hfront.append_spells hvalue).append hrest
      (noNumberAhead_writeMembers layout depth rest)
    rw [writeMembers, tokensOfMembers]
    simpa using h

end

/-- The text of a value holds the tokens of the value and no others. -/
theorem scan_write (layout : Layout) (depth : Nat) {value : Json}
    (h : value.isWellFormed = true) : scan (write layout depth value) = some (tokens value) := by
  have hs := spells_write layout depth value h [] noNumberAhead_nil
  rw [List.append_nil, scan_nil] at hs
  simpa using hs

end Json

end CompilerDriver
