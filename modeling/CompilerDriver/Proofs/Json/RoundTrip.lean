import CompilerDriver.Json.Parser
import CompilerDriver.Proofs.Json.Scanning

/-!
# Printed documents read back

Main statement: `ofText?_pretty`, the text of a value is the text of no other value. It is put together of
two halves. `scan_write` says which tokens the text holds; here it is shown that the parser makes the value
of them, on any stack of arrays and objects that are still open (`foldlM_tokens`).
-/

namespace CompilerDriver.Json

/-- No value begins with the end of an array. -/
theorem exists_tokens_eq_cons (value : Json) :
    ∃ token ts, tokens value = token :: ts ∧ token ≠ .arrayEnd := by
  cases value <;> exact ⟨_, _, rfl, by simp⟩

/-- An array goes on with an item unless it ends at once. -/
theorem step_firstItem (stack : List Frame) {token : JsonToken} (h : token ≠ .arrayEnd) :
    step (.firstItem stack) token = step (.value (.array [] :: stack)) token := by
  cases token <;> first | rfl | exact absurd rfl h

theorem foldlM_firstItem (item : Json) (rest : List JsonToken) (stack : List Frame) :
    (tokens item ++ rest).foldlM step (.firstItem stack) =
      (tokens item ++ rest).foldlM step (.value (.array [] :: stack)) := by
  obtain ⟨token, ts, hts, hne⟩ := exists_tokens_eq_cons item
  rw [hts, List.cons_append, List.foldlM_cons, List.foldlM_cons, step_firstItem stack hne]

mutual

/-- Where a value is expected, the tokens of a value are read as this value. -/
theorem foldlM_tokens (rest : List JsonToken) :
    (value : Json) → (stack : List Frame) →
      (tokens value ++ rest).foldlM step (.value stack) = rest.foldlM step (.after value stack)
  | .null, _ => rfl
  | .bool _, _ => rfl
  | .number _, _ => rfl
  | .string _, _ => rfl
  | .array [], _ => rfl
  | .array (item :: items), stack => by
    have hitem := foldlM_tokens (tokensOfItems [.comma] items ++ .arrayEnd :: rest) item
      (.array [] :: stack)
    have hitems := foldlM_tokensOfItems rest items item [] stack
    simp only [tokens, tokensOfItems, List.nil_append, List.cons_append, List.append_assoc,
      List.foldlM_cons]
    show (tokens item ++ (tokensOfItems [.comma] items ++ .arrayEnd :: rest)).foldlM step
      (.firstItem stack) = _
    rw [foldlM_firstItem, hitem, hitems]
    rfl
  | .object [], _ => rfl
  | .object ((name, value) :: members), stack => by
    have hvalue := foldlM_tokens (tokensOfMembers [.comma] members ++ .objectEnd :: rest) value
      (.object [] name :: stack)
    simp only [tokens, tokensOfMembers, List.nil_append, List.cons_append, List.append_assoc,
      List.foldlM_cons, step, stepValue, Option.bind_eq_bind, Option.bind_some]
    exact hvalue.trans (foldlM_tokensOfMembers rest members name value [] stack)

/-- The items that follow one that was read are read up to the end of their array. -/
theorem foldlM_tokensOfItems (rest : List JsonToken) :
    (items : List Json) → (item : Json) → (before : List Json) → (stack : List Frame) →
      (tokensOfItems [.comma] items ++ .arrayEnd :: rest).foldlM step
          (.after item (.array before :: stack)) =
        rest.foldlM step (.after (.array ((item :: before).reverse ++ items)) stack)
  | [], item, before, stack => by
    rw [List.append_nil]
    rfl
  | next :: items, item, before, stack => by
    have hnext := foldlM_tokens (tokensOfItems [.comma] items ++ .arrayEnd :: rest) next
      (.array (item :: before) :: stack)
    have hrest := foldlM_tokensOfItems rest items next (item :: before) stack
    simp only [tokensOfItems, List.cons_append, List.nil_append, List.append_assoc,
      List.foldlM_cons, step, Option.bind_eq_bind, Option.bind_some]
    rw [hnext, hrest, List.reverse_cons, List.append_assoc, List.singleton_append]

theorem foldlM_tokensOfMembers (rest : List JsonToken) :
    (members : List (JsonText × Json)) → (name : JsonText) → (value : Json) →
      (before : List (JsonText × Json)) → (stack : List Frame) →
      (tokensOfMembers [.comma] members ++ .objectEnd :: rest).foldlM step
          (.after value (.object before name :: stack)) =
        rest.foldlM step (.after (.object (((name, value) :: before).reverse ++ members)) stack)
  | [], name, value, before, stack => by
    rw [List.append_nil]
    rfl
  | (name', value') :: members, name, value, before, stack => by
    have hvalue := foldlM_tokens (tokensOfMembers [.comma] members ++ .objectEnd :: rest) value'
      (.object ((name, value) :: before) name' :: stack)
    have hrest := foldlM_tokensOfMembers rest members name' value' ((name, value) :: before) stack
    simp only [tokensOfMembers, List.cons_append, List.nil_append, List.append_assoc,
      List.foldlM_cons, step, Option.bind_eq_bind, Option.bind_some]
    rw [hvalue, hrest, List.reverse_cons, List.append_assoc, List.singleton_append]

end

theorem ofTokens?_tokens (value : Json) : ofTokens? (tokens value) = some value := by
  have h := foldlM_tokens [] value []
  rw [List.append_nil, List.foldlM_nil] at h
  rw [ofTokens?, h]
  rfl

/-- A printed value reads back, in any layout. -/
theorem ofChars?_write (layout : Layout) (depth : Nat) {value : Json}
    (h : value.isWellFormed = true) : ofChars? (write layout depth value) = some value := by
  rw [ofChars?, scan_write layout depth h, Option.bind_some, ofTokens?_tokens]

/-- A document reads back. -/
theorem ofText?_pretty {value : Json} (h : value.isWellFormed = true) :
    ofText? value.pretty = some value := by
  rw [ofText?, pretty, String.toList_ofList, ofChars?_write .indented 0 h]

end CompilerDriver.Json
