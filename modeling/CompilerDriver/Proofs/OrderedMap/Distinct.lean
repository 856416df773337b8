import CompilerDriver.Proofs.OrderedMap.Collecting

/-!
# Collecting entries with different keys

`ofDistinct` collects a list if and only if no two of its entries have equal keys, and then the map has exactly
the entries of the list, in another order (`ofDistinct_cases`). Otherwise it names the first entry that
repeats the key of an earlier one (`ofDistinct_eq_error`). Keys are equal if they compare equal, however they are
written.
-/

namespace CompilerDriver

universe u v

section FirstRepeat

variable {α : Type u} {Same : α → α → Prop} {l : List α} {e e' : α}

/-- The entry is the first one of the list that is the same as an earlier one. -/
def FirstRepeat (Same : α → α → Prop) (l : List α) (e : α) : Prop :=
  ∃ before after, l = before ++ e :: after ∧ before.Pairwise (fun a b => ¬Same a b) ∧
    ∃ a ∈ before, Same a e

theorem FirstRepeat.not_pairwise (h : FirstRepeat Same l e) : ¬l.Pairwise fun a b => ¬Same a b := by
  obtain ⟨before, after, rfl, -, a, ha, hsame⟩ := h
  intro hdistinct
  exact (List.pairwise_append.1 hdistinct).2.2 a ha e List.mem_cons_self hsame

/-- There is only one first entry. -/
theorem FirstRepeat.unique (h : FirstRepeat Same l e) (h' : FirstRepeat Same l e') : e = e' := by
  obtain ⟨before, after, rfl, hdistinct, hrepeat⟩ := h
  obtain ⟨before', after', heq, hdistinct', hrepeat'⟩ := h'
  -- where one stands before the other, nothing repeats up to the later one, but the earlier one does
  rcases List.append_eq_append_iff.1 heq with ⟨mid, hmid, htail⟩ | ⟨mid, hmid, htail⟩
  · cases mid with
    | nil => exact (List.cons.inj htail).1
    | cons x mid =>
      obtain ⟨rfl, -⟩ := List.cons.inj htail
      have hearlier : FirstRepeat Same before' e := ⟨before, mid, hmid, hdistinct, hrepeat⟩
      exact absurd hdistinct' hearlier.not_pairwise
  · cases mid with
    | nil => exact (List.cons.inj htail).1.symm
    | cons x mid =>
      obtain ⟨rfl, -⟩ := List.cons.inj htail
      have hearlier : FirstRepeat Same before e' := ⟨before', mid, hmid, hdistinct', hrepeat'⟩
      exact absurd hdistinct hearlier.not_pairwise

end FirstRepeat

namespace OrderedMap

variable {κ : Type u} {ν : Type v} [Ord κ]

/-- The two entries have equal keys. -/
def SameKey (a b : κ × ν) : Prop := compare a.1 b.1 = .eq

variable [Std.TransOrd κ] {m : OrderedMap κ ν} {l : List (κ × ν)}

omit [Std.TransOrd κ] in
/-- An entry with a new key is put between the others, which all stay. -/
theorem perm_place (keep : Spelling) {k : κ} (v : ν) (h : ∀ e ∈ l, compare k e.1 ≠ .eq) :
    (place keep k v l).Perm ((k, v) :: l) := by
  induction l with
  | nil => exact .refl _
  | cons e l ih =>
    obtain ⟨k', v'⟩ := e
    rw [place]
    split
    next => exact .refl _
    next heq => exact absurd heq (h (k', v') List.mem_cons_self)
    next =>
      exact ((ih fun e he => h e (List.mem_cons_of_mem _ he)).cons _).trans (.swap ..)

omit [Std.TransOrd κ] in
theorem contains_iff {k : κ} : m.contains k = true ↔ ∃ e ∈ m.entries, compare k e.1 = .eq := by
  simp [contains]

theorem perm_insert {k : κ} (v : ν) (h : m.contains k = false) :
    (m.insert k v).entries.Perm ((k, v) :: m.entries) := by
  refine perm_place .first v fun e he heq => ?_
  rw [contains_iff.2 ⟨e, he, heq⟩] at h
  cases h

theorem not_sameKey_symm {a b : κ × ν} (h : ¬SameKey a b) : ¬SameKey b a :=
  fun hba => h (Std.OrientedCmp.eq_symm hba)

omit [Std.TransOrd κ] in
theorem pairwise_entries (m : OrderedMap κ ν) : m.entries.Pairwise fun a b => ¬SameKey a b :=
  m.sorted.imp fun hlt heq => by rw [SameKey, hlt] at heq; cases heq

/-- What adding entries to a map comes to: all of them are added, or the first one whose key is there
already is named. -/
theorem addDistinct_cases (m : OrderedMap κ ν) (l : List (κ × ν)) :
    (∃ n, m.addDistinct l = .ok n ∧ n.entries.Perm (m.entries ++ l)) ∨
    ∃ before k v after, m.addDistinct l = .error k ∧ l = before ++ (k, v) :: after ∧
      (m.entries ++ before).Pairwise (fun a b => ¬SameKey a b) ∧
      ∃ e ∈ m.entries ++ before, SameKey e (k, v) := by
  induction l generalizing m with
  | nil => exact .inl ⟨m, rfl, by rw [List.append_nil]⟩
  | cons e rest ih =>
    obtain ⟨k, v⟩ := e
    rw [addDistinct]
    cases hk : m.contains k with
    | true =>
      obtain ⟨e, he, hsame⟩ := contains_iff.1 hk
      refine .inr ⟨[], k, v, rest, rfl, rfl, ?_, e, ?_, Std.OrientedCmp.eq_symm hsame⟩
      · rw [List.append_nil]
        exact pairwise_entries m
      · rw [List.append_nil]
        exact he
    | false =>
      have hperm (rest : List (κ × ν)) :
          ((m.insert k v).entries ++ rest).Perm (m.entries ++ (k, v) :: rest) :=
        ((perm_insert v hk).append_right rest).trans List.perm_middle.symm
      rcases ih (m.insert k v) with ⟨n, hn, hentries⟩ |
        ⟨before, k', v', after, herror, rfl, hdistinct, e, he, hsame⟩
      · exact .inl ⟨n, hn, hentries.trans (hperm rest)⟩
      · refine .inr ⟨(k, v) :: before, k', v', after, herror, rfl, ?_, e, ?_, hsame⟩
        · exact ((hperm before).pairwise_iff not_sameKey_symm).1 hdistinct
        · exact (hperm before).mem_iff.1 he

/-- Two maps with the same entries are the same. -/
theorem eq_of_perm {m n : OrderedMap κ ν} (h : m.entries.Perm n.entries) : m = n := by
  refine ext_entries (h.eq_of_pairwise ?_ m.sorted n.sorted)
  intro a b _ _ hab hba
  rw [Std.OrientedCmp.gt_of_lt hab] at hba
  cases hba

/-- Nothing repeats in a list, or its first repetition is reported. -/
theorem ofDistinct_cases (l : List (κ × ν)) :
    (∃ n, ofDistinct l = .ok n ∧ l.Pairwise (fun a b => ¬SameKey a b) ∧ n.entries.Perm l) ∨
    ∃ e, ofDistinct l = .error e.1 ∧ FirstRepeat SameKey l e := by
  rcases addDistinct_cases empty l with ⟨n, hn, hperm⟩ |
    ⟨before, k, v, after, herror, hl, hdistinct, e, he, hsame⟩
  · exact .inl ⟨n, hn, (hperm.pairwise_iff not_sameKey_symm).1 (pairwise_entries n), hperm⟩
  · exact .inr ⟨(k, v), herror, before, after, hl, hdistinct, e, he, hsame⟩

/-- The first entry that repeats an earlier one is reported. -/
theorem ofDistinct_eq_error {k : κ} :
    ofDistinct l = .error k ↔ ∃ v, FirstRepeat SameKey l (k, v) := by
  rcases ofDistinct_cases l with ⟨m, hm, hdistinct, hperm⟩ | ⟨e, herror, hrepeat⟩
  · rw [hm]
    constructor
    · intro h
      cases h
    · rintro ⟨v, hrepeat⟩
      exact absurd hdistinct hrepeat.not_pairwise
  · rw [herror]
    constructor
    · intro h
      cases h
      exact ⟨e.2, hrepeat⟩
    · rintro ⟨v, hother⟩
      rw [hrepeat.unique hother]

end OrderedMap

end CompilerDriver
