import CompilerDriver.Proofs.OrderedMap.Collecting
import Mathlib.Data.List.Forall2
import Mathlib.Data.List.Pairwise

/-!
# Maps with renamed keys

What can be said of a map after its keys were renamed. Keys may become equal then, and of those the last one
stays; but what does not depend on the spelling of keys is true of some new key exactly if it is true of the
new name of some key (`exists_mem_keys_mapKeys_iff`).

A map that is the same as before, up to the spelling of its keys (`SameAs`), need not have kept its keys: two of
them may have changed places. Where a new name is never shorter than the old one, no key can have taken the
place of another one, so every key is where it was (`sameAs_mapKeys_iff`).
-/

namespace CompilerDriver.OrderedMap

universe u v

variable {κ : Type u} {ν : Type v} [Ord κ]

/-- The maps list the same values under the same keys, however the keys are written. -/
def SameAs (m n : OrderedMap κ ν) : Prop :=
  List.Forall₂ (fun a b => compare a.1 b.1 = .eq ∧ a.2 = b.2) m.entries n.entries

instance [DecidableEq ν] (m n : OrderedMap κ ν) : Decidable (m.SameAs n) :=
  inferInstanceAs (Decidable (List.Forall₂ _ m.entries n.entries))

theorem SameAs.refl [Std.ReflOrd κ] (m : OrderedMap κ ν) : m.SameAs m :=
  List.forall₂_same.2 fun _ _ => ⟨Std.ReflCmp.compare_self, rfl⟩

variable [Std.TransOrd κ] {f : κ → κ} {m n : OrderedMap κ ν}

theorem exists_mem_keys_mapKeys_iff {P : κ → Prop} (hP : ∀ a b, compare a b = .eq → (P a ↔ P b)) :
    (∃ k ∈ (m.mapKeys f).keys, P k) ↔ ∃ k ∈ m.keys, P (f k) := by
  constructor
  · rintro ⟨k, hk, hPk⟩
    obtain ⟨old, hold, rfl⟩ := mem_keys_mapKeys hk
    exact ⟨old, hold, hPk⟩
  · rintro ⟨old, hold, hPold⟩
    obtain ⟨k, hk, hsame⟩ := exists_mem_keys_mapKeys f hold
    exact ⟨k, hk, (hP _ _ hsame).1 hPold⟩

omit [Std.TransOrd κ] in
theorem SameAs.exists_mem_keys (h : m.SameAs n) {k : κ} (hk : k ∈ n.keys) :
    ∃ k' ∈ m.keys, compare k' k = .eq := by
  obtain ⟨e, he, rfl⟩ := List.mem_map.1 hk
  obtain ⟨i, hi, rfl⟩ := List.getElem_of_mem he
  have hlength := h.length_eq
  have hentry := h.get (hlength ▸ hi) hi
  exact ⟨_, List.mem_map_of_mem (List.get_mem m.entries ⟨i, hlength ▸ hi⟩), hentry.1⟩

/-- A map has one spelling of each key. -/
theorem eq_of_mem_keys {a b : κ} (ha : a ∈ m.keys) (hb : b ∈ m.keys) (h : compare a b = .eq) : a = b := by
  have hsymm : Std.Symm fun a b : κ => compare a b ≠ .eq :=
    ⟨fun _ _ hne hba => hne (Std.OrientedCmp.eq_symm hba)⟩
  have hdistinct : m.keys.Pairwise fun a b => compare a b ≠ .eq :=
    List.pairwise_map.2 (m.sorted.imp fun hlt heq => nomatch hlt.symm.trans heq)
  exact Classical.byContradiction fun hne => hdistinct.forall ha hb hne h

theorem sameAs_mapKeys (h : ∀ k ∈ m.keys, compare (f k) k = .eq) : (m.mapKeys f).SameAs m := by
  have hsorted : (m.entries.map fun e => (f e.1, e.2)).Pairwise fun a b => compare a.1 b.1 = .lt := by
    refine List.pairwise_map.2 (m.sorted.imp_of_mem fun {a b} ha hb hlt => ?_)
    exact Std.TransCmp.lt_of_lt_of_eq (Std.TransCmp.lt_of_eq_of_lt (h a.1 (List.mem_map_of_mem ha)) hlt)
      (Std.OrientedCmp.eq_symm (h b.1 (List.mem_map_of_mem hb)))
  have hentries : (m.mapKeys f).entries = m.entries.map fun e => (f e.1, e.2) :=
    entries_foldl_replace empty _ hsorted
  rw [SameAs, hentries, List.forall₂_map_left_iff, List.forall₂_same]
  exact fun e he => ⟨h e.1 (List.mem_map_of_mem he), rfl⟩

theorem sameAs_mapKeys_iff (size : κ → Nat) (hsize : ∀ a b : κ, compare a b = .eq → size a = size b)
    (hgrows : ∀ k ∈ m.keys, compare (f k) k = .eq ∨ size k < size (f k)) :
    (m.mapKeys f).SameAs m ↔ ∀ k ∈ m.keys, compare (f k) k = .eq := by
  refine ⟨fun h k hk => ?_, sameAs_mapKeys⟩
  -- a key that moves makes room for a shorter one, which moves itself
  induction hn : size k using Nat.strongRecOn generalizing k with
  | ind n ih =>
    obtain ⟨k', hk', hsame⟩ := h.exists_mem_keys hk
    obtain ⟨old, hold, rfl⟩ := mem_keys_mapKeys hk'
    have hstays : compare (f old) old = .eq := by
      rcases hgrows old hold with hstays | hlonger
      · exact hstays
      · rw [hsize _ _ hsame, hn] at hlonger
        exact ih (size old) hlonger old hold rfl
    have hold' : old = k :=
      eq_of_mem_keys hold hk (Std.TransCmp.eq_trans (Std.OrientedCmp.eq_symm hstays) hsame)
    rwa [hold'] at hstays

end CompilerDriver.OrderedMap
