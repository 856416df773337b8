import CompilerDriver.Storage.Memory

/-!
# What all storages have in common

A file that was written without an error is read as it was written, and the time at which something is done is
only noted: storages that hold the same files go on to hold the same files, whenever the same things are done to
them, and the same things fail (`LawfulStorage`). How a path is written has no part in what it leads to
(`LawfulPaths`). This holds in memory, and it holds on a disk.
-/

namespace CompilerDriver

/-- The attempts failed for the same reason or both succeeded, and they leave related storages. -/
structure Attempt.Related {σ : Type} (Rel : σ → σ → Prop) (a b : Attempt σ) : Prop where
  left : Rel a.left b.left
  failure : a.failure = b.failure

/-- The laws of a storage. -/
class LawfulStorage (σ : Type) [Storage σ] where
  /-- The storages hold the same files, whatever their times are. -/
  Alike : σ → σ → Prop
  refl (s : σ) : Alike s s
  read_eq {s t : σ} (h : Alike s t) (path : Path) : Storage.read s path = Storage.read t path
  createDirectories_related {s t : σ} (h : Alike s t) (now now' : Instant) (path : Path) :
    Attempt.Related Alike (Storage.createDirectories s now path) (Storage.createDirectories t now' path)
  writeAtomic_related {s t : σ} (h : Alike s t) (now now' : Instant) (path : Path) (contents : Bytes) :
    Attempt.Related Alike (Storage.writeAtomic s now path contents) (Storage.writeAtomic t now' path contents)
  read_written {s : σ} {now : Instant} {path : Path} {contents : Bytes}
    (h : (Storage.writeAtomic s now path contents).failure = none) :
    Storage.read (Storage.writeAtomic s now path contents).left path = .ok contents

/-- The laws of the paths of a storage. -/
class LawfulPaths (σ : Type) [Storage σ] : Prop where
  /-- Only whether a path is absolute counts for whether it is rooted. -/
  isRooted_eq (s : σ) {p q : Path} (h : p.isAbsolute = q.isAbsolute) : Storage.isRooted s p = Storage.isRooted s q
  isRooted_createDirectories (s : σ) (now : Instant) (path : Path) :
    Storage.isRooted (Storage.createDirectories s now path).left = Storage.isRooted s
  isRooted_writeAtomic (s : σ) (now : Instant) (path : Path) (contents : Bytes) :
    Storage.isRooted (Storage.writeAtomic s now path contents).left = Storage.isRooted s
  /-- Where a file can be read under two spellings of its path, it is the same file. -/
  read_congr (s : σ) {p q : Path} (h : compare p q = .eq) {contents contents' : Bytes}
    (hp : Storage.read s p = .ok contents) (hq : Storage.read s q = .ok contents') : contents = contents'

theorem Attempt.Related.andThen {σ : Type} {Rel : σ → σ → Prop} {a b : Attempt σ} {f g : σ → Attempt σ}
    (h : Attempt.Related Rel a b) (hnext : ∀ s t, Rel s t → Attempt.Related Rel (f s) (g t)) :
    Attempt.Related Rel (a.andThen f) (b.andThen g) := by
  obtain ⟨left, failure⟩ := a
  obtain ⟨left', failure'⟩ := b
  obtain ⟨hleft, hfailure⟩ := h
  obtain rfl : failure = failure' := hfailure
  cases failure with
  | none => exact hnext _ _ hleft
  | some e => exact ⟨hleft, rfl⟩

/-- If two attempts in a row succeed, the second one starts from what the first one left. -/
theorem Attempt.andThen_of_failure {σ : Type} {a : Attempt σ} {f : σ → Attempt σ}
    (h : (a.andThen f).failure = none) : a.andThen f = f a.left := by
  rw [andThen] at h ⊢
  split
  next => rfl
  next e he =>
    rw [he] at h
    exact nomatch he.symm.trans h

/-! ## In memory -/

namespace MemoryStorage

/-- The storages hold the same files and treat their callers alike. -/
structure Alike (s t : MemoryStorage) : Prop where
  read_eq : ∀ path, Storage.read s path = Storage.read t path
  deniesWrites : s.deniesWrites = t.deniesWrites

instance : LawfulStorage MemoryStorage where
  Alike := Alike
  refl _ := ⟨fun _ => rfl, rfl⟩
  read_eq h := h.read_eq
  createDirectories_related {s t} h now now' path := by
    refine ⟨h, ?_⟩
    show (if s.deniesWrites then _ else _) = if t.deniesWrites then _ else _
    rw [h.deniesWrites]
  writeAtomic_related {s t} h now now' path contents := by
    show Attempt.Related Alike (s.writeAtomic now path contents) (t.writeAtomic now' path contents)
    rw [writeAtomic, writeAtomic, h.deniesWrites]
    split
    next => exact ⟨h, rfl⟩
    next => exact ⟨⟨fun other => by rw [read_put, read_put, h.read_eq], h.deniesWrites⟩, rfl⟩
  read_written {s now path contents} h := by
    change (s.writeAtomic now path contents).failure = none at h
    show Storage.read (s.writeAtomic now path contents).left path = .ok contents
    rw [writeAtomic] at h ⊢
    split at h
    next => cases h
    next hallowed => rw [if_neg hallowed, read_put, if_pos Std.ReflCmp.compare_self]

instance : LawfulPaths MemoryStorage where
  isRooted_eq s p q h := by
    show (s.rootsEverything || p.isAbsolute) = (s.rootsEverything || q.isAbsolute)
    rw [h]
  isRooted_createDirectories _ _ _ := rfl
  isRooted_writeAtomic s now path contents := by
    show Storage.isRooted (s.writeAtomic now path contents).left = Storage.isRooted s
    rw [writeAtomic]
    split <;> rfl
  read_congr s p q h contents contents' hp hq := by
    change (s.file p).map (·.contents) = .ok contents at hp
    change (s.file q).map (·.contents) = .ok contents' at hq
    rw [file, OrderedMap.get?_congr h] at hp
    rw [file] at hq
    cases hfound : s.files.get? q with
    | none =>
      rw [hfound] at hp
      cases hp
    | some found =>
      rw [hfound] at hp hq
      cases hp
      cases hq
      rfl

end MemoryStorage

end CompilerDriver
