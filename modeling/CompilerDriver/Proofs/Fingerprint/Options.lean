import CompilerDriver.Fingerprint
import CompilerDriver.Proofs.OrderedMap.Collecting
import CompilerDriver.Proofs.Text.Digits

/-!
# What a fingerprint tells

A fingerprint depends on which options were given, not on their order, number or arguments
(`fingerprint_congr`). The other way round, the text that is digested tells which options these were
(`preimage_inj`): the spellings stand in it without separators, but none of them could be taken for
another one with something behind it. So two fingerprints that agree stand for the same options, unless
the digest of two texts collides (`sameOptions_or_collision`).
-/

namespace CompilerDriver.Fingerprint

open Occurrences Digits

/-- Two command lines have the same options among those that count. -/
def SameOptions (given given' : Occurrences) : Prop :=
  ∀ o, counts o = true → given.contains o = given'.contains o

/-- Two texts that differ have the same digest. -/
def Collides (cs ds : List Char) : Prop :=
  cs ≠ ds ∧ sha256 (Utf8.encode cs) = sha256 (Utf8.encode ds)

/-- The positional input, which has no spelling of its own, makes no results useless. -/
theorem counts_eq_invalidates (o : DriverOption) : counts o = o.invalidates := by
  have each : ∀ o ∈ DriverOption.all, counts o = o.invalidates := by decide +kernel
  exact each o o.mem_all

theorem sameOptions_iff {given given' : Occurrences} :
    SameOptions given given' ↔
      ∀ o : DriverOption, o.invalidates = true → o.isPositional = false →
        given.contains o = given'.contains o := by
  simp [SameOptions, counts]

/-- What looks like a fingerprint. -/
theorem isWellFormed_iff {s : String} :
    isWellFormed s = true ↔
      s.length = 64 ∧ ∀ c ∈ s.toList, ('0' ≤ c ∧ c ≤ '9') ∨ ('a' ≤ c ∧ c ≤ 'f') := by
  simp [isWellFormed, isLowerHex, isDigit, String.length_toList]

/-! ## The spellings of a fingerprint -/

theorem mem_spellings {given : Occurrences} {s : String} :
    s ∈ (spellings given).toList ↔
      ∃ o, counts o = true ∧ given.contains o = true ∧ o.spelling = s := by
  rw [spellings, OrderedSet.mem_ofList]
  simp only [List.mem_map, List.mem_filter, contains, List.any_eq_true, beq_iff_eq]
  constructor
  · rintro ⟨x, ⟨hx, hc⟩, rfl⟩
    exact ⟨x.option, hc, ⟨x, hx, rfl⟩, rfl⟩
  · rintro ⟨o, hc, ⟨x, hx, rfl⟩, rfl⟩
    exact ⟨x, ⟨hx, hc⟩, rfl⟩

theorem spellings_congr {given given' : Occurrences} (h : SameOptions given given') :
    spellings given = spellings given' := by
  apply OrderedSet.ext_mem
  intro s
  rw [mem_spellings, mem_spellings]
  constructor
  · rintro ⟨o, hc, ho, rfl⟩
    exact ⟨o, hc, by rw [← h o hc, ho], rfl⟩
  · rintro ⟨o, hc, ho, rfl⟩
    exact ⟨o, hc, by rw [h o hc, ho], rfl⟩

/-- The fingerprint tells nothing but which options were given. -/
theorem fingerprint_congr {given given' : Occurrences} (h : SameOptions given given') :
    fingerprint given = fingerprint given' := by
  rw [fingerprint, fingerprint, preimage, preimage, spellings_congr h]

/-! ## Spellings without separators -/

/-- The options that count. -/
def counted : List DriverOption := DriverOption.all.filter counts

theorem mem_counted {o : DriverOption} : o ∈ counted ↔ counts o = true := by
  rw [counted, List.mem_filter]
  exact and_iff_right (DriverOption.mem_all o)

theorem spelling_inj {o p : DriverOption} (ho : counts o = true) (hp : counts p = true)
    (h : o.spelling = p.spelling) : o = p := by
  have each : ∀ o ∈ counted, ∀ p ∈ counted, o.spelling = p.spelling → o = p := by decide +kernel
  exact each o (mem_counted.2 ho) p (mem_counted.2 hp) h

theorem head?_spelling {o : DriverOption} (h : counts o = true) :
    o.spelling.toList.head? = some '-' := by
  have each : ∀ o ∈ counted, o.spelling.toList.head? = some '-' := by decide +kernel
  exact each o (mem_counted.2 h)

/-- Where one spelling begins another, the longer one does not go on with a dash. -/
theorem head?_drop_spelling {o p : DriverOption} (ho : counts o = true) (hp : counts p = true)
    (h : o.spelling.toList.isPrefixOf p.spelling.toList = true) :
    (p.spelling.toList.drop o.spelling.toList.length).head? ≠ some '-' := by
  have each : ∀ o ∈ counted, ∀ p ∈ counted,
      o.spelling.toList.isPrefixOf p.spelling.toList = true →
        (p.spelling.toList.drop o.spelling.toList.length).head? ≠ some '-' := by decide +kernel
  exact each o (mem_counted.2 ho) p (mem_counted.2 hp) h

/-- A text goes on with a dash, if it goes on at all. -/
def DashAhead (cs : List Char) : Prop := ∀ c rest, cs = c :: rest → c = '-'

/-- Nothing that may follow a spelling makes a longer one of it. -/
theorem spelling_append_inj {o p : DriverOption} (ho : counts o = true) (hp : counts p = true)
    {cs ds : List Char} (hc : DashAhead cs)
    (h : o.spelling.toList ++ cs = p.spelling.toList ++ ds)
    (hle : o.spelling.toList.length ≤ p.spelling.toList.length) : o = p ∧ cs = ds := by
  obtain ⟨more, hmore⟩ : o.spelling.toList <+: p.spelling.toList :=
    List.prefix_of_prefix_length_le (List.prefix_append _ cs) (h ▸ List.prefix_append _ ds) hle
  rw [← hmore, List.append_assoc, List.append_cancel_left_eq] at h
  cases more with
  | nil =>
    rw [List.append_nil, String.toList_inj] at hmore
    exact ⟨spelling_inj ho hp hmore, h⟩
  | cons c more =>
    have hdash : c = '-' := hc c (more ++ ds) h
    have hprefix : o.spelling.toList.isPrefixOf p.spelling.toList = true :=
      List.isPrefixOf_iff_prefix.2 ⟨c :: more, hmore⟩
    have hnot := head?_drop_spelling ho hp hprefix
    rw [← hmore, List.drop_left, hdash] at hnot
    exact absurd rfl hnot

theorem dashAhead_flatMap {options : List DriverOption} (h : ∀ o ∈ options, counts o = true) :
    DashAhead (options.flatMap fun o => o.spelling.toList) := by
  intro c rest heq
  cases options with
  | nil => cases heq
  | cons o options =>
    have hhead := head?_spelling (h o (by simp))
    rw [List.flatMap_cons] at heq
    cases hs : o.spelling.toList with
    | nil =>
      rw [hs] at hhead
      cases hhead
    | cons d ds =>
      rw [hs] at hhead heq
      rw [← (List.cons.inj heq).1]
      exact Option.some.inj hhead

/-- Spellings that stand one behind the other can be told apart. -/
theorem flatMap_spelling_inj {options options' : List DriverOption}
    (h : ∀ o ∈ options, counts o = true) (h' : ∀ o ∈ options', counts o = true)
    (heq : (options.flatMap fun o => o.spelling.toList) =
      options'.flatMap fun o => o.spelling.toList) : options = options' := by
  have hne {o : DriverOption} (ho : counts o = true) : o.spelling.toList ≠ [] := by
    intro hnil
    have hhead := head?_spelling ho
    rw [hnil] at hhead
    cases hhead
  induction options generalizing options' with
  | nil =>
    cases options' with
    | nil => rfl
    | cons p options' =>
      rw [List.flatMap_nil, List.flatMap_cons] at heq
      exact absurd (List.append_eq_nil_iff.1 heq.symm).1 (hne (h' p (by simp)))
  | cons o options ih =>
    cases options' with
    | nil =>
      rw [List.flatMap_nil, List.flatMap_cons] at heq
      exact absurd (List.append_eq_nil_iff.1 heq).1 (hne (h o (by simp)))
    | cons p options' =>
      have ho := h o (by simp)
      have hp := h' p (by simp)
      have hrest : ∀ o ∈ options, counts o = true := fun q hq => h q (by simp [hq])
      have hrest' : ∀ o ∈ options', counts o = true := fun q hq => h' q (by simp [hq])
      rw [List.flatMap_cons, List.flatMap_cons] at heq
      -- the shorter one of the two spellings begins the longer one
      rcases Nat.le_total o.spelling.toList.length p.spelling.toList.length with hle | hle
      · obtain ⟨rfl, htail⟩ := spelling_append_inj ho hp (dashAhead_flatMap hrest) heq hle
        rw [ih hrest hrest' htail]
      · obtain ⟨rfl, htail⟩ := spelling_append_inj hp ho (dashAhead_flatMap hrest') heq.symm hle
        rw [ih hrest hrest' htail.symm]

/-! ## From the fingerprint back to the options -/

theorem exists_map_spelling {spelled : List String}
    (h : ∀ s ∈ spelled, ∃ o, counts o = true ∧ o.spelling = s) :
    ∃ options : List DriverOption, (∀ o ∈ options, counts o = true) ∧
      spelled = options.map DriverOption.spelling := by
  induction spelled with
  | nil => exact ⟨[], by simp, rfl⟩
  | cons s spelled ih =>
    obtain ⟨o, ho, rfl⟩ := h s List.mem_cons_self
    obtain ⟨options, hoptions, rfl⟩ := ih fun t ht => h t (List.mem_cons_of_mem _ ht)
    refine ⟨o :: options, ?_, rfl⟩
    intro p hp
    rcases List.mem_cons.1 hp with rfl | hp
    · exact ho
    · exact hoptions p hp

/-- The digested text lists options that count and were given. -/
theorem exists_preimage_eq (given : Occurrences) :
    ∃ options : List DriverOption, (∀ o ∈ options, counts o = true) ∧
      (spellings given).toList = options.map DriverOption.spelling ∧
      preimage given = options.flatMap fun o => o.spelling.toList := by
  have hspelled : ∀ s ∈ (spellings given).toList, ∃ o, counts o = true ∧ o.spelling = s := by
    intro s hs
    obtain ⟨o, ho, -, hspelled⟩ := mem_spellings.1 hs
    exact ⟨o, ho, hspelled⟩
  obtain ⟨options, hcounts, hlist⟩ := exists_map_spelling hspelled
  refine ⟨options, hcounts, hlist, ?_⟩
  rw [preimage, hlist, List.flatMap_map]

theorem preimage_inj {given given' : Occurrences} (h : preimage given = preimage given') :
    SameOptions given given' := by
  obtain ⟨options, hcounts, hlist, hpre⟩ := exists_preimage_eq given
  obtain ⟨options', hcounts', hlist', hpre'⟩ := exists_preimage_eq given'
  have hsame : options = options' := flatMap_spelling_inj hcounts hcounts' (by rw [← hpre, ← hpre', h])
  have hmem : ∀ s, s ∈ (spellings given).toList ↔ s ∈ (spellings given').toList := by
    intro s
    rw [hlist, hlist', hsame]
  have hgiven {given : Occurrences} {o : DriverOption} (ho : counts o = true) :
      o.spelling ∈ (spellings given).toList ↔ given.contains o = true := by
    rw [mem_spellings]
    constructor
    · rintro ⟨p, hp, hin, hspelled⟩
      rw [← spelling_inj hp ho hspelled]
      exact hin
    · intro hin
      exact ⟨o, ho, hin, rfl⟩
  intro o ho
  rw [Bool.eq_iff_iff, ← hgiven ho, ← hgiven ho]
  exact hmem o.spelling

/-- The digested bytes are equal if and only if the same options were given. -/
theorem encode_preimage_eq_iff {given given' : Occurrences} :
    Utf8.encode (preimage given) = Utf8.encode (preimage given') ↔ SameOptions given given' := by
  constructor
  · intro h
    have hdecoded := congrArg Utf8.decode h
    rw [Utf8.decode_encode, Utf8.decode_encode] at hdecoded
    exact preimage_inj (Except.ok.inj hdecoded)
  · intro h
    rw [preimage, preimage, spellings_congr h]

/-- Command lines with the same fingerprint have the same options, or else their digests collide. -/
theorem sameOptions_or_collision {given given' : Occurrences}
    (h : fingerprint given = fingerprint given') :
    SameOptions given given' ∨ Collides (preimage given) (preimage given') := by
  by_cases hpre : preimage given = preimage given'
  · exact .inl (preimage_inj hpre)
  · rw [fingerprint, fingerprint, String.ofList_inj] at h
    exact .inr ⟨hpre, hex_inj h⟩

end CompilerDriver.Fingerprint
