import CompilerDriver.DriverOption.Reader
import Mathlib.Tactic.TFAE

/-!
# Command lines read back

Reading a command line forgets how it was spelled and nothing else. What it gives is always *well formed*:
every occurrence has the argument that its option asks for, and behind an input that could be taken for an
option there are only inputs. Whatever is well formed can be written down (`render`) and is read as it
was, so these are exactly the options that command lines give (`wellFormed_tfae`).

An argument may be any text, the separator or the spelling of another option among them: it is the word
behind its option, and this word is never looked at. So the words of one occurrence are read as this
occurrence whatever follows (`read_words_append`), up to the first input that needs the separator; from
there on all is inputs (`read_separator`).
-/

namespace CompilerDriver

namespace Occurrence

/-- Whether an option was given with an argument if and only if it has one. -/
def isComplete (x : Occurrence) : Bool :=
  x.argument.isSome == (x.option.takesArgument || x.option.isPositional)

/-- Whether this is an input that can only stand behind the separator. -/
def isShielded (x : Occurrence) : Bool :=
  x.option.isPositional && Occurrences.needsSeparator (x.argument.getD "")

/-- The words of one occurrence: an input is itself, and an option its canonical spelling and its argument. -/
def words (x : Occurrence) : List String :=
  if x.option.isPositional then [x.argument.getD ""] else x.option.spelling :: x.argument.toList

end Occurrence

namespace Occurrences

/-- What command lines give: complete occurrences, and behind an input that needs the separator only inputs. -/
structure WellFormed (given : Occurrences) : Prop where
  complete : ∀ x ∈ given, x.isComplete = true
  inputsBehind : given.Pairwise fun x y => x.isShielded = true → y.option = .input

theorem WellFormed.cons {x : Occurrence} {rest : Occurrences} (h : WellFormed rest)
    (hx : x.isComplete = true) (hplain : x.isShielded = false) : WellFormed (x :: rest) := by
  refine ⟨?_, List.pairwise_cons.2 ⟨?_, h.inputsBehind⟩⟩
  · intro y hy
    rcases List.mem_cons.1 hy with rfl | hy
    · exact hx
    · exact h.complete y hy
  · intro y _ hshielded
    rw [hplain] at hshielded
    cases hshielded

theorem wellFormed_inputs (paths : List String) : WellFormed (paths.map .input) := by
  refine ⟨?_, ?_⟩
  · intro x hx
    obtain ⟨path, -, rfl⟩ := List.mem_map.1 hx
    rfl
  · rw [List.pairwise_map]
    exact List.pairwise_of_forall fun _ _ _ => rfl

/-! ## What a word says -/

theorem needsSeparator_eq_false {word : String} :
    needsSeparator word = false ↔ word = "-" ∨ word.toList.head? ≠ some '-' := by
  simp only [needsSeparator, Bool.and_eq_false_iff, bne_eq_false_iff_eq, beq_eq_false_iff_ne]

theorem word_of_input {word : String} (h : needsSeparator word = false) : Word.of word = .input := by
  rw [Word.of, if_pos (needsSeparator_eq_false.1 h)]

/-- An option that is not the positional input is found under its spelling. -/
theorem word_of_spelling {o : DriverOption} (h : o.isPositional = false) :
    Word.of o.spelling = if o.takesArgument then .awaiting o else .whole (.flag o) := by
  have each : ∀ o ∈ DriverOption.all, o.isPositional = false →
      Word.of o.spelling = if o.takesArgument then .awaiting o else .whole (.flag o) := by
    decide +kernel
  exact each o o.mem_all h

theorem isPositional_of_ofSpelling? {word : String} {o : DriverOption}
    (h : DriverOption.ofSpelling? word = some o) : o.isPositional = false := by
  have hspelled := List.find?_some h
  rw [DriverOption.isSpelledBy, Bool.and_eq_true, Bool.not_eq_true'] at hspelled
  exact hspelled.1

theorem isPositional_of_takesArgument {o : DriverOption} (h : o.takesArgument = true) :
    o.isPositional = false := by
  cases o <;> first | rfl | cases h

theorem spec_of_glued? {word : String} {x : Occurrence} (h : Word.glued? word = some x) :
    x.argument.isSome = true ∧ x.option.takesArgument = true := by
  simp only [Word.glued?, Option.bind_eq_bind, Option.bind_eq_some_iff, Option.pure_def,
    Option.some.injEq] at h
  obtain ⟨o, -, argument, hargument, rfl⟩ := h
  refine ⟨rfl, ?_⟩
  rw [DriverOption.gluedArgument?] at hargument
  split at hargument
  next hjoined => simp [Occurrence.withArgument, DriverOption.takesArgument, hjoined.1]
  next => cases hargument

/-- What can be said of a word, and of the occurrence that it is or begins. -/
inductive Says (word : String) : Word → Prop
  | input (h : needsSeparator word = false) : Says word .input
  | separator : Says word .separator
  | whole (x : Occurrence) (hcomplete : x.isComplete = true) (h : x.option.isPositional = false) :
    Says word (.whole x)
  | awaiting (o : DriverOption) (h : o.takesArgument = true) : Says word (.awaiting o)
  | overfull (spelling : String) : Says word (.overfull spelling)
  | unknown : Says word .unknown

theorem says_withArgument (word : String) {x : Occurrence} (hsome : x.argument.isSome = true)
    (htakes : x.option.takesArgument = true) : Says word (.whole x) := by
  refine .whole x ?_ (isPositional_of_takesArgument htakes)
  rw [Occurrence.isComplete, hsome, htakes]
  rfl

theorem says_of (word : String) : Says word (Word.of word) := by
  rw [Word.of]
  split
  next h =>
    apply Says.input
    rw [needsSeparator_eq_false]
    exact h
  split
  next => exact .separator
  split
  next o hfound =>
    split
    next htakes => exact .awaiting o htakes
    next hflag =>
      have hpositional := isPositional_of_ofSpelling? hfound
      rw [Bool.not_eq_true] at hflag
      refine .whole _ ?_ hpositional
      simp [Occurrence.isComplete, Occurrence.flag, hflag, hpositional]
  next =>
    extract_lets joined
    have hjoined : Says word joined := by
      unfold joined
      split
      next hglued =>
        obtain ⟨hsome, htakes⟩ := spec_of_glued? hglued
        exact says_withArgument word hsome htakes
      next => exact .unknown
    split
    next => exact hjoined
    next =>
      split
      next => exact hjoined
      next =>
        split
        next htakes => exact says_withArgument word rfl htakes
        next => exact .overfull _

/-! ## What is read is well formed -/

/-- Reading takes the words of one occurrence off the front, or what is left are inputs. -/
theorem read_cases {words : List String} {given : Occurrences} (h : read words = .ok given) :
    (∃ paths : List String, given = paths.map .input) ∨
    ∃ x rest tail, given = x :: tail ∧ x.isComplete = true ∧ x.isShielded = false ∧
      read rest = .ok tail ∧ rest.length < words.length := by
  have hcons {x : Occurrence} {rest : List String}
      (hread : (read rest).bind (fun tail => .ok (x :: tail)) = .ok given) :
      ∃ tail, given = x :: tail ∧ read rest = .ok tail := by
    cases htail : read rest with
    | error e =>
      rw [htail] at hread
      cases hread
    | ok tail =>
      rw [htail] at hread
      cases hread
      exact ⟨tail, rfl, rfl⟩
  cases words with
  | nil =>
    cases h
    exact .inl ⟨[], rfl⟩
  | cons word rest =>
    rw [read.eq_def] at h
    dsimp only at h
    have hsays := says_of word
    cases hword : Word.of word with
    | input =>
      rw [hword] at h hsays
      obtain ⟨tail, rfl, htail⟩ := hcons h
      cases hsays with
      | input hplain => exact .inr ⟨.input word, rest, tail, rfl, rfl, hplain, htail, Nat.lt_succ_self _⟩
    | separator =>
      rw [hword] at h
      cases h
      exact .inl ⟨rest, rfl⟩
    | whole x =>
      rw [hword] at h hsays
      obtain ⟨tail, rfl, htail⟩ := hcons h
      cases hsays with
      | whole _ hcomplete hpositional =>
        refine .inr ⟨x, rest, tail, rfl, hcomplete, ?_, htail, Nat.lt_succ_self _⟩
        rw [Occurrence.isShielded, hpositional, Bool.false_and]
    | awaiting o =>
      rw [hword] at h hsays
      cases rest with
      | nil => cases h
      | cons argument rest =>
        obtain ⟨tail, rfl, htail⟩ := hcons h
        cases hsays with
        | awaiting _ htakes =>
          refine .inr ⟨.withArgument o argument, rest, tail, rfl, ?_, ?_, htail,
            Nat.lt_succ_of_lt (Nat.lt_succ_self _)⟩
          · simp [Occurrence.isComplete, Occurrence.withArgument, htakes]
          · simp [Occurrence.isShielded, Occurrence.withArgument, isPositional_of_takesArgument htakes]
    | overfull spelling =>
      rw [hword] at h
      cases h
    | unknown =>
      rw [hword] at h
      cases h

theorem wellFormed_of_read {words : List String} {given : Occurrences} (h : read words = .ok given) :
    WellFormed given := by
  -- an option takes the word behind it along, so the words that are left are not just the tail
  induction hlength : words.length using Nat.strongRecOn generalizing words given with
  | ind n ih =>
    rcases read_cases h with ⟨paths, rfl⟩ | ⟨x, rest, tail, rfl, hcomplete, hplain, hrest, hshorter⟩
    · exact wellFormed_inputs paths
    · exact (ih rest.length (hlength ▸ hshorter) hrest rfl).cons hcomplete hplain

/-! ## What is well formed is read as it was written -/

theorem eq_input_of_isPositional {x : Occurrence} (hcomplete : x.isComplete = true)
    (h : x.option.isPositional = true) : ∃ path, x = .input path := by
  obtain ⟨o, argument⟩ := x
  obtain rfl : o = .input := by cases o <;> first | rfl | cases h
  cases argument with
  | none => cases hcomplete
  | some path => exact ⟨path, rfl⟩

/-- The words of one occurrence are read as this occurrence, whatever follows. -/
theorem read_words_append {x : Occurrence} (hcomplete : x.isComplete = true)
    (hplain : x.isShielded = false) (rest : List String) :
    read (x.words ++ rest) = (read rest).map (x :: ·) := by
  cases hpositional : x.option.isPositional with
  | true =>
    obtain ⟨path, rfl⟩ := eq_input_of_isPositional hcomplete hpositional
    have hword : Word.of path = .input := word_of_input hplain
    show read (path :: rest) = _
    rw [read.eq_def]
    simp only [hword]
    cases read rest <;> rfl
  | false =>
    rw [Occurrence.words, hpositional, if_neg Bool.false_ne_true]
    rw [Occurrence.isComplete, hpositional, Bool.or_false, beq_iff_eq] at hcomplete
    obtain ⟨o, argument⟩ := x
    have hword := word_of_spelling hpositional
    cases argument with
    | none =>
      rw [← hcomplete] at hword
      show read (o.spelling :: rest) = _
      rw [read.eq_def]
      simp only [hword]
      cases read rest <;> rfl
    | some argument =>
      -- the spelling awaits its argument, which is the next word whatever that looks like
      rw [← hcomplete] at hword
      show read (o.spelling :: argument :: rest) = _
      rw [read.eq_def]
      simp only [hword]
      cases read rest <;> rfl

theorem read_separator (paths : List String) : read ("--" :: paths) = .ok (paths.map .input) := by
  have hword : Word.of "--" = .separator := by decide +kernel
  rw [read.eq_def]
  simp only [hword]

/-! ## Writing, one occurrence at a time -/

theorem renderFrom_true (given : Occurrences) : renderFrom true given = given.flatMap Occurrence.words := by
  induction given with
  | nil => rfl
  | cons x rest ih =>
    obtain ⟨o, argument⟩ := x
    rw [renderFrom, List.flatMap_cons, ih, Occurrence.words]
    split
    next => rfl
    next => rfl

theorem render_cons_of_plain {x : Occurrence} (h : x.isShielded = false) (rest : Occurrences) :
    render (x :: rest) = x.words ++ render rest := by
  obtain ⟨o, argument⟩ := x
  rw [render, renderFrom, Occurrence.words]
  split
  next hpositional =>
    rw [Occurrence.isShielded, hpositional, Bool.true_and] at h
    change needsSeparator (argument.getD "") = false at h
    dsimp only
    rw [h]
    rfl
  next => rfl

/-- From an input that needs the separator on, all words stand behind it. -/
theorem render_cons_of_shielded {x : Occurrence} (h : x.isShielded = true) (rest : Occurrences) :
    render (x :: rest) = "--" :: (x :: rest).flatMap Occurrence.words := by
  obtain ⟨o, argument⟩ := x
  rw [Occurrence.isShielded, Bool.and_eq_true] at h
  rw [List.flatMap_cons, Occurrence.words, if_pos h.1, ← renderFrom_true, render, renderFrom, if_pos h.1,
    if_pos (by rw [h.2]; rfl)]
  rfl

theorem exists_paths {given : Occurrences} (hcomplete : ∀ x ∈ given, x.isComplete = true)
    (hinputs : ∀ x ∈ given, x.option = .input) :
    ∃ paths : List String, given = paths.map .input ∧ given.flatMap Occurrence.words = paths := by
  induction given with
  | nil => exact ⟨[], rfl, rfl⟩
  | cons x rest ih =>
    obtain ⟨paths, hrest, hwords⟩ := ih (fun y hy => hcomplete y (List.mem_cons_of_mem _ hy))
      fun y hy => hinputs y (List.mem_cons_of_mem _ hy)
    have hpositional : x.option.isPositional = true := by
      rw [hinputs x List.mem_cons_self]
      rfl
    obtain ⟨path, rfl⟩ := eq_input_of_isPositional (hcomplete x List.mem_cons_self) hpositional
    refine ⟨path :: paths, ?_, ?_⟩
    · rw [hrest]
      rfl
    · rw [List.flatMap_cons, hwords]
      rfl

theorem read_render {given : Occurrences} (h : WellFormed given) : read (render given) = .ok given := by
  induction given with
  | nil => rfl
  | cons x rest ih =>
    obtain ⟨hbehind, hrest⟩ := List.pairwise_cons.1 h.inputsBehind
    cases hshielded : x.isShielded with
    | false =>
      have htail := ih ⟨fun y hy => h.complete y (List.mem_cons_of_mem _ hy), hrest⟩
      rw [render_cons_of_plain hshielded, read_words_append (h.complete x List.mem_cons_self) hshielded,
        htail]
      rfl
    | true =>
      -- an input that needs the separator has only inputs behind it, so the separator serves them all
      have hinputs : ∀ y ∈ x :: rest, y.option = .input := by
        intro y hy
        rcases List.mem_cons.1 hy with rfl | hy
        · rw [Occurrence.isShielded, Bool.and_eq_true] at hshielded
          revert hshielded
          cases y.option <;> simp [DriverOption.isPositional, DriverOption.form, DriverOption.entry]
        · exact hbehind y hy hshielded
      obtain ⟨paths, hpaths, hwords⟩ := exists_paths h.complete hinputs
      rw [render_cons_of_shielded hshielded, hwords, read_separator, hpaths]

/-- The options that some command line gives are those that are well formed, and those that are read as they
were written. -/
theorem wellFormed_tfae (given : Occurrences) :
    [∃ words, read words = .ok given, WellFormed given, read (render given) = .ok given].TFAE := by
  tfae_have 1 → 2
  | ⟨_, hread⟩ => wellFormed_of_read hread
  tfae_have 2 → 3 := read_render
  tfae_have 3 → 1 := fun hread => ⟨_, hread⟩
  tfae_finish

/-- The word behind an option is its argument, whatever it looks like. -/
example : (read ["-D", "--", "-", "", "--", "-O", "--"]).toOption = some
    [.withArgument .define "--", .input "-", .input "", .input "-O", .input "--"] := by
  decide +kernel

end Occurrences

end CompilerDriver
