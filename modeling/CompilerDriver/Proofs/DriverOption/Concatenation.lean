import CompilerDriver.Proofs.DriverOption.RoundTrip

/-!
# Command lines put together

What some words give does not depend on the words that follow them, and how those are read depends on the
words before them in two ways only: a separator makes inputs of all that follows, and an option at the end
takes the next word for its argument. `continues_read` says for every list of words what comes of it when it
goes on, and `read_append` what two lists give together.

A separator that is the argument of an option is none. So one is in effect behind some words exactly if all that
stands before one of them, and that one is `--`, can be read by itself (`EndsSeparated`).
-/

namespace CompilerDriver.Occurrences

/-- A separator stands among the words: at some `--`, what is before it reads as a whole. -/
def EndsSeparated (words : List String) : Prop :=
  ∃ front paths given, words = front ++ "--" :: paths ∧ read front = .ok given

/-! ## One occurrence -/

/-- Reading the words takes the occurrence off their front, whatever follows them. -/
def Gives (words : List String) (x : Occurrence) : Prop :=
  ∀ more, read (words ++ more) = (read more).map (x :: ·)

theorem gives_input {word : String} (h : Word.of word = .input) : Gives [word] (.input word) := by
  intro more
  show read (word :: more) = _
  rw [read.eq_def]
  simp only [h]
  cases read more <;> rfl

theorem gives_whole {word : String} {x : Occurrence} (h : Word.of word = .whole x) : Gives [word] x := by
  intro more
  show read (word :: more) = _
  rw [read.eq_def]
  simp only [h]
  cases read more <;> rfl

theorem gives_awaiting {word : String} {o : DriverOption} (h : Word.of word = .awaiting o)
    (argument : String) : Gives [word, argument] (.withArgument o argument) := by
  intro more
  show read (word :: argument :: more) = _
  rw [read.eq_def]
  simp only [h]
  cases read more <;> rfl

theorem read_unknown {word : String} (h : Word.of word = .unknown) (rest : List String) :
    read (word :: rest) = .error (.unknownOption word) := by
  rw [read.eq_def]
  simp only [h]

/-- What is true of a word that reaches beyond itself. -/
def Reaches (word : String) : Word → Prop
  | .separator => word = "--"
  | .awaiting o => DriverOption.ofSpelling? word = some o ∧ o.takesArgument = true
  | _ => True

theorem reaches_of (word : String) : Reaches word (Word.of word) := by
  rw [Word.of]
  split
  next => trivial
  split
  next heq => exact heq
  split
  next o hfound =>
    split
    next htakes => exact ⟨hfound, htakes⟩
    next => trivial
  next =>
    extract_lets joined
    have hjoined : Reaches word joined := by
      unfold joined
      split <;> trivial
    split
    next => exact hjoined
    next =>
      split
      next => exact hjoined
      next => split <;> trivial

/-- What some words begin with. -/
inductive Begins : List String → Prop
  | nil : Begins []
  | occurrence (x : Occurrence) (front rest : List String) (hfront : front ≠ []) (hgives : Gives front x) :
    Begins (front ++ rest)
  | separator (paths : List String) : Begins ("--" :: paths)
  | awaiting (word : String) (o : DriverOption) (h : Word.of word = .awaiting o) : Begins [word]
  | fault (words : List String) (e : ReadError) (hnot : ∀ word, e ≠ .missingArgument word)
    (h : ∀ more, read (words ++ more) = .error e) : Begins words

theorem begins (words : List String) : Begins words := by
  cases words with
  | nil => exact .nil
  | cons word rest =>
    have hreaches := reaches_of word
    cases hword : Word.of word with
    | input => exact .occurrence _ [word] rest (List.cons_ne_nil _ _) (gives_input hword)
    | separator =>
      rw [hword] at hreaches
      obtain rfl : word = "--" := hreaches
      exact .separator rest
    | whole x => exact .occurrence x [word] rest (List.cons_ne_nil _ _) (gives_whole hword)
    | awaiting o =>
      cases rest with
      | nil => exact .awaiting word o hword
      | cons argument rest =>
        exact .occurrence _ [word, argument] rest (List.cons_ne_nil _ _) (gives_awaiting hword argument)
    | overfull spelling =>
      refine .fault _ (.unexpectedArgument spelling) (fun _ h => by cases h) fun more => ?_
      rw [List.cons_append, read.eq_def]
      simp only [hword]
    | unknown =>
      exact .fault _ (.unknownOption word) (fun _ h => by cases h) fun more => read_unknown hword _

/-! ## All of them -/

/-- What comes of some words that read as `result` when they go on. -/
inductive Continues (words : List String) : Except ReadError Occurrences → Prop
  /-- What follows is read as if it stood alone. -/
  | plain (given : Occurrences) (h : ∀ more, read (words ++ more) = (read more).map (given ++ ·)) :
    Continues words (.ok given)
  /-- All that follows is an input. -/
  | separated (given : Occurrences) (hseparated : EndsSeparated words)
    (h : ∀ paths, read (words ++ paths) = .ok (given ++ paths.map .input)) : Continues words (.ok given)
  /-- The first word that follows is the argument of the last one. -/
  | awaiting (front : List String) (word : String) (o : DriverOption) (given : Occurrences)
    (hwords : words = front ++ [word]) (hword : Word.of word = .awaiting o)
    (h : ∀ more, read (front ++ more) = (read more).map (given ++ ·)) :
    Continues words (.error (.missingArgument word))
  /-- Nothing that follows mends it. -/
  | fault (e : ReadError) (hnot : ∀ word, e ≠ .missingArgument word)
    (h : ∀ more, read (words ++ more) = .error e) : Continues words (.error e)

theorem endsSeparated_append {front rest : List String} {x : Occurrence} (hgives : Gives front x)
    (h : EndsSeparated rest) : EndsSeparated (front ++ rest) := by
  obtain ⟨before, paths, given, rfl, hread⟩ := h
  refine ⟨front ++ before, paths, x :: given, (List.append_assoc ..).symm, ?_⟩
  rw [hgives, hread]
  rfl

/-- An occurrence before them changes nothing of how words go on. -/
theorem Continues.prepend {front rest : List String} {x : Occurrence} (hgives : Gives front x)
    {result : Except ReadError Occurrences} (h : Continues rest result) :
    Continues (front ++ rest) (result.map (x :: ·)) := by
  cases h with
  | plain given h =>
    refine .plain (x :: given) fun more => ?_
    rw [List.append_assoc, hgives, h]
    cases read more <;> rfl
  | separated given hseparated h =>
    refine .separated (x :: given) (endsSeparated_append hgives hseparated) fun paths => ?_
    rw [List.append_assoc, hgives, h]
    rfl
  | awaiting before word o given hwords hword h =>
    refine .awaiting (front ++ before) word o (x :: given) ?_ hword fun more => ?_
    · rw [hwords, List.append_assoc]
    · rw [List.append_assoc, hgives, h]
      cases read more <;> rfl
  | fault e hnot h =>
    refine .fault e hnot fun more => ?_
    rw [List.append_assoc, hgives, h]
    rfl

theorem continues_read (words : List String) : Continues words (read words) := by
  -- an occurrence may be two words long, so the words that are left are not just the tail
  induction hlength : words.length using Nat.strongRecOn generalizing words with
  | ind n ih =>
    cases begins words with
    | nil => exact .plain [] fun more => by cases hread : read more <;> simp [hread, Except.map]
    | occurrence x front rest hfront hgives =>
      have hshorter : rest.length < n := by
        have hpos := List.length_pos_iff.2 hfront
        rw [List.length_append] at hlength
        omega
      rw [hgives]
      exact (ih rest.length hshorter rest rfl).prepend hgives
    | separator paths =>
      rw [read_separator]
      refine .separated _ ⟨[], paths, [], rfl, rfl⟩ fun more => ?_
      rw [List.cons_append, read_separator, List.map_append]
    | awaiting word o hword =>
      have hread : read [word] = .error (.missingArgument word) := by
        rw [read.eq_def]
        simp only [hword]
      rw [hread]
      exact .awaiting [] word o [] rfl hword fun more => by
        cases hmore : read more <;> simp [hmore, Except.map]
    | fault _ e hnot h =>
      have hread : read words = .error e := by
        have hnil := h []
        rwa [List.append_nil] at hnil
      rw [hread]
      exact .fault e hnot h

/-- Behind a separator nothing is read any more. -/
theorem read_append_of_endsSeparated {words : List String} {given : Occurrences}
    (hread : read words = .ok given) (h : EndsSeparated words) (paths : List String) :
    read (words ++ paths) = .ok (given ++ paths.map .input) := by
  -- so words that are no option do not spoil the command line, as they would if they were read
  have hcontinues := continues_read words
  rw [hread] at hcontinues
  cases hcontinues with
  | separated _ _ hall => exact hall paths
  | plain _ hplain =>
    obtain ⟨front, behind, before, rfl, hfront⟩ := h
    have hunknown : read ["-?"] = .error (.unknownOption "-?") := read_unknown (by decide +kernel) []
    have hspoiled := hplain ["-?"]
    rw [hunknown, List.append_assoc, List.cons_append] at hspoiled
    have hcontinues := continues_read front
    rw [hfront] at hcontinues
    cases hcontinues with
    | plain _ hrest =>
      rw [hrest, read_separator] at hspoiled
      cases hspoiled
    | separated _ _ hrest =>
      rw [hrest] at hspoiled
      cases hspoiled

theorem read_append_of_not_endsSeparated {words : List String} {given : Occurrences}
    (hread : read words = .ok given) (h : ¬EndsSeparated words) (more : List String) :
    read (words ++ more) = (read more).map (given ++ ·) := by
  have hcontinues := continues_read words
  rw [hread] at hcontinues
  cases hcontinues with
  | plain _ hall => exact hall more
  | separated _ hseparated _ => exact absurd hseparated h

/-- Words that more words can spoil do not end in inputs. -/
theorem not_endsSeparated_of_error {words more : List String} {given : Occurrences} {e : ReadError}
    (hread : read words = .ok given) (herror : read (words ++ more) = .error e) : ¬EndsSeparated words := by
  intro h
  rw [read_append_of_endsSeparated hread h] at herror
  cases herror

/-- A separator that is the argument of an option is none. -/
example : ¬EndsSeparated ["-D", "--"] := by
  intro h
  have hread : read ["-D", "--"] = .ok [.withArgument .define "--"] := rfl
  have hunknown : read ["-D", "--", "-?"] = .error (.unknownOption "-?") := rfl
  cases hunknown.symm.trans (read_append_of_endsSeparated hread h ["-?"])

/-- What two command lines give together is settled by the first one: it leaves the second as it is, makes inputs
of it, takes its first word for an argument, or is at fault by itself. -/
theorem read_append (a b : List String) :
    (∀ given, read a = .ok given →
      (¬EndsSeparated a → read (a ++ b) = (read b).map (given ++ ·)) ∧
      (EndsSeparated a → read (a ++ b) = .ok (given ++ b.map .input))) ∧
    (∀ word, read a = .error (.unknownOption word) → read (a ++ b) = .error (.unknownOption word)) ∧
    (∀ spelling, read a = .error (.unexpectedArgument spelling) →
      read (a ++ b) = .error (.unexpectedArgument spelling)) ∧
    ∀ word, read a = .error (.missingArgument word) →
      ∃ front given o, a = front ++ [word] ∧ read front = .ok given ∧
        DriverOption.ofSpelling? word = some o ∧ o.takesArgument = true ∧
        ∀ argument rest, b = argument :: rest →
          read (a ++ b) = (read rest).map fun more => given ++ .withArgument o argument :: more := by
  have hcontinues := continues_read a
  refine ⟨fun given hread => ⟨fun hplain => ?_, fun hseparated => ?_⟩, fun word hread => ?_,
    fun spelling hread => ?_, fun word hread => ?_⟩
  · rw [hread] at hcontinues
    cases hcontinues with
    | plain _ h => exact h b
    | separated _ hseparated _ => exact absurd hseparated hplain
  · exact read_append_of_endsSeparated hread hseparated b
  · rw [hread] at hcontinues
    cases hcontinues with
    | fault _ _ h => exact h b
  · rw [hread] at hcontinues
    cases hcontinues with
    | fault _ _ h => exact h b
  · rw [hread] at hcontinues
    cases hcontinues with
    | fault _ hnot _ => exact absurd rfl (hnot word)
    | awaiting front _ o given hwords hword h =>
      have hreaches := reaches_of word
      rw [hword] at hreaches
      obtain ⟨hspelled, htakes⟩ := hreaches
      refine ⟨front, given, o, hwords, ?_, hspelled, htakes, ?_⟩
      · have hnil := h []
        rw [List.append_nil] at hnil
        rw [hnil, read]
        simp [Except.map]
      · rintro argument rest rfl
        have hlast : read ([word] ++ argument :: rest) = (read rest).map (.withArgument o argument :: ·) :=
          gives_awaiting hword argument rest
        rw [hwords, List.append_assoc, h, hlast]
        cases read rest <;> rfl

end CompilerDriver.Occurrences
