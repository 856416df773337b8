import CompilerDriver.Proofs.DriverOption.Concatenation

/-!
# Spellings of an option

An option can be written in more than one way: under another name, and with its argument behind an equals sign
or glued to it instead of in the next word. A word may fit several of the rules by which it is read, and then
the first one that fits decides. Why this makes no difference is said of the table alone: no spelling has an
equals sign in it (`IsSpelling`), and no option that takes glued arguments begins the spelling of another one
(`eq_of_joined_begins`). So `-DA=B` is no value of an option `-DA`, and `-Onone` is no argument of `-O`.

What a word gives is therefore settled by the option and the argument that it is made of (`word_of_equals`,
`word_of_joined`), and so is what a command line gives, whatever stands around the word (`read_respelled`).
-/

namespace CompilerDriver

/-! ## The table -/

namespace DriverOption

/-- All spellings of an option, its own one first. -/
def spellings (o : DriverOption) : List String := o.spelling :: o.aliases

/-- Whether a word begins like an option: with one dash, and something else behind it. -/
def looksLikeOption (word : String) : Bool :=
  match word.toList with
  | '-' :: c :: _ => c != '-'
  | _ => false

/-- What every spelling of an option looks like. -/
structure IsSpelling (word : String) : Prop where
  looks : looksLikeOption word = true
  equals_not_mem : '=' ∉ word.toList

theorem looksLikeOption_append {word : String} (h : looksLikeOption word = true) (more : String) :
    looksLikeOption (word ++ more) = true := by
  rw [looksLikeOption] at h ⊢
  split at h
  next c rest hword =>
    rw [String.toList_append, hword]
    exact h
  next => cases h

section Spellings

variable {o o' : DriverOption} {word : String}

theorem isPositional_of_flag (h : o.form = .flag) : o.isPositional = false := by
  rw [isPositional, h]
  rfl

theorem takesArgument_of_flag (h : o.form = .flag) : o.takesArgument = false := by
  rw [takesArgument, h]
  rfl

theorem isPositional_of_joined (h : o.form = .joined) : o.isPositional = false := by
  rw [isPositional, h]
  rfl

theorem takesArgument_of_joined (h : o.form = .joined) : o.takesArgument = true := by
  rw [takesArgument, h]
  rfl

theorem isSpelling_of_mem (h : o.isPositional = false) (hword : word ∈ o.spellings) : IsSpelling word := by
  have each : ∀ o ∈ all, o.isPositional = false → ∀ word ∈ o.spellings,
      looksLikeOption word = true ∧ '=' ∉ word.toList := by
    decide +kernel
  obtain ⟨hlooks, hequals⟩ := each o o.mem_all h word hword
  exact ⟨hlooks, hequals⟩

/-- A spelling that takes glued arguments begins no other one. -/
theorem eq_of_joined_begins (ho : o.form = .joined) (h : o'.isPositional = false)
    (hword : word ∈ o'.spellings) (hbegun : o.spelling.toList <+: word.toList) :
    o' = o ∧ word = o.spelling := by
  have each : ∀ o ∈ all, o.form = .joined → ∀ o' ∈ all, o'.isPositional = false →
      ∀ word ∈ o'.spellings, o.spelling.toList <+: word.toList → o' = o ∧ word = o.spelling := by
    decide +kernel
  exact each o o.mem_all ho o' o'.mem_all h word hword hbegun

/-- Only flags have other spellings than their own. -/
theorem form_of_mem_aliases (h : word ∈ o.aliases) : o.form = .flag := by
  have each : ∀ o ∈ all, ∀ word ∈ o.aliases, o.form = .flag := by decide +kernel
  exact each o o.mem_all word h

theorem eq_spelling_of_takesArgument (h : o.takesArgument = true) (hword : word ∈ o.spellings) :
    word = o.spelling := by
  rcases List.mem_cons.1 hword with rfl | hword
  · rfl
  · rw [takesArgument_of_flag (form_of_mem_aliases hword)] at h
    cases h

theorem ofSpelling?_of_mem (h : o.isPositional = false) (hword : word ∈ o.spellings) :
    ofSpelling? word = some o := by
  rcases List.mem_cons.1 hword with rfl | hword
  · exact ofSpelling?_spelling h
  · exact ofSpelling?_alias hword

theorem mem_of_ofSpelling? (h : ofSpelling? word = some o) :
    o.isPositional = false ∧ word ∈ o.spellings := by
  have hspelled := List.find?_some h
  rw [isSpelledBy, Bool.and_eq_true, Bool.not_eq_true', Bool.or_eq_true, beq_iff_eq,
    List.contains_iff_mem] at hspelled
  refine ⟨hspelled.1, List.mem_cons.2 ?_⟩
  rcases hspelled.2 with h | h
  · exact .inl h.symm
  · exact .inr h

theorem ofSpelling?_eq_none (h : ∀ o : DriverOption, o.isPositional = false → word ∉ o.spellings) :
    ofSpelling? word = none := by
  cases hfound : ofSpelling? word with
  | none => rfl
  | some o =>
    obtain ⟨hpositional, hword⟩ := mem_of_ofSpelling? hfound
    exact absurd hword (h o hpositional)

end Spellings

/-! ## Glued arguments -/

section Glued

variable {o : DriverOption} {argument : String}

theorem gluedArgument?_append (h : o.form = .joined) (hargument : argument ≠ "") :
    o.gluedArgument? (o.spelling ++ argument) = some argument := by
  have hlength : 0 < argument.toList.length :=
    List.length_pos_iff.2 fun hnil => hargument (String.toList_eq_nil_iff.1 hnil)
  rw [gluedArgument?, if_pos]
  · simp
  · refine ⟨h, ?_, ?_⟩
    · simp
    · rw [String.toList_append, List.length_append]
      omega

theorem begins_of_gluedArgument? {word : String} (h : (o.gluedArgument? word).isSome = true) :
    o.form = .joined ∧ o.spelling.toList <+: word.toList := by
  rw [gluedArgument?] at h
  split at h
  next hfits => exact ⟨hfits.1, List.isPrefixOf_iff_prefix.1 hfits.2.1⟩
  next => cases h

theorem begins_append (word more : String) : word.toList <+: (word ++ more).toList := by
  rw [String.toList_append]
  exact List.prefix_append _ _

/-- Of two options that fit a word one would begin the other, so there is only one. -/
theorem gluedIn?_append (h : o.form = .joined) (hargument : argument ≠ "") :
    gluedIn? (o.spelling ++ argument) = some o := by
  cases hfound : gluedIn? (o.spelling ++ argument) with
  | none =>
    have hnone := List.find?_eq_none.1 hfound o o.mem_all
    rw [gluedArgument?_append h hargument] at hnone
    exact absurd rfl hnone
  | some other =>
    rw [gluedIn?] at hfound
    have hfits := List.find?_some hfound
    obtain ⟨hother, hbegun⟩ := begins_of_gluedArgument? hfits
    have hspelled := begins_append o.spelling argument
    rcases List.prefix_or_prefix_of_prefix hspelled hbegun with hbegins | hbegins
    · rw [(eq_of_joined_begins h (isPositional_of_joined hother) List.mem_cons_self hbegins).1]
    · rw [(eq_of_joined_begins hother (isPositional_of_joined h) List.mem_cons_self hbegins).1]

end Glued

end DriverOption

/-! ## What a word gives -/

namespace Word

open DriverOption

variable {o : DriverOption} {word : String}

theorem ne_equals_of_mem {name : String} (h : '=' ∉ name.toList) : ∀ c ∈ name.toList, (c != '=') = true := by
  intro c hc
  rw [bne_iff_ne]
  rintro rfl
  exact h hc

theorem splitAtEquals?_append {name : String} (h : '=' ∉ name.toList) (value : String) :
    splitAtEquals? (name ++ "=" ++ value) = some (name, value) := by
  have hchars : (name ++ "=" ++ value).toList = name.toList ++ '=' :: value.toList := by simp
  rw [splitAtEquals?, hchars, List.dropWhile_append_of_pos (ne_equals_of_mem h),
    List.takeWhile_append_of_pos (ne_equals_of_mem h)]
  simp

/-- Where the sign is not the next character, more than the beginning stands before it. -/
theorem name_of_splitAtEquals? {front back name value : String} (hfront : '=' ∉ front.toList)
    (hback : back ≠ "") (hhead : back.toList.head? ≠ some '=')
    (h : splitAtEquals? (front ++ back) = some (name, value)) : ∃ more, more ≠ "" ∧ name = front ++ more := by
  have hname : name = String.ofList ((front ++ back).toList.takeWhile (· != '=')) := by
    rw [splitAtEquals?] at h
    split at h
    next => cases h
    next =>
      cases h
      rfl
  rw [String.toList_append, List.takeWhile_append_of_pos (ne_equals_of_mem hfront)] at hname
  refine ⟨String.ofList (back.toList.takeWhile (· != '=')), ?_, ?_⟩
  · obtain ⟨c, rest, hchars⟩ : ∃ c rest, back.toList = c :: rest :=
      List.exists_cons_of_ne_nil fun hnil => hback (String.toList_eq_nil_iff.1 hnil)
    rw [hchars, List.head?_cons, ne_eq, Option.some.injEq] at hhead
    simp [hchars, hhead]
  · rw [hname, String.ofList_append, String.ofList_toList]

theorem of_conditions (h : looksLikeOption word = true) :
    ¬(word = "-" ∨ word.toList.head? ≠ some '-') ∧ word ≠ "--" := by
  rw [looksLikeOption] at h
  split at h
  next c rest hword =>
    rw [bne_iff_ne] at h
    refine ⟨?_, ?_⟩
    · rintro (rfl | hhead)
      · simp at hword
      · exact hhead (by rw [hword]; rfl)
    · rintro rfl
      simp at hword
      exact h hword.1.symm
  next => cases h

theorem of_spelling (h : o.isPositional = false) (hword : word ∈ o.spellings) :
    Word.of word = if o.takesArgument then .awaiting o else .whole (.flag o) := by
  obtain ⟨hinput, hseparator⟩ := of_conditions (isSpelling_of_mem h hword).looks
  rw [Word.of, if_neg hinput, if_neg hseparator, ofSpelling?_of_mem h hword]

/-- A word with an equals sign is no spelling, so it is read as the spelling before the sign and what follows. -/
theorem of_equals (h : o.isPositional = false) (hword : word ∈ o.spellings) (value : String) :
    Word.of (word ++ "=" ++ value) =
      if o.takesArgument then .whole (.withArgument o value) else .overfull word := by
  have hspelling := isSpelling_of_mem h hword
  have hnone : ofSpelling? (word ++ "=" ++ value) = none :=
    ofSpelling?_eq_none fun o' h' hword' => (isSpelling_of_mem h' hword').equals_not_mem (by simp)
  obtain ⟨hinput, hseparator⟩ :=
    of_conditions (looksLikeOption_append (looksLikeOption_append hspelling.looks "=") value)
  rw [Word.of, if_neg hinput, if_neg hseparator, hnone]
  simp only [splitAtEquals?_append hspelling.equals_not_mem, ofSpelling?_of_mem h hword]

/-- Behind a glued argument nothing is a spelling, neither the whole word nor what stands before an equals sign in
it, unless the argument begins with that sign. -/
theorem of_joined (h : o.form = .joined) {argument : String} (hargument : argument ≠ "")
    (hequals : argument.toList.head? ≠ some '=') :
    Word.of (o.spelling ++ argument) = .whole (.withArgument o argument) := by
  have hpositional := isPositional_of_joined h
  -- what is longer than the spelling begins with it, so it is no spelling itself
  have hlonger {more : String} (hmore : more ≠ "") : ofSpelling? (o.spelling ++ more) = none := by
    refine ofSpelling?_eq_none fun o' h' hword' => ?_
    have hsame := (eq_of_joined_begins h h' hword' (begins_append o.spelling more)).2
    exact hmore (by simpa using hsame)
  have hglued : glued? (o.spelling ++ argument) = some (.withArgument o argument) := by
    rw [glued?, gluedIn?_append h hargument]
    simp [gluedArgument?_append h hargument]
  have hspelling := isSpelling_of_mem hpositional (List.mem_cons_self (a := o.spelling) (l := o.aliases))
  obtain ⟨hinput, hseparator⟩ := of_conditions (looksLikeOption_append hspelling.looks argument)
  rw [Word.of, if_neg hinput, if_neg hseparator, hlonger hargument, hglued]
  dsimp only
  split
  next => rfl
  next name value hsplit =>
    obtain ⟨more, hmore, rfl⟩ := name_of_splitAtEquals? hspelling.equals_not_mem hargument hequals hsplit
    rw [hlonger hmore]

end Word

/-! ## What a command line gives -/

namespace Occurrences

open DriverOption

section InContext

variable {a : List String} {given : Occurrences} {o : DriverOption} {word argument : String}

/-- What is read as one occurrence stands for it in the middle of a command line, too. -/
theorem read_between {x : Occurrence} {words : List String} (hread : read a = .ok given)
    (hplain : ¬EndsSeparated a) (hgives : Gives words x) (b : List String) :
    read (a ++ words ++ b) = (read b).map fun more => given ++ x :: more := by
  rw [List.append_assoc, read_append_of_not_endsSeparated hread hplain, hgives]
  cases read b <;> rfl

theorem gives_next (h : o.takesArgument = true) (hword : word ∈ o.spellings) (argument : String) :
    Gives [word, argument] (.withArgument o argument) := by
  apply gives_awaiting
  rw [Word.of_spelling (isPositional_of_takesArgument h) hword, if_pos h]

theorem gives_equals (h : o.takesArgument = true) (hword : word ∈ o.spellings) (argument : String) :
    Gives [word ++ "=" ++ argument] (.withArgument o argument) := by
  apply gives_whole
  rw [Word.of_equals (isPositional_of_takesArgument h) hword, if_pos h]

theorem gives_joined (h : o.form = .joined) (hargument : argument ≠ "")
    (hequals : argument.toList.head? ≠ some '=') :
    Gives [o.spelling ++ argument] (.withArgument o argument) :=
  gives_whole (Word.of_joined h hargument hequals)

theorem gives_flag (h : o.form = .flag) (hword : word ∈ o.spellings) : Gives [word] (.flag o) := by
  apply gives_whole
  rw [Word.of_spelling (isPositional_of_flag h) hword, takesArgument_of_flag h]
  rfl

theorem read_overfull (h : o.form = .flag) (hword : word ∈ o.spellings) (argument : String)
    (rest : List String) : read ((word ++ "=" ++ argument) :: rest) = .error (.unexpectedArgument word) := by
  have hoverfull := Word.of_equals (isPositional_of_flag h) hword argument
  rw [takesArgument_of_flag h, if_neg Bool.false_ne_true] at hoverfull
  rw [read.eq_def]
  simp only [hoverfull]

end InContext

/-- Behind words that can be read and leave no separator in effect:

* an option is given its argument by the next word, under all its names, and what follows is read by itself;
* the argument may as well stand behind an equals sign;
* it may be glued to the option, if the option allows it and the argument neither is empty nor begins with an
  equals sign;
* every other name of an option stands for its own spelling;
* a flag with an equals sign behind it is an error. -/
theorem read_respelled {a : List String} {given : Occurrences} (hread : read a = .ok given)
    (hplain : ¬EndsSeparated a) (b : List String) :
    (∀ (o : DriverOption) (word argument : String), o.takesArgument = true → word ∈ o.spellings →
      read (a ++ [word, argument] ++ b) =
        (read b).map (fun more => given ++ .withArgument o argument :: more) ∧
      read (a ++ [word ++ "=" ++ argument] ++ b) = read (a ++ [word, argument] ++ b)) ∧
    (∀ (o : DriverOption) (word argument : String), o.form = .joined → word ∈ o.spellings →
      argument ≠ "" → argument.toList.head? ≠ some '=' →
        read (a ++ [word ++ argument] ++ b) = read (a ++ [word, argument] ++ b)) ∧
    (∀ (o : DriverOption) (name : String), name ∈ o.aliases →
      read (a ++ [name] ++ b) = read (a ++ [o.spelling] ++ b)) ∧
    ∀ (o : DriverOption) (word argument : String), o.form = .flag → word ∈ o.spellings →
      read (a ++ [word ++ "=" ++ argument] ++ b) = .error (.unexpectedArgument word) := by
  refine ⟨fun o word argument htakes hword => ?_, fun o word argument hjoined hword hargument hequals => ?_,
    fun o name hname => ?_, fun o word argument hflag hword => ?_⟩
  · have hnext := read_between hread hplain (gives_next htakes hword argument) b
    exact ⟨hnext, by rw [hnext, read_between hread hplain (gives_equals htakes hword argument)]⟩
  · have htakes := takesArgument_of_joined hjoined
    obtain rfl : word = o.spelling := eq_spelling_of_takesArgument htakes hword
    rw [read_between hread hplain (gives_next htakes hword argument),
      read_between hread hplain (gives_joined hjoined hargument hequals)]
  · have hflag := form_of_mem_aliases hname
    rw [read_between hread hplain (gives_flag hflag (List.mem_cons_of_mem _ hname)),
      read_between hread hplain (gives_flag hflag List.mem_cons_self)]
  · rw [List.append_assoc, read_append_of_not_endsSeparated hread hplain, List.singleton_append,
      read_overfull hflag hword]
    rfl

/-- Behind an option that has the separator for its argument. The next argument looks like a flag with an equals
sign. -/
theorem read_respelled_define :
    read ["-D", "--"] = .ok [.withArgument .define "--"] ∧ ¬EndsSeparated ["-D", "--"] ∧
    read (["-D", "--"] ++ ["-D", "-O=1"] ++ ["--", "-O"]) =
      .ok [.withArgument .define "--", .withArgument .define "-O=1", .input "-O"] ∧
    read (["-D", "--"] ++ ["-D" ++ "=" ++ "-O=1"] ++ ["--", "-O"]) =
      read (["-D", "--"] ++ ["-D", "-O=1"] ++ ["--", "-O"]) ∧
    read (["-D", "--"] ++ ["-D" ++ "-O=1"] ++ ["--", "-O"]) =
      read (["-D", "--"] ++ ["-D", "-O=1"] ++ ["--", "-O"]) ∧
    read (["-D", "--"] ++ ["-c"] ++ ["--", "-O"]) =
      read (["-D", "--"] ++ ["-emit-object"] ++ ["--", "-O"]) ∧
    read (["-D", "--"] ++ ["-O" ++ "=" ++ "1"] ++ ["--", "-O"]) = .error (.unexpectedArgument "-O") := by
  have hread : read ["-D", "--"] = .ok [.withArgument .define "--"] := rfl
  have herror : read (["-D", "--"] ++ ["-?"]) = .error (.unknownOption "-?") := rfl
  have hplain := not_endsSeparated_of_error hread herror
  obtain ⟨hseparate, hjoined, halias, hflag⟩ := read_respelled hread hplain ["--", "-O"]
  obtain ⟨hnext, hequals⟩ := hseparate .define "-D" "-O=1" rfl (by decide)
  exact ⟨hread, hplain, hnext, hequals, hjoined .define "-D" "-O=1" rfl (by decide) (by decide) (by decide),
    halias .emitObject "-c" (by decide), hflag .optimize "-O" "1" rfl (by decide)⟩

end Occurrences

end CompilerDriver
