import CompilerDriver.Proofs.BuildRecord.Status
import CompilerDriver.Proofs.Incremental.Arrival
import CompilerDriver.Proofs.Path.Components
import CompilerDriver.Proofs.Text.Lossy

/-!
# Reporting every job once

A job that compiles an input is known by the text that stands for its path, and of what is not text only a mark is
left in it. So jobs with different inputs may be known by one text, though only where a path is not text
(`Path.mark_of_display_eq`), and of such jobs the ledger takes the second one for the first one again.

The ledger takes the reports of some jobs just as a map collects entries with different keys (`enterAll_eq`). It takes
them all exactly if no two of the texts are the same, and is left with one result for each job; else it stops at the
first job whose text is that of an earlier one (`enterAll_completions`).
-/

namespace CompilerDriver

/-! ## Texts that stand for paths -/

namespace Path

variable {p q : Path}

theorem display_of_text? {s : String} (h : p.text? = some s) : p.display = s := by
  rw [← ofString_of_text? h, display, ofString, Utf8.decodeLossy_encode, String.ofList_toList]

theorem decodeLossy_of_display (h : p.display = q.display) :
    Utf8.decodeLossy p.bytes = Utf8.decodeLossy q.bytes :=
  String.ofList_injective h

/-- Two paths with one text differ in what the mark stands for, so one of them is not text. -/
theorem mark_of_display_eq (h : p.display = q.display) (hne : p ≠ q) :
    '\uFFFD' ∈ p.display.toList ∧ (p.text? = none ∨ q.text? = none) := by
  constructor
  · -- without a mark both would be written like their text
    by_contra hmark
    rw [display, String.toList_ofList] at hmark
    have hp := Utf8.eq_encode_of_decodeLossy hmark
    have hread := decodeLossy_of_display h
    rw [hread] at hmark
    have hq := Utf8.eq_encode_of_decodeLossy hmark
    have hbytes : p.bytes = q.bytes := by rw [hp, hread, ← hq]
    exact hne (congrArg mk hbytes)
  · cases hp : p.text? with
    | none => exact .inl rfl
    | some s =>
      cases hq : q.text? with
      | none => exact .inr rfl
      | some t =>
        rw [display_of_text? hp, display_of_text? hq] at h
        subst h
        exact absurd ((ofString_of_text? hp).symm.trans (ofString_of_text? hq)) hne

end Path

/-! ## Entering reports -/

namespace Incremental

namespace Ledger

/-- Enters reports one after the other, up to the first one that is refused. -/
def enterAll (ledger : Ledger) : List Report → Except LedgerFault Ledger
  | [] => .ok ledger
  | report :: reports => do (← ledger.finish report.1 report.2).enterAll reports

/-- Until it is closed, a ledger collects its reports as a map does. -/
theorem enterAll_eq {ledger : Ledger} (hopen : ledger.isClosed = false) (reports : List Report) :
    ledger.enterAll reports = match ledger.results.addDistinct reports with
      | .ok results => .ok ⟨results, false⟩
      | .error job => .error (.finishedTwice job) := by
  induction reports generalizing ledger with
  | nil =>
    rw [enterAll, OrderedMap.addDistinct, ← hopen]
  | cons report reports ih =>
    obtain ⟨job, result⟩ := report
    rw [enterAll, finish, if_neg (Bool.eq_false_iff.1 hopen), OrderedMap.addDistinct]
    split
    next => rfl
    next => exact ih hopen

end Ledger

/-! ## Compile jobs -/

/-- The end of the job that compiles an input. -/
structure Completion where
  primary : TypedPath
  outputs : List TypedPath
  result : JobResult
deriving DecidableEq, Repr

namespace Completion

def job (completion : Completion) : Job := .compile completion.primary completion.outputs

def report (completion : Completion) : Report := (completion.job.id, completion.result)

/-- The jobs of the completions are known by one text. -/
def SameText (a b : Completion) : Prop := a.primary.path.display = b.primary.path.display

theorem sameKey_report_iff {a b : Completion} : OrderedMap.SameKey a.report b.report ↔ a.SameText b :=
  Std.LawfulEqCmp.compare_eq_iff_eq

variable {completions : List Completion}

theorem pairwise_reports_iff :
    (completions.map report).Pairwise (fun a b => ¬OrderedMap.SameKey a b) ↔
      completions.Pairwise fun a b => ¬a.SameText b := by
  rw [List.pairwise_map]
  simp only [sameKey_report_iff]

/-- The first report that repeats an earlier one is that of the first job whose text is that of an earlier one. -/
theorem firstRepeat_of_reports {report' : Report}
    (h : FirstRepeat OrderedMap.SameKey (completions.map report) report') :
    ∃ second, second.report = report' ∧ FirstRepeat SameText completions second := by
  obtain ⟨before', after', hsplit, hdistinct, e, he, hsame⟩ := h
  obtain ⟨before, behind, rfl, rfl, hbehind⟩ := List.map_eq_append_iff.1 hsplit
  obtain ⟨second, after, rfl, rfl, rfl⟩ := List.map_eq_cons_iff.1 hbehind
  obtain ⟨first, hfirst, rfl⟩ := List.mem_map.1 he
  exact ⟨second, rfl, before, after, rfl, pairwise_reports_iff.1 hdistinct, first, hfirst,
    sameKey_report_iff.1 hsame⟩

/-- All reports are entered where no two jobs have one text; otherwise the first job whose text is that of an earlier
one is refused. -/
theorem enterAll_cases (completions : List Completion) :
    (∃ ledger, ({} : Ledger).enterAll (completions.map report) = .ok ledger ∧
      completions.Pairwise (fun a b => ¬a.SameText b) ∧ ledger.isClosed = false ∧
      ledger.results.entries.Perm (completions.map report)) ∨
    ∃ second, ({} : Ledger).enterAll (completions.map report) = .error (.finishedTwice second.job.id) ∧
      FirstRepeat SameText completions second := by
  rw [Ledger.enterAll_eq rfl]
  rcases OrderedMap.ofDistinct_cases (completions.map report) with ⟨results, hok, hdistinct, hperm⟩ |
    ⟨e, herror, hrepeat⟩
  · rw [OrderedMap.ofDistinct] at hok
    exact .inl ⟨⟨results, false⟩, by rw [hok], pairwise_reports_iff.1 hdistinct, rfl, hperm⟩
  · rw [OrderedMap.ofDistinct] at herror
    obtain ⟨second, rfl, hsecond⟩ := firstRepeat_of_reports hrepeat
    exact .inr ⟨second, by rw [herror]; rfl, hsecond⟩

/-- Every job of some completions, whose inputs have different paths, is reported once:

* all reports are entered exactly if no two jobs are known by one text, and so they are if all paths are text;
* the ledger then has one result for each job, the one that was reported, and no others;
* otherwise the first job is refused that is known by the text of an earlier one, and in that text there is a mark for
  what is not text in one of the two paths. -/
theorem enterAll_completions (completions : List Completion)
    (hpaths : completions.Pairwise fun a b => a.primary.path ≠ b.primary.path) :
    ((∃ ledger, ({} : Ledger).enterAll (completions.map report) = .ok ledger) ↔
      completions.Pairwise fun a b => ¬a.SameText b) ∧
    ((∀ c ∈ completions, ∃ text, c.primary.path.text? = some text) →
      ∃ ledger, ({} : Ledger).enterAll (completions.map report) = .ok ledger) ∧
    (∀ ledger, ({} : Ledger).enterAll (completions.map report) = .ok ledger →
      ledger.isClosed = false ∧ ledger.results.entries.Perm (completions.map report) ∧
      ∀ c ∈ completions, ledger.results.get? c.job.id = some c.result) ∧
    ∀ fault, ({} : Ledger).enterAll (completions.map report) = .error fault →
      ∃ before second after, completions = before ++ second :: after ∧
        before.Pairwise (fun a b => ¬a.SameText b) ∧ fault = .finishedTwice second.job.id ∧
        '\uFFFD' ∈ second.job.id.toList ∧
        ∃ first ∈ before, first.SameText second ∧
          (first.primary.path.text? = none ∨ second.primary.path.text? = none) := by
  refine ⟨?whenAll, ?ofText, ?results, ?refused⟩
  case whenAll =>
    rcases enterAll_cases completions with ⟨ledger, hok, hdistinct, -⟩ | ⟨second, herror, hrepeat⟩
    · exact ⟨fun _ => hdistinct, fun _ => ⟨ledger, hok⟩⟩
    · rw [herror]
      constructor
      · rintro ⟨ledger, hok⟩
        cases hok
      · exact fun hdistinct => absurd hdistinct hrepeat.not_pairwise
  case ofText =>
    intro htext
    rcases enterAll_cases completions with ⟨ledger, hok, -⟩ | ⟨second, -, hrepeat⟩
    · exact ⟨ledger, hok⟩
    · refine absurd (hpaths.imp_of_mem fun {a b} ha hb hne hsame => ?_) hrepeat.not_pairwise
      obtain ⟨s, hs⟩ := htext a ha
      obtain ⟨t, ht⟩ := htext b hb
      rcases (Path.mark_of_display_eq hsame hne).2 with hnone | hnone
      · rw [hs] at hnone
        cases hnone
      · rw [ht] at hnone
        cases hnone
  case results =>
    intro ledger h
    rcases enterAll_cases completions with ⟨ledger', hok, -, hopen, hperm⟩ | ⟨second, herror, -⟩
    · rw [hok] at h
      cases h
      refine ⟨hopen, hperm, fun c hc => OrderedMap.get?_eq_some_iff.2 (hperm.mem_iff.2 ?_)⟩
      exact List.mem_map_of_mem hc
    · rw [herror] at h
      cases h
  case refused =>
    intro fault h
    rcases enterAll_cases completions with ⟨ledger, hok, -⟩ | ⟨second, herror, before, after, rfl, hbefore, first,
      hfirst, hsame⟩
    · rw [hok] at h
      cases h
    · rw [herror] at h
      cases h
      have hne := (List.pairwise_append.1 hpaths).2.2 first hfirst second List.mem_cons_self
      obtain ⟨hmark, hnotText⟩ := Path.mark_of_display_eq hsame hne
      rw [hsame] at hmark
      exact ⟨before, second, after, rfl, hbefore, rfl, hmark, first, hfirst, hsame, hnotText⟩

/-- The successful end of the job that compiles a source file in the root directory. -/
def ofStem (stem : Bytes) : Completion where
  primary := ⟨⟨Path.slash :: stem ++ Utf8.encode ".swift".toList⟩, .swift⟩
  outputs := []
  result := .success

/-- Inputs that are not text may still be told apart by their texts. -/
theorem enterAll_completions_apart :
    let completions := [ofStem [0xFF], ofStem [0xFF, 0xFF], ofStem [97]]
    completions.Pairwise (fun a b => a.primary.path ≠ b.primary.path) ∧
      ∃ ledger, ({} : Ledger).enterAll (completions.map report) = .ok ledger := by
  have hpaths : [ofStem [0xFF], ofStem [0xFF, 0xFF], ofStem [97]].Pairwise
      fun a b => a.primary.path ≠ b.primary.path := by
    decide +kernel
  refine ⟨hpaths, (enterAll_completions _ hpaths).1.2 ?_⟩
  simp only [SameText]
  decide +kernel

/-- Two inputs with different names that are not text, whose jobs are known by one text: the second one is refused. -/
theorem enterAll_finishedTwice :
    compare (ofStem [0xFF]).primary.path (ofStem [0xFE]).primary.path ≠ .eq ∧
    (ofStem [0xFF]).job.id = "/\uFFFD.swift" ∧ (ofStem [0xFE]).job.id = "/\uFFFD.swift" ∧
    ({} : Ledger).enterAll ([ofStem [0xFF], ofStem [0xFE]].map report) =
      .error (.finishedTwice "/\uFFFD.swift") := by
  decide +kernel

end Completion

end Incremental

end CompilerDriver
