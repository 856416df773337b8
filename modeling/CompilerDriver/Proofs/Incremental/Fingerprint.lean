import CompilerDriver.Proofs.Fingerprint.Options
import CompilerDriver.Proofs.Incremental.Rerun

/-!
# Fingerprints in records

A fingerprint identifies the set of the relevant options that a run was given, and nothing else of them
(`fingerprint_identifies`): the digested bytes of two command lines are equal if and only if the same relevant
options stand in both, and so are the fingerprints unless two digests collide. It is a fingerprint to the reader of
records, too. So a record that a run makes is never refused for its fingerprint, whatever the run was given and
however it went.
-/

namespace CompilerDriver

namespace BuildRecord

/-- A document with a fingerprint is not refused for it. -/
theorem ofDocument_ne_invalidArgsHash {doc : Document}
    (h : Fingerprint.isWellFormed doc.argsHash = true) (hash : String) :
    ofDocument doc ≠ .error (.invalidArgsHash hash) := by
  rw [ofDocument, h]
  grind

end BuildRecord

namespace Incremental.Run

open Fingerprint

/-- A fingerprint identifies the relevant options. It is the digest of some bytes, which are equal if and only if
the same options stand on both command lines, among those that make results useless and are no positional
inputs. Then the fingerprints are equal, and otherwise they are not, unless the digests of different texts
collide. A fingerprint has 64 digits and is one to the reader of records, who thus never refuses the record
of a run for it. -/
theorem fingerprint_identifies (given given' : Occurrences) :
    ((fingerprint given).toList = Digits.hex (sha256 (Utf8.encode (preimage given))) ∧
      (fingerprint given').toList = Digits.hex (sha256 (Utf8.encode (preimage given')))) ∧
    (Utf8.encode (preimage given) = Utf8.encode (preimage given') ↔
      ∀ o : DriverOption, o.invalidates = true → o.isPositional = false →
        given.contains o = given'.contains o) ∧
    ((∀ o : DriverOption, o.invalidates = true → o.isPositional = false →
        given.contains o = given'.contains o) → fingerprint given = fingerprint given') ∧
    (fingerprint given = fingerprint given' →
      (∀ o : DriverOption, o.invalidates = true → o.isPositional = false →
        given.contains o = given'.contains o) ∨ Collides (preimage given) (preimage given')) ∧
    ((fingerprint given).length = 64 ∧
      ∀ c ∈ (fingerprint given).toList, ('0' ≤ c ∧ c ≤ '9') ∨ ('a' ≤ c ∧ c ≤ 'f')) ∧
    (∀ text doc, BuildRecord.Document.ofText? text = some doc → doc.argsHash = fingerprint given →
      ∀ hash, BuildRecord.decode text ≠ .error (.invalidArgsHash hash)) ∧
    ∀ isRooted setup run, start isRooted setup given = .ok run →
      ∀ isRooted' results jobs skipped text,
        (run.record isRooted' results jobs skipped).encode = .ok text →
          ∀ hash, BuildRecord.decode text ≠ .error (.invalidArgsHash hash) := by
  have hread : ∀ text doc, BuildRecord.Document.ofText? text = some doc →
      doc.argsHash = fingerprint given →
        ∀ hash, BuildRecord.decode text ≠ .error (.invalidArgsHash hash) := by
    intro text doc hdoc hargs hash
    rw [BuildRecord.decode, hdoc]
    exact BuildRecord.ofDocument_ne_invalidArgsHash (hargs ▸ isWellFormed_fingerprint given) hash
  refine ⟨⟨String.toList_ofList, String.toList_ofList⟩, encode_preimage_eq_iff.trans sameOptions_iff, ?_, ?_,
    isWellFormed_iff.1 (isWellFormed_fingerprint given), hread, ?_⟩
  · intro h
    exact fingerprint_congr (sameOptions_iff.2 h)
  · intro h
    rw [← sameOptions_iff]
    exact sameOptions_or_collision h
  · intro isRooted setup run hstart isRooted' results jobs skipped text htext
    have hdoc := BuildRecord.Document.ofText?_text?
      (by decide : BuildRecord.schemaVersion < UInt32.size) (BuildRecord.spec_of_encode htext).2
    exact hread text _ hdoc (argsHash_of_start hstart)

/-- Two command lines with the same options in another order, with other arguments and one of them
twice, and the record of a build with the first of them. -/
theorem fingerprint_identifies_library :
    fingerprint libraryOptions = fingerprint reorderedOptions ∧
    ∃ text, libraryRecord.encode = .ok text ∧
      ∀ hash, BuildRecord.decode text ≠ .error (.invalidArgsHash hash) := by
  obtain ⟨-, -, hsame, -, -, -, hrun⟩ := fingerprint_identifies libraryOptions reorderedOptions
  obtain ⟨text, htext, -⟩ := spec_of_save librarySaved_quiet
  have hrefused := hrun _ _ _ (start_oneFile rfl {} rfl) _ _ _ _ text htext
  exact ⟨hsame fun o ho _ => (reorderedOptions_contains ho).symm, text, htext, hrefused⟩

end Incremental.Run

end CompilerDriver
