import CompilerDriver.Proofs.Incremental.Rerun
import CompilerDriver.Proofs.Incremental.Session
import CompilerDriver.Proofs.Json.Prefixes
import CompilerDriver.Proofs.Text.Lossy

/-!
# Torn records

A record file that was not written to its end is never taken for a record, wherever it was cut, and neither is
one with something behind the record (`load_torn`). The text of a record is an object, and no object begins
another document. If the file was cut inside a character, what is left is no text. If it was cut between two
characters, it is the beginning of the text of the record (`Utf8.exists_append_of_encode`).
-/

namespace CompilerDriver

/-- Bytes that go on from one text to another end with the bytes of the difference. -/
theorem Utf8.exists_append_of_encode {cs ds : List Char} {back : Bytes}
    (h : encode cs ++ back = encode ds) : ∃ es, ds = cs ++ es ∧ back = encode es := by
  induction cs generalizing ds with
  | nil => exact ⟨ds, rfl, h⟩
  | cons c cs ih =>
    rw [encode, List.flatMap_cons, List.append_assoc] at h
    obtain ⟨b, bs, hc, hread⟩ := next_encodeChar c (encode cs ++ back)
    cases ds with
    | nil =>
      rw [hc] at h
      cases h
    | cons d ds =>
      obtain ⟨b', bs', hd, hread'⟩ := next_encodeChar d (encode ds)
      rw [encode, List.flatMap_cons, hc, hd] at h
      obtain ⟨rfl, htail⟩ := List.cons.inj h
      -- the same bytes are read as the same character
      change bs ++ (encode cs ++ back) = bs' ++ encode ds at htail
      rw [htail, hread'] at hread
      obtain ⟨rfl, hrest⟩ := Step.char.inj hread
      obtain ⟨es, rfl, hback⟩ := ih hrest.symm
      exact ⟨es, rfl, hback⟩

namespace Json

theorem exists_write_object (layout : Layout) (depth : Nat) (members : List (JsonText × Json)) :
    ∃ front, write layout depth (.object members) = front ++ ['\x7d'] := by
  rw [write, Layout.finish]
  split
  next => exact ⟨_, rfl⟩
  next => exact ⟨_, (List.append_assoc ..).symm⟩

end Json

namespace BuildRecord

variable {record : BuildRecord} {text : String}

/-- The text of a record is an object, and ends with the end of it. -/
theorem object_of_encode (h : record.encode = .ok text) :
    ∃ members front, Json.ofChars? text.toList = some (.object members) ∧
      text.toList = front ++ ['\x7d'] := by
  obtain ⟨value, hvalue, rfl⟩ := Option.map_eq_some_iff.1 (spec_of_encode h).2
  have hread := Document.readsAs (by decide : schemaVersion < UInt32.size) hvalue
  obtain ⟨inputs, jobs, skipped, -, -, rfl, -⟩ := Document.toJson?_parts hvalue
  obtain ⟨front, hfront⟩ := Json.exists_write_object .indented 0 _
  exact ⟨_, front, Json.ofText?_pretty hread.wellFormed, (String.toList_ofList ..).trans hfront⟩

theorem decode_of_no_document (h : Json.ofChars? text.toList = none) :
    decode text = .error .malformed := by
  rw [decode, Document.ofText?, Json.ofText?, h]
  rfl

/-- No beginning of the text of a record is a document. -/
theorem decode_torn (h : record.encode = .ok text) {front back : List Char}
    (hsplit : text.toList = front ++ back) (hback : back ≠ []) :
    decode (String.ofList front) = .error .malformed := by
  obtain ⟨members, before, hobject, hend⟩ := object_of_encode h
  apply decode_of_no_document
  rw [hsplit] at hobject hend
  rw [String.toList_ofList]
  -- what is missing ends with the end of the object, which is no blank
  refine Json.ofChars?_torn hobject ⟨'\x7d', ?_, rfl⟩
  have hlast : back.getLast hback = '\x7d' := by
    have := congrArg List.getLast? hend
    rw [List.getLast?_append, List.getLast?_eq_some_getLast hback, List.getLast?_append] at this
    exact Option.some.inj this
  rw [← hlast]
  exact List.getLast_mem hback

/-- The text of a record with something behind it is no document. -/
theorem decode_continued (h : record.encode = .ok text) {junk : String}
    (hjunk : ∃ c ∈ junk.toList, JsonToken.isSpace c = false) :
    decode (text ++ junk) = .error .malformed := by
  obtain ⟨members, -, hobject, -⟩ := object_of_encode h
  apply decode_of_no_document
  rw [String.toList_append]
  exact Json.ofChars?_continued hobject hjunk

end BuildRecord

namespace Incremental

variable {record : BuildRecord} {text : String}

/-- Wherever the bytes of a record are cut, what is left is no record. -/
theorem recordOfBytes_torn (h : record.encode = .ok text) {cut back : Bytes}
    (hcut : cut ++ back = Utf8.encode text.toList) (hback : back ≠ []) :
    (∃ fault, Run.recordOfBytes cut = .error (.notText fault)) ∨
      Run.recordOfBytes cut = .error (.notDecoded .malformed) := by
  rw [Run.recordOfBytes]
  cases hread : Utf8.decode cut with
  | error fault => exact .inl ⟨fault, rfl⟩
  | ok cs =>
    rw [← Utf8.encode_of_decode hread] at hcut
    obtain ⟨es, hsplit, hes⟩ := Utf8.exists_append_of_encode hcut
    have hmissing : es ≠ [] := by
      rintro rfl
      exact hback hes
    right
    dsimp only
    rw [BuildRecord.decode_torn h hsplit hmissing]
    rfl

theorem load_torn {σ : Type} [Storage σ] {run : Run} {storage : σ} (h : record.encode = .ok text)
    {cut back : Bytes} (hread : Storage.read storage run.recordPath = .ok cut)
    (hcut : cut ++ back = Utf8.encode text.toList) (hback : back ≠ []) :
    ∃ reason, run.load storage = .error (.recordMalformed run.recordPath reason) := by
  rw [Run.load, Run.readPrior, hread]
  dsimp only
  rcases recordOfBytes_torn h hcut hback with ⟨fault, hfound⟩ | hfound
  · rw [hfound]
    exact ⟨_, rfl⟩
  · rw [hfound]
    exact ⟨_, rfl⟩

namespace Session

variable {ι σ : Type} [DecidableEq ι] [Storage σ]

/-- A file that holds the beginning of the text of a record, but not all of it, is no record: who looks for one
gets none and is told so once. Neither is a text one that is such a beginning, or that goes on behind the
record with anything but blanks. -/
theorem torn_record (h : record.encode = .ok text) :
    (∀ (session : Session ι σ) (name : ι) (run : Run) (ledger : Ledger) (cut : Bytes),
      session.runs name = some (run, ledger) →
      Storage.read session.storage run.recordPath = .ok cut →
      cut <+: Utf8.encode text.toList → cut ≠ Utf8.encode text.toList →
      ∃ remark, remark.severity = .remark ∧
        session.step (.load name) = (session.tell (some remark), .loaded none) ∧
        session.step (.loadUsable name) = (session.tell (some remark), .loaded none)) ∧
    (∀ front : String, Utf8.encode front.toList <+: Utf8.encode text.toList → front ≠ text →
      BuildRecord.decode front = .error .malformed) ∧
    (∀ junk : String, (∃ c ∈ junk.toList, JsonToken.isSpace c = false) →
      BuildRecord.decode (text ++ junk) = .error .malformed) := by
  refine ⟨?_, ?_, fun junk => BuildRecord.decode_continued h⟩
  · rintro session name run ledger cut hrun hread ⟨back, hcut⟩ hne
    have hback : back ≠ [] := by
      rintro rfl
      exact hne (by rw [← hcut, List.append_nil])
    obtain ⟨reason, hload⟩ := load_torn h hread hcut hback
    have husable : run.loadUsable session.storage = .error (.recordMalformed run.recordPath reason) := by
      rw [Run.loadUsable, hload]
      rfl
    refine ⟨.recordMalformed run.recordPath reason, rfl, ?_, ?_⟩
    · rw [step, withRun, hrun]
      dsimp only
      rw [hload, receive]
    · rw [step, withRun, hrun]
      dsimp only
      rw [husable, receive]
  · rintro front ⟨back, hcut⟩ hne
    obtain ⟨es, hsplit, -⟩ := Utf8.exists_append_of_encode hcut
    have hmissing : es ≠ [] := by
      rintro rfl
      rw [List.append_nil] at hsplit
      exact hne (String.toList_inj.1 hsplit.symm)
    have hdecode := BuildRecord.decode_torn h hsplit hmissing
    rwa [String.ofList_toList] at hdecode

/-- A session with one run, whose record file lacks its last byte. -/
def tornSession (text : String) : Session Unit MemoryStorage where
  storage := ({} : MemoryStorage).put (.ofString "/work/main.swiftdeps")
    (Utf8.encode text.toList).dropLast .epoch
  runs _ := some (Run.oneFileRun Run.libraryOptions, {})
  told := []

theorem torn_record_library :
    ∃ text remark, Run.libraryRecord.encode = .ok text ∧ remark.severity = .remark ∧
      (tornSession text).step (.load ()) = ((tornSession text).tell (some remark), .loaded none) ∧
      BuildRecord.decode "" = .error .malformed ∧ BuildRecord.decode (text ++ "\n\x7d") = .error .malformed := by
  obtain ⟨text, hencode, -⟩ := Run.spec_of_save Run.librarySaved_quiet
  obtain ⟨members, before, -, hend⟩ := BuildRecord.object_of_encode hencode
  have hne : Utf8.encode text.toList ≠ [] := by
    rw [hend, Utf8.encode_append]
    exact List.append_ne_nil_of_right_ne_nil _ (by decide)
  have hshorter : (Utf8.encode text.toList).dropLast ≠ Utf8.encode text.toList := by
    intro heq
    have hlength := congrArg List.length heq
    have hpos := List.length_pos_iff.2 hne
    rw [List.length_dropLast] at hlength
    omega
  have htorn := torn_record (ι := Unit) (σ := MemoryStorage) hencode
  have hread : Storage.read (tornSession text).storage (Run.oneFileRun Run.libraryOptions).recordPath =
      .ok (Utf8.encode text.toList).dropLast :=
    (MemoryStorage.read_put ..).trans (if_pos Std.ReflCmp.compare_self)
  obtain ⟨remark, hremark, hload, -⟩ := htorn.1 (tornSession text) () _ _ _ rfl hread
    (List.dropLast_prefix _) hshorter
  refine ⟨text, remark, hencode, hremark, hload, htorn.2.1 "" (List.nil_prefix) ?_,
    htorn.2.2 _ ⟨'\x7d', by decide, rfl⟩⟩
  rintro rfl
  exact hne rfl

end Session

end Incremental

end CompilerDriver
