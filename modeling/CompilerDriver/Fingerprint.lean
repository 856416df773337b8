import CompilerDriver.Digest.Sha256
import CompilerDriver.DriverOption.Occurrence
import CompilerDriver.OrderedMap
import CompilerDriver.Text.Digits

/-!
# Fingerprints

The fingerprint of a command line tells whether the results of an earlier build can be used again. It is
the digest of the spellings of all options given whose change makes earlier results useless, in
alphabetical order and each once.
-/

namespace CompilerDriver

namespace Fingerprint

/-- Whether an option takes part in fingerprints. -/
def counts (o : DriverOption) : Bool := o.invalidates && !o.isPositional

/-- The spellings that the fingerprint of some options covers. -/
def spellings (given : Occurrences) : OrderedSet String :=
  OrderedSet.ofList ((given.filter fun x => counts x.option).map fun x => x.option.spelling)

/-- The text that is digested: the spellings, one behind the other. -/
def preimage (given : Occurrences) : List Char := (spellings given).toList.flatMap String.toList

end Fingerprint

/-- The fingerprint of some options, as 64 digits. -/
def fingerprint (given : Occurrences) : String :=
  String.ofList (Digits.hex (sha256 (Utf8.encode (Fingerprint.preimage given))))

namespace Fingerprint

/-- Whether a text can be a fingerprint: 64 hexadecimal digits in lower case. -/
def isWellFormed (s : String) : Bool := s.toList.length == 64 && s.toList.all Digits.isLowerHex

/-- Every fingerprint looks like one. -/
theorem isWellFormed_fingerprint (given : Occurrences) : isWellFormed (fingerprint given) = true := by
  simp [isWellFormed, fingerprint, Digits.length_hex, length_sha256, Digits.hex_isLowerHex]

end Fingerprint

end CompilerDriver
