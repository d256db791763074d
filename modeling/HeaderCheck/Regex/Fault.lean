/-
# What can be wrong with a pattern
-/

namespace HeaderCheck.Regex

/-- The causes for which a pattern is refused. -/
inductive Fault where
  | groupUnopened
  | groupUnclosed
  | groupNameInvalid
  | groupNameDuplicate
  | lookAround
  | flagUnknown
  | flagDuplicate
  | flagDangling
  | flagUnfinished
  | repetitionMissing
  | countUnclosed
  | countEmpty
  | countTooLarge
  | countReversed
  | classUnclosed
  | classRangeReversed
  | classRangeEnd
  | classEscape
  | escapeUnfinished
  | escapeUnknown
  | backreference
  | hexDigitInvalid
  | hexEmpty
  | hexNoCharacter
  | wordTestUnknown
  | wordTestUnclosed
  | propertyUnknown
  | propertyInvalid
  | unicodeNotAllowed
  | matchesInvalidText
  | nestedTooDeeply
  | tooLarge
deriving DecidableEq, Repr

/-- The wording of a cause. -/
def Fault.message : Fault → String
  | groupUnopened => "unopened group"
  | groupUnclosed => "unclosed group"
  | groupNameInvalid => "invalid capture group name"
  | groupNameDuplicate => "duplicate capture group name"
  | lookAround => "look-around is not supported"
  | flagUnknown => "unrecognized flag"
  | flagDuplicate => "duplicate flag"
  | flagDangling => "dangling flag negation operator"
  | flagUnfinished => "expected flag but got end of pattern"
  | repetitionMissing => "repetition operator missing expression"
  | countUnclosed => "unclosed counted repetition"
  | countEmpty => "repetition quantifier expects a valid decimal"
  | countTooLarge => "decimal literal too large"
  | countReversed =>
      "invalid repetition count range, the start must be <= the end"
  | classUnclosed => "unclosed character class"
  | classRangeReversed =>
      "invalid character class range, the start must be <= the end"
  | classRangeEnd => "invalid range boundary, must be a literal"
  | classEscape => "invalid escape sequence found in character class"
  | escapeUnfinished =>
      "incomplete escape sequence, reached end of pattern prematurely"
  | escapeUnknown => "unrecognized escape sequence"
  | backreference => "backreferences are not supported"
  | hexDigitInvalid => "invalid hexadecimal digit"
  | hexEmpty => "hexadecimal literal empty"
  | hexNoCharacter => "hexadecimal literal is not a Unicode scalar value"
  | wordTestUnknown => "unrecognized special word boundary assertion"
  | wordTestUnclosed => "special word boundary assertion is unclosed"
  | propertyUnknown => "Unicode property not found"
  | propertyInvalid => "invalid Unicode character class"
  | unicodeNotAllowed => "Unicode not allowed here"
  | matchesInvalidText => "pattern can match invalid UTF-8"
  | nestedTooDeeply => "exceeds the nest limit (250)"
  | tooLarge => "Compiled regex exceeds size limit of 10485760 bytes."

end HeaderCheck.Regex
