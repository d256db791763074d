/-
# What can be wrong with a configuration document
-/
import HeaderCheck.Text.Basic

namespace HeaderCheck.Yaml

/-- The causes for which a document is refused: by its characters, by its
notation, by its structure, and by what it says. -/
inductive Fault where
  | controlCharacter
  | keyWithoutColon
  | entryNotAllowed
  | keyNotAllowed
  | valueNotAllowed
  | noToken
  | directiveName
  | directiveValue
  | directiveEnd
  | anchorName
  | tagHandle
  | tagAddress
  | tagEscape
  | tagEnd
  | indentationZero
  | blockHeaderEnd
  | tabIndentation
  | quoteUnclosed
  | quoteInterrupted
  | escapeUnknown
  | escapeDigits
  | escapeCharacter
  | colonMisplaced
  | directiveRepeated
  | versionUnknown
  | documentStartMissing
  | tagHandleUnknown
  | nodeMissing
  | entryMissing
  | keyMissing
  | separatorMissing
  | anchorUnknown
  | documentMissing
  | documentRepeated
  | mappingExpected
  | scalarExpected
  | sequenceExpected
  | booleanExpected
  | nullExpected
  | fieldRepeated (name : String)
deriving DecidableEq, Repr

/-- The wording of a cause. -/
def Fault.message : Fault → String
  | controlCharacter => "control characters are not allowed"
  | keyWithoutColon => "could not find expected ':' after a simple key"
  | entryNotAllowed => "block sequence entries are not allowed in this context"
  | keyNotAllowed => "mapping keys are not allowed in this context"
  | valueNotAllowed => "mapping values are not allowed in this context"
  | noToken => "found character that cannot start any token"
  | directiveName => "found unknown directive name"
  | directiveValue => "did not find the expected value of a directive"
  | directiveEnd => "did not find expected comment or line break after a directive"
  | anchorName => "did not find expected alphabetic or numeric character in an anchor"
  | tagHandle => "did not find expected '!' in a tag handle"
  | tagAddress => "did not find expected tag URI"
  | tagEscape => "did not find a URI escaped character"
  | tagEnd => "did not find expected whitespace or line break after a tag"
  | indentationZero => "found an indentation indicator equal to 0"
  | blockHeaderEnd => "did not find expected comment or line break in a block scalar"
  | tabIndentation => "found a tab character where an indentation space is expected"
  | quoteUnclosed => "found unexpected end of stream in a quoted scalar"
  | quoteInterrupted => "found unexpected document indicator in a quoted scalar"
  | escapeUnknown => "found unknown escape character"
  | escapeDigits => "did not find expected hexadecimal number"
  | escapeCharacter => "found invalid Unicode character escape code"
  | colonMisplaced => "found unexpected ':' in a plain scalar"
  | directiveRepeated => "found duplicate directive"
  | versionUnknown => "found incompatible YAML document"
  | documentStartMissing => "did not find expected <document start>"
  | tagHandleUnknown => "found undefined tag handle"
  | nodeMissing => "did not find expected node content"
  | entryMissing => "did not find expected '-' indicator"
  | keyMissing => "did not find expected key"
  | separatorMissing => "did not find expected ',' or closing bracket"
  | anchorUnknown => "unknown anchor"
  | documentMissing => "end of stream before a value"
  | documentRepeated => "more than one document"
  | mappingExpected => "invalid type: expected a mapping"
  | scalarExpected => "invalid type: expected a string"
  | sequenceExpected => "invalid type: expected a sequence"
  | booleanExpected => "invalid type: expected a boolean"
  | nullExpected => "invalid value: expected null"
  | fieldRepeated name => "duplicate field '" ++ name ++ "'"

end HeaderCheck.Yaml
