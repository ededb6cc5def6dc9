/-!
Why a text is not well-formed YAML. The words of a message are this module's own: they stand where the
program shows those of its YAML library, which is not part of it. How a fault is worded decides nothing.
-/
set_option autoImplicit false

namespace TargetGraph.Yaml

inductive Fault where
  | forbiddenCharacter
  | badDirective
  | badAnchor
  | badTag
  | badEscape
  | badBlockHeader
  | unclosedQuote
  | documentMarkInQuotes
  | tabInIndentation
  | colonInPlainScalar
  | keyWithoutColon
  | misplacedEntry
  | misplacedKey
  | misplacedValue
  | strayCharacter
  | repeatedDirective
  | unsupportedVersion
  | undeclaredHandle
  | documentStartExpected
  | contentExpected
  | blockEntryExpected
  | blockKeyExpected
  | flowSeparatorExpected
deriving DecidableEq, Repr

def Fault.message : Fault → String
  | forbiddenCharacter => "a character that may not occur in a stream"
  | badDirective => "a directive that is not understood"
  | badAnchor => "an anchor or alias without a proper name"
  | badTag => "a tag that is not well-formed"
  | badEscape => "an escape that is not defined"
  | badBlockHeader => "a block scalar with a malformed first line"
  | unclosedQuote => "a quoted scalar that does not end"
  | documentMarkInQuotes => "a document separator inside a quoted scalar"
  | tabInIndentation => "a tab where an indentation space is needed"
  | colonInPlainScalar => "a colon inside a plain scalar"
  | keyWithoutColon => "a key that no colon follows"
  | misplacedEntry => "a list entry that is not allowed here"
  | misplacedKey => "a key that is not allowed here"
  | misplacedValue => "a value that is not allowed here"
  | strayCharacter => "a character that cannot start anything"
  | repeatedDirective => "a directive that is given twice"
  | unsupportedVersion => "a version that is not supported"
  | undeclaredHandle => "a tag handle that is not declared"
  | documentStartExpected => "no document start where one is needed"
  | contentExpected => "no content where a node is needed"
  | blockEntryExpected => "no entry where a block list needs one"
  | blockKeyExpected => "no key where a block mapping needs one"
  | flowSeparatorExpected => "no comma or closing bracket in a flow collection"

end TargetGraph.Yaml
