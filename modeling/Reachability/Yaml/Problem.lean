/-!
# What can be wrong with a document

A problem is what the reader of a document meets, an activity what it was doing then.
-/
namespace Reachability.Yaml

inductive Problem
  | badToken
  | noKeyIndicator
  | sequenceEntryNotAllowed
  | mappingKeyNotAllowed
  | mappingValueNotAllowed
  | unknownDirective
  | noDirectiveName
  | badDirectiveName
  | noLineEnd
  | noVersionDot
  | noVersionNumber
  | longVersionNumber
  | noBlank
  | noBlankOrBreak
  | noTagMark
  | noTagEnd
  | noTagUri
  | noEscapedOctet
  | badLeadingOctet
  | badTrailingOctet
  | noAnchorName
  | zeroIndentation
  | tabForIndentation
  | tabBelowIndentation
  | documentIndicator
  | endOfStream
  | unknownEscape
  | noHexadecimal
  | badCodePoint
  | unexpectedColon
  | noDocumentStart
  | duplicateVersion
  | duplicateHandle
  | incompatibleVersion
  | undefinedHandle
  | noNodeContent
  | noEntryIndicator
  | noKey
  | noSequenceEnd
  | noMappingEnd
deriving DecidableEq, Inhabited

namespace Problem

def message : Problem → String
  | .badToken => "found character that cannot start any token"
  | .noKeyIndicator => "could not find expected ':'"
  | .sequenceEntryNotAllowed => "block sequence entries are not allowed in this context"
  | .mappingKeyNotAllowed => "mapping keys are not allowed in this context"
  | .mappingValueNotAllowed => "mapping values are not allowed in this context"
  | .unknownDirective => "found unknown directive name"
  | .noDirectiveName => "could not find expected directive name"
  | .badDirectiveName => "found unexpected non-alphabetical character"
  | .noLineEnd => "did not find expected comment or line break"
  | .noVersionDot => "did not find expected digit or '.' character"
  | .noVersionNumber => "did not find expected version number"
  | .longVersionNumber => "found extremely long version number"
  | .noBlank => "did not find expected whitespace"
  | .noBlankOrBreak => "did not find expected whitespace or line break"
  | .noTagMark => "did not find expected '!'"
  | .noTagEnd => "did not find the expected '>'"
  | .noTagUri => "did not find expected tag URI"
  | .noEscapedOctet => "did not find URI escaped octet"
  | .badLeadingOctet => "found an incorrect leading UTF-8 octet"
  | .badTrailingOctet => "found an incorrect trailing UTF-8 octet"
  | .noAnchorName => "did not find expected alphabetic or numeric character"
  | .zeroIndentation => "found an indentation indicator equal to 0"
  | .tabForIndentation => "found a tab character where an indentation space is expected"
  | .tabBelowIndentation => "found a tab character that violates indentation"
  | .documentIndicator => "found unexpected document indicator"
  | .endOfStream => "found unexpected end of stream"
  | .unknownEscape => "found unknown escape character"
  | .noHexadecimal => "did not find expected hexdecimal number"
  | .badCodePoint => "found invalid Unicode character escape code"
  | .unexpectedColon => "found unexpected ':'"
  | .noDocumentStart => "did not find expected <document start>"
  | .duplicateVersion => "found duplicate %YAML directive"
  | .duplicateHandle => "found duplicate %TAG directive"
  | .incompatibleVersion => "found incompatible YAML document"
  | .undefinedHandle => "found undefined tag handle"
  | .noNodeContent => "did not find expected node content"
  | .noEntryIndicator => "did not find expected '-' indicator"
  | .noKey => "did not find expected key"
  | .noSequenceEnd => "did not find expected ',' or ']'"
  | .noMappingEnd => "did not find expected ',' or '\x7d'"

end Problem

inductive Activity
  | token
  | simpleKey
  | directive
  | versionDirective
  | tagDirective
  | tagDirectiveHandle
  | tagDirectiveEnd
  | tagDirectivePrefix
  | tag
  | tagUri
  | anchor
  | aliasName
  | blockScalar
  | quotedScalar
  | quotedEscape
  | plainScalar
  | node
  | blockNode
  | flowNode
  | blockCollection
  | blockMapping
  | flowSequence
  | flowMapping
deriving DecidableEq, Inhabited

namespace Activity

def message : Activity → String
  | .token => "while scanning for the next token"
  | .simpleKey => "while scanning a simple key"
  | .directive => "while scanning a directive"
  | .versionDirective => "while scanning a %YAML directive"
  | .tagDirective => "while scanning a %TAG directive"
  | .tagDirectiveHandle => "while scanning a tag directive"
  | .tagDirectiveEnd => "while parsing a tag directive"
  | .tagDirectivePrefix => "while parsing a %TAG directive"
  | .tag => "while scanning a tag"
  | .tagUri => "while parsing a tag"
  | .anchor => "while scanning an anchor"
  | .aliasName => "while scanning an alias"
  | .blockScalar => "while scanning a block scalar"
  | .quotedScalar => "while scanning a quoted scalar"
  | .quotedEscape => "while parsing a quoted scalar"
  | .plainScalar => "while scanning a plain scalar"
  | .node => "while parsing a node"
  | .blockNode => "while parsing a block node"
  | .flowNode => "while parsing a flow node"
  | .blockCollection => "while parsing a block collection"
  | .blockMapping => "while parsing a block mapping"
  | .flowSequence => "while parsing a flow sequence"
  | .flowMapping => "while parsing a flow mapping"

end Activity

end Reachability.Yaml
