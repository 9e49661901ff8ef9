import Reachability.Yaml.Error
import Reachability.Yaml.Scalar

/-!
# Tokens

A text is first cut into tokens: scalars, anchors and tags, the indicators, and the
starts and ends of the collections that only the indentation shows.
-/
namespace Reachability.Yaml

inductive TokenKind
  | streamEnd
  | versionDirective (major minor : Nat)
  | tagDirective (handle tagPrefix : String)
  | documentStart
  | documentEnd
  | blockSequenceStart
  | blockMappingStart
  | blockEnd
  | flowSequenceStart
  | flowSequenceEnd
  | flowMappingStart
  | flowMappingEnd
  | blockEntry
  | flowEntry
  | key
  | value
  | alias (name : String)
  | anchor (name : String)
  | tag (handle tagSuffix : String)
  | scalar (style : Style) (text : String)
deriving DecidableEq, Inhabited

structure Token where
  kind : TokenKind
  start : Mark
  finish : Mark
deriving DecidableEq, Inhabited

end Reachability.Yaml
