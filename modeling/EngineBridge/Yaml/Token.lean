import EngineBridge.Text.Utf8
import EngineBridge.Yaml.Cursor

/-!
The tokens of a markup text. Beside what stands in the text there are tokens for the start and the
end of block collections, which the indentation gives.
-/

namespace EngineBridge.Yaml

inductive Style
  | plain
  | singleQuoted
  | doubleQuoted
  | literal
  | folded
  deriving Repr, DecidableEq

inductive Token.Kind
  | streamStart
  | streamEnd
  | version (major minor : Nat)
  | tagDirective (handle : String) (lead : Text.Bytes)
  | documentStart
  | documentEnd
  | blockSequenceStart
  | blockMappingStart
  | blockEnd
  | flowSequenceStart
  | flowSequenceEnd
  | flowMappingStart
  | flowMappingEnd
  | blockEntry
  | flowEntry
  | key
  | value
  | alias (name : String)
  | anchor (name : String)
  | tag (handle : String) (suffix : Text.Bytes)
  | scalar (text : String) (style : Style)
  deriving Repr, DecidableEq

structure Token where
  kind : Token.Kind
  start : Mark
  stop : Mark
  deriving Repr, DecidableEq

end EngineBridge.Yaml
