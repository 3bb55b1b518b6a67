import IdentityServer.Yaml.Cursor

/-!
# Tokens of YAML

What a YAML text consists of before it is known how its parts belong together. The block tokens show where
the indentation opens and closes collections.
-/

namespace IdentityServer.Yaml

/-- A token. -/
inductive Token where
  | version
  /-- The meaning of a handle in tags. -/
  | tagHandle (handle start : String)
  | documentStart
  | documentEnd
  | blockSequence
  | blockMapping
  | blockEnd
  | blockEntry
  | flowSequence
  | flowSequenceEnd
  | flowMapping
  | flowMappingEnd
  | flowEntry
  | key
  | value
  | alias (name : String)
  | anchor (name : String)
  | tag (handle suffix : String)
  /-- A text; one that is plain, without quotes, may stand for another value. -/
  | scalar (isPlain : Bool) (text : String)
  deriving DecidableEq, Repr

end IdentityServer.Yaml
