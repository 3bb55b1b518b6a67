import IdentityServer.Yaml.Node

/-!
# YAML documents

A text holds at most one document, perhaps with directives and marks around it. Text without any content
holds none.
-/

namespace IdentityServer.Yaml

/-- The tokens without those that end a document. -/
def dropEnds (s : List Token) : List Token :=
  s.dropWhile (· = .documentEnd)

/-- What directives say, and what follows them. There is at most one version, and one meaning of a handle. -/
def readDirectives (hasVersion : Bool) (x : Context) : List Token → Option (Context × List Token)
  | .version :: rest => if hasVersion then none else readDirectives true x rest
  | .tagHandle handle start :: rest =>
    if (x.handles.lookup handle).isSome then none
    else readDirectives hasVersion { x with handles := (handle, start) :: x.handles } rest
  | s => some (x, s)

/-- Whether tokens start with directives. -/
def startsDirectives : List Token → Bool
  | .version :: _ | .tagHandle .. :: _ => true
  | _ => false

/-- A node that nothing follows but ends of its document. Each call of a reader takes a token or ends within
    three more calls, which bounds their nesting. -/
def readLast (x : Context) (s : List Token) : Option Node := do
  let (node, _, rest) ← readNode (4 * s.length + 4) true false x s
  if (dropEnds rest).isEmpty then some node else none

/-- The root of the document that a text holds, if it holds one; nothing if it is no such text. -/
def parse (text : String) : Option (Option Node) := do
  let s := dropEnds (← tokens? text)
  if s.isEmpty then return none
  let (x, rest) ← readDirectives false {} s
  match rest with
  | .documentStart :: rest =>
    if (dropEnds rest).isEmpty then return some .null
    else return some (← readLast x rest)
  | _ => if startsDirectives s then none else return some (← readLast x s)

end IdentityServer.Yaml
