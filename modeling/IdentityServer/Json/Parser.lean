import IdentityServer.Json.Source

/-!
# Reading JSON

The value that a text denotes, if the text is JSON with at most 127 brackets inside one another.

No name of a field is special. This is an assumption: there are readers with a private name, under which an object
stands for a value that is kept as its raw text, and this one is taken to be built without it.
-/

namespace IdentityServer.Json

/-- The greatest number of brackets inside one another. -/
def depthLimit : Nat := 127

/-- The value that a text denotes. -/
def parse (s : String) : Option Json :=
  (Source.read depthLimit s).bind Source.value?

end IdentityServer.Json
