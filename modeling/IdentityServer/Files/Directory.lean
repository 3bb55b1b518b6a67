import IdentityServer.Fields
import IdentityServer.Files.Path

/-!
# Directories of texts

A directory that holds files with texts and no other directory. It is the directory of the program, so a
relative path with one name leads to a file.
-/

namespace IdentityServer

/-- A directory of texts, by the names of the files. -/
structure Directory where
  files : Dictionary String

namespace Directory

/-- The name that a path leads to. Nothing follows it, for a file is no directory. -/
def nameAt? (path : String) : Option String :=
  let path := path.toList
  if Path.isAbsolute path || path.contains '\x00' then none
  else
    match (Path.elements path).dropWhile Path.isIdle with
    | [name] =>
      if name == Path.parent || Path.longestName < Path.byteLength name then none
      else some (String.ofList name)
    | _ => none

/-- The text of the file at a path. -/
def read? (d : Directory) (path : String) : Option String :=
  (nameAt? path).bind d.files.get?

/-- The directory with this text in the file at a path; nothing if there can be no such file. -/
def write? (d : Directory) (path text : String) : Option Directory :=
  (nameAt? path).map fun name => ⟨d.files.insert name text⟩

end Directory

end IdentityServer
