import IdentityServer.Text.Split

/-!
# Arguments of the program

The program takes the name of a settings file and a command, with the option before the command. Running
the service is the command if none is given. The arguments are read from left to right, and the first one
that is wrong, or that asks for help or for the version, decides.
-/

namespace IdentityServer

/-- What the program is asked to do. -/
inductive Command where
  /-- Run the service until it is interrupted. -/
  | run
  /-- Make a new signing key the current one. -/
  | rotateKey
  /-- Delete a retired signing key. -/
  | pruneKey (keyId : String)
  /-- Show the key document. -/
  | keyDocument
  deriving DecidableEq, Repr

/-- A command and the settings file that it works with. -/
structure Invocation where
  settingsFile : Option String
  command : Command
  deriving DecidableEq, Repr

/-- The pages of help: of the program as a whole and of its commands. -/
inductive HelpPage where
  | program
  | run
  | rotateKey
  | pruneKey
  | keyDocument
  deriving DecidableEq, Repr

/-- What the arguments ask for in place of a command. -/
inductive ArgumentReply where
  | help (page : HelpPage)
  | version
  /-- There are no such arguments. -/
  | misuse
  deriving DecidableEq, Repr

namespace Arguments

/-- Whether an argument is an option and not a value. A hyphen alone is a value. -/
def isOption (argument : String) : Bool :=
  match argument.toList with
  | '-' :: _ :: _ => true
  | _ => false

/-- The arguments of a command that takes none. -/
def readNone (page : HelpPage) (command : Command) : List String → Except ArgumentReply Command
  | [] => .ok command
  | ["--"] => .ok command
  | argument :: _ =>
    if argument.startsWith "-h" ∨ argument = "--help" then .error (.help page) else .error .misuse

/-- The arguments of a command that takes a key id; `found` holds it once it was read. -/
def readKeyId (found : Option String) : List String → Except ArgumentReply Command
  | [] => match found with
    | some keyId => .ok (.pruneKey keyId)
    | none => .error .misuse
  | "--" :: rest => match found, rest with
    | some keyId, [] => .ok (.pruneKey keyId)
    | none, [keyId] => .ok (.pruneKey keyId)
    | _, _ => .error .misuse
  | argument :: rest =>
    if argument.startsWith "-h" ∨ argument = "--help" then .error (.help .pruneKey)
    else if isOption argument ∨ found.isSome then .error .misuse
    else readKeyId (some argument) rest

/-- The page of a command that help is asked for by name. -/
def readHelp : List String → ArgumentReply
  | [] | ["help"] => .help .program
  | ["run"] => .help .run
  | ["rotate-key"] => .help .rotateKey
  | ["prune-key"] => .help .pruneKey
  | ["key-document"] => .help .keyDocument
  | _ => .misuse

/-- The value that is attached to the settings option, if an argument is that option; none is attached if
    the value is the next argument. -/
def settingsOption? (argument : String) : Option (Option String) :=
  if argument = "--config" then some none
  else
    match Text.dropStart? "--config=".toList argument.toList, Text.dropStart? "-c".toList argument.toList with
    | some value, _ => some (some (String.ofList value))
    | none, some [] => some none
    | none, some ('=' :: value) | none, some value => some (some (String.ofList value))
    | none, none => none

/-- Reads arguments after `file` was named. -/
def read (file : Option String) : List String → Except ArgumentReply Invocation
  | [] => .ok ⟨file, .run⟩
  | ["--"] => .ok ⟨file, .run⟩
  | "help" :: rest => .error (readHelp rest)
  | "run" :: rest => (readNone .run .run rest).map (⟨file, ·⟩)
  | "rotate-key" :: rest => (readNone .rotateKey .rotateKey rest).map (⟨file, ·⟩)
  | "key-document" :: rest => (readNone .keyDocument .keyDocument rest).map (⟨file, ·⟩)
  | "prune-key" :: rest => (readKeyId none rest).map (⟨file, ·⟩)
  | argument :: rest =>
    if argument.startsWith "-h" ∨ argument = "--help" then .error (.help .program)
    else if argument.startsWith "-V" ∨ argument = "--version" then .error .version
    else
      match settingsOption? argument, file, rest with
      | some (some value), none, rest => read (some value) rest
      | some none, none, value :: rest => if isOption value then .error .misuse else read (some value) rest
      | _, _, _ => .error .misuse

/-- The invocation that arguments state. The environment names the settings file if they do not. -/
def invocation (usualFile : Option String) (arguments : List String) : Except ArgumentReply Invocation :=
  (read none arguments).map fun i => { i with settingsFile := i.settingsFile <|> usualFile }

end Arguments

end IdentityServer
