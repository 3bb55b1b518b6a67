import IdentityServer.CommandLine.Arguments

/-!
# Help

The texts that the program shows about itself.
-/

namespace IdentityServer

/-- The name of the program. -/
def programName : String := "sigil"

/-- The version of the program. -/
def programVersion : String := "0.1.0"

/-- The line that shows the version. -/
def versionLine : String :=
  programName ++ " " ++ programVersion ++ "\n"

namespace HelpPage

/-- What a page is about. -/
def about : HelpPage → String
  | .program => "Third-party identifier binding and replication"
  | .run => "Run the background services until interrupted"
  | .rotateKey => "Generate a new signing key and make it current"
  | .pruneKey => "Delete a retired signing key"
  | .keyDocument => "Print the key document this server publishes"

/-- How the arguments of a page are written after the name of the program. -/
def usage : HelpPage → String
  | .program => "[OPTIONS] [COMMAND]"
  | .run => "run"
  | .rotateKey => "rotate-key"
  | .pruneKey => "prune-key <KEY_ID>"
  | .keyDocument => "key-document"

/-- The lines about arguments, commands and options of a page. The environment may name the settings
    file. -/
def details (usualFile : Option String) : HelpPage → List String
  | .program =>
    ["Commands:",
     "  run           " ++ about .run,
     "  rotate-key    " ++ about .rotateKey,
     "  prune-key     " ++ about .pruneKey,
     "  key-document  " ++ about .keyDocument,
     "  help          Print this message or the help of the given subcommand(s)",
     "",
     "Options:",
     "  -c, --config <CONFIG>  Path to a TOML config file (extension optional) [env: SIGIL_CONFIG=" ++
       usualFile.getD "" ++ "]",
     "  -h, --help             Print help",
     "  -V, --version          Print version"]
  | .pruneKey => ["Arguments:", "  <KEY_ID>  ", "", "Options:", "  -h, --help  Print help"]
  | _ => ["Options:", "  -h, --help  Print help"]

/-- The text of a page. -/
def text (usualFile : Option String) (page : HelpPage) : String :=
  String.join (([page.about, "", "Usage: " ++ programName ++ " " ++ page.usage, ""] ++
    page.details usualFile).map (· ++ "\n"))

end HelpPage

end IdentityServer
