/-
# What the program says about its use

Its version, and how it is called. The latter is all that is said when the
options are to be explained or a command line is wrong.

Key definitions: `CommandLine.versionText`, `CommandLine.usageLine`.
-/

namespace SignedHooks
namespace CommandLine

/-- The name of the program. -/
def programName : String := "usesend-webhooks"

/-- The version of the program. -/
def programVersion : String := "0.1.0"

/-- What the program says about its version. -/
def versionText : String :=
  programName ++ " " ++ programVersion ++ "\n"

/-- How the program is called. -/
def usageLine : String :=
  "Usage: " ++ programName ++ " [OPTIONS] <COMMAND>\n"

end CommandLine
end SignedHooks
