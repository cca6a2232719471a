import RenderCatalog.CommandLine.Basic

/-!
# Outcomes

A run of the program ends with an exit code and a text to print. Zero is success, and every other code says what kind of
trouble there was.
-/

namespace RenderCatalog

/-- The code that a run ends with. -/
structure ExitCode where
  code : Int
  deriving Repr, DecidableEq

namespace ExitCode

/-- All went well. -/
def success : ExitCode := ⟨0⟩

/-- Something failed. -/
def failure : ExitCode := ⟨1⟩

/-- An argument or a payload was refused. -/
def invalidInput : ExitCode := ⟨2⟩

/-- The run was finished, but some files failed. -/
def partialFailure : ExitCode := ⟨3⟩

/-- The code says that all went well. -/
def isSuccess (c : ExitCode) : Bool := c.code == 0

/-- The code in digits. -/
def text (c : ExitCode) : String := String.ofList (Json.intText c.code)

end ExitCode

/-- How a run ends: its code, what it prints, and what it says about the command line. -/
structure Outcome where
  code : ExitCode
  output : String := ""
  complaint : String := ""
  deriving Repr, DecidableEq

namespace Outcome

/-- A run that prints one text, with a line end after it. -/
def printing (code : ExitCode) (text : String) : Outcome := { code := code, output := text ++ "\n" }

/-- What is printed about the version. -/
def versionText : String := "schemagen 0.1.0"

/-- What is printed about the commands. -/
def helpText : String := "\n".intercalate [
  "Usage: schemagen [OPTIONS] <COMMAND>",
  "",
  "Commands:",
  "  sync [SOURCE] [OUTPUT] [--no-parallel] [-r|--recursive]",
  "  add <NAME> <CATEGORY>",
  "  tools [--index <INDEX>] [--category <CATEGORY>]",
  "  validate [--index <INDEX>] -c|--component <COMPONENT> <PAYLOAD>",
  "  config show | init [--local] [--force] | path",
  "  completions <SHELL>",
  "",
  "Options: -v|--verbose, --format <FORMAT>, --config <CONFIG>, -h|--help, -V|--version"]

/-- The end of a run that was asked for nothing it can do. -/
def ofUsage : UsageFault → Outcome
  | .helpWanted => printing .success helpText
  | .versionWanted => printing .success versionText
  | fault => { code := .invalidInput, complaint := s!"error: {fault.message}\n\n" ++ helpText ++ "\n" }

end Outcome

end RenderCatalog
