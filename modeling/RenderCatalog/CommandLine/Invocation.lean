import RenderCatalog.CommandLine.Grammar

/-!
# The command line of the program

The commands with their options and operands, and the invocation that a command line asks for.
-/

namespace RenderCatalog

namespace CommandLine

/-- A flag has been given. -/
def Given.has (given : Given) (name : String) : Bool := (given.lookup name).isSome

/-- An option whose value is a path. -/
def pathOption (name : String) : Flag := ⟨name, none, .value .path, none⟩

/-- The options that every level takes. -/
def everywhere : List Flag :=
  [⟨"verbose", some 'v', .flag, none⟩, ⟨"format", none, .value .anything, none⟩,
    ⟨"config", none, .value .path, some "SCHEMAGEN_CONFIG"⟩, ⟨"help", some 'h', .help, none⟩]

/-- The command that brings artifacts up to date. -/
def syncGrammar : Grammar :=
  .leaf [⟨"no-parallel", none, .flag, none⟩, ⟨"recursive", some 'r', .flag, none⟩]
    [⟨"source", .path⟩, ⟨"output", .path⟩]
    fun given => some <| .sync
      ⟨given.lookup "source", given.lookup "output", given.has "no-parallel", given.has "recursive"⟩

/-- The command that plans a component. -/
def addGrammar : Grammar :=
  .leaf [] [⟨"name", .anything⟩, ⟨"category", .anything⟩]
    fun given => do return .add (← given.lookup "name") (← given.lookup "category")

/-- The command that lists tools. -/
def toolsGrammar : Grammar :=
  .leaf [pathOption "index", ⟨"category", none, .value .anything, none⟩] []
    fun given => some (.tools (given.lookup "index") (given.lookup "category"))

/-- The command that checks a payload. -/
def validateGrammar : Grammar :=
  .leaf [pathOption "index", ⟨"component", some 'c', .value .anything, none⟩] [⟨"payload", .anything⟩]
    fun given => do return .validate (given.lookup "index") (← given.lookup "component") (← given.lookup "payload")

/-- The commands on settings. -/
def settingsGrammar : Grammar :=
  .branch []
    [("show", .leaf [] [] fun _ => some (.settings .display)),
      ("init", .leaf [⟨"local", none, .flag, none⟩, ⟨"force", none, .flag, none⟩] []
        fun given => some (.settings (.setUp (given.has "local") (given.has "force")))),
      ("path", .leaf [] [] fun _ => some (.settings .locate))]

/-- The command for completions. -/
def completionsGrammar : Grammar :=
  .leaf [] [⟨"shell", .oneOf (Shell.all.map Shell.label)⟩]
    fun given => do return .completions (← Shell.ofLabel? (← given.lookup "shell"))

/-- The whole command line. -/
def grammar : Grammar :=
  .branch [⟨"version", some 'V', .version, none⟩]
    [("sync", syncGrammar), ("add", addGrammar), ("tools", toolsGrammar), ("validate", validateGrammar),
      ("config", settingsGrammar), ("completions", completionsGrammar)]

end CommandLine

open CommandLine in
/-- The invocation that the arguments after the program's name ask for. -/
def Invocation.parse (surroundings : Surroundings) (arguments : List String) : Except UsageFault Invocation := do
  let reading ← grammar.read surroundings everywhere (Level.start everywhere grammar) arguments
  return {
    command := reading.command
    verbose := (reading.value? "verbose").isSome
    format? := reading.value? "format"
    settingsFile? := reading.value? "config" }

end RenderCatalog
