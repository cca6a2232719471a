/-!
# What can go wrong

`OsError` names the refusals of the file system, `Error` the causes that the catalog itself reports, and a `Failure` is a
cause with the steps that were under way when it struck. Every wording stands in one place, so that code branches on
causes and never on texts.
-/

namespace RenderCatalog

/-- A refusal of the file system. -/
inductive OsError where
  | notFound
  | alreadyExists
  | notDirectory
  | isDirectory
  | directoryNotEmpty
  | tooManyLinks
  | nameTooLong
  | nulInPath
  | notText
  | other (text : String)
  deriving Repr, DecidableEq

/-- The wording of a refusal. -/
def OsError.message : OsError → String
  | .notFound => "No such file or directory (os error 2)"
  | .alreadyExists => "File exists (os error 17)"
  | .notDirectory => "Not a directory (os error 20)"
  | .isDirectory => "Is a directory (os error 21)"
  | .directoryNotEmpty => "Directory not empty (os error 39)"
  | .tooManyLinks => "Too many levels of symbolic links (os error 40)"
  | .nameTooLong => "File name too long (os error 36)"
  | .nulInPath => "file name contained an unexpected NUL byte"
  | .notText => "stream did not contain valid UTF-8"
  | .other text => text

/-- A cause that the catalog reports. -/
inductive Error where
  | sourceNotFound (path : String)
  | io (path : String) (cause : OsError)
  | serialization (message : String) (cause : String)
  | invalidArgument (reason : String)
  | validation (field reason : String)
  | schemaNotFound (key : String)
  | createDir (path : String) (cause : OsError)
  | write (path : String) (cause : OsError)
  | duplicateComponent (component : String)
  deriving Repr, DecidableEq

namespace Error

/-- The wording of an error. -/
def message : Error → String
  | .sourceNotFound path => s!"source directory not found: {path}"
  | .io path cause => s!"I/O error on {path}: {cause.message}"
  | .serialization message _ => s!"Serialization error: {message}"
  | .invalidArgument reason => s!"Invalid argument: {reason}"
  | .validation field reason => s!"Validation error in {field}: {reason}"
  | .schemaNotFound key => s!"Schema not found: {key}"
  | .createDir path cause => s!"failed to create output directory {path}: {cause.message}"
  | .write path cause => s!"failed to write {path}: {cause.message}"
  | .duplicateComponent component => s!"duplicate component name: {component}"

/-- The wordings of what lies behind an error. -/
def causes : Error → List String
  | .io _ cause => [cause.message]
  | .serialization _ cause => [cause]
  | .createDir _ cause => [cause.message]
  | .write _ cause => [cause.message]
  | _ => []

/-- The file system refused to read. -/
def isIo : Error → Bool
  | .io _ _ => true
  | _ => false

/-- The source directory was missing. -/
def isSourceNotFound : Error → Bool
  | .sourceNotFound _ => true
  | _ => false

/-- An argument was refused. -/
def isInvalidArgument : Error → Bool
  | .invalidArgument _ => true
  | _ => false

/-- A payload was refused. -/
def isValidation : Error → Bool
  | .validation _ _ => true
  | _ => false

/-- A schema was asked for that the index does not hold. -/
def isNotFound : Error → Bool
  | .schemaNotFound _ => true
  | _ => false

/-- The file system refused to take an artifact. -/
def isArtifactIo : Error → Bool
  | .createDir _ _ => true
  | .write _ _ => true
  | _ => false

/-- The path of an artifact that could not be written. -/
def artifactPath? : Error → Option String
  | .createDir path _ => some path
  | .write path _ => some path
  | _ => none

end Error

/-- What a failure goes back to. -/
inductive Cause where
  | error (e : Error)
  | os (e : OsError)
  | message (text : String)
  | unsaid
  deriving Repr, DecidableEq

/-- The wordings of a cause and of what lies behind it. -/
def Cause.texts : Cause → List String
  | .error e => e.message :: e.causes
  | .os e => [e.message]
  | .message text => [text]
  | .unsaid => []

/-- A cause and the steps that were under way, the outermost first. -/
structure Failure where
  steps : List String
  cause : Cause
  deriving Repr, DecidableEq

namespace Failure

/-- A failure outside any named step. -/
def ofError (e : Error) : Failure := ⟨[], .error e⟩

/-- A failure that is only a text. -/
def ofMessage (text : String) : Failure := ⟨[], .message text⟩

/-- The failure as part of a further step. -/
def during (step : String) (f : Failure) : Failure := { f with steps := step :: f.steps }

/-- All wordings from the outermost step down to the last cause. -/
def texts (f : Failure) : List String := f.steps ++ f.cause.texts

/-- The outermost wording. -/
def message (f : Failure) : String := f.texts.headD ""

/-- The wordings below the outermost one. -/
def causes (f : Failure) : List String := f.texts.drop 1

/-- The error of the catalog that the failure goes back to. -/
def error? (f : Failure) : Option Error :=
  match f.cause with
  | .error e => some e
  | _ => none

/-- All wordings in one line. -/
def line (f : Failure) : String := ": ".intercalate f.texts

end Failure

/-- The result of an operation as part of a further step. -/
def during {α : Type} (step : String) (r : Except Error α) : Except Failure α :=
  r.mapError fun e => (Failure.ofError e).during step

end RenderCatalog
