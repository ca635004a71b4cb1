import PaperFilter.Cli.Arguments
import PaperFilter.Config.Store
import PaperFilter.Document.Lines
import PaperFilter.Filter

/-!
# Running commands

A command maps the arguments, the files and the input to an exit status, two output texts and the
files as they are left.  Arguments that make no sense are refused before anything else is looked at;
then the configuration is loaded, whatever the command.
-/

namespace PaperFilter
namespace Cli

/-- What a command finds around it. -/
structure Environment where
  files : FileTree
  /-- The directory that paths begin from. -/
  directory : Place
  /-- The configuration file to use where none is named, as far as one is known. -/
  defaultConfig : Option Text
  input : ByteArray

structure Outcome where
  status : Nat
  output : Text
  errors : Text
  files : FileTree

/-! ## Failures -/

/-- How a failure is shown, with the error behind it if there is one. -/
def showFailure (message : Text) (cause : Option Text) : Text :=
  "Error: ".toList ++ message ++ ['\n'] ++
    match cause with
    | none => []
    | some cause => "\nCaused by:\n    ".toList ++ cause ++ ['\n']

def Environment.fail (environment : Environment) (errors : Text) : Outcome :=
  ⟨1, [], errors, environment.files⟩

def Environment.failWith (environment : Environment) (failure : Failure) : Outcome :=
  environment.fail (showFailure failure.message failure.cause?)

def Environment.failQuery (environment : Environment) (error : QueryError) : Outcome :=
  environment.fail (showFailure error.message none)

def Environment.succeed (environment : Environment) (output : Text) : Outcome :=
  ⟨0, output, [], environment.files⟩

def line (text : Text) : Text :=
  text ++ ['\n']

/-! ## Queries and texts -/

def showBool (value : Bool) : Text :=
  if value then "true".toList else "false".toList

/-- Whether a text matches, taken as it is or as the title of a document. -/
def runCheck [PatternCompiler] (environment : Environment) (config : Config) (text expr : Text)
    (raw : Bool) : Outcome :=
  if raw then
    match matchesExpression text expr with
    | .error error => environment.failQuery error
    | .ok found => environment.succeed (line (showBool found))
  else
    match DocumentFilter.build expr config with
    | .error error => environment.failWith (.query error)
    | .ok filter =>
        environment.succeed (line (showBool (filter.isMatch (Document.ofTexts text []))))

/-- The expression with a mark below the place of an error. -/
def pointAt (expr : Text) (position : Option Nat) : Text :=
  match position with
  | none => []
  | some position =>
      line ([' ', ' '] ++ expr) ++ line ([' ', ' '] ++ List.replicate position ' ' ++ ['^'])

def runParse [PatternCompiler] (environment : Environment) (expr : Text) (tree : Bool) : Outcome :=
  match Query.parse expr with
  | .error error =>
      environment.fail (pointAt expr error.position? ++ showFailure error.message none)
  | .ok query =>
      environment.succeed (line (if tree then query.root.outline.render else query.root.render))

def runTokenize (environment : Environment) (text : Text) : Outcome :=
  environment.succeed ((tokenize text).flatMap fun token => line (Text.quoted token))

/-! ## Filtering -/

def showKept (format : OutputFormat) (kept : KeptDocument) : Text :=
  match format with
  | .text =>
      line kept.document.title ++
        kept.codeUrls.flatMap fun url => line ([' ', ' ', ' ', ' '] ++ url)
  | .json => line kept.encode

def showCounts (report : Report) : Text :=
  "\nKept ".toList ++ Text.ofNat report.kept.length ++ " of ".toList ++
    Text.ofNat report.total ++ " documents\n".toList

/-- The kept documents that are shown. -/
def shown (limit : Option Nat) (kept : List KeptDocument) : List KeptDocument :=
  match limit with
  | none => kept
  | some limit => kept.take limit

/-- The stream that documents are read from: a file, or the input. -/
def openStream (environment : Environment) (input : Option Text) : Except Text ByteArray :=
  match input with
  | none => .ok environment.input
  | some name =>
      match environment.files.readFile (Path.ofText environment.directory name) with
      | .ok bytes => .ok bytes
      | .error .isDirectory =>
          .error (showFailure (Failure.file FileError.isDirectory.message).message
            (some FileError.isDirectory.message))
      | .error error => .error (showFailure error.message none)

def runFilter [PatternCompiler] (environment : Environment) (config : Config)
    (input query : Option Text) (fromAbstract : Bool) (limit : Option Nat)
    (format : OutputFormat) : Outcome :=
  let source := if fromAbstract then .abstractText else config.filter.source
  match DocumentFilter.build (query.getD config.query.expr) config with
  | .error error => environment.failWith (.query error)
  | .ok filter =>
      match openStream environment input with
      | .error errors => environment.fail errors
      | .ok bytes =>
          match Document.readStream bytes with
          | .error failure => environment.failWith failure
          | .ok documents =>
              let report := (filter.withSource source).run documents
              ⟨0, (shown limit report.kept).flatMap (showKept format), showCounts report,
                environment.files⟩

/-! ## Configuration -/

def unknownConfigPath : Failure :=
  .config "Could not determine config directory".toList

/-- Show the settings in effect, or write those in effect to a file that is not there yet. -/
def runConfig (environment : Environment) (config : Config) (name : Text) (init : Bool) : Outcome :=
  let path := Path.ofText environment.directory name
  let present := environment.files.has path
  if init then
    if present then
      environment.succeed (line ("Configuration already exists at ".toList ++ name))
    else
      match config.save path environment.files with
      | (files, some failure) =>
          ⟨1, [], showFailure failure.message failure.cause?, files⟩
      | (files, none) =>
          ⟨0, line ("Wrote default configuration to ".toList ++ name), [], files⟩
  else
    match config.encode? with
    | none => environment.failWith (.config "Failed to serialize config".toList)
    | some text =>
        let status := if present then [] else " (not created, using defaults)".toList
        environment.succeed (line ("# ".toList ++ name ++ status) ++ line [] ++ text)

/-! ## All commands -/

def runCommand [PatternCompiler] (environment : Environment) (config : Config) (name : Text) :
    Command → Outcome
  | .check text expr raw => runCheck environment config text expr raw
  | .parse expr tree => runParse environment expr tree
  | .tokenize text => runTokenize environment text
  | .filter input query fromAbstract limit output =>
      runFilter environment config input query fromAbstract limit output
  | .config init => runConfig environment config name init

def usage : Text :=
  ("Usage: sift [-c FILE] [-v] [--quiet] COMMAND\n\n" ++
    "  match TEXT EXPR [--raw]    Check whether a text matches a query\n" ++
    "  parse EXPR [-t]            Print the canonical form of a query\n" ++
    "  tokenize TEXT              Print the tokens of a text\n" ++
    "  filter [INPUT] [-q EXPR] [-a] [-l N] [-o text|json]\n" ++
    "                             Keep the documents that match a query\n" ++
    "  config [--init]            Show or create the configuration\n").toList

def versionText : Text :=
  "sift 0.1.0\n".toList

def run [PatternCompiler] (environment : Environment) (arguments : List Text) : Outcome :=
  match readArguments arguments with
  | .error .usage => ⟨2, [], usage, environment.files⟩
  | .error .help => environment.succeed usage
  | .error .version => environment.succeed versionText
  | .ok invocation =>
      match invocation.config.or environment.defaultConfig with
      | none => environment.failWith unknownConfigPath
      | some name =>
          match Config.load environment.files (Path.ofText environment.directory name) with
          | .error failure => environment.failWith failure
          | .ok config => runCommand environment config name invocation.command

/-! ## Patterns -/

/-- The most bytes that a compiled pattern may take. -/
def maxCompiledSize : Nat := 10485760

/-- About how many bytes an expression takes when it is compiled: so many for each gap, and so many
for each byte of a character that stands for itself. -/
def compiledSize : Text → Nat
  | [] => 0
  | '.' :: '+' :: rest => 1040 + compiledSize rest
  | '\\' :: c :: rest => 32 * c.utf8Size + compiledSize rest
  | c :: rest => 32 * c.utf8Size + compiledSize rest

/-- The compiler that the program runs with. -/
instance : PatternCompiler where
  refusal? expression :=
    if compiledSize expression ≤ maxCompiledSize then none
    else some "Compiled regex exceeds size limit of 10485760 bytes.".toList

end Cli
end PaperFilter
