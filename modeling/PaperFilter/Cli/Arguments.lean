import PaperFilter.Text.Digits
import PaperFilter.Unicode.Lowercase

/-!
# Command line arguments

The arguments are read from left to right.  Options that every command takes may stand in front of
the command or among its own; two hyphens end the options, and what stands behind them is taken as
it is.  An option other than the verbosity is given at most once on each side of the command.
-/

namespace PaperFilter
namespace Cli

/-! ## Options -/

inductive Opt where
  | config
  | verbose
  | quiet
  | raw
  | tree
  | query
  | fromAbstract
  | limit
  | output
  | init
  | help
  | version
deriving Repr, DecidableEq

namespace Opt

def long : Opt → Text
  | .config => "config".toList
  | .verbose => "verbose".toList
  | .quiet => "quiet".toList
  | .raw => "raw".toList
  | .tree => "tree".toList
  | .query => "query".toList
  | .fromAbstract => "abstract".toList
  | .limit => "limit".toList
  | .output => "output".toList
  | .init => "init".toList
  | .help => "help".toList
  | .version => "version".toList

def short? : Opt → Option Char
  | .config => some 'c'
  | .verbose => some 'v'
  | .quiet => none
  | .raw => none
  | .tree => some 't'
  | .query => some 'q'
  | .fromAbstract => some 'a'
  | .limit => some 'l'
  | .output => some 'o'
  | .init => none
  | .help => some 'h'
  | .version => some 'V'

def takesValue : Opt → Bool
  | .config => true
  | .query => true
  | .limit => true
  | .output => true
  | _ => false

end Opt

/-- The options that may stand everywhere. -/
def commonOptions : List Opt :=
  [.config, .verbose, .quiet, .help]

/-! ## Items -/

/-- What an argument, or a part of one, says. -/
inductive Item where
  | flag (option : Opt)
  | value (option : Opt) (text : Text)
  | operand (text : Text)
  /-- Something that no option and no operand can be. -/
  | bad
deriving Repr, DecidableEq

/-- An argument that can be the value of the option in front of it. -/
def isValue (argument : Text) : Bool :=
  argument.head? != some '-' || argument = ['-']

/-- What an option says that has no value attached, with the arguments that are left. -/
def takeValue (option : Opt) (rest : List Text) : Item × List Text :=
  match rest with
  | [] => (.bad, [])
  | next :: behind => if isValue next then (.value option next, behind) else (.bad, next :: behind)

/-- What the argument behind two hyphens says, with the arguments that are left. -/
def readLong (options : List Opt) (argument : Text) (rest : List Text) : Item × List Text :=
  let ⟨name, attached, _⟩ := readWhile (· != '=') argument
  match options.find? (fun option => option.long = name) with
  | none => (.bad, rest)
  | some option =>
      match attached with
      | _ :: text => (if option.takesValue then .value option text else .bad, rest)
      | [] => if option.takesValue then takeValue option rest else (.flag option, rest)

/-- What the letters behind one hyphen say, with the arguments that are left. -/
def readShort (options : List Opt) (rest : List Text) : Text → List Item × List Text
  | [] => ([], rest)
  | letter :: letters =>
      match options.find? (fun option => option.short? = some letter) with
      | none => ([.bad], rest)
      | some option =>
          if option.takesValue then
            match letters with
            | [] => let (item, behind) := takeValue option rest; ([item], behind)
            | '=' :: text => ([.value option text], rest)
            | text => ([.value option text], rest)
          else
            let (items, behind) := readShort options rest letters
            (.flag option :: items, behind)

theorem length_takeValue_le (option : Opt) (rest : List Text) :
    (takeValue option rest).2.length ≤ rest.length := by
  cases rest with
  | nil => simp [takeValue]
  | cons next behind =>
      unfold takeValue
      dsimp only
      split <;> simp

theorem length_readLong_le (options : List Opt) (argument : Text) (rest : List Text) :
    (readLong options argument rest).2.length ≤ rest.length := by
  unfold readLong
  dsimp only
  split
  · simp
  · split
    · simp
    · split
      · exact length_takeValue_le _ _
      · simp

theorem length_readShort_le (options : List Opt) (rest : List Text) (letters : Text) :
    (readShort options rest letters).2.length ≤ rest.length := by
  induction letters with
  | nil => simp [readShort]
  | cons letter letters ih =>
      unfold readShort
      split
      · simp
      · split
        · split
          · exact length_takeValue_le _ _
          · simp
          · simp
        · exact ih

/-- The items of arguments that follow a command. -/
def readItems (options : List Opt) : (arguments : List Text) → List Item
  | [] => []
  | ['-', '-'] :: rest => rest.map .operand
  | ('-' :: '-' :: argument) :: rest =>
      have := length_readLong_le options argument rest
      let found := readLong options argument rest
      found.1 :: readItems options found.2
  | ('-' :: letter :: letters) :: rest =>
      have := length_readShort_le options rest (letter :: letters)
      let found := readShort options rest (letter :: letters)
      found.1 ++ readItems options found.2
  | argument :: rest => .operand argument :: readItems options rest
termination_by arguments => arguments.length

/-- The items in front of the first operand, that operand, and the arguments behind it. -/
def readLeading (options : List Opt) :
    (arguments : List Text) → List Item × Option (Text × List Text)
  | [] => ([], none)
  | ['-', '-'] :: _ => ([.bad], none)
  | ('-' :: '-' :: argument) :: rest =>
      have := length_readLong_le options argument rest
      let found := readLong options argument rest
      let (items, command) := readLeading options found.2
      (found.1 :: items, command)
  | ('-' :: letter :: letters) :: rest =>
      have := length_readShort_le options rest (letter :: letters)
      let found := readShort options rest (letter :: letters)
      let (items, command) := readLeading options found.2
      (found.1 ++ items, command)
  | argument :: rest => ([], some (argument, rest))
termination_by arguments => arguments.length

/-! ## Collecting items -/

/-- Why no command is run. -/
inductive Stop where
  | usage
  | help
  | version
deriving Repr, DecidableEq

inductive OutputFormat where
  | text
  | json
deriving Repr, DecidableEq

namespace OutputFormat

/-- The format with this name in any letter case. -/
def ofName? (name : Text) : Option OutputFormat :=
  let lower := Unicode.lowercase name
  if lower = "text".toList then some .text
  else if lower = "json".toList then some .json
  else none

end OutputFormat

def maxLimit : Nat := 0xffffffffffffffff

/-- A number of documents: decimal digits, with a plus sign in front or without. -/
def limit? (text : Text) : Option Nat :=
  let digits := match text with
    | '+' :: rest => rest
    | text => text
  if digits.isEmpty || !digits.all Char.isDigit then none
  else
    let n := Text.natural 10 digits
    if n ≤ maxLimit then some n else none

/-- The operands that may stand on one side of a command. -/
structure OperandRule where
  /-- The greatest number of operands. -/
  room : Nat
  /-- An operand that names a file is not empty. -/
  areFiles : Bool
deriving Repr, DecidableEq

def OperandRule.none : OperandRule := ⟨0, false⟩

/-- What the items of one side of a command say together. -/
structure Collected where
  flags : List Opt := []
  verbosity : Nat := 0
  config : Option Text := none
  query : Option Text := none
  limit : Option Nat := none
  output : Option OutputFormat := none
  operands : List Text := []
deriving Repr, DecidableEq

namespace Collected

def addFlag (collected : Collected) (option : Opt) : Except Stop Collected :=
  match option with
  | .help => .error .help
  | .version => .error .version
  | .verbose => .ok { collected with verbosity := collected.verbosity + 1 }
  | option =>
      if collected.flags.contains option then .error .usage
      else .ok { collected with flags := option :: collected.flags }

def addValue (collected : Collected) (option : Opt) (text : Text) : Except Stop Collected :=
  match option with
  | .config =>
      if collected.config.isSome || text.isEmpty then .error .usage
      else .ok { collected with config := some text }
  | .query =>
      if collected.query.isSome then .error .usage
      else .ok { collected with query := some text }
  | .limit =>
      match collected.limit, limit? text with
      | none, some limit => .ok { collected with limit := some limit }
      | _, _ => .error .usage
  | .output =>
      match collected.output, OutputFormat.ofName? text with
      | none, some output => .ok { collected with output := some output }
      | _, _ => .error .usage
  | _ => .error .usage

/-- Add an item.  The first item that makes no sense, or asks for help, decides. -/
def add (rule : OperandRule) (collected : Collected) : Item → Except Stop Collected
  | .flag option => collected.addFlag option
  | .value option text => collected.addValue option text
  | .operand text =>
      if collected.operands.length < rule.room && !(rule.areFiles && text.isEmpty) then
        .ok { collected with operands := collected.operands ++ [text] }
      else .error .usage
  | .bad => .error .usage

def ofItems (rule : OperandRule) (items : List Item) : Except Stop Collected :=
  items.foldlM (add rule) {}

def has (collected : Collected) (option : Opt) : Bool :=
  collected.flags.contains option

end Collected

/-! ## Commands -/

inductive Command where
  | check (text expr : Text) (raw : Bool)
  | parse (expr : Text) (tree : Bool)
  | tokenize (text : Text)
  | filter (input query : Option Text) (fromAbstract : Bool) (limit : Option Nat)
      (output : OutputFormat)
  | config (init : Bool)
deriving Repr, DecidableEq

structure Invocation where
  command : Command
  /-- The configuration file, where one is named. -/
  config : Option Text
  verbosity : Nat
  quiet : Bool
deriving Repr, DecidableEq

/-- The kinds of command. -/
inductive CommandName where
  | check
  | parse
  | tokenize
  | filter
  | config
deriving Repr, DecidableEq

namespace CommandName

def ofText? (text : Text) : Option CommandName :=
  if text = "match".toList || text = "m".toList then some .check
  else if text = "parse".toList then some .parse
  else if text = "tokenize".toList then some .tokenize
  else if text = "filter".toList then some .filter
  else if text = "config".toList then some .config
  else none

def options : CommandName → List Opt
  | .check => .raw :: commonOptions
  | .parse => .tree :: commonOptions
  | .tokenize => commonOptions
  | .filter => .query :: .fromAbstract :: .limit :: .output :: commonOptions
  | .config => .init :: commonOptions

def operands : CommandName → OperandRule
  | .check => ⟨2, false⟩
  | .parse => ⟨1, false⟩
  | .tokenize => ⟨1, false⟩
  | .filter => ⟨1, true⟩
  | .config => .none

/-- The command that its items describe, unless an operand is missing. -/
def command? (name : CommandName) (collected : Collected) : Option Command :=
  match name, collected.operands with
  | .check, [text, expr] => some (.check text expr (collected.has .raw))
  | .parse, [expr] => some (.parse expr (collected.has .tree))
  | .tokenize, [text] => some (.tokenize text)
  | .filter, [] =>
      some (.filter none collected.query (collected.has .fromAbstract) collected.limit
        (collected.output.getD .text))
  | .filter, [input] =>
      some (.filter (some input) collected.query (collected.has .fromAbstract) collected.limit
        (collected.output.getD .text))
  | .config, [] => some (.config (collected.has .init))
  | _, _ => none

end CommandName

def helpName : Text := "help".toList

/-- Help is given on everything or on one command, which may be help itself. -/
def isHelpTopic : List Text → Bool
  | [] => true
  | [name] => name = helpName || (CommandName.ofText? name).isSome
  | _ => false

/-- What the arguments ask for.  Where both sides of the command name a configuration file, the one
behind the command counts. -/
def readArguments (arguments : List Text) : Except Stop Invocation := do
  let (items, command) := readLeading (.version :: commonOptions) arguments
  let leading ← Collected.ofItems .none items
  match command with
  | none => throw .usage
  | some (name, rest) =>
      if name = helpName then
        throw (if isHelpTopic rest then .help else .usage)
      match CommandName.ofText? name with
      | none => throw .usage
      | some name =>
          let own ← Collected.ofItems name.operands (readItems name.options rest)
          match name.command? own with
          | none => throw .usage
          | some command =>
              return {
                command := command
                config := own.config.or leading.config
                verbosity := max own.verbosity leading.verbosity
                quiet := own.has .quiet || leading.has .quiet }

end Cli
end PaperFilter
