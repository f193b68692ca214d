/-
  The forms of the command line: its commands, the options that each of them takes, and the values
  that options ask for.
-/
import DocCorpus.SocketAddress

namespace DocCorpus.CommandLine

/-! ## Options -/

/-- The options, by what they are called. -/
inductive OptionName
  | config
  | content
  | logFormat
  | verbose
  | out
  | fromJson
  | set
  | json
  | llms
  | bind
  | help
  | version
  deriving DecidableEq

/-- What may follow an option as its value. -/
inductive ValueForm
  | path
  | label
  | logFormat
  | address
  deriving DecidableEq

namespace OptionName

def text : OptionName → String
  | .config => "config"
  | .content => "content"
  | .logFormat => "log-format"
  | .verbose => "verbose"
  | .out => "out"
  | .fromJson => "from-json"
  | .set => "set"
  | .json => "json"
  | .llms => "llms"
  | .bind => "bind"
  | .help => "help"
  | .version => "version"

/-- The letter that stands for an option. -/
def letter? : OptionName → Option Char
  | .out => some 'o'
  | .verbose => some 'v'
  | .help => some 'h'
  | .version => some 'V'
  | _ => none

/-- The form of the value that an option asks for; a switch asks for none. -/
def valueForm? : OptionName → Option ValueForm
  | .config | .content | .out | .fromJson | .llms => some .path
  | .set => some .label
  | .logFormat => some .logFormat
  | .bind => some .address
  | .verbose | .json | .help | .version => none

def takesValue (o : OptionName) : Bool := o.valueForm?.isSome

/-- Whether an option may be given again and again. -/
def repeats (o : OptionName) : Bool := o = .verbose

end OptionName

/-! ## Commands -/

inductive CommandName
  | export
  | build
  | sets
  | nav
  | check
  | serve
  | initConfig
  | showConfig
  deriving DecidableEq

/-- How far the commands of a command line have been read: none, the group of those that manage
the configuration, or a command. -/
inductive Level
  | top
  | configuration
  | command (name : CommandName)
  deriving DecidableEq

namespace Level

/-- What may follow a level, by name. -/
def children : Level → List (String × Level)
  | .top => [("export", .command .export), ("build", .command .build), ("sets", .command .sets),
      ("nav", .command .nav), ("check", .command .check), ("serve", .command .serve),
      ("config", .configuration)]
  | .configuration => [("init", .command .initConfig), ("show", .command .showConfig)]
  | .command _ => []

def child? (level : Level) (name : String) : Option Level := level.children.lookup name

/-- Whether a command has to follow. -/
def isGroup (level : Level) : Bool := !level.children.isEmpty

/-- The options that only this level takes. -/
def ownOptions : Level → List OptionName
  | .top => [.version]
  | .configuration => []
  | .command .export => [.out, .fromJson]
  | .command .build => [.out]
  | .command .sets => [.set, .json]
  | .command .nav => [.json]
  | .command .check => [.llms]
  | .command .serve => [.bind]
  | .command .initConfig | .command .showConfig => []

def options (level : Level) : List OptionName :=
  [.config, .content, .logFormat, .verbose, .help] ++ level.ownOptions

/-- The option of a level with a name. -/
def named? (level : Level) (name : List Char) : Option OptionName :=
  level.options.find? fun o => o.text.toList = name

/-- The option of a level with a letter. -/
def lettered? (level : Level) (letter : Char) : Option OptionName :=
  level.options.find? fun o => o.letter? = some letter

end Level

/-! ## Faults -/

/-- Why a command line runs no command. -/
inductive UsageFault
  | helpAsked
  | versionAsked
  /-- A command has to follow, and nothing was given at all. -/
  | nothingGiven
  | commandMissing
  | unknownCommand
  | unknownArgument
  /-- An option without a value, or with one that is not among those allowed. -/
  | valueNotAllowed
  /-- A value that does not read as what the option asks for. -/
  | valueUnreadable
  /-- An option was given again. -/
  | repeated
  /-- A switch with a value. -/
  | valueForSwitch
  deriving DecidableEq

namespace ValueForm

/-- Whether a text is a value of this form. -/
def check (form : ValueForm) (value : String) : Except UsageFault Unit :=
  match form with
  | .path => if value = "" then .error .valueNotAllowed else .ok ()
  | .label => .ok ()
  | .logFormat => if value = "text" ∨ value = "json" then .ok () else .error .valueNotAllowed
  | .address => if (SocketAddress.ofText? value).isSome then .ok () else .error .valueUnreadable

end ValueForm
end DocCorpus.CommandLine
