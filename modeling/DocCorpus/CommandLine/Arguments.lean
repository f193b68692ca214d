/-
  Arguments of the command line, read from the left. Each command opens a level of its own, whose
  options stand after it. An option that waits for its value is settled when the next option of its
  level comes, or at the end, after the levels below.
-/
import DocCorpus.CommandLine.Option
import DocCorpus.Configuration
import DocCorpus.Path

namespace DocCorpus.CommandLine

/-! ## Words -/

/-- How an argument reads where a value is not taken from it. -/
inductive Word
  | long (name : List Char) (value : Option (List Char))
  | letters (letters : List Char)
  | plain

def Word.ofText (argument : String) : Word :=
  match argument.toList with
  | '-' :: '-' :: rest =>
    match Text.cutFirst? '=' rest with
    | some (name, value) => .long name (some value)
    | none => .long rest none
  | '-' :: c :: rest => .letters (c :: rest)
  | _ => .plain

/-! ## The options of a level -/

/-- The options read at a level so far, with their values. -/
structure Reading where
  given : List (OptionName × Option String)
  /-- The last option, not yet settled, with its value if that has come. -/
  pending : Option (OptionName × Option String)

namespace Reading

def empty : Reading := ⟨[], none⟩

/-- Whether the next argument can be the value of the last option. -/
def awaitsValue (r : Reading) : Bool :=
  match r.pending with
  | some (_, none) => true
  | _ => false

def isGiven (r : Reading) (o : OptionName) : Bool := (r.given.lookup o).isSome

/-- Adds an option that may not have been given before, unless it repeats. -/
def add (r : Reading) (o : OptionName) (value : Option String) : Except UsageFault Reading :=
  if r.isGiven o && !o.repeats then .error .repeated
  else .ok { r with given := r.given ++ [(o, value)] }

/-- Adds an option with its value, which it has to have if it takes one. -/
def accept (r : Reading) (o : OptionName) (value : Option String) : Except UsageFault Reading :=
  match o.valueForm?, value with
  | none, _ =>
    match o with
    | .help => .error .helpAsked
    | .version => .error .versionAsked
    | o => r.add o none
  | some _, none => .error .valueNotAllowed
  | some form, some value => do
    let r ← r.add o (some value)
    form.check value
    return r

/-- Adds the option that is pending. -/
def settle (r : Reading) : Except UsageFault Reading :=
  match r.pending with
  | none => .ok r
  | some (o, value) => accept { r with pending := none } o value

/-- Takes in the next option, with the value attached to it if there is one. -/
def next (r : Reading) (o : OptionName) (attached : Option (List Char)) :
    Except UsageFault Reading := do
  let r ← r.settle
  if o.takesValue && attached.isNone then return { r with pending := some (o, none) }
  else r.accept o (attached.map String.ofList)

/-- Takes in an option by its name. -/
def nextNamed (r : Reading) (level : Level) (name : List Char) (attached : Option (List Char)) :
    Except UsageFault Reading :=
  match level.named? name with
  | none => .error .unknownArgument
  | some o => if attached.isSome && !o.takesValue then .error .valueForSwitch else r.next o attached

/-- The value that follows a letter in the same argument. -/
def attachedTo? : List Char → Option (List Char)
  | [] => none
  | '=' :: value => some value
  | value => some value

/-- Takes in options by their letters; the first that takes a value ends them. -/
def nextLettered (level : Level) (r : Reading) : List Char → Except UsageFault Reading
  | [] => .ok r
  | letter :: rest =>
    match level.lettered? letter with
    | none => .error .unknownArgument
    | some o =>
      if o.takesValue then r.next o (attachedTo? rest)
      else do
        let r ← r.next o none
        nextLettered level r rest

/-- Takes in an argument that is no option: the value that the last option waits for. -/
def nextPlain (r : Reading) (level : Level) (argument : String) : Except UsageFault Reading :=
  match r.pending with
  | some (o, none) => .ok { r with pending := some (o, some argument) }
  | _ => .error (if level.isGroup then .unknownCommand else .unknownArgument)

/-- Takes in an argument that opens no level. -/
def nextWord (r : Reading) (level : Level) (argument : String) : Except UsageFault Reading :=
  match Word.ofText argument with
  | .long name attached => r.nextNamed level name attached
  | .letters letters => nextLettered level r letters
  | .plain => r.nextPlain level argument

end Reading

/-! ## Levels -/

/-- The command of a command line, and what was given at its levels, the innermost first. -/
structure Parsed where
  command : CommandName
  levels : List (List (OptionName × Option String))

namespace Parsed

/-- The value of an option, from the innermost level that has it. -/
def value? (p : Parsed) (o : OptionName) : Option String :=
  p.levels.findSome? fun given => (given.lookup o).join

def has (p : Parsed) (o : OptionName) : Bool := p.levels.any fun given => (given.lookup o).isSome

end Parsed

namespace Level

/-- The argument after which no option stands. -/
def separator : String := "--"

/-- The end of a command line at a level. -/
def finish (level : Level) (r : Reading) : Except UsageFault Parsed := do
  let r ← r.settle
  match level with
  | .command name => return ⟨name, [r.given]⟩
  | _ => .error (if r.given.isEmpty then .nothingGiven else .commandMissing)

/-- The rest of a command line, where no option may stand. -/
def afterSeparator (level : Level) (r : Reading) : List String → Except UsageFault Parsed
  | [] => level.finish r
  | argument :: _ =>
    .error (if level.isGroup && argument ≠ "help" && (level.child? argument).isNone
      then .unknownCommand else .unknownArgument)

/-- The answer to a question for help on a command. -/
def help (level : Level) : List String → UsageFault
  | [] => .helpAsked
  | name :: rest =>
    match level.child? name with
    | some below => below.help rest
    | none => if level.isGroup && name = "help" && rest.isEmpty then .helpAsked else .unknownCommand

/-- The rest of a command line from a level on. -/
def read (level : Level) (r : Reading) : List String → Except UsageFault Parsed
  | [] => level.finish r
  | argument :: rest =>
    match if r.awaitsValue then none else level.child? argument with
    | some below => do
      let parsed ← below.read .empty rest
      let r ← r.settle
      return { parsed with levels := parsed.levels ++ [r.given] }
    | none =>
      if level.isGroup && !r.awaitsValue && argument = "help" then .error (level.help rest)
      else if argument = separator then level.afterSeparator r rest
      else
        match r.nextWord level argument with
        | .error fault => .error fault
        | .ok r => level.read r rest

end Level

/-! ## Invocations -/

/-- What a command is to do. -/
inductive Command
  | export (out fromJson : Option Path)
  | build (out : Path)
  | sets (label : Option String) (json : Bool)
  | nav (json : Bool)
  | check (llms : Option Path)
  | serve (address : Option SocketAddress)
  | initConfig
  | showConfig

structure Invocation where
  /-- The configuration file. -/
  config : Path
  /-- The directory of the collection, in place of the configured one. -/
  content : Option Path
  command : Command

namespace Parsed

def path? (p : Parsed) (o : OptionName) : Option Path := (p.value? o).map Path.mk

def toCommand (p : Parsed) : Command :=
  match p.command with
  | .export => .export (p.path? .out) (p.path? .fromJson)
  | .build => .build ((p.path? .out).getD ⟨"dist"⟩)
  | .sets => .sets (p.value? .set) (p.has .json)
  | .nav => .nav (p.has .json)
  | .check => .check (p.path? .llms)
  | .serve => .serve ((p.value? .bind).bind SocketAddress.ofText?)
  | .initConfig => .initConfig
  | .showConfig => .showConfig

end Parsed

/-- The invocation that arguments spell. -/
def Invocation.ofArguments (arguments : List String) : Except UsageFault Invocation := do
  let parsed ← Level.top.read .empty arguments
  return {
    config := (parsed.path? .config).getD ⟨Configuration.fileName⟩
    content := parsed.path? .content
    command := parsed.toCommand }

end DocCorpus.CommandLine
