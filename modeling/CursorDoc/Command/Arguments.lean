import CursorDoc.Path
import CursorDoc.Text.WholeNumber

/-!
# Command lines

Reading the arguments of the program. Options may stand before or after the
other arguments of a command; a value follows its option as the next argument,
after an equals sign, or directly after a short name. Some options ask for
something else than a command: they win over all that is missing or malformed in
the other arguments, but not over options that do not exist.
-/

namespace CursorDoc

inductive Command where
  | locate (file : Path) (line : Int) (language : Option Text)
  | insert (file : Path) (line : Int) (doc : Path) (language : Option Text) (inPlace : Bool)
  | languages
  /-- Answer calls of the tool that come in on standard input. -/
  | serve
  /-- Nothing but options of the program itself. -/
  | idle
deriving DecidableEq, Repr

/-- Where the arguments end a run before there is a command. -/
inductive ArgumentExit where
  | usage
  | help
  | version
  | completion
deriving DecidableEq, Repr

def ArgumentExit.status : ArgumentExit → Nat
  | .usage => 2
  | _ => 0

namespace Arguments

structure OptionName where
  long : String
  short : Option Char
  takesValue : Bool
deriving DecidableEq, Repr

inductive Item where
  | option (option : OptionName) (value : Text)
  | positional (value : Text)
deriving DecidableEq, Repr

/-- The options that one argument gives, and the one of them whose value is the next argument. -/
structure OptionUse where
  given : List Item
  waiting : Option OptionName

def usage {α : Type} : Except ArgumentExit α := .error .usage

/-- Split at the first equals sign. -/
def splitValue (argument : Text) : Text × Option Text :=
  match argument.dropWhile (· != '=') with
  | [] => (argument, none)
  | _ :: value => (argument.takeWhile (· != '='), some value)

/-- Short options in one argument. The first that takes a value takes what is left as its value. -/
def readShort (options : List OptionName) : Text → Except ArgumentExit OptionUse
  | [] => .ok ⟨[], none⟩
  | c :: rest =>
    match options.find? (·.short == some c) with
    | none => usage
    | some option =>
      if option.takesValue then
        .ok (if rest.isEmpty then ⟨[], some option⟩ else ⟨[.option option rest], none⟩)
      else (readShort options rest).map fun use =>
        { use with given := .option option [] :: use.given }

def readOption (options : List OptionName) (argument : Text) : Except ArgumentExit OptionUse :=
  let (name, value) := splitValue argument
  match options.find? (·.long.toList == name) with
  | some option =>
    match option.takesValue, value with
    | true, some value => .ok ⟨[.option option value], none⟩
    | true, none => .ok ⟨[], some option⟩
    | false, none => .ok ⟨[.option option []], none⟩
    | false, some _ => usage
  | none => if argument.startsWith ['-', '-'] then usage else readShort options argument.tail

def isOption (argument : Text) : Bool := argument.startsWith ['-'] && argument.length != 1

/-- The items of the arguments of a command. After two hyphens all arguments are positional. -/
def readItems (options : List OptionName) : List Text → Except ArgumentExit (List Item)
  | [] => .ok []
  | argument :: rest =>
    if argument = ['-', '-'] then .ok (rest.map .positional)
    else if isOption argument then
      match readOption options argument with
      | .error error => .error error
      | .ok ⟨given, none⟩ => (readItems options rest).map (given ++ ·)
      | .ok ⟨given, some option⟩ =>
        match rest with
        | [] => usage
        | value :: rest => (readItems options rest).map (given ++ .option option value :: ·)
    else (readItems options rest).map (.positional argument :: ·)

/-- The options of the program itself, which stand in front of the command, and the arguments from
the command on. -/
def readProgramOptions (options : List OptionName) :
    List Text → Except ArgumentExit (List Item × List Text)
  | [] => .ok ([], [])
  | argument :: rest =>
    if argument = ['-', '-'] then .ok ([], rest)
    else if isOption argument then
      match readOption options argument with
      | .error error => .error error
      | .ok ⟨_, some _⟩ => usage
      | .ok ⟨given, none⟩ =>
        (readProgramOptions options rest).map fun (items, rest) => (given ++ items, rest)
    else .ok ([], argument :: rest)

/-! ## The options -/

def help : OptionName := ⟨"--help", none, false⟩
def version : OptionName := ⟨"--version", some 'v', false⟩
def installCompletion : OptionName := ⟨"--install-completion", none, false⟩
def showCompletion : OptionName := ⟨"--show-completion", none, false⟩
def verbose : OptionName := ⟨"--verbose", none, false⟩
def languageOption : OptionName := ⟨"--language", some 'l', true⟩
def docFile : OptionName := ⟨"--doc-file", some 'd', true⟩
def inPlace : OptionName := ⟨"--in-place", some 'i', false⟩

def programOptions : List OptionName :=
  [help, version, installCompletion, showCompletion, verbose]

def Item.isUseOf (item : Item) (option : OptionName) : Bool :=
  match item with
  | .option given _ => given == option
  | .positional _ => false

/-- What options ask for in the place of a command. Of the version and the help the first wins. -/
def exitOf? (items : List Item) : Option ArgumentExit :=
  match items.find? fun item => item.isUseOf help || item.isUseOf version with
  | some item => some (if item.isUseOf help then .help else .version)
  | none =>
    if items.any fun item => item.isUseOf installCompletion || item.isUseOf showCompletion then
      some .completion
    else none

def valueOf? (items : List Item) (option : OptionName) : Option Text :=
  items.reverse.findSome? fun item =>
    match item with
    | .option given value => if given = option then some value else none
    | .positional _ => none

def positionals (items : List Item) : List Text :=
  items.filterMap fun item =>
    match item with
    | .positional value => some value
    | _ => none

/-! ## The commands -/

/-- A path, which cannot hold the null character. -/
def pathOf (written : Text) : Except ArgumentExit Path :=
  if written.contains '\x00' then usage else .ok (.ofText written)

/-- The number of a line, which is at least one. -/
def lineOf (written : Text) : Except ArgumentExit Int :=
  match Text.wholeNumber? written with
  | some n => if n = 0 then usage else .ok n
  | none => usage

def target (items : List Item) : Except ArgumentExit (Path × Int) := do
  match positionals items with
  | [file, line] =>
    let file ← pathOf file
    let line ← lineOf line
    pure (file, line)
  | _ => usage

def docPath? (items : List Item) : Except ArgumentExit (Option Path) :=
  match valueOf? items docFile with
  | none => .ok none
  | some written => (pathOf written).map some

/-- The items of the arguments of a command, all of which offer help. -/
def readCommand (options : List OptionName) (arguments : List Text) :
    Except ArgumentExit (List Item) := do
  let items ← readItems (help :: options) arguments
  match exitOf? items with
  | some exit => throw exit
  | none => pure items

/-- A command without any arguments. -/
def bareCommand (made : Command) (arguments : List Text) : Except ArgumentExit Command := do
  let items ← readCommand [] arguments
  if items.isEmpty then pure made else usage

def command (name : Text) (arguments : List Text) : Except ArgumentExit Command := do
  if name = "locate".toList then
    let items ← readCommand [languageOption] arguments
    let (file, line) ← target items
    pure (.locate file line (valueOf? items languageOption))
  else if name = "insert".toList then
    let items ← readCommand [docFile, languageOption, inPlace] arguments
    let doc? ← docPath? items
    let (file, line) ← target items
    match doc? with
    | none => usage
    | some doc =>
      pure (.insert file line doc (valueOf? items languageOption)
        (valueOf? items inPlace).isSome)
  else if name = "languages".toList then bareCommand .languages arguments
  else if name = "mcp-server".toList then bareCommand .serve arguments
  else usage

end Arguments

def Command.ofArguments (arguments : List Text) : Except ArgumentExit Command := do
  if arguments.isEmpty then throw .usage
  let (items, rest) ← Arguments.readProgramOptions Arguments.programOptions arguments
  match Arguments.exitOf? items, rest with
  | some exit, _ => throw exit
  | none, [] => pure .idle
  | none, name :: rest => Arguments.command name rest

end CursorDoc
