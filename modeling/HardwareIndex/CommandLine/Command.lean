import HardwareIndex.CommandLine.Setting

/-!
# Commands

What the program can be asked to do, and how arguments ask for it. An option is
`--name value` or `--name=value` and stands at most once. Arguments are taken
from left to right: a value that stands apart from its option is read when the
next known option follows or the arguments end. Settings that no option gives
come from the environment.
-/

namespace HardwareIndex

/-- What the program is asked to do. -/
inductive Command where
  /-- Print the resource definitions. -/
  | definitions
  /-- Keep the indices and answer lookups. -/
  | serve (bind : SocketAddress) (space : Option String) (metrics : Bool)
  /-- Look keys up on a server. -/
  | lookup (server : Url) (kind : RecordKind) (mac uuid : Option String) (maxCache timeout : Nat)

/-- The commands by name. -/
inductive CommandName where
  | crds
  | serve
  | lookup
  deriving DecidableEq, Repr

namespace CommandName

/-- The commands. -/
def all : List CommandName := [.crds, .serve, .lookup]

/-- The word for a command. -/
def text : CommandName → String
  | .crds => "crds"
  | .serve => "serve"
  | .lookup => "lookup"

/-- The command that a word stands for. -/
def ofText? (s : String) : Option CommandName :=
  all.find? fun name => name.text == s

/-- The settings of a command. -/
def settings : CommandName → List Setting
  | .crds => []
  | .serve => [.bindAddress, .namespace, .metrics]
  | .lookup => [.server, .kind, .mac, .uuid, .maxCache, .timeout]

end CommandName

/-- An argument by its form. -/
inductive Argument where
  /-- Two hyphens, after which no option follows. -/
  | escape
  | long (name : String) (value : Option String)
  /-- A hyphen with letters. -/
  | short (letters : List Char)
  | plain (s : String)
  deriving DecidableEq, Repr

/-- The form of an argument. -/
def Argument.of (s : String) : Argument :=
  match s.toList with
  | ['-', '-'] => .escape
  | '-' :: '-' :: rest =>
    let name := rest.takeWhile (· != '=')
    let value := match rest.drop name.length with
      | _ :: value => some (String.ofList value)
      | [] => none
    .long (String.ofList name) value
  | '-' :: c :: rest => .short (c :: rest)
  | _ => .plain s

/-- Settings given so far. -/
structure Settings where
  values : List (Setting × Setting.Value)
  /-- An option that is not read yet, with its value if that has come. -/
  pending : Option (Setting × Option String)

namespace Settings

/-- Nothing given. -/
def empty : Settings := ⟨[], none⟩

/-- The value of a setting. -/
def get? (s : Settings) (setting : Setting) : Option Setting.Value :=
  (s.values.find? fun (other, _) => other == setting).map Prod.snd

/-- Give a setting its value. -/
def give (s : Settings) (setting : Setting) (text : String) : Except UsageError Settings :=
  if (s.get? setting).isSome then .error .repeatedOption
  else (setting.read text).map fun value => { s with values := s.values ++ [(setting, value)] }

/-- Read the option that is not read yet. -/
def resolve (s : Settings) : Except UsageError Settings :=
  match s.pending with
  | none => .ok s
  | some (_, none) => .error .invalidValue
  | some (setting, some text) => { s with pending := none }.give setting text

/-- Take a flag that asks for help. -/
def askHelp (s : Settings) : Except UsageError Settings :=
  s.resolve.bind fun _ => .error .help

/-- Take one argument of a command with the given settings. -/
def take (known : List Setting) (s : Settings) (a : Argument) : Except UsageError Settings :=
  match a with
  | .long name value =>
    match known.find? fun setting => setting.option == name, value with
    | some setting, some text => s.resolve.bind fun s => s.give setting text
    | some setting, none => s.resolve.map fun s => { s with pending := some (setting, none) }
    | none, none => if name == "help" then s.askHelp else .error .unknownArgument
    | none, some _ => if name == "help" then .error .surplusValue else .error .unknownArgument
  | .short letters => if letters.head? = some 'h' then s.askHelp else .error .unknownArgument
  | .plain text =>
    match s.pending with
    | some (setting, none) => .ok { s with pending := some (setting, some text) }
    | _ => .error .unknownArgument
  | .escape => .error .unknownArgument

/-- Take the arguments of a command. -/
def takeAll (known : List Setting) (s : Settings) : List String → Except UsageError Settings
  | [] => s.resolve
  | arg :: rest =>
    match Argument.of arg with
    | .escape => if rest.isEmpty then s.resolve else .error .unknownArgument
    | a => (s.take known a).bind fun s => takeAll known s rest

/-- Take from the environment what no option gave. -/
def fillIn (env : Environment) (s : Settings) (setting : Setting) : Except UsageError Settings :=
  match s.get? setting, setting.envName?.bind fun name => env.lookup name with
  | none, some text => s.give setting text
  | _, _ => .ok s

/-- Give a setting its default where nothing else gave it. -/
def fillDefault (s : Settings) (setting : Setting) : Except UsageError Settings :=
  match s.get? setting, setting.default? with
  | none, some text => s.give setting text
  | _, _ => .ok s

/-- A setting that is a text. -/
def text? (s : Settings) (setting : Setting) : Option String :=
  match s.get? setting with
  | some (.text t) => some t
  | _ => none

/-- The command of a name with these settings. -/
def command? (s : Settings) (name : CommandName) : Option Command :=
  match name with
  | .crds => some .definitions
  | .serve =>
    match s.get? .bindAddress, s.get? .metrics with
    | some (.address bind), some (.flag metrics) => some (.serve bind (s.text? .namespace) metrics)
    | _, _ => none
  | .lookup =>
    match s.get? .server, s.get? .kind, s.get? .maxCache, s.get? .timeout with
    | some (.url server), some (.kind kind), some (.number maxCache), some (.number timeout) =>
      some (.lookup server kind (s.text? .mac) (s.text? .uuid) maxCache timeout)
    | _, _, _, _ => none

end Settings

namespace Command

/-- Ask for help on the command that words name. -/
def askHelp : List String → UsageError
  | [] => .help
  | [word] => if word == "help" || (CommandName.ofText? word).isSome then .help else .unknownCommand
  | _ => .unknownCommand

/-- The command of a name with the rest of the arguments. -/
def ofName (env : Environment) (name : CommandName) (args : List String) :
    Except UsageError Command := do
  let s ← Settings.empty.takeAll name.settings args
  let s ← name.settings.foldlM (Settings.fillIn env) s
  let s ← name.settings.foldlM Settings.fillDefault s
  match s.command? name with
  | some command => return command
  | none => throw .unreadableValue

/-- Whether a word can stand for a command. -/
def isCommandWord (s : String) : Bool :=
  s == "help" || (CommandName.ofText? s).isSome

/-- The command that arguments ask for. -/
def parse (env : Environment) (args : List String) : Except UsageError Command :=
  match args with
  | [] => .error .nothing
  | arg :: rest =>
    match CommandName.ofText? arg, Argument.of arg with
    | some name, _ => ofName env name rest
    | none, .plain word => .error (if word == "help" then askHelp rest else .unknownCommand)
    | none, .long "help" none => .error .help
    | none, .long "help" (some _) => .error .surplusValue
    | none, .long _ _ => .error .unknownArgument
    | none, .short letters => .error (if letters.head? = some 'h' then .help else .unknownArgument)
    | none, .escape =>
      match rest with
      | [] => .error .nothing
      | word :: _ => .error (if isCommandWord word then .unknownArgument else .unknownCommand)

end Command

end HardwareIndex
