import HardwareIndex.CommandLine.Command

/-!
# Help

The texts that explain the program and its commands: what each does, and its
options with their variables and defaults.
-/

namespace HardwareIndex

namespace CommandName

/-- What a command does. -/
def about : CommandName → String
  | .crds => "Print CRD manifests to stdout"
  | .serve => "Watch the cluster and serve index lookups over HTTP"
  | .lookup => "Resolve a MAC or UUID against a running index server"

end CommandName

namespace Help

/-- What the program does. -/
def about : String :=
  "Identity index for bare-metal machines, BMCs and machine types"

/-- What asking for help does. -/
def ownAbout : String := "Print this message or the help of the given subcommand(s)"

/-- A text filled with blanks. -/
def pad (width : Nat) (s : String) : String :=
  s ++ String.ofList (List.replicate (width - s.length) ' ')

/-- Rows of two columns; further lines of the second one begin below its first. -/
def table (rows : List (String × String)) : List String :=
  let width := (rows.map fun (left, _) => left.length).foldl max 0
  let below := "\n" ++ pad (width + 4) ""
  rows.map fun (left, right) =>
    "  " ++ pad width left ++ "  " ++ String.intercalate below (right.splitOn "\n")

/-- An option with a name for its value. -/
def optionText (s : Setting) : String :=
  let place := s.option.map fun c => if c = '-' then '_' else c.toUpper
  "    --" ++ s.option ++ " <" ++ place ++ ">"

/-- What a setting is for, where else it comes from, its default and possible values. -/
def settingText (env : Environment) (s : Setting) : String :=
  let source := s.envName?.map fun name => "[env: " ++ name ++ "=" ++ (env.lookup name).getD "" ++ "]"
  let default := s.default?.map fun value => "[default: " ++ value ++ "]"
  let choice := if s.choices.isEmpty then none
    else some ("[possible values: " ++ String.intercalate ", " s.choices ++ "]")
  let parts := [if s.help.isEmpty then none else some s.help, source, default, choice].filterMap id
  String.intercalate " " parts

/-- The row of the option that every command has. -/
def helpRow : String × String := ("-h, --help", "Print help")

/-- The help of the program. -/
def program : List String :=
  [about, "", "Usage: machindex <COMMAND>", "", "Commands:"] ++
    table ((CommandName.all.map fun name => (name.text, name.about)) ++
      [("help", ownAbout)]) ++
    ["", "Options:"] ++ table [helpRow]

/-- The help of a command. -/
def command (env : Environment) (name : CommandName) : List String :=
  let usage := if name.settings.isEmpty then "" else " [OPTIONS]"
  [name.about, "", "Usage: machindex " ++ name.text ++ usage, "", "Options:"] ++
    table ((name.settings.map fun s => (optionText s, settingText env s)) ++ [helpRow])

/-- The help of asking for help. -/
def own : List String :=
  [ownAbout, "", "Usage: machindex help [COMMAND]...", "", "Arguments:"] ++
    table [("[COMMAND]...", "Print help for the subcommand(s)")]

/-- The help that arguments ask for. -/
def text (env : Environment) (args : List String) : String :=
  let lines := match args with
    | "help" :: "help" :: _ => own
    | "help" :: word :: _ => ((CommandName.ofText? word).map (command env)).getD program
    | word :: _ => ((CommandName.ofText? word).map (command env)).getD program
    | [] => program
  String.join (lines.map (· ++ "\n"))

end Help

end HardwareIndex
