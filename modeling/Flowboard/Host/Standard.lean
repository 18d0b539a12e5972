import Flowboard.Files.System
import Flowboard.Prototype.Start
import Flowboard.Rules.Call
import Flowboard.Script.Prelude
import Flowboard.Script.Run
import Flowboard.Shell.Run
import Flowboard.Sigil.Call

/-! A machine with a few programs. -/
namespace Flowboard.Host

/-- Where a script lies while it runs. -/
def scriptPlace : Place := ["tmp", "agentblocks_script.py"]

def scriptPath : String :=
  FileSystem.pathOf scriptPlace

/-- The programs that run scripts of their own languages or start other programs. -/
def otherPrograms : List String :=
  ["awk", "bash", "dash", "env", "find", "mawk", "nice", "node", "nohup", "perl",
   "python3", "setsid", "sh", "stdbuf", "timeout", "which", "xargs"]

/-- The files of the machine. -/
def fileSystem : FileSystem :=
  .standard (Utility.catalogue.map (·.1) ++ otherPrograms)

/-- The small programs by their names. -/
def utility? (name : String) : Option (Utility.Call → Utility.Effect) :=
  Utility.catalogue.lookup name

/-- What a shell does with a command, and the files after it. -/
abbrev CommandRunner := FileSystem → String → Activity × FileSystem

/-- How a script is started in a call. -/
def settingOf (shell : CommandRunner) (c : Utility.Call) (path : String) (args : List String) :
    Script.Setting :=
  { path, args, environment := c.environment, input := c.input, files := c.files, shell
    library := Script.preludeText? }

/-- How a program with prototypes is started in a call. -/
def prototypeSetting (shell : CommandRunner) (c : Utility.Call) (path : String)
    (args : List String) : Prototype.Setting :=
  { path, args, environment := c.environment, input := c.input, files := c.files, runner := shell }

/-- The programs that scripts of shells can start, apart from shells. A script can start shells
that start scripts, up to a depth. -/
def programWithin? : Nat → String → Option (Utility.Call → Utility.Effect)
  | 0, name => utility? name
  | n + 1, name =>
    let shell : CommandRunner := fun fs command =>
      Shell.perform (programWithin? n) false fs "sh" command
    match name with
    | "awk" | "mawk" => some (Rules.perform shell)
    | "perl" => some (Sigil.perform shell)
    | name => utility? name

/-- The programs that scripts of shells can start. -/
def program? : String → Option (Utility.Call → Utility.Effect) :=
  programWithin? 4

/-- What a command does in a shell, and the files after it. -/
def inShell (fs : FileSystem) (command : String) : Activity × FileSystem :=
  Shell.perform program? false fs "sh" command

/-- The files of the machine while a script runs, which nobody but its owner can read. -/
def withScript (fs : FileSystem) (script : String) : FileSystem :=
  (fs.put scriptPlace (.file (Text.encode script))).setMode scriptPlace 0o600

/-- What a small program does as a whole. -/
def activityOf (e : Utility.Effect) : Activity :=
  ⟨Text.octetBytes e.output.text, Text.octetBytes e.errors, ⟨e.millis⟩,
    if e.output.endless then .never else .exit e.status⟩

/-- What a program does with a script, if there is such a program. -/
def run? (fs : FileSystem) (name script : String) : Option Activity :=
  let fs := withScript fs script
  match name with
  | "sh" | "dash" => some (Shell.activity program? false fs scriptPath script)
  | "bash" => some (Shell.activity program? true fs scriptPath script)
  | "python3" =>
    let call : Utility.Call := ⟨name, [], .empty, fs, Shell.standardEnvironment⟩
    some ((settingOf inShell call scriptPath [scriptPath]).perform script).1
  | "node" =>
    let call : Utility.Call := ⟨name, [], .empty, fs, Shell.standardEnvironment⟩
    some ((prototypeSetting inShell call scriptPath [scriptPath]).perform script false).1
  | name =>
    if otherPrograms.contains name then
      some (Shell.activity program? false fs scriptPath ("exec " ++ name ++ " " ++ scriptPath))
    else
      (utility? name).map fun f =>
        activityOf (f ⟨name, [scriptPath], .empty, fs, Shell.standardEnvironment⟩)

/-- The place of a program that is looked for by its name alone. -/
def placeOf (name : String) : String :=
  "/usr/bin/" ++ name

/-- Why there is no program under a path, or else its last name. -/
def programName (fs : FileSystem) (path : String) : Except LaunchError String :=
  match fs.locate path with
  | .error .notFound => .error .notFound
  | .error .nulByte => .error .nulByte
  | .error .notDirectory => .error .notDirectory
  | .error .nameTooLong => .error .nameTooLong
  | .error _ => .error .denied
  | .ok spot =>
    match fs.look spot with
    | .ok (some .program) => .ok (spot.name.getD "")
    | .ok (some _) => .error .denied
    | .ok none => .error .notFound
    | .error .nameTooLong => .error .nameTooLong
    | .error _ => .error .notDirectory

/-- Starts the programs that there are. A name without slashes is looked for in the directory of
the programs. -/
def launchOn (fs : FileSystem) (interpreter script : String) : Except LaunchError Activity :=
  if interpreter = "" then .error .notFound
  else
    let path := if interpreter.toList.contains '/' then interpreter else placeOf interpreter
    match programName fs path with
    | .error e => .error e
    | .ok name =>
      match run? fs name script with
      | some a => .ok a
      | none => .error .notFound

/-- The machine with these programs and with certain files. -/
def on (fs : FileSystem) : Host :=
  ⟨launchOn fs⟩

/-- The machine as it stands. -/
def standard : Host :=
  on fileSystem

end Flowboard.Host
