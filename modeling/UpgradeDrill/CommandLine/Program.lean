import UpgradeDrill.CommandLine.Basic
import UpgradeDrill.Config.Reader
import UpgradeDrill.Drill.Run
import UpgradeDrill.Text.Lowercase

/-!
# The program

What the program does with a command line, and how it ends: well, with a failure, or with a
complaint about how it was called.
-/

namespace UpgradeDrill

structure ProgramEnd where
  exitCode : Nat
  /-- What was asked to be shown. -/
  output : String := ""
  complaint : String := ""
  deriving DecidableEq, Repr

namespace Program

def name : String := "sequencer-harness"

def versionText : String := name ++ " 0.0.1\n"

def mainHelp : String :=
  "Run end-to-end upgrade tests against a sequencer network.\n\n" ++
    "Usage: " ++ name ++ " [OPTIONS] [COMMAND]\n\n" ++
    "Commands:\n" ++
    "  run   Deploy a sequencer network, upgrade it, and verify every node converges on the " ++
    "upgraded state.\n" ++
    "  help  Print this message or the help of the given subcommand(s)\n\n" ++
    "Options:\n" ++
    "  -v, --verbose  \n" ++
    "  -h, --help     Print help\n" ++
    "  -V, --version  Print version\n"

def runHelp : String :=
  "Deploy a sequencer network, upgrade it, and verify every node converges on the upgraded " ++
    "state.\n\n" ++
    "Usage: " ++ name ++ " run [OPTIONS] --config <config>\n\n" ++
    "Options:\n" ++
    "      --config <config>              Path to YAML config file\n" ++
    "  -t, --image-tag <image-tag>        Tag of the images executing the upgrade, e.g. 'latest'" ++
    ", 'local', 'pr-2000' (overrides the config)\n" ++
    "  -n, --upgrade-name <upgrade-name>  Name of the upgrade to apply (overrides the config)\n" ++
    "      --concurrency <concurrency>    Maximum deployments to run at once (must be >= 1, " ++
    "overrides the config)\n" ++
    "  -v, --verbose                      \n" ++
    "  -h, --help                         Print help\n"

/-- The configuration with what the command line says instead. -/
def override (options : RunOptions) (config : Config) : Config :=
  { config with
    imageTag := options.imageTag.getD config.imageTag
    upgradeName := (options.upgradeName.map lowerText).getD config.upgradeName
    concurrency := options.concurrency.getD config.concurrency }

/-- The configuration that a drill is carried out with. It is checked as it stands in the file, and
again with what the command line says. -/
def configure (options : RunOptions) (file : Except SystemError String) :
    Except DrillError Config := do
  let config := override options (← Config.load file)
  config.validate
  return config

def drill (options : RunOptions) (file : Except SystemError String) :
    Attempt network DrillError Unit := do
  Drill.run (← Attempt.ofExcept (configure options file))

def ending : Except DrillError Unit → ProgramEnd
  | .ok () => { exitCode := 0 }
  | .error error => { exitCode := 1, complaint := error.message }

/-- Does what a command line asks for; `file` gives the contents of the file at a path. -/
def perform (file : String → Except SystemError String) :
    Invocation → Routine network ProgramEnd
  | .help false => return { exitCode := 0, output := mainHelp }
  | .help true => return { exitCode := 0, output := runHelp }
  | .version => return { exitCode := 0, output := versionText }
  | .nothing => return { exitCode := 1, complaint := "no subcommand provided" }
  | .invalid error => return { exitCode := 2, complaint := error.message }
  | .run options => ending <$> (drill options (file options.configPath)).run

end Program

end UpgradeDrill
