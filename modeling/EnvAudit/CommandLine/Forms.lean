import EnvAudit.CommandLine.Form
import EnvAudit.Log

/-! The forms of this program's commands. -/
namespace EnvAudit.CommandLine

def helpSwitch : Switch := { names := ["-h", "--help"], effect := .help }

def versionSwitch : Switch := { names := ["--version"], effect := .version }

def levelSwitch : Switch := { names := ["--log-level"], arity := .one, choices := Log.Level.all.map (·.name) }

def configSwitch : Switch := { names := ["-c", "--config"], arity := .one }

def formatSwitch : Switch := { names := ["--format"], arity := .one, choices := ["console", "json"] }

def programForm : Form where
  program := "env-doctor"
  usage := [
    "usage: env-doctor [-h] [--version]",
    "                  [--log-level \x7bDEBUG,INFO,WARNING,ERROR,CRITICAL\x7d]",
    "                  \x7bcheck,matrix,sync,init,server\x7d ..."]
  details := [
    "env-doctor: static analysis of environment variables",
    "",
    "Cross-checks .env declarations against JavaScript/TypeScript source code:",
    "• Missing, unused and mistyped variables",
    "• Secrets committed with real values",
    "• Drift between .env and its template",
    "• Consistency across development, staging, production and test",
    "",
    "positional arguments:",
    "  \x7bcheck,matrix,sync,init,server\x7d",
    "                        Available commands",
    "    check               Analyze a project and report environment variable issues",
    "    matrix              Compare variables across environments",
    "    sync                Generate a template file from declared and used variables",
    "    init                Create a starter env-doctor.json",
    "    server              Start the language server",
    "",
    "options:",
    "  -h, --help            show this help message and exit",
    "  --version             show program's version number and exit",
    "  --log-level \x7bDEBUG,INFO,WARNING,ERROR,CRITICAL\x7d",
    "                        Set the logging level (default: WARNING)"]
  switches := [helpSwitch, versionSwitch, levelSwitch]
  role := .command ["check", "matrix", "sync", "init", "server"]

def checkForm : Form where
  program := "env-doctor check"
  usage := [
    "usage: env-doctor check [-h] [-c CONFIG] [-e ENV] [--format \x7bconsole,json\x7d]",
    "                        [--strict] [-v]",
    "                        [directory]"]
  details := [
    "positional arguments:",
    "  directory             Project directory",
    "",
    "options:",
    "  -h, --help            show this help message and exit",
    "  -c CONFIG, --config CONFIG",
    "                        Path to config file",
    "  -e ENV, --env ENV     Target environment (development, production, test, ...)",
    "  --format \x7bconsole,json\x7d",
    "                        Output format (default: console)",
    "  --strict              Treat warnings as errors for the exit code",
    "  -v, --verbose         Show every issue and parse errors"]
  switches := [helpSwitch, configSwitch, { names := ["-e", "--env"], arity := .one }, formatSwitch,
    { names := ["--strict"] }, { names := ["-v", "--verbose"] }]
  role := .directory

def matrixForm : Form where
  program := "env-doctor matrix"
  usage := [
    "usage: env-doctor matrix [-h] [-c CONFIG] [--env NAME [NAME ...]]",
    "                         [--format \x7bconsole,json\x7d]",
    "                         [directory]"]
  details := [
    "positional arguments:",
    "  directory             Project directory",
    "",
    "options:",
    "  -h, --help            show this help message and exit",
    "  -c CONFIG, --config CONFIG",
    "                        Path to config file",
    "  --env NAME [NAME ...]",
    "                        Only compare these environments",
    "  --format \x7bconsole,json\x7d",
    "                        Output format (default: console)"]
  switches := [helpSwitch, configSwitch, { names := ["--env"], arity := .many }, formatSwitch]
  role := .directory

def syncForm : Form where
  program := "env-doctor sync"
  usage := [
    "usage: env-doctor sync [-h] [-c CONFIG] [--write] [--output OUTPUT]",
    "                       [directory]"]
  details := [
    "positional arguments:",
    "  directory             Project directory",
    "",
    "options:",
    "  -h, --help            show this help message and exit",
    "  -c CONFIG, --config CONFIG",
    "                        Path to config file",
    "  --write               Write the template instead of printing it",
    "  --output OUTPUT       Template path to write (default: the configured template)"]
  switches := [helpSwitch, configSwitch, { names := ["--write"] }, { names := ["--output"], arity := .one }]
  role := .directory

def initForm : Form where
  program := "env-doctor init"
  usage := [
    "usage: env-doctor init [-h] [-f] [directory]"]
  details := [
    "positional arguments:",
    "  directory    Project directory",
    "",
    "options:",
    "  -h, --help   show this help message and exit",
    "  -f, --force  Overwrite existing file"]
  switches := [helpSwitch, { names := ["-f", "--force"] }]
  role := .directory

def serverForm : Form where
  program := "env-doctor server"
  usage := [
    "usage: env-doctor server [-h] [--tcp] [--port PORT] [--stdio]"]
  details := [
    "options:",
    "  -h, --help   show this help message and exit",
    "  --tcp        Use TCP instead of stdio",
    "  --port PORT  TCP port to listen on (default: 8080)",
    "  --stdio      Use stdio (default)"]
  switches := [helpSwitch, { names := ["--tcp"] }, { names := ["--port"], arity := .one, isNumber := true },
    { names := ["--stdio"] }]
  role := .nothing

def formOf (command : String) : Form :=
  match command with
  | "check" => checkForm
  | "matrix" => matrixForm
  | "sync" => syncForm
  | "init" => initForm
  | _ => serverForm

end EnvAudit.CommandLine
