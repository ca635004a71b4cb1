import PaperFilter.Cli.Run

/-!
# Commands under a configuration

Where the arguments make sense and the configuration can be loaded, the command that they ask for is
run with it.
-/

namespace PaperFilter
namespace Cli

/-- The arguments ask for a command, under a configuration that can be loaded. -/
structure Asks (environment : Environment) (arguments : List Text) (config : Config)
    (command : Command) where
  invocation : Invocation
  /-- The configuration file. -/
  name : Text
  read : readArguments arguments = .ok invocation
  command : invocation.command = command
  named : invocation.config.or environment.defaultConfig = some name
  loaded : Config.load environment.files (Path.ofText environment.directory name) = .ok config

theorem Asks.run_eq [PatternCompiler] {environment : Environment} {arguments : List Text}
    {config : Config} {command : Command} (asks : Asks environment arguments config command) :
    run environment arguments = runCommand environment config asks.name command := by
  rw [run, asks.read]
  simp only [asks.named, asks.loaded, asks.command]

end Cli
end PaperFilter
