import GeckScript.Cli.Run

/-!
The command line. It starts no launcher, so it shows the URL of a page instead of opening it.
-/

namespace GeckScript.Cli

def readFiles (paths : List String) : IO Files :=
  paths.filterMapM fun (path : String) => do
    try
      let content ← IO.FS.readFile path
      return some (path, content)
    catch _ =>
      return none

end GeckScript.Cli

open GeckScript.Cli

def main (args : List String) : IO UInt32 := do
  let request := (Invocation.ofArgs args).toOption.bind Invocation.settingsRequest?
  let files ← readFiles ((request.map SettingsRequest.paths).getD [])
  let outcome := run ⟨files, [], .written⟩ args
  IO.print outcome.output
  for message in outcome.log do IO.eprintln message
  IO.eprint outcome.errors
  return outcome.code.toUInt32
