import Gatekeeper.Service

/-!
# `Gatekeeper.Main`: the command

The command takes its settings from the environment and from the file that the
environment names, and serves clients until it is interrupted. A server that cannot
start is reported with the reasons why, and the exit code is one.
-/

set_option autoImplicit false

namespace Gatekeeper.Command

/-- The variables that settings come from. -/
def environment : IO Environment := do
  let values ← Settings.variableNames.mapM fun name => do
    return (name, (← IO.getEnv name).map fun value => value.toUTF8.toList)
  return fun name => (values.lookup name).join

/-- The bytes of a file, or why there are none. -/
def contents (path : String) : IO (Except FileFault (List UInt8)) := do
  try
    return .ok (← IO.FS.readBinFile path).toList
  catch
    | .noFileOrDirectory .. => return .error .missing
    | fault => return .error (.unreadable (toString fault))

/-- The files of the given paths. -/
def files (paths : List String) : IO Files := do
  let read ← paths.mapM fun path => do return (path, ← contents path)
  return fun path => (read.lookup path).getD (.error .missing)

/-- What a start depends on. No database can be reached from here, and whether the address for
clients can be opened is seen when it is. -/
def host : IO Startup.Host := do
  let env ← environment
  let config := (env.text? "WARDEN_BROKER_CONFIG").toList
  let seed := match Settings.load env (← files config) with
    | .ok settings => settings.serverSeedFile.toList
    | .error _ => []
  let connect := fun _ => .error ["no driver for this database"]
  return ⟨env, ← files (config ++ seed), ← Service.randomBlock 32, connect, fun _ => none⟩

/-- Reports why a server does not start. -/
def refuse (fault : Startup.Fault) : IO UInt32 := do
  IO.eprintln fault.report
  return 1

/-- Serves clients until it is interrupted. -/
def run : IO UInt32 := do
  match Startup.start (← host) (← IO.monoNanosNow) with
  | .error fault => refuse fault
  | .ok server =>
    let address := server.settings.listen
    match ← (Service.openAddress address).toBaseIO with
    | .error reason => refuse (.listening address (toString reason))
    | .ok listener =>
      IO.eprintln s!"listening on {address.render}"
      (Service.run server listener).block
      return 0

end Gatekeeper.Command

def main : IO UInt32 := Gatekeeper.Command.run
