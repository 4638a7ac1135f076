import AdminPanel.Program.Act
import AdminPanel.Rpc.Registry

/-!
# Whole runs

A run reads the environment file, the command line and the settings file, in this order, builds
the panel, and does the command. A command line that is refused ends the run before anything
else is read; a fault ends it with a report.
-/

namespace AdminPanel.Program

open CommandLine (Invocation)

def version : String := "0.1.0"

/-- The outcome of a command line that is refused. Showing help or the version is a success. The program
itself says only why a value is refused; all else is said by the reader of command lines. -/
def refused (host : Host) (fault : CommandLine.Fault) : Outcome :=
  match fault with
  | .helpWanted =>
    { exit := 0, stdout := host.manual fault, files := host.files, peer := host.peer }
  | .versionWanted =>
    { exit := 0, stdout := "ocpanel " ++ version ++ "\n", files := host.files, peer := host.peer }
  | .value argument (.refused text reason) =>
    { exit := 2
      stderr := CommandLine.refusalLine argument text reason ++ "\n" ++ host.manual fault
      files := host.files
      peer := host.peer }
  | _ => { exit := 2, stderr := host.manual fault, files := host.files, peer := host.peer }

/-- The settings of a run: those of the file, with the address of the environment, with what
steers the run on the command line. -/
def settingsOf (host : Host) (flags : Flags) : Except Settings.Fault Settings := do
  let saved ← Settings.load host.files host.settingsPath
  return flags.apply (saved.applyEnvironment (host.environment.get? Settings.addressVariable))

/-- The panel of a run: a fresh one, over the storage and to the address that the settings name. Its registry
is the one that the process shares. -/
def panelOf (host : Host) (settings : Settings) : Except Address.Fault Panel := do
  let store := settings.openStore host.storagePath host.files
  let registry ← (Rpc.Cell.shared none settings.baseAddress store host.hasRoots).1
  return { line := { store := registry.store, transport := registry.transport, peer := host.peer } }

/-- The settings and the panel of a run, or what keeps it from being started. Settings that cannot be read are
reported before an address that cannot be used. -/
def prepare (host : Host) (flags : Flags) : Except Fault (Settings × Panel) := do
  let settings ← (settingsOf host flags).mapError .settings
  let panel ← (panelOf host settings).mapError .address
  return (settings, panel)

/-- What is written to the error output about a result. -/
def complaint : Except Fault Unit → String
  | .ok () => ""
  | .error e => (if e.refusesSession then Fault.advice else "") ++ e.report

/-- The outcome of what was done on a panel. -/
def outcomeOf (result : Except Fault Unit) (s : State) : Outcome where
  exit := if result.isOk then 0 else 1
  stdout := s.stdout
  stderr := s.stderr ++ complaint result
  log := s.log
  calls := s.panel.line.calls
  files := s.panel.line.store.files
  peer := s.panel.line.peer

/-- Runs a command. The variables of the host are complete. Whatever keeps the command from being started is
reported like a fault of the command, and then no file is touched and nobody is called. -/
def runCommand (host : Host) (i : Invocation) : Outcome :=
  match prepare host i.flags with
  | .error e =>
    { exit := 1, stderr := complaint (.error e), files := host.files, peer := host.peer }
  | .ok (settings, panel) =>
    let (result, s) := (ExceptT.run (act host settings i.command)).run { panel := panel }
    outcomeOf result s

/-- The host with the variables of the environment file among its own. -/
def withVariables (host : Host) : Host := { host with environment := host.fullEnvironment }

/-- Runs the program on a command line. One that is refused ends the run before the settings are looked at. -/
def run (host : Host) (words : List String) : Outcome :=
  match CommandLine.parse words with
  | .error e => refused host e
  | .ok i => runCommand (withVariables host) i

/-- Whether a run asks for an account, which must then be typed. Nothing is written before. -/
def asksAccount (host : Host) (words : List String) : Bool :=
  match CommandLine.parse words with
  | .ok ⟨.login none, flags⟩ =>
    match prepare (withVariables host) flags with
    | .ok (settings, _) => settings.lastAccount.isNone
    | .error _ => false
  | _ => false

end AdminPanel.Program
