import D2b.Guestd.DetachedRegistry.Tasks
import D2b.Lib.Text

/-!
# D2b.Guestd.DetachedCommand

From a request to a detached exec to the runner's spec and back: the checks of
`validate_detached_command` (`service.rs`), the spec and its `systemd-run`
arguments (`build_spec`), and how reconciliation recognises the unit these
arguments start (`workload_identity_matches`, `exec_start_raw_fields`).
-/

namespace D2b.Guestd.DetachedCommand

open ExecRunner
open Fallible
open Text

def maxArgv : Nat := 128
def maxArgBytes : Nat := 4096
def maxCwdBytes : Nat := 4096
def maxEnvKeyBytes : Nat := 128
def maxEnvValueBytes : Nat := 8192
def maxEnvEntries : Nat := 256

/-! ## requests -/

structure ExecPolicy where
  enabled : Bool
  execUser : Option String

structure ExecCreateInput where
  argv : List String
  cwd : Option String
  env : List (String × String)
  tty : Bool
  stdinOpen : Bool
  hasTerminalSize : Bool
  maxChunkBytes : Nat

/-- A command that has passed validation and policy. -/
structure ValidatedCommand where
  program : String
  args : List String
  cwd : String
  env : List (String × String)
deriving DecidableEq

def validDetachedEnvKey (key : String) : Bool :=
  if key = "" ∨ key.utf8ByteSize > maxEnvKeyBytes then false
  else
    let first := key.toList.head?.getD '='
    (first.isAlpha || first == '_') && key.toList.all fun c => c.isAlphanum || c == '_'

/-- A byte the one-line `ExecStart` cannot carry. -/
def badArgByte (c : Char) : Bool := c == '\x00' || c == '\n' || c == '\r'

/-- The loop over the environment, with the keys seen so far. -/
def checkEnv (seen : List String) : List (String × String) → Except ExecError Unit
  | [] => .ok ()
  | (key, value) :: rest => do
    failIf
      (!validDetachedEnvKey key ∨ value.utf8ByteSize > maxEnvValueBytes ∨ containsNul value)
      .invalidEnv
    failIf (key ∈ seen) .invalidEnv
    checkEnv (key :: seen) rest

def checkCwd : Option String → Except ExecError String
  | some cwd => do
    failIf
      (cwd = "" ∨ cwd.utf8ByteSize > maxCwdBytes ∨ !startsWith cwd '/' ∨ containsNul cwd)
      .cwdInvalid
    pure cwd
  | none => pure "/"

def validateDetachedCommand (input : ExecCreateInput) (policy : ExecPolicy) :
    Except ExecError ValidatedCommand := do
  failIf (!policy.enabled) .execDisabled
  failIf (input.tty || input.stdinOpen || input.hasTerminalSize) .unsupportedMode
  failIf policy.execUser.isNone .execDisabled
  failIf (input.maxChunkBytes = 0 ∨ input.maxChunkBytes > hardMaxChunkBytes) .maxChunkExceeded
  match input.argv with
  | [] => .error .invalidArgv
  | program :: args => do
    failIf ((program :: args).length > maxArgv) .invalidArgv
    forM (program :: args) fun arg =>
      failIf (arg.utf8ByteSize > maxArgBytes ∨ arg.toList.any badArgByte) .invalidArgv
    failIf (program = "" ∨ startsWith program '-') .invalidProgram
    failIf ("" ∈ args) .invalidArgv
    let cwd ← checkCwd input.cwd
    failIf (input.env.length > maxEnvEntries) .invalidEnv
    checkEnv [] input.env
    pure { program, args, cwd, env := input.env }

/-! ## the spec of a slot -/

/-- `{slot:02}`. -/
def slotText (slot : Nat) : String := if slot < 10 then "0" ++ toString slot else toString slot

def unitName (slot : Nat) : String := "d2b-exec-" ++ slotText slot ++ ".service"

def workloadUnitName (slot : Nat) : String := "d2b-exec-" ++ slotText slot ++ "-w.service"

/-- The login shell's part of the workload's argv. -/
def shellArgv (loginShellPath : String) (argv : List String) : List String :=
  [loginShellPath, "-l", "-c", "exec \"$@\"", "d2b-exec"] ++ argv

variable (command : ValidatedCommand) (config : RegistryConfig)

def workloadOptions (slot : Nat) : List String :=
  ["--uid=" ++ config.execUser,
    "--unit=" ++ workloadUnitName slot,
    "--quiet",
    "--collect",
    "--expand-environment=no",
    "--slice=" ++ "d2b-exec.slice",
    "--pipe",
    "--wait",
    "--property=PAMName=login",
    "--property=BindsTo=" ++ unitName slot,
    "--property=PartOf=" ++ unitName slot,
    "--property=After=" ++ unitName slot,
    "--working-directory=" ++ command.cwd] ++
    command.env.flatMap fun entry => ["--setenv", entry.1 ++ "=" ++ entry.2]

def workloadSystemdRunArgs (slot : Nat) : List String :=
  workloadOptions command config slot ++
    "--" :: shellArgv config.loginShellPath (command.program :: command.args)

def buildSpec (caps : DetachedCaps) (slot : Nat) : Except ExecError ExecSpec :=
  .ok
    { argv := command.program :: command.args
      cwd := some command.cwd
      env := command.env.map fun entry => { key := entry.1, value := entry.2 }
      stdoutLogCap := caps.stdoutLogCap
      stderrLogCap := caps.stderrLogCap
      maxRuntimeSec := caps.maxRuntimeSec
      execUser := config.execUser
      execUid := config.execUid
      systemdRunPath := config.systemdRunPath
      loginShellPath := config.loginShellPath
      workloadUnitName := workloadUnitName slot
      systemdRunArgs := workloadSystemdRunArgs command config slot }

/-! ## recognising a unit -/

/-- The raw `path=` and `argv[]=` fields of a rendered `ExecStart`. -/
def execStartRawFields (value : String) : Option (String × String) := do
  let rest ←
    match trim value.toList with
    | '{' :: rest => some rest
    | _ => none
  let inner ← if rest.getLast? = some '}' then some rest.dropLast else none
  let (_, afterPath) ← splitOnce "path=".toList inner
  let (path, _) ← splitOnce " ; ".toList afterPath
  let (_, afterArgv) ← splitOnce "argv[]=".toList inner
  -- the last `ignore_errors` is systemd's own, whatever the arguments hold
  let (argv, _) ← rsplitOnce " ; ignore_errors=".toList afterArgv
  some (String.ofList path, String.ofList argv)

/-- A dependency property lists the unit. -/
def propertyContainsUnit (value : Option String) (unit : String) : Bool :=
  match value with
  | some v => ((v.toList.splitOnP isWhitespace).filter (!·.isEmpty)).contains unit.toList
  | none => false

def workloadIdentityMatches (identity : WorkloadIdentity) (slot : Nat) (spec : ExecSpec) : Bool :=
  if identity.slice ≠ some "d2b-exec.slice" then false
  else if !propertyContainsUnit identity.bindsTo (unitName slot) ||
      !propertyContainsUnit identity.partOf (unitName slot) ||
      !propertyContainsUnit identity.after (unitName slot) then false
  else
    match identity.execStart with
    | none => false
    | some execStart =>
      match execStartRawFields execStart with
      | none => false
      | some (rawPath, rawArgv) =>
        if rawPath ≠ spec.loginShellPath then false
        else rawArgv == " ".intercalate (shellArgv spec.loginShellPath spec.argv)

end D2b.Guestd.DetachedCommand
