import D2b.ExecRunner.Codec
import D2b.Lib.Fallible

/-!
# D2b.ExecRunner.Spec

The spec file of a detached exec (`spec.rs` and the checks of `lib.rs`): the
command guestd hands to the runner.  guestd encodes and the runner decodes, both
validate, and a spec that is encoded is decoded unchanged.
-/

namespace D2b.ExecRunner

open Fallible
open Reader

def maxArgv : Nat := 128
def maxArgLen : Nat := 4096
def maxCwdLen : Nat := 4096
def maxEnv : Nat := 256
def maxEnvKeyLen : Nat := 128
def maxEnvValueLen : Nat := 8192

structure RunnerEnv where
  key : String
  value : String
deriving DecidableEq

/-- The command the runner supervises. -/
structure ExecSpec where
  argv : List String
  cwd : Option String
  env : List RunnerEnv
  stdoutLogCap : Nat
  stderrLogCap : Nat
  /-- 0 means unlimited -/
  maxRuntimeSec : Nat
  execUser : String
  execUid : Nat
  systemdRunPath : String
  loginShellPath : String
  workloadUnitName : String
  /-- `systemd-run` argv, without the binary -/
  systemdRunArgs : List String
deriving DecidableEq

/-! ## the validation primitives -/

inductive ValidationError where
  | emptyArgv | tooManyArgs | argEmpty | argLeadingDash | argTooLong | argContainsNul
  | cwdEmpty | cwdRelative | cwdTooLong | cwdContainsNul
  | tooManyEnv | envKeyEmpty | envKeyTooLong | envKeyContainsNul | envKeyContainsEquals
  | envValueTooLong | envValueContainsNul
deriving DecidableEq

def containsNul (value : String) : Bool := decide ('\x00' ∈ value.toList)

/-- `starts_with` of one character. -/
def startsWith (value : String) (c : Char) : Bool := value.toList.head? == some c

def validateArgv (argv : List String) : Except ValidationError Unit := do
  failIf (argv = []) .emptyArgv
  failIf (argv.length > maxArgv) .tooManyArgs
  forM argv fun arg => do
    failIf (arg = "") .argEmpty
    failIf (arg.utf8ByteSize > maxArgLen) .argTooLong
    failIf (containsNul arg) .argContainsNul
  failIf (argv.head?.any (startsWith · '-')) .argLeadingDash

def validateCwd : Option String → Except ValidationError Unit
  | none => .ok ()
  | some cwd => do
    failIf (cwd = "") .cwdEmpty
    failIf (containsNul cwd) .cwdContainsNul
    failIf (!startsWith cwd '/') .cwdRelative
    failIf (cwd.utf8ByteSize > maxCwdLen) .cwdTooLong

def validateEnv (env : List RunnerEnv) : Except ValidationError Unit := do
  failIf (env.length > maxEnv) .tooManyEnv
  forM env fun entry => do
    failIf (entry.key = "") .envKeyEmpty
    failIf (entry.key.utf8ByteSize > maxEnvKeyLen) .envKeyTooLong
    failIf (containsNul entry.key) .envKeyContainsNul
    failIf ('=' ∈ entry.key.toList) .envKeyContainsEquals
    failIf (entry.value.utf8ByteSize > maxEnvValueLen) .envValueTooLong
    failIf (containsNul entry.value) .envValueContainsNul

lemma validateArgv_eq_ok :
    validateArgv argv = .ok u ↔
      argv ≠ [] ∧ argv.length ≤ maxArgv ∧
        (∀ arg ∈ argv, arg ≠ "" ∧ arg.utf8ByteSize ≤ maxArgLen ∧ containsNul arg = false) ∧
        argv.head?.any (startsWith · '-') = false := by
  simp [validateArgv, then_eq_ok, forM_eq_ok]

lemma validateCwd_eq_ok :
    validateCwd (some cwd) = .ok u ↔
      cwd ≠ "" ∧ containsNul cwd = false ∧ startsWith cwd '/' = true ∧
        cwd.utf8ByteSize ≤ maxCwdLen := by
  simp [validateCwd, then_eq_ok]

lemma validateEnv_eq_ok :
    validateEnv env = .ok u ↔
      env.length ≤ maxEnv ∧
        ∀ entry ∈ env, entry.key ≠ "" ∧ entry.key.utf8ByteSize ≤ maxEnvKeyLen ∧
          containsNul entry.key = false ∧ '=' ∉ entry.key.toList ∧
          entry.value.utf8ByteSize ≤ maxEnvValueLen ∧ containsNul entry.value = false := by
  simp [validateEnv, then_eq_ok, forM_eq_ok]

/-! ## validation of a spec -/

inductive SpecError where
  | decode (error : DecodeError)
  | validation (error : ValidationError)
  | badMagic | badVersion | logCapZero | badExecUser | badExecUid | badPath
  | badWorkloadUnitName | badSystemdRunArgs
deriving DecidableEq

def specMagic : Nat := 0x44324553

def specVersion : Nat := 2

def maxSystemdRunArgs : Nat := maxEnv * 2 + maxArgv + 32

/-- What an embedded text must be: not empty, not too long and without NUL. -/
def embeddable (value : String) : Bool :=
  !(value.isEmpty || decide (value.utf8ByteSize > maxArgLen) || containsNul value)

def validateExecUser (user : String) : Except SpecError Unit :=
  failIf (!embeddable user) .badExecUser

def validateAbsPath (path : String) : Except SpecError Unit :=
  failIf (!embeddable path || !startsWith path '/') .badPath

def unitNameByte (c : Char) : Bool := c.isAlphanum || c == '-' || c == '.'

def validateWorkloadUnitName (unit : String) : Except SpecError Unit :=
  failIf
    (!embeddable unit || decide ('/' ∈ unit.toList) ||
      !"d2b-exec-".toList.isPrefixOf unit.toList || !"-w.service".toList.isSuffixOf unit.toList ||
      !unit.toList.all unitNameByte)
    .badWorkloadUnitName

def validateSystemdRunArgs (args : List String) : Except SpecError Unit := do
  failIf (args = [] ∨ args.length > maxSystemdRunArgs) .badSystemdRunArgs
  forM args fun arg => failIf (!embeddable arg) .badSystemdRunArgs

def ExecSpec.validate (spec : ExecSpec) : Except SpecError Unit := do
  (validateArgv spec.argv).mapError .validation
  (validateCwd spec.cwd).mapError .validation
  (validateEnv spec.env).mapError .validation
  failIf (spec.stdoutLogCap = 0 ∨ spec.stderrLogCap = 0) .logCapZero
  validateExecUser spec.execUser
  failIf (spec.execUid = 0) .badExecUid
  validateAbsPath spec.systemdRunPath
  validateAbsPath spec.loginShellPath
  validateWorkloadUnitName spec.workloadUnitName
  validateSystemdRunArgs spec.systemdRunArgs

lemma embeddable_eq_true :
    embeddable value = true ↔
      value ≠ "" ∧ value.utf8ByteSize ≤ maxArgLen ∧ containsNul value = false := by
  simp [embeddable, and_assoc]

lemma validateSystemdRunArgs_eq_ok :
    validateSystemdRunArgs args = .ok u ↔
      args ≠ [] ∧ args.length ≤ maxSystemdRunArgs ∧ ∀ arg ∈ args, embeddable arg = true := by
  simp [validateSystemdRunArgs, then_eq_ok, forM_eq_ok, and_assoc]

/-- A spec is valid if every part is. -/
lemma ExecSpec.validate_eq_ok {spec : ExecSpec} :
    spec.validate = .ok u ↔
      validateArgv spec.argv = .ok () ∧ validateCwd spec.cwd = .ok () ∧
        validateEnv spec.env = .ok () ∧ (spec.stdoutLogCap ≠ 0 ∧ spec.stderrLogCap ≠ 0) ∧
        validateExecUser spec.execUser = .ok () ∧ spec.execUid ≠ 0 ∧
        validateAbsPath spec.systemdRunPath = .ok () ∧
        validateAbsPath spec.loginShellPath = .ok () ∧
        validateWorkloadUnitName spec.workloadUnitName = .ok () ∧
        validateSystemdRunArgs spec.systemdRunArgs = .ok () := by
  simp [ExecSpec.validate, then_eq_ok, mapError_eq_ok]

/-! ## the codec -/

namespace SpecCodec

def putCwd : Option String → List UInt8
  | some cwd => putBool true ++ putStr cwd
  | none => putBool false

def putEnv (entry : RunnerEnv) : List UInt8 := putStr entry.key ++ putStr entry.value

/-- The fields in their order. -/
def putSpec (spec : ExecSpec) : List UInt8 :=
  putU32 specMagic ++ putU32 specVersion ++
    putU32 spec.argv.length ++ spec.argv.flatMap putStr ++
    putCwd spec.cwd ++
    putU32 spec.env.length ++ spec.env.flatMap putEnv ++
    putU64 spec.stdoutLogCap ++ putU64 spec.stderrLogCap ++ putU64 spec.maxRuntimeSec ++
    putStr spec.execUser ++ putU32 spec.execUid ++
    putStr spec.systemdRunPath ++ putStr spec.loginShellPath ++ putStr spec.workloadUnitName ++
    putU32 spec.systemdRunArgs.length ++ spec.systemdRunArgs.flatMap putStr

def encode (spec : ExecSpec) : Except SpecError (List UInt8) := do
  spec.validate
  pure (putSpec spec)

def getCwd : Reader DecodeError (Option String) := do
  if ← getBool then
    let cwd ← getStr
    pure (some cwd)
  else pure none

def getEnv : Reader DecodeError RunnerEnv := do
  let key ← getStr
  let value ← getStr
  pure { key, value }

def getSpec : Reader SpecError ExecSpec := do
  let magic ← getU32.mapError .decode
  failIf (magic ≠ specMagic) .badMagic
  let version ← getU32.mapError .decode
  failIf (version ≠ specVersion) .badVersion
  let argc ← getU32.mapError .decode
  failIf (argc > maxArgv) (.validation .tooManyArgs)
  let argv ← (many getStr argc).mapError .decode
  let cwd ← getCwd.mapError .decode
  let envCount ← getU32.mapError .decode
  failIf (envCount > maxEnv) (.validation .tooManyEnv)
  let env ← (many getEnv envCount).mapError .decode
  let stdoutLogCap ← getU64.mapError .decode
  let stderrLogCap ← getU64.mapError .decode
  let maxRuntimeSec ← getU64.mapError .decode
  let execUser ← getStr.mapError .decode
  let execUid ← getU32.mapError .decode
  let systemdRunPath ← getStr.mapError .decode
  let loginShellPath ← getStr.mapError .decode
  let workloadUnitName ← getStr.mapError .decode
  let systemdArgc ← getU32.mapError .decode
  failIf (systemdArgc > maxSystemdRunArgs) .badSystemdRunArgs
  let systemdRunArgs ← (many getStr systemdArgc).mapError .decode
  pure
    { argv, cwd, env, stdoutLogCap, stderrLogCap, maxRuntimeSec, execUser, execUid,
      systemdRunPath, loginShellPath, workloadUnitName, systemdRunArgs }

def decode (bytes : List UInt8) : Except SpecError ExecSpec := do
  let (spec, rest) ← getSpec bytes
  failIf (rest ≠ []) (.decode .trailingBytes)
  spec.validate
  pure spec

lemma reads_cwd (h : ∀ s ∈ cwd, s.utf8ByteSize ≤ maxFieldBytes) :
    Reads getCwd (putCwd cwd) cwd := by
  cases cwd with
  | none => exact (reads_bool false).last (Reads.pure none)
  | some s => exact (reads_bool true).bind ((reads_str (h s rfl)).last (Reads.pure _))

lemma reads_env (hkey : entry.key.utf8ByteSize ≤ maxFieldBytes)
    (hvalue : entry.value.utf8ByteSize ≤ maxFieldBytes) : Reads getEnv (putEnv entry) entry :=
  (reads_str hkey).bind ((reads_str hvalue).last (Reads.pure _))

end SpecCodec

/-- The numbers of a spec are within their types. -/
structure ExecSpec.InRange (spec : ExecSpec) : Prop where
  stdoutLogCap : spec.stdoutLogCap < 2 ^ 64
  stderrLogCap : spec.stderrLogCap < 2 ^ 64
  maxRuntimeSec : spec.maxRuntimeSec < 2 ^ 64
  execUid : spec.execUid < 2 ^ 32

namespace SpecCodec

/-- An embedded text is short enough for a field. -/
lemma reads_embeddable (h : embeddable value = true) : Reads getStr (putStr value) value :=
  reads_str (Nat.le_trans (embeddable_eq_true.mp h).2.1 (by decide))

lemma embeddable_of_validateAbsPath (h : validateAbsPath path = .ok ()) :
    embeddable path = true := by
  simp [validateAbsPath] at h
  exact h.1

lemma embeddable_of_validateWorkloadUnitName (h : validateWorkloadUnitName unit = .ok ()) :
    embeddable unit = true := by
  simp [validateWorkloadUnitName] at h
  exact h.1.1.1.1

/-- Counts within the bounds of the decoder. -/
lemma reads_count (h : n ≤ bound) (hbound : bound < 2 ^ 32) {g : Nat → Reader ε α}
    (hg : Reads (g n) bytes a) :
    Reads (do let count ← getU32.mapError f; failIf (count > bound) e; g count)
      (putU32 n ++ bytes) a :=
  ((reads_u32 (Nat.lt_of_le_of_lt h hbound)).mapError f).bind
    ((Reads.failIf (Nat.not_lt.mpr h) e).skip hg)

/-- The fields of a valid spec are read as they were written. -/
lemma reads_spec {spec : ExecSpec} (hvalid : spec.validate = .ok ()) (hrange : spec.InRange) :
    Reads getSpec (putSpec spec) spec := by
  obtain ⟨hargv, hcwd, henv, -, huser, -, hrun, hshell, hunit, hargs⟩ :=
    ExecSpec.validate_eq_ok.mp hvalid
  obtain ⟨-, hargc, hargv, -⟩ := validateArgv_eq_ok.mp hargv
  obtain ⟨henvc, henv⟩ := validateEnv_eq_ok.mp henv
  obtain ⟨-, hargsc, hargs⟩ := validateSystemdRunArgs_eq_ok.mp hargs
  have huser : embeddable spec.execUser = true := by simpa [validateExecUser] using huser
  have hargvs : Reads (many getStr spec.argv.length) (spec.argv.flatMap putStr) spec.argv :=
    Reads.many fun arg harg => reads_str (Nat.le_trans (hargv arg harg).2.1 (by decide))
  have hcwds : Reads getCwd (putCwd spec.cwd) spec.cwd := by
    refine reads_cwd fun s hs => ?_
    rw [Option.mem_def] at hs
    rw [hs] at hcwd
    exact Nat.le_trans (validateCwd_eq_ok.mp hcwd).2.2.2 (by decide)
  have henvs : Reads (many getEnv spec.env.length) (spec.env.flatMap putEnv) spec.env := by
    refine Reads.many fun entry hentry => ?_
    obtain ⟨-, hkey, -, -, hvalue, -⟩ := henv entry hentry
    exact reads_env (Nat.le_trans hkey (by decide)) (Nat.le_trans hvalue (by decide))
  have hrunArgs : Reads (many getStr spec.systemdRunArgs.length)
      (spec.systemdRunArgs.flatMap putStr) spec.systemdRunArgs :=
    Reads.many fun arg harg => reads_embeddable (hargs arg harg)
  simp only [putSpec, List.append_assoc]
  refine ((reads_u32 (by decide)).mapError _).bind ((Reads.failIf (by simp) _).skip ?_)
  refine ((reads_u32 (by decide)).mapError _).bind ((Reads.failIf (by simp) _).skip ?_)
  refine reads_count hargc (by decide) ((hargvs.mapError _).bind ?_)
  refine (hcwds.mapError _).bind ?_
  refine reads_count henvc (by decide) ((henvs.mapError _).bind ?_)
  refine ((reads_u64 hrange.stdoutLogCap).mapError _).bind ?_
  refine ((reads_u64 hrange.stderrLogCap).mapError _).bind ?_
  refine ((reads_u64 hrange.maxRuntimeSec).mapError _).bind ?_
  refine ((reads_embeddable huser).mapError _).bind ?_
  refine ((reads_u32 hrange.execUid).mapError _).bind ?_
  refine ((reads_embeddable (embeddable_of_validateAbsPath hrun)).mapError _).bind ?_
  refine ((reads_embeddable (embeddable_of_validateAbsPath hshell)).mapError _).bind ?_
  refine ((reads_embeddable (embeddable_of_validateWorkloadUnitName hunit)).mapError _).bind ?_
  refine reads_count hargsc (by decide) ((hrunArgs.mapError _).last ?_)
  exact Reads.pure spec

/-- A valid spec is encoded, and decoded unchanged. -/
lemma decode_encode (hvalid : spec.validate = .ok ()) (hrange : spec.InRange) :
    ∃ bytes, encode spec = .ok bytes ∧ decode bytes = .ok spec := by
  refine ⟨putSpec spec, ?_, ?_⟩
  · rw [encode, hvalid]
    rfl
  · have hread := reads_spec hvalid hrange []
    rw [List.append_nil] at hread
    rw [decode, bind_eq_ok]
    exact ⟨(spec, []), hread, then_eq_ok.mpr ⟨by simp, then_eq_ok.mpr ⟨hvalid, rfl⟩⟩⟩

end SpecCodec

end D2b.ExecRunner
