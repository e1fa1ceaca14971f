import D2b.Guestd.DetachedCommand

/-!
# D2b.Guestd.DetachedCommand.Recognised

An accepted command is runnable and recognised as one's own: its spec is encoded
and decoded unchanged, and the unit its arguments start is this slot's.

The two validators bound the same texts, but `build_spec` embeds the user, the
working directory and the environment in longer options, which the second bounds
again.  `Embeds` states what is needed of the request and the configuration.
-/

namespace D2b.Guestd.DetachedCommand

open ExecRunner List
open Fallible
open Text

/-! ## accepted commands -/

/-- What `validate_detached_command` leaves of a request. -/
structure Accepted (command : ValidatedCommand) : Prop where
  count : command.args.length < maxArgv
  arg : ∀ arg ∈ command.program :: command.args,
    arg ≠ "" ∧ arg.utf8ByteSize ≤ maxArgBytes ∧ arg.toList.any badArgByte = false
  program : startsWith command.program '-' = false
  cwd : command.cwd ≠ "" ∧ command.cwd.utf8ByteSize ≤ maxCwdBytes ∧
    startsWith command.cwd '/' = true ∧ containsNul command.cwd = false
  envCount : command.env.length ≤ maxEnvEntries
  env : ∀ entry ∈ command.env, validDetachedEnvKey entry.1 = true ∧
    entry.2.utf8ByteSize ≤ maxEnvValueBytes ∧ containsNul entry.2 = false

lemma checkEnv_eq_ok :
    ∀ {seen : List String}, checkEnv seen env = .ok () →
      ∀ entry ∈ env, validDetachedEnvKey entry.1 = true ∧
        entry.2.utf8ByteSize ≤ maxEnvValueBytes ∧ containsNul entry.2 = false := by
  induction env with
  | nil => simp
  | cons entry env ih =>
    intro seen h
    obtain ⟨key, value⟩ := entry
    obtain ⟨hentry, h⟩ := then_eq_ok.mp h
    obtain ⟨-, h⟩ := then_eq_ok.mp h
    have hrest := ih h
    simp at hentry
    simp only [forall_mem_cons]
    exact ⟨hentry, hrest⟩

lemma checkCwd_eq_ok (h : checkCwd input = .ok cwd) :
    cwd ≠ "" ∧ cwd.utf8ByteSize ≤ maxCwdBytes ∧ startsWith cwd '/' = true ∧
      containsNul cwd = false := by
  cases input with
  | none =>
    cases h
    exact ⟨by decide, by decide, by decide, by decide⟩
  | some s =>
    obtain ⟨hs, h⟩ := then_eq_ok.mp h
    cases h
    simpa using hs

lemma accepted_of_validate (h : validateDetachedCommand input policy = .ok command) :
    Accepted command := by
  unfold validateDetachedCommand at h
  obtain ⟨-, h⟩ := then_eq_ok.mp h
  obtain ⟨-, h⟩ := then_eq_ok.mp h
  obtain ⟨-, h⟩ := then_eq_ok.mp h
  obtain ⟨-, h⟩ := then_eq_ok.mp h
  cases hargv : input.argv with
  | nil =>
    rw [hargv] at h
    cases h
  | cons program args =>
    rw [hargv] at h
    obtain ⟨hcount, h⟩ := then_eq_ok.mp h
    obtain ⟨hargs, h⟩ := then_eq_ok.mp h
    obtain ⟨hprogram, h⟩ := then_eq_ok.mp h
    obtain ⟨hempty, h⟩ := then_eq_ok.mp h
    obtain ⟨cwd, hcwd, h⟩ := bind_eq_ok.mp h
    obtain ⟨henvCount, h⟩ := then_eq_ok.mp h
    obtain ⟨henv, h⟩ := then_eq_ok.mp h
    cases h
    simp at hcount hprogram hempty henvCount
    rw [forM_eq_ok] at hargs
    refine ⟨hcount, ?_, hprogram.2, checkCwd_eq_ok hcwd, henvCount, checkEnv_eq_ok henv⟩
    intro arg harg
    have hbounds := hargs arg harg
    simp at hbounds
    refine ⟨?_, hbounds.1, by simpa using hbounds.2⟩
    intro hnil
    rcases mem_cons.mp harg with rfl | hmem
    · exact hprogram.1 hnil
    · exact hempty (hnil ▸ hmem)

/-! ## what the second validator needs -/

/-- A configuration the second validator accepts, with numbers of their types. -/
structure ValidConfig (config : RegistryConfig) : Prop where
  user : validateExecUser config.execUser = .ok ()
  uid : config.execUid ≠ 0 ∧ config.execUid < 2 ^ 32
  systemdRun : validateAbsPath config.systemdRunPath = .ok ()
  loginShell : validateAbsPath config.loginShellPath = .ok ()
  maxRuntime : config.maxRuntimeSec < 2 ^ 64

/-- The texts that are embedded in longer ones still fit, and the path of the
login shell does not look like the next field of a rendered `ExecStart`. -/
structure Embeds (config : RegistryConfig) (command : ValidatedCommand) : Prop where
  user : ("--uid=" ++ config.execUser).utf8ByteSize ≤ maxArgLen
  cwd : ("--working-directory=" ++ command.cwd).utf8ByteSize ≤ maxArgLen
  env : ∀ entry ∈ command.env, (entry.1 ++ "=" ++ entry.2).utf8ByteSize ≤ maxArgLen
  shellPath : StartsAfter " ; ".toList config.loginShellPath.toList
  shellArgv : ¬ "argv[]=".toList <:+: config.loginShellPath.toList

lemma containsNul_append (s : String) :
    containsNul (s ++ t) = (containsNul s || containsNul t) := by
  simp [containsNul]

lemma embeddable_append (hs : s ≠ "") (hsnul : containsNul s = false)
    (htnul : containsNul t = false) (hsize : (s ++ t).utf8ByteSize ≤ maxArgLen) :
    embeddable (s ++ t) = true := by
  refine embeddable_eq_true.mpr ⟨?_, hsize, ?_⟩
  · intro hnil
    exact hs (by simpa using (String.append_eq_empty_iff.mp hnil).1)
  · rw [containsNul_append, hsnul, htnul]
    rfl

/-! ### unit names -/

lemma isDigit_of_mem_slotText (h : c ∈ (slotText slot).toList) : c.isDigit = true := by
  unfold slotText at h
  by_cases hsmall : slot < 10
  · rw [if_pos hsmall, String.toList_append, mem_append] at h
    cases h with
    | inl hzero =>
      have heq : c = '0' := by simpa using hzero
      rw [heq]
      decide
    | inr hdigit => exact isDigit_of_mem_toString hdigit
  · rw [if_neg hsmall] at h
    exact isDigit_of_mem_toString h

lemma utf8ByteSize_slotText_le (h : slot < 2 ^ 32) : (slotText slot).utf8ByteSize ≤ 11 := by
  have hsize : (toString slot).utf8ByteSize ≤ 10 :=
    utf8ByteSize_toString_le (by decide) (Nat.lt_trans h (by decide))
  have hzero : "0".utf8ByteSize = 1 := by decide
  unfold slotText
  by_cases hsmall : slot < 10
  · rw [if_pos hsmall, String.utf8ByteSize_append]
    omega
  · rw [if_neg hsmall]
    omega

lemma unitNameByte_of_isDigit (h : c.isDigit = true) : unitNameByte c = true := by
  simp [unitNameByte, Char.isAlphanum, h]

/-- A unit name of a slot is made of its characters. -/
lemma unitNameByte_of_mem (hending : ending.toList.all unitNameByte = true)
    (h : c ∈ ("d2b-exec-" ++ slotText slot ++ ending).toList) : unitNameByte c = true := by
  have hstart : "d2b-exec-".toList.all unitNameByte = true := by decide
  rw [String.toList_append, String.toList_append, mem_append, mem_append] at h
  rcases h with (h | h) | h
  · exact all_eq_true.mp hstart c h
  · exact unitNameByte_of_isDigit (isDigit_of_mem_slotText h)
  · exact all_eq_true.mp hending c h

lemma containsNul_of_unitNameByte (h : ∀ c ∈ s.toList, unitNameByte c = true) :
    containsNul s = false := by
  refine decide_eq_false fun hmem => ?_
  have := h _ hmem
  revert this
  decide

lemma containsNul_unitName (slot : Nat) : containsNul (unitName slot) = false :=
  containsNul_of_unitNameByte fun _ h => unitNameByte_of_mem (by decide) h

lemma containsNul_workloadUnitName (slot : Nat) : containsNul (workloadUnitName slot) = false :=
  containsNul_of_unitNameByte fun _ h => unitNameByte_of_mem (by decide) h

lemma utf8ByteSize_unitName_le (h : slot < 2 ^ 32) : (unitName slot).utf8ByteSize ≤ 28 := by
  have hstart : "d2b-exec-".utf8ByteSize = 9 := by decide
  have hending : ".service".utf8ByteSize = 8 := by decide
  have hslot := utf8ByteSize_slotText_le h
  rw [unitName, String.utf8ByteSize_append, String.utf8ByteSize_append]
  omega

lemma utf8ByteSize_workloadUnitName_le (h : slot < 2 ^ 32) :
    (workloadUnitName slot).utf8ByteSize ≤ 30 := by
  have hstart : "d2b-exec-".utf8ByteSize = 9 := by decide
  have hending : "-w.service".utf8ByteSize = 10 := by decide
  have hslot := utf8ByteSize_slotText_le h
  rw [workloadUnitName, String.utf8ByteSize_append, String.utf8ByteSize_append]
  omega

lemma validateWorkloadUnitName_workloadUnitName (h : slot < 2 ^ 32) :
    validateWorkloadUnitName (workloadUnitName slot) = .ok () := by
  have hbytes : ∀ c ∈ (workloadUnitName slot).toList, unitNameByte c = true :=
    fun _ h => unitNameByte_of_mem (by decide) h
  have hembeddable : embeddable (workloadUnitName slot) = true := by
    refine embeddable_eq_true.mpr ⟨?_, ?_, containsNul_workloadUnitName slot⟩
    · intro hnil
      have := congrArg String.utf8ByteSize hnil
      rw [workloadUnitName, String.utf8ByteSize_append, String.utf8ByteSize_append] at this
      have hstart : "d2b-exec-".utf8ByteSize = 9 := by decide
      have hempty : "".utf8ByteSize = 0 := by decide
      omega
    · exact Nat.le_trans (utf8ByteSize_workloadUnitName_le h) (by decide)
  have hslash : '/' ∉ (workloadUnitName slot).toList := fun hmem => by
    have := hbytes _ hmem
    revert this
    decide
  have hstart : "d2b-exec-".toList <+: (workloadUnitName slot).toList := by
    rw [workloadUnitName, String.append_assoc, String.toList_append]
    exact prefix_append _ _
  have hend : "-w.service".toList <:+ (workloadUnitName slot).toList := by
    rw [workloadUnitName, String.toList_append]
    exact suffix_append _ _
  rw [validateWorkloadUnitName]
  refine failIf_of_not ?_ _
  simp only [hembeddable, hslash, List.isPrefixOf_iff_prefix.mpr hstart,
    isSuffixOf_iff_suffix.mpr hend, all_eq_true.mpr hbytes]
  decide

/-! ### the arguments of `systemd-run` -/

section

lemma containsNul_of_badArgByte (h : s.toList.any badArgByte = false) :
    containsNul s = false := by
  refine decide_eq_false fun hmem => ?_
  have := any_eq_false.mp h _ hmem
  exact this (by decide)

section

variable (h : validDetachedEnvKey key = true)
include h

/-- A valid key is made of letters, digits and underscores. -/
lemma mem_of_validDetachedEnvKey :
    key ≠ "" ∧ key.utf8ByteSize ≤ maxEnvKeyBytes ∧
      ∀ c ∈ key.toList, (c.isAlphanum || c == '_') = true := by
  unfold validDetachedEnvKey at h
  by_cases hbound : key = "" ∨ key.utf8ByteSize > maxEnvKeyBytes
  · rw [if_pos hbound] at h
    cases h
  · rw [if_neg hbound, Bool.and_eq_true, all_eq_true] at h
    rw [not_or] at hbound
    exact ⟨hbound.1, Nat.le_of_not_lt hbound.2, h.2⟩

lemma not_mem_of_validDetachedEnvKey (hc : (c.isAlphanum || c == '_') = false) :
    c ∉ key.toList := by
  intro hmem
  have htrue := (mem_of_validDetachedEnvKey h).2.2 c hmem
  rw [hc] at htrue
  cases htrue

lemma containsNul_of_validDetachedEnvKey : containsNul key = false :=
  decide_eq_false (not_mem_of_validDetachedEnvKey h (by decide))

end

/-- An option that embeds a unit name. -/
lemma embeddable_unit_option (hoption : option ≠ "") (hnul : containsNul option = false)
    (hsize : option.utf8ByteSize ≤ 30) (hunit : containsNul unit = false)
    (hunitSize : unit.utf8ByteSize ≤ 30) : embeddable (option ++ unit) = true := by
  refine embeddable_append hoption hnul hunit ?_
  rw [String.utf8ByteSize_append]
  exact Nat.le_trans (Nat.add_le_add hsize hunitSize) (by decide)

lemma embeddable_of_mem_workloadOptions (haccepted : Accepted command)
    (hconfig : ValidConfig config) (hembeds : Embeds config command) (hslot : slot < 2 ^ 32) :
    ∀ option ∈ workloadOptions command config slot, embeddable option = true := by
  have huser : containsNul config.execUser = false := by
    have huser := hconfig.user
    simp [validateExecUser, embeddable_eq_true] at huser
    exact huser.2.2
  have hrunner : ∀ {option : String}, option ≠ "" → containsNul option = false →
      option.utf8ByteSize ≤ 30 → embeddable (option ++ unitName slot) = true :=
    fun hne hnul hsize => embeddable_unit_option hne hnul hsize (containsNul_unitName slot)
      (Nat.le_trans (utf8ByteSize_unitName_le hslot) (by decide))
  have hworkload : embeddable ("--unit=" ++ workloadUnitName slot) = true :=
    embeddable_unit_option (by decide) (by decide) (by decide) (containsNul_workloadUnitName slot)
      (utf8ByteSize_workloadUnitName_le hslot)
  refine forall_mem_append.mpr ⟨?_, fun option henv => ?_⟩
  · simp only [forall_mem_cons]
    have huid := embeddable_append (s := "--uid=") (by decide) (by decide) huser hembeds.user
    have hcwd := embeddable_append (s := "--working-directory=") (by decide) (by decide)
      haccepted.cwd.2.2.2 hembeds.cwd
    refine ⟨huid, hworkload, ?_, ?_, ?_, ?_, ?_, ?_, ?_, hrunner ?_ ?_ ?_, hrunner ?_ ?_ ?_,
      hrunner ?_ ?_ ?_, hcwd, by simp⟩ <;> decide
  · obtain ⟨entry, hentry, hmem⟩ := mem_flatMap.mp henv
    obtain ⟨hkey, -, hvalue⟩ := haccepted.env entry hentry
    simp only [mem_cons, not_mem_nil, or_false] at hmem
    rcases hmem with rfl | rfl
    · decide
    · refine embeddable_append ?_ ?_ hvalue (hembeds.env entry hentry)
      · intro hnil
        exact (mem_of_validDetachedEnvKey hkey).1 (String.append_eq_empty_iff.mp hnil).1
      · rw [containsNul_append, containsNul_of_validDetachedEnvKey hkey]
        decide

lemma embeddable_of_mem_shellArgv (haccepted : Accepted command)
    (hconfig : ValidConfig config) :
    ∀ arg ∈ shellArgv config.loginShellPath (command.program :: command.args),
      embeddable arg = true := by
  have hshell : embeddable config.loginShellPath = true :=
    SpecCodec.embeddable_of_validateAbsPath hconfig.loginShell
  refine forall_mem_append.mpr ⟨?_, fun arg hargv => ?_⟩
  · simp only [forall_mem_cons]
    refine ⟨hshell, ?_, ?_, ?_, ?_, by simp⟩ <;> decide
  · obtain ⟨hne, hsize, hbytes⟩ := haccepted.arg arg hargv
    exact embeddable_eq_true.mpr ⟨hne, hsize, containsNul_of_badArgByte hbytes⟩

lemma length_workloadSystemdRunArgs :
    (workloadSystemdRunArgs command config slot).length =
      20 + 2 * command.env.length + command.args.length := by
  have henv : (command.env.flatMap fun entry => ["--setenv", entry.1 ++ "=" ++ entry.2]).length =
      2 * command.env.length := by
    simp [length_flatMap, Nat.mul_comm]
  simp only [workloadSystemdRunArgs, workloadOptions, shellArgv, length_append,
    length_cons, length_nil, henv]
  omega

section

variable (haccepted : Accepted command)
  (hconfig : ValidConfig config) (hembeds : Embeds config command) (hslot : slot < 2 ^ 32)
include haccepted hconfig hembeds hslot

lemma validateSystemdRunArgs_workload :
    validateSystemdRunArgs (workloadSystemdRunArgs command config slot) = .ok () := by
  refine validateSystemdRunArgs_eq_ok.mpr ⟨?_, ?_, ?_⟩
  · simp [workloadSystemdRunArgs]
  · have henv := haccepted.envCount
    have hargs := haccepted.count
    rw [length_workloadSystemdRunArgs]
    simp only [maxEnvEntries, maxArgv] at henv hargs
    simp only [maxSystemdRunArgs, maxEnv, ExecRunner.maxArgv]
    omega
  · exact forall_mem_append.mpr
      ⟨embeddable_of_mem_workloadOptions haccepted hconfig hembeds hslot,
        forall_mem_cons.mpr ⟨by decide, embeddable_of_mem_shellArgv haccepted hconfig⟩⟩

/-! ### the spec -/

/-- The spec of a slot. -/
lemma validate_buildSpec (hcaps : caps.stdoutLogCap ≠ 0 ∧ caps.stderrLogCap ≠ 0)
    (hspec : buildSpec command config caps slot = .ok spec) : spec.validate = .ok () := by
  cases hspec
  obtain ⟨hcwd, hcwdSize, hcwdAbs, hcwdNul⟩ := haccepted.cwd
  refine ExecSpec.validate_eq_ok.mpr ⟨?_, ?_, ?_, hcaps, hconfig.user, hconfig.uid.1,
    hconfig.systemdRun, hconfig.loginShell, validateWorkloadUnitName_workloadUnitName hslot,
    validateSystemdRunArgs_workload haccepted hconfig hembeds hslot⟩
  · refine validateArgv_eq_ok.mpr ⟨by simp, haccepted.count, ?_, haccepted.program⟩
    intro arg harg
    obtain ⟨hne, hsize, hbytes⟩ := haccepted.arg arg harg
    exact ⟨hne, hsize, containsNul_of_badArgByte hbytes⟩
  · exact validateCwd_eq_ok.mpr ⟨hcwd, hcwdNul, hcwdAbs, hcwdSize⟩
  · refine validateEnv_eq_ok.mpr ⟨?_, ?_⟩
    · rw [length_map]
      exact haccepted.envCount
    · intro entry hentry
      obtain ⟨source, hsource, rfl⟩ := mem_map.mp hentry
      obtain ⟨hkey, hvalueSize, hvalue⟩ := haccepted.env source hsource
      obtain ⟨hne, hkeySize, -⟩ := mem_of_validDetachedEnvKey hkey
      exact ⟨hne, hkeySize, containsNul_of_validDetachedEnvKey hkey,
        not_mem_of_validDetachedEnvKey hkey (by decide), hvalueSize, hvalue⟩

end

end

/-! ## the unit that the arguments start -/

/-- The options that `systemd-run` reads from a spec. -/
def optionsOf (spec : ExecSpec) : List String := spec.systemdRunArgs.takeWhile (· ≠ "--")

/-- The command that `systemd-run` reads from a spec. -/
def commandOf (spec : ExecSpec) : List String := (spec.systemdRunArgs.dropWhile (· ≠ "--")).tail

/-- How systemd renders the command of a unit in one line, with its later fields. -/
def renderExecStart (argv : List String) (later : String) : String :=
  "\x7b path=" ++ argv.headD "" ++ " ; argv[]=" ++ " ".intercalate argv ++ " ; ignore_errors=" ++
    later ++ " \x7d"

/-- What `systemctl show` reports of the unit that a spec's arguments started. -/
structure Renders (spec : ExecSpec) (identity : WorkloadIdentity) : Prop where
  slice : ∀ slice, "--slice=" ++ slice ∈ optionsOf spec → identity.slice = some slice
  bindsTo : ∀ unit, "--property=BindsTo=" ++ unit ∈ optionsOf spec →
    propertyContainsUnit identity.bindsTo unit = true
  partOf : ∀ unit, "--property=PartOf=" ++ unit ∈ optionsOf spec →
    propertyContainsUnit identity.partOf unit = true
  after : ∀ unit, "--property=After=" ++ unit ∈ optionsOf spec →
    propertyContainsUnit identity.after unit = true
  execStart : ∃ later : String, ¬ " ; ignore_errors=".toList <:+: later.toList ∧
    identity.execStart = some (renderExecStart (commandOf spec) later)

/-! ### reading the arguments -/

section

lemma ne_dashes_of_mem (h : '=' ∈ s.toList) : s ≠ "--" := by
  intro heq
  rw [heq] at h
  revert h
  decide

lemma ne_dashes_of_mem_workloadOptions :
    ∀ option ∈ workloadOptions command config slot, option ≠ "--" := by
  -- an option either is a constant or holds an equals sign
  have happend : ∀ {s t : String}, '=' ∈ s.toList → s ++ t ≠ "--" := fun h =>
    ne_dashes_of_mem (by rw [String.toList_append]; exact mem_append_left _ h)
  refine forall_mem_append.mpr ⟨?_, fun option henv => ?_⟩
  · simp only [forall_mem_cons]
    refine ⟨happend ?_, happend ?_, ?_, ?_, ?_, ?_, ?_, ?_, ?_, happend ?_, happend ?_, happend ?_,
      happend ?_, by simp⟩ <;> decide
  · obtain ⟨entry, -, hmem⟩ := mem_flatMap.mp henv
    simp only [mem_cons, not_mem_nil, or_false] at hmem
    rcases hmem with rfl | rfl
    · decide
    · exact happend (by simp)

lemma optionsOf_buildSpec (hspec : buildSpec command config caps slot = .ok spec) :
    optionsOf spec = workloadOptions command config slot := by
  cases hspec
  simp only [optionsOf, workloadSystemdRunArgs]
  rw [takeWhile_append_of_pos (by simpa using ne_dashes_of_mem_workloadOptions)]
  simp

lemma commandOf_buildSpec (hspec : buildSpec command config caps slot = .ok spec) :
    commandOf spec = shellArgv spec.loginShellPath spec.argv := by
  cases hspec
  simp only [commandOf, workloadSystemdRunArgs]
  rw [dropWhile_append_of_pos (by simpa using ne_dashes_of_mem_workloadOptions)]
  simp

end

/-! ### reading the rendered command -/

/-- The next field is the first of its name. -/
lemma startsAfter_argv (h : ¬ "argv[]=".toList <:+: shell) :
    StartsAfter "argv[]=".toList (" path=".toList ++ shell ++ " ; ".toList) := by
  have hunbordered : Unbordered "argv[]=".toList := by decide
  refine hunbordered.startsAfter fun hin => ?_
  have hleft : "argv[]=".toList <:+: " path=".toList ++ shell :=
    infix_of_infix_append (by decide) (by simp) hin
  rcases infix_append hleft with hpath | hshell | ⟨l, r, hl, -, heq, hsuffix, -⟩
  · exact absurd hpath (by decide)
  · exact h hshell
  · have hnone : ∀ l ∈ (" path=".toList).tails, l ≠ [] → ¬ l <+: "argv[]=".toList := by decide
    exact hnone l ((mem_tails _ _).mpr hsuffix) hl ⟨r, heq.symm⟩

/-- The closing brace adds no field. -/
lemma not_infix_later (h : ¬ " ; ignore_errors=".toList <:+: later) :
    ¬ " ; ignore_errors=".toList <:+: later ++ [' '] := by
  intro hin
  rcases infix_append hin with hlater | hspace | ⟨l, r, -, hr, heq, -, hpre⟩
  · exact h hlater
  · exact absurd hspace (by decide)
  · have hr : r = [' '] := by
      obtain ⟨t, ht⟩ := hpre
      cases r with
      | nil => exact absurd rfl hr
      | cons c r =>
        simp at ht
        rw [ht.1, ht.2.1]
    have hlast := congrArg List.getLast? heq
    rw [hr] at hlast
    simp at hlast

lemma trim_eq_self : trim ('{' :: (cs ++ ['}'])) = '{' :: (cs ++ ['}']) := by
  have hopen : ¬ isWhitespace '{' = true := by decide
  have hclose : ¬ isWhitespace '}' = true := by decide
  rw [trim, dropWhile_cons_of_neg hopen, ← cons_append]
  exact rdropWhile_concat_neg _ _ _ hclose

/-- The fields of a rendered command are read back as they were, whatever its
arguments hold. -/
lemma execStartRawFields_renderExecStart (hpath : StartsAfter " ; ".toList shell.toList)
    (hargv : ¬ "argv[]=".toList <:+: shell.toList)
    (hlater : ¬ " ; ignore_errors=".toList <:+: later.toList) :
    execStartRawFields (renderExecStart (shell :: argv) later) =
      some (shell, " ".intercalate (shell :: argv)) := by
  generalize hjoined : " ".intercalate (shell :: argv) = joined
  obtain ⟨after, hafter⟩ : ∃ after, after =
      joined.toList ++ (" ; ignore_errors=".toList ++ (later.toList ++ [' '])) := ⟨_, rfl⟩
  obtain ⟨inner, hinner⟩ : ∃ inner, inner =
      [' '] ++ ("path=".toList ++
        (shell.toList ++ (" ; ".toList ++ ("argv[]=".toList ++ after)))) :=
    ⟨_, rfl⟩
  have hchars : (renderExecStart (shell :: argv) later).toList = '{' :: (inner ++ ['}']) := by
    simp [renderExecStart, hjoined, hinner, hafter]
  have hfirst : splitOnce "path=".toList inner =
      some ([' '], shell.toList ++ (" ; ".toList ++ ("argv[]=".toList ++ after))) := by
    rw [hinner]
    exact splitOnce_append (by decide) _
  have hsecond : splitOnce " ; ".toList
      (shell.toList ++ (" ; ".toList ++ ("argv[]=".toList ++ after))) =
        some (shell.toList, "argv[]=".toList ++ after) :=
    splitOnce_append hpath _
  have hthird : splitOnce "argv[]=".toList inner =
      some (" path=".toList ++ shell.toList ++ " ; ".toList, after) := by
    have hregroup : inner =
        " path=".toList ++ shell.toList ++ " ; ".toList ++ ("argv[]=".toList ++ after) := by
      simp [hinner]
    rw [hregroup]
    exact splitOnce_append (startsAfter_argv hargv) _
  have hlast : rsplitOnce " ; ignore_errors=".toList after =
      some (joined.toList, later.toList ++ [' ']) := by
    rw [hafter]
    exact rsplitOnce_append (by decide) (by decide) (not_infix_later hlater) _
  unfold execStartRawFields
  rw [hchars, trim_eq_self]
  simp only [Option.bind_eq_bind, Option.bind_some, getLast?_concat, dropLast_concat,
    if_true, hfirst, hsecond, hthird, hlast, String.ofList_toList]

/-! ## accepted commands are recognised -/

lemma workloadIdentityMatches_of_renders (hembeds : Embeds config command)
    (hspec : buildSpec command config caps slot = .ok spec) (hrenders : Renders spec identity) :
    workloadIdentityMatches identity slot spec = true := by
  have hoptions := optionsOf_buildSpec hspec
  unfold workloadOptions at hoptions
  have hslice : identity.slice = some "d2b-exec.slice" :=
    hrenders.slice _ (by simp [hoptions])
  have hbindsTo : propertyContainsUnit identity.bindsTo (unitName slot) = true :=
    hrenders.bindsTo _ (by simp [hoptions])
  have hpartOf : propertyContainsUnit identity.partOf (unitName slot) = true :=
    hrenders.partOf _ (by simp [hoptions])
  have hafter : propertyContainsUnit identity.after (unitName slot) = true :=
    hrenders.after _ (by simp [hoptions])
  obtain ⟨later, hlater, hexec⟩ := hrenders.execStart
  have hfields : execStartRawFields (renderExecStart (commandOf spec) later) =
      some (spec.loginShellPath, " ".intercalate (shellArgv spec.loginShellPath spec.argv)) := by
    rw [commandOf_buildSpec hspec]
    cases hspec
    exact execStartRawFields_renderExecStart hembeds.shellPath hembeds.shellArgv hlater
  simp [workloadIdentityMatches, hslice, hbindsTo, hpartOf, hafter, hexec, hfields]

/-- A unit is live once the spec of its slot says so. -/
lemma classifyWorkloadUnit_of_matches {reg : DetachedRegistry} (hactive : unit.active = true)
    (hidentity : unit.identity = .queried identity)
    (hmatches : reg.workloadIdentityMatches identity slot spec = true) :
    ∃ next : Except ExecError ExecSpec → Method UnitClass,
      reg.classifyWorkloadUnit unit slot = DetachedRegistry.store (.readSpec slot) >>= next ∧
        next (.ok spec) = pure .live := by
  unfold DetachedRegistry.classifyWorkloadUnit
  rw [hactive, hidentity]
  refine ⟨_, rfl, ?_⟩
  simp [hmatches]

def alicePolicy : ExecPolicy := { enabled := true, execUser := some "alice" }

def aliceConfig : RegistryConfig :=
  { bootId := "boot"
    maxRuntimeSec := 0
    execUser := "alice"
    execUid := 1000
    systemdRunPath := "/bin/systemd-run"
    loginShellPath := "/bin/bash" }

/-- A request with field-name lookalikes in its arguments. -/
def trickyInput : ExecCreateInput :=
  { argv := ["echo", "a ; ignore_errors=no", "argv[]=path="]
    cwd := none
    env := [("LANG", "C")]
    tty := false
    stdinOpen := false
    hasTerminalSize := false
    maxChunkBytes := 4096 }

def trickyCommand : ValidatedCommand :=
  { program := "echo", args := ["a ; ignore_errors=no", "argv[]=path="], cwd := "/",
    env := [("LANG", "C")] }

/-- What systemd reports of its unit. -/
def trickyIdentity : WorkloadIdentity :=
  { slice := some "d2b-exec.slice"
    execStart := some (renderExecStart
      (shellArgv "/bin/bash" ["echo", "a ; ignore_errors=no", "argv[]=path="]) "no ; pid=0")
    bindsTo := some "d2b-exec-00.service"
    partOf := some "d2b-exec-00.service"
    after := some "basic.target d2b-exec-00.service" }

lemma validConfig_alice : ValidConfig aliceConfig :=
  ⟨by decide, by decide, by decide, by decide, by decide⟩

/-- The values of an option of the tricky command. -/
lemma toList_mem_workloadOptions
    (h : option ++ value ∈ workloadOptions trickyCommand aliceConfig 0) :
    option.toList ++ value.toList ∈
      (workloadOptions trickyCommand aliceConfig 0).map String.toList := by
  rw [← String.toList_append]
  exact mem_map_of_mem h

lemma renders_tricky (hspec : buildSpec trickyCommand aliceConfig (.standard 0) 0 = .ok spec) :
    Renders spec trickyIdentity := by
  have hoptions := optionsOf_buildSpec hspec
  have hcommand := commandOf_buildSpec hspec
  cases hspec
  refine ⟨?slice, ?_, ?_, ?_, "no ; pid=0", by decide, ?command⟩
  case slice =>
    intro slice h
    rw [hoptions] at h
    have hchars := toList_mem_workloadOptions h
    have hslice : slice.toList = "d2b-exec.slice".toList := by
      simpa [workloadOptions, trickyCommand, aliceConfig, unitName, workloadUnitName] using hchars
    rw [String.toList_inj.mp hslice]
    rfl
  case command =>
    rw [hcommand]
    rfl
  -- the three relations to the outer unit
  all_goals
    intro unit h
    rw [hoptions] at h
    have hunit : unit.toList = (unitName 0).toList := by
      simpa [workloadOptions, trickyCommand, aliceConfig, unitName, workloadUnitName]
        using toList_mem_workloadOptions h
    rw [String.toList_inj.mp hunit]
    decide

/-- A working directory of `n + 1` bytes. -/
def cwdOfLength (n : Nat) : String := String.ofList ('/' :: List.replicate n 'x')

def inputIn (cwd : String) : ExecCreateInput :=
  { argv := ["true"]
    cwd := some cwd
    env := []
    tty := false
    stdinOpen := false
    hasTerminalSize := false
    maxChunkBytes := 4096 }

lemma utf8ByteSize_cwdOfLength (n : Nat) : (cwdOfLength n).utf8ByteSize = n + 1 := by
  have hone : ∀ c ∈ '/' :: List.replicate n 'x', c.utf8Size = 1 := by
    intro c hc
    rcases mem_cons.mp hc with rfl | hx
    · decide
    · rw [eq_of_mem_replicate hx]
      decide
  rw [cwdOfLength, String.utf8ByteSize_ofList, utf8Len_of_one hone, length_cons, length_replicate]

lemma checkCwd_cwdOfLength (h : n < maxCwdBytes) :
    checkCwd (some (cwdOfLength n)) = .ok (cwdOfLength n) := by
  have hsize := utf8ByteSize_cwdOfLength n
  have hne : cwdOfLength n ≠ "" := by
    intro hnil
    rw [hnil] at hsize
    have hempty : "".utf8ByteSize = 0 := by decide
    omega
  have hnul : containsNul (cwdOfLength n) = false := by simp [containsNul, cwdOfLength]
  have habs : startsWith (cwdOfLength n) '/' = true := by simp [startsWith, cwdOfLength]
  refine then_eq_ok.mpr ⟨failIf_of_not ?_ _, rfl⟩
  simp [hne, hsize, hnul, habs]
  omega

end D2b.Guestd.DetachedCommand
