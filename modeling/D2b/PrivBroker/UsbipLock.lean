import D2b.Lib.Text

/-!
# D2b.PrivBroker.UsbipLock

The lock file of a busid (`ops/usbip_lock.rs`); its body is the name of the VM that holds it.

The file is created before the name is written: a call that ends in between leaves a file
that is no VM's, and no call removes it.
-/

namespace D2b.PrivBroker

open List

/-- A VM's name, as far as the lock depends on it: it matches `^[a-z][a-z0-9-]*$`. -/
def VmName : Type :=
  { name : List Char // name ≠ [] ∧ ∀ c ∈ name, Text.isWhitespace c = false ∧ c ≠ '<' }
deriving DecidableEq

abbrev LockFile := Option (List Char)

inductive UsbipLockError where
  | lockAlreadyHeld (existingOwner : List Char)
  | ownerMismatch (expected observed : List Char)

/-- The file after each operation on it: what creates it, sets its mode and its owner, writes
the name and a line feed and syncs, or the read of one that exists. -/
def acquireLock (owner : VmName) : LockFile → Except UsbipLockError (List LockFile)
  | none =>
    let body := owner.1 ++ ['\n']
    .ok [some [], some [], some [], some owner.1, some body, some body]
  | some body =>
    if Text.trim body = owner.1 then .ok [some body]
    else .error (.lockAlreadyHeld (Text.trim body))

def releaseLock (expectedOwner : VmName) : LockFile → Except UsbipLockError (List LockFile)
  | none => .ok [none]
  | some body =>
    if Text.trim body ≠ expectedOwner.1 then
      .error (.ownerMismatch expectedOwner.1 (Text.trim body))
    else .ok [some body, none]

/-! ## calls one after another -/

/-- A call that fails or stops when so many of its operations are done. -/
inductive LockCall where
  | acquire (owner : VmName) (done : Nat)
  | release (owner : VmName) (done : Nat)

/-- The file, and the VMs that acquired the lock and have not released it since. -/
structure LockState where
  file : LockFile
  holders : List VmName

namespace LockState

/-- So many operations of a call, and its end if these are all. -/
def perform (s : LockState) (holders : List VmName) : List LockFile → Nat → LockState
  | [], _ => { s with holders }
  | _ :: _, 0 => s
  | file :: files, done + 1 => perform { s with file } holders files done

def step (s : LockState) : LockCall → LockState
  | .acquire owner done =>
    match acquireLock owner s.file with
    | .ok files => s.perform (owner :: s.holders) files done
    | .error _ => s
  | .release owner done =>
    match releaseLock owner s.file with
    | .ok files => s.perform (s.holders.filter (· ≠ owner)) files done
    | .error _ => s

def run (calls : List LockCall) : LockState := calls.foldl step { file := none, holders := [] }

end LockState

/-- A call that creates the file comes to write the name. -/
def LockCall.Names : LockCall → Prop
  | .acquire _ done => done = 0 ∨ 4 ≤ done
  | .release .. => True

/-! ## whose file it is -/

/-- A file with a name, and at most its line feed, is that VM's. -/
lemma VmName.trim_append (vm : VmName) (feeds : Nat) :
    Text.trim (vm.1 ++ ['\n'].take feeds) = vm.1 := by
  obtain ⟨name, hne, hname⟩ := vm
  obtain ⟨c, cs, rfl⟩ := exists_cons_of_ne_nil hne
  have hc := (hname c mem_cons_self).1
  rw [Text.trim, cons_append, dropWhile_cons_of_neg (by simp [hc]), List.rdropWhile,
    ← cons_append, reverse_append, dropWhile_append_of_pos,
    dropWhile_eq_self_iff.mpr, reverse_reverse]
  · intro hl
    have hlast : (c :: cs).reverse[0] ∈ c :: cs := mem_reverse.mp (getElem_mem hl)
    simp only [(hname _ hlast).1, Bool.false_eq_true, not_false_eq_true]
  · intro a ha
    rw [mem_singleton.mp (mem_of_mem_take (mem_reverse.mp ha))]
    rfl

namespace LockState

/-- The file names the VMs that hold the lock, and some VM where all calls write a name. -/
structure Marked (named : Prop) (s : LockState) : Prop where
  holders : ∀ vm ∈ s.holders, ∃ body, s.file = some body ∧ Text.trim body = vm.1
  file : named → ∀ body, s.file = some body → ∃ vm : VmName, Text.trim body = vm.1

lemma Marked.of_trim {owner : VmName} (hbody : Text.trim body = owner.1)
    (hholders : ∀ vm ∈ vms, vm = owner) :
    Marked named { file := some body, holders := vms } := by
  refine ⟨fun vm hvm => ⟨body, rfl, ?_⟩, fun _ body' hfile => ⟨owner, ?_⟩⟩
  · rw [hholders vm hvm, hbody]
  · cases hfile
    exact hbody

lemma Marked.step (h : Marked named s) (hnamed : named → call.Names) :
    (s.step call).Marked named := by
  obtain ⟨file, holders⟩ := s
  cases file with
  | none =>
    have hfree : holders = [] := by
      refine eq_nil_iff_forall_not_mem.mpr fun vm hvm => ?_
      obtain ⟨_, hnone, -⟩ := h.holders vm hvm
      cases hnone
    subst hfree
    cases call with
    | release owner done => cases done <;> exact h
    | acquire owner done =>
      have hname : Text.trim owner.1 = owner.1 := by simpa using owner.trim_append 0
      rcases done with _ | _ | _ | _ | _ | _ | done
      · exact h
      · exact ⟨nofun, fun hall => absurd (hnamed hall) (by simp [LockCall.Names])⟩
      · exact ⟨nofun, fun hall => absurd (hnamed hall) (by simp [LockCall.Names])⟩
      · exact ⟨nofun, fun hall => absurd (hnamed hall) (by simp [LockCall.Names])⟩
      · exact .of_trim hname nofun
      · exact .of_trim (owner.trim_append 1) nofun
      · exact .of_trim (owner.trim_append 1) fun _ => mem_singleton.mp
  | some body =>
    have hsame : ∀ {owner : VmName}, Text.trim body = owner.1 → ∀ vm ∈ holders, vm = owner := by
      intro owner htrim vm hvm
      obtain ⟨_, hfile, hvm⟩ := h.holders vm hvm
      cases hfile
      exact Subtype.ext (hvm.symm.trans htrim)
    cases call with
    | acquire owner done =>
      by_cases htrim : Text.trim body = owner.1
      · simp only [LockState.step, acquireLock, if_pos htrim]
        cases done with
        | zero => exact h
        | succ done => exact .of_trim htrim (forall_mem_cons.mpr ⟨rfl, hsame htrim⟩)
      · simp only [LockState.step, acquireLock, if_neg htrim]
        exact h
    | release owner done =>
      by_cases htrim : Text.trim body = owner.1
      · simp only [LockState.step, releaseLock, if_neg (not_not.mpr htrim)]
        rcases done with _ | _ | done
        · exact h
        · exact h
        · refine ⟨fun vm hvm => ?_, nofun⟩
          obtain ⟨hmem, hother⟩ := mem_filter.mp hvm
          exact absurd (hsame htrim vm hmem) (of_decide_eq_true hother)
      · simp only [LockState.step, releaseLock, if_pos htrim]
        exact h

end LockState

open LockState

def corp : VmName := ⟨"corp".toList, by simp [Text.isWhitespace]⟩

/-- At most one VM holds the lock, and a release that succeeds is that VM's; where every
call that creates the file writes a name, some VM can acquire the lock. -/
theorem lock_exclusive (calls : List LockCall) :
    (∀ a ∈ (run calls).holders, ∀ b ∈ (run calls).holders, a = b) ∧
      (∀ owner, (releaseLock owner (run calls).file).isOk = true →
        ∀ holder ∈ (run calls).holders, holder = owner) ∧
      ((∀ call ∈ calls, call.Names) →
        ∃ owner, (acquireLock owner (run calls).file).isOk = true) := by
  have hmarked : (run calls).Marked (∀ call ∈ calls, call.Names) :=
    List.foldlRecOn calls step ⟨nofun, nofun⟩ fun s hs call hmem =>
      hs.step fun hall => hall call hmem
  refine ⟨?_, ?_, ?_⟩
  · intro a ha b hb
    obtain ⟨body, hfile, ha⟩ := hmarked.holders a ha
    obtain ⟨body', hfile', hb⟩ := hmarked.holders b hb
    cases hfile.symm.trans hfile'
    exact Subtype.ext (ha.symm.trans hb)
  · intro owner hok holder hholder
    obtain ⟨body, hfile, htrim⟩ := hmarked.holders holder hholder
    rw [hfile, releaseLock] at hok
    split at hok
    · cases hok
    · next hsame => exact Subtype.ext (htrim.symm.trans (not_not.mp hsame))
  · intro hnames
    cases hfile : (run calls).file with
    | none => exact ⟨corp, rfl⟩
    | some body =>
      obtain ⟨vm, htrim⟩ := hmarked.file hnames body hfile
      exact ⟨vm, by rw [acquireLock, if_pos htrim]; rfl⟩

theorem lock_exclusive_corp : (∀ call ∈ [LockCall.acquire corp 4], call.Names) ∧
    ∃ owner, (acquireLock owner (run [.acquire corp 4]).file).isOk = true :=
  ⟨by simp [LockCall.Names], (lock_exclusive _).2.2 (by simp [LockCall.Names])⟩

/-- A call stops once the file is created: no VM can acquire the lock or release it. -/
theorem lock_wedged :
    (run [.acquire corp 1]).holders = [] ∧ ∀ owner,
      (acquireLock owner (run [.acquire corp 1]).file).isOk = false ∧
      (releaseLock owner (run [.acquire corp 1]).file).isOk = false := by
  refine ⟨rfl, fun owner => ?_⟩
  have hne : Text.trim [] ≠ owner.1 := Ne.symm owner.2.1
  have hfile : (run [.acquire corp 1]).file = some [] := rfl
  rw [hfile, acquireLock, releaseLock, if_neg hne, if_pos hne]
  exact ⟨rfl, rfl⟩

end D2b.PrivBroker
