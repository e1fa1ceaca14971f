import D2b.RealmCore.Target

/-!
# D2b.WaylandProxy.Identity

The identity of one Wayland proxy (`identity.rs`).  Its fields are private in the
source, so a legacy VM name has been checked.
-/

namespace D2b.WaylandProxy

/-- `validate_legacy_vm_name`. -/
def validLegacyVmName (value : String) : Bool :=
  !(value.isEmpty || value == "." || value == ".." || value.toList.contains '/' ||
    value.toList.contains '\x00')

structure ProxyIdentity where
  target : RealmTarget
  providerKind : WorkloadProviderKind
  legacyVmName : Option String
  /-- a legacy name is well-formed, and not of a workload that runs on the host -/
  legacy : ∀ name ∈ legacyVmName, validLegacyVmName name = true ∧ providerKind ≠ .unsafeLocal

namespace ProxyIdentity

inductive Error where
  | invalidLegacyVmName
  | unsafeLocalLegacyVm
deriving DecidableEq

def canonical (target : RealmTarget) (providerKind : WorkloadProviderKind) : ProxyIdentity :=
  { target, providerKind, legacyVmName := none, legacy := by simp }

def legacyVm (vmName : String) (target : RealmTarget) (providerKind : WorkloadProviderKind) :
    Except Error ProxyIdentity :=
  if hname : validLegacyVmName vmName = true then
    if hkind : providerKind = .unsafeLocal then .error .unsafeLocalLegacyVm
    else
      .ok
        { target, providerKind, legacyVmName := some vmName
          legacy := by
            rintro name ⟨⟩
            exact ⟨hname, hkind⟩ }
  else .error .invalidLegacyVmName

variable (identity : ProxyIdentity)

def canonicalTarget : String := identity.target.toCanonical

def logLabel : String := identity.legacyVmName.getD identity.canonicalTarget

def defaultAppIdPrefix : String :=
  match identity.legacyVmName with
  | some vmName => "d2b." ++ vmName ++ "."
  | none => "d2b." ++ identity.canonicalTarget ++ "."

def defaultTitlePrefix : String :=
  match identity.providerKind with
  | .unsafeLocal => "[unsafe-local " ++ identity.canonicalTarget ++ "] "
  | _ =>
    match identity.legacyVmName with
    | some vmName => "[" ++ vmName ++ "] "
    | none => "[" ++ identity.canonicalTarget ++ "] "

end ProxyIdentity

end D2b.WaylandProxy
