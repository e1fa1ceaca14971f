import D2b.Lib.Run
import D2b.WaylandProxy.Policy

/-!
# D2b.WaylandProxy.Registry

The registry of one client (`filter.rs`): which globals of the compositor it is shown,
and which of its binds are sent on.

The names are the compositor's; one more is taken for the clipboard manager that the
proxy provides itself.  It is chosen at the first global, before the compositor's
other names are known, so a global that comes with that name later is hidden.
-/

namespace D2b.WaylandProxy

/-- Names of globals are 32-bit numbers. -/
abbrev GlobalName := Fin (2 ^ 32)

/-- An interface of the protocol library's enumeration, by its name. -/
structure ObjectInterface where
  name : String
deriving DecidableEq

def wlDataDeviceManager : ObjectInterface := ⟨"wl_data_device_manager"⟩

/-! ## dispositions -/

/-- What becomes of a global at the clipboard boundary (`clipboard.rs`). -/
inductive ClipboardGlobalDisposition where
  | denyGlobal | virtualizeLocally | notClipboard
deriving DecidableEq

def deniedClipboardGlobals : List String :=
  ["ext_data_control_manager_v1", "zwlr_data_control_manager_v1",
    "zwp_primary_selection_device_manager_v1", "wp_primary_selection_device_manager_v1",
    "wp_primary_selection_unstable_v1", "gtk_primary_selection_device_manager",
    "xdg_toplevel_drag_manager_v1"]

def globalDisposition (interface : String) : ClipboardGlobalDisposition :=
  if interface = wlDataDeviceManager.name then .virtualizeLocally
  else if interface ∈ deniedClipboardGlobals then .denyGlobal
  else .notClipboard

/-! ## the proxy's own objects -/

/-- The objects that the window decorations are made with (`decoration.rs`). -/
inductive DecorationObject where
  | compositor | subcompositor | shm | wmBase
deriving DecidableEq

def DecorationObject.of? (interface : ObjectInterface) : Option DecorationObject :=
  if interface.name = "wl_compositor" then some .compositor
  else if interface.name = "wl_subcompositor" then some .subcompositor
  else if interface.name = "wl_shm" then some .shm
  else if interface.name = "xdg_wm_base" then some .wmBase
  else none

structure Decoration where
  enabled : Bool
  /-- the objects that were bound -/
  bound : List DecorationObject

/-! ## the handler -/

structure AdvertisedGlobal where
  interface : ObjectInterface
  version : Nat
  syntheticClipboard : Bool
deriving DecidableEq

structure GlobalAdvertisement where
  name : GlobalName
  interface : ObjectInterface
  version : Nat
deriving DecidableEq

inductive IncomingGlobalDecision where
  | advertise (global : GlobalAdvertisement)
  | hide

structure FilterRegistryHandler where
  policy : FilterPolicy
  decoration : Option Decoration
  hiddenGlobals : Finset GlobalName
  advertisedGlobals : BTreeMap GlobalName AdvertisedGlobal
  syntheticClipboardName : Option GlobalName

/-- The proxy's own clipboard manager. -/
def clipboardGlobal : AdvertisedGlobal :=
  { interface := wlDataDeviceManager, version := 3, syntheticClipboard := true }

/-- The first number that is free, from `n` down. -/
def searchDown (free : Nat → Bool) : Nat → Option Nat
  | 0 => if free 0 then some 0 else none
  | n + 1 => if free (n + 1) then some (n + 1) else searchDown free n

namespace FilterRegistryHandler

variable (handler : FilterRegistryHandler)

def nameIsFree (reservedName name : GlobalName) : Bool :=
  decide (name ≠ reservedName) && !handler.advertisedGlobals.contains name &&
    decide (name ∉ handler.hiddenGlobals)

/-- The highest name that is not known; the program aborts if there is none. -/
def allocateSyntheticClipboardName (reservedName : GlobalName) : Option GlobalName :=
  (searchDown (fun name => handler.nameIsFree reservedName (Fin.ofNat _ name)) (2 ^ 32 - 1)).map
    (Fin.ofNat _)

def ensureSyntheticClipboardGlobal (reservedName : GlobalName) :
    Option (Option GlobalAdvertisement × FilterRegistryHandler) :=
  if handler.syntheticClipboardName.isSome then some (none, handler)
  else
    (handler.allocateSyntheticClipboardName reservedName).map fun name =>
      (some { name, interface := clipboardGlobal.interface, version := clipboardGlobal.version },
        { handler with
          syntheticClipboardName := some name
          advertisedGlobals := handler.advertisedGlobals.insert name clipboardGlobal })

variable (name : GlobalName)

/-- What becomes of a global once there is a clipboard manager. -/
def decideGlobal (interface : ObjectInterface) (version : Nat) :
    IncomingGlobalDecision × FilterRegistryHandler :=
  let hidden := { handler with hiddenGlobals := insert name handler.hiddenGlobals }
  if some name = handler.syntheticClipboardName then (.hide, hidden)
  else if globalDisposition interface.name ≠ .notClipboard then (.hide, hidden)
  else if (handler.policy.lookup interface.name).1 = .deny then (.hide, hidden)
  else
    let version := handler.policy.advertisedVersion interface.name version
    (.advertise { name, interface, version },
      { handler with
        advertisedGlobals := handler.advertisedGlobals.insert name
          { interface, version, syntheticClipboard := false } })

def prepareGlobal (interface : ObjectInterface) (version : Nat) :
    Option (Option GlobalAdvertisement × IncomingGlobalDecision × FilterRegistryHandler) :=
  (handler.ensureSyntheticClipboardGlobal name).map fun (synthetic, handler) =>
    (synthetic, handler.decideGlobal name interface version)

/-- Whether the removal is sent on. -/
def prepareGlobalRemove : Bool × FilterRegistryHandler :=
  if some name = handler.syntheticClipboardName then (false, handler)
  else if name ∈ handler.hiddenGlobals then
    (false, { handler with hiddenGlobals := handler.hiddenGlobals.erase name })
  else (true, { handler with advertisedGlobals := handler.advertisedGlobals.erase name })

end FilterRegistryHandler

def bindMatchesAdvertisedCap (advertised : AdvertisedGlobal) (interface : ObjectInterface)
    (version : Nat) : Bool :=
  decide (interface = advertised.interface) && decide (version ≤ advertised.version)

/-! ## a client and the compositor -/

/-- What the proxy sends. -/
inductive Message where
  /-- to the client -/
  | global (global : GlobalAdvertisement)
  | globalRemove (name : GlobalName)
  | disconnect
  /-- to the compositor, for the client -/
  | bind (name : GlobalName) (interface : ObjectInterface) (version : Nat)
  /-- to the compositor, for the decorations -/
  | ownBind (name : GlobalName) (interface : ObjectInterface) (version : Nat)
deriving DecidableEq

structure Registry where
  handler : FilterRegistryHandler
  /-- the compositor's globals -/
  live : BTreeMap GlobalName (ObjectInterface × Nat)
  sent : List Message

inductive RegistryEvent where
  | global (name : GlobalName) (interface : ObjectInterface) (version : Nat)
  | globalRemove (name : GlobalName)
  /-- the client binds an object of this interface and version -/
  | bind (name : GlobalName) (interface : ObjectInterface) (version : Nat)

namespace Registry

def init (policy : FilterPolicy) (decoration : Option Decoration) : Registry :=
  { handler :=
      { policy, decoration, hiddenGlobals := ∅, advertisedGlobals := ∅
        syntheticClipboardName := none }
    live := ∅
    sent := [] }

variable (xmlVersion : ObjectInterface → Nat)

/-- `observe_global`; `xmlVersion` is the highest version the protocol library knows. -/
def observeGlobal (decoration : Decoration)
    (name : GlobalName) (interface : ObjectInterface) (version : Nat) :
    List Message × Decoration :=
  match DecorationObject.of? interface with
  | none => ([], decoration)
  | some object =>
    if !decoration.enabled || decoration.bound.contains object then ([], decoration)
    else
      ([.ownBind name interface (min version (xmlVersion interface))],
        { decoration with bound := object :: decoration.bound })

variable (handler : FilterRegistryHandler) (name : GlobalName) (interface : ObjectInterface)

def observe (version : Nat) : List Message × FilterRegistryHandler :=
  match handler.decoration with
  | none => ([], handler)
  | some decoration =>
    let (messages, decoration) := observeGlobal xmlVersion decoration name interface version
    (messages, { handler with decoration := some decoration })

/-- What a client is told of a decision. -/
def decisionMessages : IncomingGlobalDecision → List Message
  | .advertise global => [.global global]
  | .hide => []

def handleGlobal (version : Nat) : Option (List Message × FilterRegistryHandler) :=
  let (own, handler) := observe xmlVersion handler name interface version
  (handler.prepareGlobal name interface version).map fun (synthetic, decision, handler) =>
    (own ++ (synthetic.map Message.global).toList ++ decisionMessages decision, handler)

def handleGlobalRemove : List Message × FilterRegistryHandler :=
  match handler.prepareGlobalRemove name with
  | (true, handler) => ([.globalRemove name], handler)
  | (false, handler) => ([], handler)

def handleBind (version : Nat) : List Message :=
  match handler.advertisedGlobals[name]? with
  | none => [.disconnect]
  | some advertised =>
    if !bindMatchesAdvertisedCap advertised interface version then [.disconnect]
    else if advertised.syntheticClipboard then
      -- served by the proxy
      if interface = wlDataDeviceManager then [] else [.disconnect]
    else [.bind name interface version]

/-- The compositor names a global that it does not have yet, and removes one that it has. -/
def step (r : Registry) : RegistryEvent → Option Registry
  | .global name interface version =>
    if r.live.contains name then none
    else
      (handleGlobal xmlVersion r.handler name interface version).map fun (messages, handler) =>
        { handler, live := r.live.insert name (interface, version), sent := r.sent ++ messages }
  | .globalRemove name =>
    if r.live.contains name then
      let (messages, handler) := handleGlobalRemove r.handler name
      some { handler, live := r.live.erase name, sent := r.sent ++ messages }
    else none
  | .bind name interface version =>
    some { r with sent := r.sent ++ handleBind r.handler name interface version }

end Registry

end D2b.WaylandProxy
