import AvocadoMisc.Library.Transitions
import AvocadoMisc.NvmeTcp.Initiator

/-!
# Deconfiguring the initiator

`configure_persistence` writes the discovery file and enables one of two services.
`deconfigure_nvme_tcp` is to undo that, and to disconnect the controllers. It returns at once if
no controller is connected, also when connections were lost and the file and the service are
still there; and it disables `nvme-connect` only, not the service that is enabled in its place.
-/

namespace AvocadoMisc.NvmeTcp.Deconfigure

open Library.Transitions

/-! ### Configuring -/

/-- What `enable` of a service does: it enables it, says that it did not, or raises. -/
inductive Enabling where
  | enabled
  | notEnabled
  | raised
deriving DecidableEq

/-- The lines of the discovery file. -/
def confText (targetIps : List String) (targetPort : Nat) : String :=
  String.join (targetIps.map fun targetIp =>
    "-t tcp -a " ++ targetIp ++ " -s " ++ toString targetPort ++ "\n")

/-- The first service that can be enabled is. -/
def enableFirst (enable : Service → Enabling) : List Service → Host → Host
  | [], host => host
  | serviceName :: rest, host =>
    if enable serviceName = .enabled then
      { host with enabled := Function.update host.enabled serviceName true }
    else enableFirst enable rest host

/-- `configure_persistence`. A file that cannot be written is only reported. -/
def configurePersistence (targetIps : List String) (targetPort : Nat) (written : Bool)
    (enable : Service → Enabling) (host : Host) : Host :=
  enableFirst enable [.nvme_connect, .nvmf_autoconnect]
    (if written then { host with discoveryConf := some (confText targetIps targetPort) } else host)

/-! ### Deconfiguring -/

/-- What the commands of `deconfigure_nvme_tcp` answer: whether the listing, each disconnection,
the removal of the file and the disabling of the service succeed. -/
structure Answers where
  listed : Bool
  disconnected : Nat → Bool
  removed : Bool
  disabled : Bool

/-- The loop over the controllers. A failure is only reported. -/
def disconnectAll (disconnected : Nat → Bool) : List String → Host → Host
  | [], host => host
  | ctrl :: rest, host =>
    disconnectAll (fun k => disconnected (k + 1)) rest
      (if disconnected 0 then host.disconnect ctrl else host)

/-- `deconfigure_nvme_tcp`. What it lists afterwards goes to the log only, and without controllers
at the beginning it does nothing. -/
def deconfigureNvmeTcp (nvme : Nvme) (subsystemNqn : String) (answers : Answers) (host : Host) :
    Host :=
  let controllers := getConnectedControllers nvme subsystemNqn answers.listed host
  if controllers = [] then host
  else
    let host := disconnectAll answers.disconnected controllers host
    let host := if host.discoveryConf.isSome ∧ answers.removed then
        { host with discoveryConf := none } else host
    if answers.disabled then
      { host with enabled := Function.update host.enabled .nvme_connect false } else host

/-- Every command succeeds. -/
def succeeding : Answers := ⟨true, fun _ => true, true, true⟩

/-- Nothing of the configuration is left: no controller is connected, the file is gone, and neither
service is enabled. -/
structure Deconfigured (subsystemNqn : String) (host : Host) : Prop where
  disconnected : host.paths subsystemNqn = []
  removed : host.discoveryConf = none
  disabled : ∀ serviceName, host.enabled serviceName = false

/-! ### Runs of the host -/

/-- What happens to the host. -/
inductive Event where
  | configure (written : Bool) (enable : Service → Enabling)
  | connect (nqn traddr : String)
  | disconnect (name : String)
  | lost (name : String)

/-- One event. -/
def step (nvme : Nvme) (targetIps : List String) (targetPort : Nat) (host : Host) :
    Event → Option Host
  | .configure written enable =>
    some (configurePersistence targetIps targetPort written enable host)
  | .connect nqn traddr => some (host.connect nvme nqn traddr)
  | .disconnect name => some (host.disconnect name)
  | .lost name => some (host.disconnect name)

/-- A host that was never configured for the subsystem. -/
def Initial (subsystemNqn : String) (host : Host) : Prop := Deconfigured subsystemNqn host

/-! ### What deconfiguring does -/

/-- After the loop the listed controllers are gone, and nothing else changed. -/
theorem disconnectAll_eq (names : List String) (host : Host) :
    disconnectAll (fun _ => true) names host =
      { host with
        controllers := host.controllers.filter fun controller => controller.name ∉ names } := by
  induction names generalizing host with
  | nil => simp [disconnectAll]
  | cons name rest inductionHypothesis =>
    simp only [disconnectAll, ↓reduceIte]
    rw [inductionHypothesis]
    simp only [Host.disconnect, List.filter_filter, List.mem_cons, not_or, Bool.decide_and,
      Bool.and_comm]

/-- With a controller connected, everything goes but the service `nvmf-autoconnect`. -/
theorem deconfigure_connected (nvme : Nvme) {subsystemNqn : String} {host : Host}
    (connected : host.paths subsystemNqn ≠ []) :
    (deconfigureNvmeTcp nvme subsystemNqn succeeding host).paths subsystemNqn = [] ∧
      (deconfigureNvmeTcp nvme subsystemNqn succeeding host).discoveryConf = none ∧
      (deconfigureNvmeTcp nvme subsystemNqn succeeding host).enabled =
        Function.update host.enabled .nvme_connect false := by
  have listed := getConnectedControllers_perm nvme subsystemNqn host
  have some_listed : getConnectedControllers nvme subsystemNqn true host ≠ [] := fun empty =>
    connected ((getConnectedControllers_eq_nil_iff nvme subsystemNqn host).mp empty)
  simp only [deconfigureNvmeTcp, succeeding, some_listed, ↓reduceIte, disconnectAll_eq, and_true]
  refine ⟨?_, ?_, ?_⟩
  · refine List.filter_eq_nil_iff.mpr fun controller member same => ?_
    have gone : controller ∈ host.controllers ∧
        controller.name ∉ getConnectedControllers nvme subsystemNqn true host := by
      split at member <;> simpa using member
    exact gone.2 (listed.mem_iff.mpr (List.mem_map_of_mem (List.mem_filter.mpr ⟨gone.1, same⟩)))
  · cases host.discoveryConf <;> simp
  · split <;> rfl

/-- Without one, nothing changes. -/
theorem deconfigure_disconnected (nvme : Nvme) {subsystemNqn : String} {host : Host}
    (disconnected : host.paths subsystemNqn = []) :
    deconfigureNvmeTcp nvme subsystemNqn succeeding host = host := by
  have none_listed := (getConnectedControllers_eq_nil_iff nvme subsystemNqn host).mpr disconnected
  simp only [deconfigureNvmeTcp, succeeding, none_listed, ↓reduceIte]

/-- The state from which deconfiguring leaves nothing: the service that is never disabled is not
enabled, and a controller is connected, or there is nothing else to remove. -/
structure Removable (subsystemNqn : String) (host : Host) : Prop where
  fallback : host.enabled .nvmf_autoconnect = false
  noticed : host.paths subsystemNqn ≠ [] ∨
    (host.discoveryConf = none ∧ host.enabled .nvme_connect = false)

/-- It is that state exactly. -/
theorem deconfigured_iff (nvme : Nvme) (subsystemNqn : String) (host : Host) :
    Deconfigured subsystemNqn (deconfigureNvmeTcp nvme subsystemNqn succeeding host) ↔
      Removable subsystemNqn host := by
  by_cases connected : host.paths subsystemNqn = []
  · rw [deconfigure_disconnected nvme connected]
    constructor
    · exact fun clean => ⟨clean.disabled _, .inr ⟨clean.removed, clean.disabled _⟩⟩
    · rintro ⟨fallback, present | ⟨removed, disabled⟩⟩
      · exact absurd connected present
      · exact ⟨connected, removed, by rintro (_ | _) <;> assumption⟩
  · obtain ⟨disconnected, removed, services⟩ := deconfigure_connected nvme connected
    constructor
    · intro clean
      refine ⟨?_, .inl connected⟩
      simpa [services] using clean.disabled .nvmf_autoconnect
    · rintro ⟨fallback, -⟩
      refine ⟨disconnected, removed, ?_⟩
      rintro (_ | _) <;> simp [services, fallback]

/-! ### Runs that can be undone -/

/-- The host is configured while a controller is connected, and `nvme-connect` is enabled or no
service is. Once it is configured, the last controller stays. -/
def Careful (subsystemNqn : String) (host : Host) : Event → Prop
  | .configure _ enable => host.paths subsystemNqn ≠ [] ∧
      (enable .nvme_connect = .enabled ∨ enable .nvmf_autoconnect ≠ .enabled)
  | .connect _ _ => True
  | .disconnect name | .lost name => (host.disconnect name).paths subsystemNqn ≠ [] ∨
      (host.discoveryConf = none ∧ host.enabled .nvme_connect = false)

/-- Configuring keeps the controllers. Without the fallback it keeps `nvmf-autoconnect`. -/
theorem configurePersistence_spec (targetIps : List String) (targetPort : Nat) (written : Bool)
    (enable : Service → Enabling) (host : Host) :
    (configurePersistence targetIps targetPort written enable host).controllers =
        host.controllers ∧
      (enable .nvme_connect = .enabled ∨ enable .nvmf_autoconnect ≠ .enabled →
        (configurePersistence targetIps targetPort written enable host).enabled
          .nvmf_autoconnect = host.enabled .nvmf_autoconnect) := by
  by_cases first : enable .nvme_connect = .enabled <;>
    by_cases second : enable .nvmf_autoconnect = .enabled <;>
      cases written <;> simp [configurePersistence, enableFirst, first, second]

/-- A connection keeps the paths that are there. -/
theorem paths_connect (nvme : Nvme) {subsystemNqn : String} {host : Host}
    (present : host.paths subsystemNqn ≠ []) (nqn traddr : String) :
    (host.connect nvme nqn traddr).paths subsystemNqn ≠ [] := by
  rw [Host.paths, Host.connect, List.filter_append]
  exact List.append_ne_nil_of_left_ne_nil present _

/-- A careful step keeps the host removable. -/
theorem step_removable {nvme : Nvme} {targetIps : List String} {targetPort : Nat}
    {subsystemNqn : String} {host after : Host} {event : Event}
    (removable : Removable subsystemNqn host) (careful : Careful subsystemNqn host event)
    (taken : step nvme targetIps targetPort host event = some after) :
    Removable subsystemNqn after := by
  cases event with
  | configure written enable =>
    cases Option.some.inj taken
    obtain ⟨kept, services⟩ :=
      configurePersistence_spec targetIps targetPort written enable host
    exact ⟨(services careful.2).trans removable.fallback, .inl (by
      rw [Host.paths, kept]
      exact careful.1)⟩
  | connect nqn traddr =>
    cases Option.some.inj taken
    exact ⟨removable.fallback, removable.noticed.imp
      (fun present => paths_connect nvme present nqn traddr) id⟩
  | disconnect name =>
    cases Option.some.inj taken
    exact ⟨removable.fallback, careful⟩
  | lost name =>
    cases Option.some.inj taken
    exact ⟨removable.fallback, careful⟩

/-- After a careful run deconfiguring leaves nothing. -/
theorem deconfigured_of_careful (nvme : Nvme) {subsystemNqn : String} {targetIps : List String}
    {targetPort : Nat} {host : Host}
    (reached : Reachable (step nvme targetIps targetPort) (Careful subsystemNqn)
      (Initial subsystemNqn) host) :
    Deconfigured subsystemNqn (deconfigureNvmeTcp nvme subsystemNqn succeeding host) := by
  refine (deconfigured_iff nvme subsystemNqn host).mpr ?_
  refine Reachable.invariant (Removable subsystemNqn) ?_ ?_ reached
  · exact fun clean begins => ⟨begins.disabled _, .inr ⟨begins.removed, begins.disabled _⟩⟩
  · exact fun before event after _ earlier careful taken =>
      step_removable earlier careful taken

/-! ### Every run -/

/-- For every host that configuring, connecting, disconnecting and losing connections lead to:
deconfiguring it, with every command successful, leaves nothing exactly if `nvmf-autoconnect` is
not enabled, and either a controller of the subsystem is connected or neither the file nor
`nvme-connect` is there. -/
theorem deconfigure_complete_iff (nvme : Nvme) (subsystemNqn : String)
    (targetIps : List String) (targetPort : Nat) (host : Host)
    (_reached : Reachable (step nvme targetIps targetPort) Unrestricted (Initial subsystemNqn)
      host) :
    Deconfigured subsystemNqn (deconfigureNvmeTcp nvme subsystemNqn succeeding host) ↔
      Removable subsystemNqn host :=
  deconfigured_iff nvme subsystemNqn host

/-- A host without any configuration. -/
def clean : Host := ⟨[], none, fun _ => false⟩

/-- One path, the file and a service. -/
def configured (enable : Service → Enabling) : Host :=
  configurePersistence ["192.168.1.10"] 4420 true enable
    (clean.connect groupedNvme "nqn" "192.168.1.10")

/-- It is reached by connecting and configuring. -/
theorem configured_reachable (enable : Service → Enabling) :
    Reachable (step groupedNvme ["192.168.1.10"] 4420) Unrestricted (Initial "nqn")
      (configured enable) := by
  have begins : Initial "nqn" clean := ⟨rfl, rfl, fun _ => rfl⟩
  exact .next _ (.configure true enable) _
    (.next _ (.connect "nqn" "192.168.1.10") _ (.start clean begins) trivial rfl) trivial rfl

/-- Deconfiguring that host leaves nothing if `nvme-connect` could be enabled. -/
theorem configured_deconfigured : Deconfigured "nqn" (deconfigureNvmeTcp groupedNvme "nqn"
    succeeding (configured fun _ => .enabled)) :=
  (deconfigure_complete_iff groupedNvme "nqn" ["192.168.1.10"] 4420 _
    (configured_reachable fun _ => .enabled)).mpr ⟨by decide, .inl (by decide)⟩

/-- The fallback stays enabled, and so does everything if the connection is lost first. -/
theorem configuration_left :
    ¬ (∀ (nvme : Nvme) (subsystemNqn : String) targetIps targetPort host,
      Reachable (step nvme targetIps targetPort) Unrestricted (Initial subsystemNqn) host →
      host.paths subsystemNqn ≠ [] →
      Deconfigured subsystemNqn (deconfigureNvmeTcp nvme subsystemNqn succeeding host)) ∧
    ¬ (∀ (nvme : Nvme) (subsystemNqn : String) targetIps targetPort host,
      Reachable (step nvme targetIps targetPort) Unrestricted (Initial subsystemNqn) host →
      host.enabled .nvmf_autoconnect = false →
      Deconfigured subsystemNqn (deconfigureNvmeTcp nvme subsystemNqn succeeding host)) := by
  constructor
  · intro always
    have left := always groupedNvme "nqn" ["192.168.1.10"] 4420
      (configured fun serviceName =>
        if serviceName = .nvmf_autoconnect then .enabled else .notEnabled)
      (configured_reachable _) (by decide)
    exact Bool.noConfusion ((deconfigured_iff groupedNvme "nqn" _).mp left).fallback
  · intro always
    have left := always groupedNvme "nqn" ["192.168.1.10"] 4420
      ((configured fun _ => .enabled).disconnect "nvme0")
      (.next _ (.lost "nvme0") _ (configured_reachable _) trivial rfl) (by decide)
    rcases ((deconfigured_iff groupedNvme "nqn" _).mp left).noticed with connected | gone
    · exact connected (by decide)
    · exact Option.some_ne_none _ gone.1

end AvocadoMisc.NvmeTcp.Deconfigure
