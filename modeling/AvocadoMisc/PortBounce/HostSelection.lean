import AvocadoMisc.Library.LineTools
import AvocadoMisc.Library.ShrinkingLoops
import AvocadoMisc.PortBounce.SwitchState

/-!
# The hosts whose ports are bounced

`port_bounce.py` takes its hosts from WWIDs of multipath devices. `setUp` goes through the list of
WWIDs and removes from it the ones that the system does not have, while it goes through it. For
each path of the others, `get_fc_host` looks for a directory with a host in the lines of the listing
of `/sys/block` in which `grep` finds the name of the path.

So the WWID behind an unknown one is skipped: its hosts are missing, and when it is unknown, too,
it stays in the list. And the name of a path may be found in the line of another one.
-/

namespace AvocadoMisc.PortBounce.HostSelection

open Library.LineTools Library.Parts Library.Scripts Library.ShrinkingLoops Library.Text SwitchState

/-- A character string. -/
abbrev Text := List Char

/-! ### The listing of block devices -/

/-- What a directory of a host has in its name. -/
def hostWord : Text := "host".toList

/-- A line of `ls -l /sys/block/`: what is in front of the name, the name, and the directories of
the link, without the two dots at its beginning and the name at its end. -/
structure Entry where
  front : Text
  name : Text
  dirs : List Text
  flat : '/' ∉ front ++ name
  noHost : ¬hostWord <:+: front ++ name
  flatDirs : ∀ dir ∈ dirs, '/' ∉ dir

/-- What comes before the first slash. -/
def Entry.title (entry : Entry) : Text := entry.front ++ (entry.name ++ " -> ..".toList)

/-- What comes after it. -/
def Entry.link (entry : Entry) : Text :=
  entry.dirs.flatMap (fun dir => dir ++ ['/']) ++ entry.name

/-- The line. -/
def Entry.line (entry : Entry) : Text := entry.title ++ '/' :: entry.link

/-- The FC host of a device is the first host on the way to it. -/
def Entry.host (entry : Entry) : Option Text := entry.dirs.find? (contains hostWord)

/-! ### Setting up -/

/-- The machine and the switch: the hosts of a PCI address, the WWIDs and their paths, the block
devices, the port names of the hosts, and what the switch prints. The name of a path, such as
`sda`, is a pattern of `grep` that stands for itself. -/
structure Machine where
  interfaces : Text → List Text
  systemWwids : List Text
  paths : Text → List Text
  listing : List Entry
  portName : Text → Text
  connects : Bool
  switch : Text → Except Text Text

/-- The parameters that the hosts depend on. -/
structure Params where
  switchName : Text
  wwids : Option Text
  pciDevices : Option Text

/-- What the test keeps. A host that is not found is `None`. -/
structure Selection where
  wwids : List Text
  host : List (Option Text)
  portIds : List Text
  dic : List (Text × Option Text)

/-- How setting up is stopped. -/
inductive Ending where
  | failed (message : Text)
  | cancelled (message : Text)
  | raised

/-- A part of setting up. -/
abbrev Script := EStateM Ending Selection

/-- The output of `ls -l /sys/block/ | grep -i`, for the name of a path. -/
def Machine.listed (machine : Machine) (path : Text) : Text :=
  ['\n'].intercalate
    (("total 0".toList :: machine.listing.map Entry.line).filter (containsIgnoreCase path))

/-- `get_fc_host`. -/
def getFcHost (machine : Machine) (path : Text) : Option Text :=
  ((machine.listed path).splitOn '/').find? (contains hostWord)

/-- A text in pieces of two characters. -/
def pairs : Text → List Text
  | [] => []
  | [c] => [[c]]
  | c :: d :: rest => [c, d] :: pairs rest

/-- `get_wwpn`. -/
def getWwpn (machine : Machine) (fcHost : Text) : Text :=
  [':'].intercalate (pairs ((machine.portName fcHost).drop 2))

/-- `run_command`. -/
def runCommand (machine : Machine) (command : Text) : Script Text :=
  match machine.switch command with
  | .ok stdoutText => pure (sendOnlyResult command stdoutText)
  | .error details =>
    throw (.failed ("Failed to execute command '".toList ++ command ++ "': ".toList ++ details))

/-- The line of `nodefind` with the number of the port. -/
def isPortIndex (line : Text) : Bool :=
  contains "Port Index".toList line || contains "port index".toList line

/-- What the switch says of the port behind a WWPN. When `grep` finds nothing, the whole output is
searched. -/
def nodefind (machine : Machine) (wwpn : Text) : Script Text := do
  let switchInfo ← runCommand machine
    ("nodefind ".toList ++ wwpn ++ " | grep -i \"Port Index\"".toList)
  if strip charSpace switchInfo = [] then do
    let fullOutput ← runCommand machine ("nodefind ".toList ++ wwpn)
    pure (((fullOutput.splitOn '\n').find? isPortIndex).getD switchInfo)
  else pure switchInfo

/-- `get_switch_port`. -/
def getSwitchPort (machine : Machine) (host : Text) : Script Text := do
  let wwpn := getWwpn machine host
  let switchInfo ← nodefind machine wwpn
  match (words charSpace switchInfo).getLast? with
  | some port => pure port
  | none =>
    throw (.failed ("Could not find switch port for host ".toList ++ host ++ " with wwpn ".toList ++
      wwpn))

/-- `switch_login`. -/
def switchLogin (machine : Machine) (ip : Text) : Script PUnit :=
  demand machine.connects (.failed ("Failed to establish SSH connection to ".toList ++ ip))

/-- The hosts of the PCI addresses. -/
def hostsOfAddresses (machine : Machine) (pciAddress : Text) : Script PUnit :=
  forEach (fun adr =>
    match (machine.interfaces adr).head? with
    | some host => modify fun self => { self with host := self.host ++ [some host] }
    | none => throw .raised) (pciAddress.splitOn ' ')

/-- A WWID is one of the system's. -/
def Machine.isKnown (machine : Machine) (wwid : Text) : Bool :=
  machine.systemWwids.contains wwid

/-- The loop over the WWIDs: the list in the end, and the hosts of the paths. -/
def hostsOfWwids (machine : Machine) : Script PUnit :=
  modify fun self =>
    let loop := shrinkFrom machine.isKnown self.wwids 0
    { self with
      wwids := loop.2
      host := self.host ++ loop.1.flatMap fun wwid => (machine.paths wwid).map (getFcHost machine) }

/-- The host of a port is set. -/
def setHost (portId : Text) (host : Option Text) (dic : List (Text × Option Text)) :
    List (Text × Option Text) :=
  if dic.any (fun pair => pair.1 = portId) then
    dic.map fun pair => if pair.1 = portId then (portId, host) else pair
  else dic ++ [(portId, host)]

/-- The port of a host is asked for, and the host is kept for the port. -/
def addPort (machine : Machine) (host : Option Text) : Script PUnit := do
  let portId ← getSwitchPort machine (host.getD "None".toList)
  modify fun self =>
    { self with portIds := self.portIds ++ [portId], dic := setHost portId host self.dic }

/-- What follows when the hosts are known. -/
def findPorts (machine : Machine) (params : Params) : Script PUnit := do
  switchLogin machine params.switchName
  let self ← get
  forEach (addPort machine) self.host

/-- `setUp`: the hosts are those of the addresses if there are any, or else those of the WWIDs, each
host once, and then their ports are looked for. Without either it cancels. -/
def setUp (machine : Machine) (params : Params) : Script PUnit := do
  let wwids ←
    match params.wwids with
    | none => throw .raised
    | some wwids => pure (wwids.splitOn ' ')
  set (⟨wwids, [], [], []⟩ : Selection)
  if (params.pciDevices.getD []) ≠ [] then hostsOfAddresses machine (params.pciDevices.getD [])
  else if wwids ≠ [] then hostsOfWwids machine
  else throw (.cancelled "provide wwids or pci_address of the adapter".toList)
  modify fun self => { self with host := self.host.eraseDups }
  findPorts machine params

/-! ### What is asked of the selection -/

/-- A path has a host in its own line. -/
def Machine.HasHost (machine : Machine) (path : Text) (host : Option Text) : Prop :=
  ∃ entry ∈ machine.listing, entry.name = path ∧ entry.host = host

/-- The hosts are those of all paths of all requested WWIDs of the system, each once, and these
WWIDs are left. -/
structure Selects (machine : Machine) (requested : List Text) (after : Selection) : Prop where
  hosts : ∀ host, host ∈ after.host ↔ ∃ wwid ∈ requested, wwid ∈ machine.systemWwids ∧
    ∃ path ∈ machine.paths wwid, machine.HasHost path host
  once : after.host.Nodup
  wwids : ∀ wwid, wwid ∈ after.wwids ↔ wwid ∈ requested ∧ wwid ∈ machine.systemWwids

/-- The host in the first line with a host in which `grep` finds the path. -/
def Machine.firstHost (machine : Machine) (path : Text) : Option Text :=
  (machine.listing.filter fun entry => containsIgnoreCase path entry.line).findSome? Entry.host

/-! ### The host of a path -/

/-- Text without a slash and without a host in front of a text changes nothing. -/
theorem find_splitOn_skip {piece : Text} (flat : '/' ∉ piece) (noHost : ¬hostWord <:+: piece)
    (rest : Text) :
    ((piece ++ '/' :: rest).splitOn '/').find? (contains hostWord) =
      (rest.splitOn '/').find? (contains hostWord) := by
  rw [List.splitOn_append_cons_self_of_not_mem flat, List.find?_cons_of_neg]
  simpa [contains] using noHost

/-- The directories of a link come before what follows them. -/
theorem find_splitOn_dirs {dirs : List Text} (flat : ∀ dir ∈ dirs, '/' ∉ dir) (rest : Text) :
    ((dirs.flatMap (fun dir => dir ++ ['/']) ++ rest).splitOn '/').find? (contains hostWord) =
      (dirs.find? (contains hostWord)).or
        ((rest.splitOn '/').find? (contains hostWord)) := by
  induction dirs with
  | nil => rfl
  | cons dir others inductionHypothesis =>
    have further := inductionHypothesis fun other member =>
      flat other (List.mem_cons_of_mem dir member)
    rw [List.flatMap_cons, List.append_assoc, List.append_assoc, List.singleton_append,
      List.splitOn_append_cons_self_of_not_mem (flat dir List.mem_cons_self)]
    cases isHost : contains hostWord dir with
    | true => rw [List.find?_cons_of_pos isHost, List.find?_cons_of_pos isHost]; rfl
    | false =>
      have notHost : ¬contains hostWord dir = true := by simp [isHost]
      rw [List.find?_cons_of_neg notHost, List.find?_cons_of_neg notHost, further]

/-- A line and what follows it, cut at the first slash. -/
theorem intercalate_line (entry : Entry) (others : List Text) :
    ['\n'].intercalate (entry.line :: others) = entry.title ++ '/' ::
      (entry.dirs.flatMap (fun dir => dir ++ ['/']) ++
        ['\n'].intercalate (entry.name :: others)) := by
  cases others with
  | nil => simp [Entry.line, Entry.link]
  | cons other rest =>
    rw [List.intercalate_cons_cons, List.intercalate_cons_cons]
    simp [Entry.line, Entry.link]

/-- There is no slash before the link. -/
theorem Entry.title_flat (entry : Entry) : '/' ∉ entry.title := by
  have flat := entry.flat
  simp only [List.mem_append, not_or] at flat
  simp only [Entry.title, List.mem_append, not_or]
  exact ⟨flat.1, flat.2, by decide⟩

/-- There is no host before the link. -/
theorem Entry.title_noHost (entry : Entry) : ¬hostWord <:+: entry.title := by
  have title : entry.title = (entry.front ++ entry.name) ++ ' ' :: "-> ..".toList := by
    rw [Entry.title, List.append_assoc]
    rfl
  rw [title, infix_append_cons_iff (by decide)]
  rintro (inFront | inArrow)
  · exact entry.noHost inFront
  · revert inArrow
    decide

/-- The name is no host. -/
theorem Entry.name_noHost (entry : Entry) : ¬hostWord <:+: entry.name := fun inName =>
  entry.noHost (inName.trans (List.suffix_append entry.front entry.name).isInfix)

/-- There is no slash in the name. -/
theorem Entry.name_flat (entry : Entry) : '/' ∉ entry.name := fun member =>
  entry.flat (List.mem_append_right entry.front member)

/-- What the lines of some entries have to say when something without a host is in front of them.

Proof: by induction on the entries. The name of an entry is in front of the next ones. -/
theorem find_splitOn_lines {piece : Text} (flat : '/' ∉ piece) (noHost : ¬hostWord <:+: piece)
    (entries : List Entry) :
    ((['\n'].intercalate (piece :: entries.map Entry.line)).splitOn '/').find?
      (contains hostWord) = entries.findSome? Entry.host := by
  induction entries generalizing piece with
  | nil =>
    rw [List.map_nil, List.intercalate_singleton, List.splitOn_eq_singleton flat]
    simp [contains, noHost]
  | cons entry rest inductionHypothesis =>
    have together : ¬hostWord <:+: piece ++ '\n' :: entry.title := by
      rw [infix_append_cons_iff (by decide)]
      exact fun either => either.elim noHost entry.title_noHost
    have flatTogether : '/' ∉ piece ++ '\n' :: entry.title := by
      rw [List.mem_append, List.mem_cons]
      rintro (inPiece | same | inTitle)
      · exact flat inPiece
      · exact absurd same (by decide)
      · exact entry.title_flat inTitle
    have whole : ['\n'].intercalate (piece :: (entry :: rest).map Entry.line) =
        (piece ++ '\n' :: entry.title) ++ '/' ::
          (entry.dirs.flatMap (fun dir => dir ++ ['/']) ++
            ['\n'].intercalate (entry.name :: rest.map Entry.line)) := by
      rw [List.map_cons, List.intercalate_cons_cons, intercalate_line]
      simp
    rw [whole, find_splitOn_skip flatTogether together, find_splitOn_dirs entry.flatDirs,
      inductionHypothesis entry.name_flat entry.name_noHost, List.findSome?_cons, Entry.host]
    cases entry.dirs.find? (contains hostWord) <;> rfl

/-- `get_fc_host` finds the host in the first line with a host that is selected. -/
theorem getFcHost_eq (machine : Machine) (path : Text) :
    getFcHost machine path = machine.firstHost path := by
  have selected : (machine.listing.map Entry.line).filter (containsIgnoreCase path) =
      (machine.listing.filter fun entry => containsIgnoreCase path entry.line).map Entry.line := by
    rw [List.filter_map]
    rfl
  rw [getFcHost, Machine.listed, Machine.firstHost, List.filter_cons, selected]
  split
  case isTrue => exact find_splitOn_lines (by decide) (by decide) _
  case isFalse =>
    cases machine.listing.filter fun entry => containsIgnoreCase path entry.line with
    | nil => rfl
    | cons entry rest =>
      rw [List.map_cons, intercalate_line, find_splitOn_skip entry.title_flat entry.title_noHost,
        find_splitOn_dirs entry.flatDirs, find_splitOn_lines entry.name_flat entry.name_noHost,
        List.findSome?_cons, Entry.host]
      cases entry.dirs.find? (contains hostWord) <;> rfl

/-! ### What setting up leaves -/

/-- Each value is in a list once when repetitions are erased. -/
theorem nodup_eraseDups {α : Type} [BEq α] [LawfulBEq α] (values : List α) :
    values.eraseDups.Nodup := by
  induction length : values.length using Nat.strongRecOn generalizing values with
  | ind bound inductionHypothesis =>
    cases values with
    | nil => exact List.nodup_nil
    | cons value rest =>
      have shorter : (rest.filter fun other => !other == value).length < bound := by
        rw [← length, List.length_cons]
        exact Nat.lt_succ_of_le (List.length_filter_le _ rest)
      rw [List.eraseDups_cons, List.nodup_cons]
      refine ⟨?_, inductionHypothesis _ shorter _ rfl⟩
      simp [List.mem_eraseDups]

/-- Asking the switch changes nothing. -/
theorem runCommand_keeps (Holds : Selection → Prop) (machine : Machine) (command : Text) :
    Keeps Holds (runCommand machine command) := by
  rw [runCommand]
  split
  · exact Keeps.pure _
  · exact Keeps.throw _

/-- Nor does asking for a port. -/
theorem getSwitchPort_keeps (Holds : Selection → Prop) (machine : Machine) (host : Text) :
    Keeps Holds (getSwitchPort machine host) := by
  rw [getSwitchPort]
  apply Keeps.bind
  · rw [nodefind]
    apply (runCommand_keeps Holds machine _).bind
    intro switchInfo
    apply Keeps.ite
    · exact (runCommand_keeps Holds machine _).bind fun _ => Keeps.pure _
    · exact Keeps.pure _
  · intro switchInfo
    split
    · exact Keeps.pure _
    · exact Keeps.throw _

/-- Looking for the ports changes neither the hosts nor the WWIDs. -/
theorem findPorts_keeps (machine : Machine) (params : Params) (host : List (Option Text))
    (wwids : List Text) :
    Keeps (fun self : Selection => self.host = host ∧ self.wwids = wwids)
      (findPorts machine params) := by
  rw [findPorts]
  apply Keeps.bind
  · exact Keeps.demand _ _
  intro _
  apply Keeps.bind
  · exact fun self holds => holds
  intro self
  apply Keeps.forEach
  intro value _
  rw [addPort]
  apply Keeps.bind
  · exact getSwitchPort_keeps _ machine _
  intro portId
  exact Keeps.modify fun self holds => holds

/-- The hosts and the WWIDs in the end, when the hosts are taken from WWIDs. -/
theorem leaves_setUp {machine : Machine} {params : Params} {wwids : Text}
    (given : params.wwids = some wwids) (noAddress : params.pciDevices.getD [] = [])
    (before : Selection) :
    (leaves (setUp machine params) before).host =
        ((seen machine.isKnown (wwids.splitOn ' ')).flatMap fun wwid =>
          (machine.paths wwid).map machine.firstHost).eraseDups ∧
      (leaves (setUp machine params) before).wwids.Perm
        (left machine.isKnown (wwids.splitOn ' ')) := by
  obtain ⟨looked, remains⟩ := shrinkFrom_zero machine.isKnown (wwids.splitOn ' ')
  have firstHosts : getFcHost machine = machine.firstHost := funext (getFcHost_eq machine)
  have some_wwid : wwids.splitOn ' ' ≠ [] := List.splitOn_ne_nil ' ' wwids
  have ran : leaves (setUp machine params) before = leaves (findPorts machine params)
      { wwids := (shrinkFrom machine.isKnown (wwids.splitOn ' ') 0).2
        host := ([] ++ (shrinkFrom machine.isKnown (wwids.splitOn ' ') 0).1.flatMap fun wwid =>
            (machine.paths wwid).map (getFcHost machine)).eraseDups
        portIds := []
        dic := [] } := by
    simp only [setUp, given, noAddress, pure_bind, ne_eq, not_true_eq_false, if_false, some_wwid,
      not_false_eq_true, if_true]
    rfl
  rw [looked, firstHosts, List.nil_append] at ran
  obtain ⟨hosts, wwidsLeft⟩ := findPorts_keeps machine params _ _ (Selection.mk _ _ [] [])
    (And.intro rfl rfl)
  rw [ran]
  exact ⟨hosts, wwidsLeft ▸ remains⟩

/-! ### The verdict -/

/-- The hosts are selected exactly when no two unknown WWIDs are next to each other in the list,
and the first lines for the paths of the known ones that are not directly behind an unknown one
have the hosts of all paths of all known ones. -/
theorem selects_iff {machine : Machine} {params : Params} {wwids : Text}
    (given : params.wwids = some wwids) (noAddress : params.pciDevices.getD [] = [])
    (before : Selection) :
    Selects machine (wwids.splitOn ' ') (leaves (setUp machine params) before) ↔
      ((wwids.splitOn ' ').IsChain fun first second =>
        machine.isKnown first = true ∨ machine.isKnown second = true) ∧
      ∀ host,
        (∃ wwid ∈ unshadowed machine.isKnown true (wwids.splitOn ' '),
          ∃ path ∈ machine.paths wwid, machine.firstHost path = host) ↔
        ∃ wwid ∈ wwids.splitOn ' ', wwid ∈ machine.systemWwids ∧
          ∃ path ∈ machine.paths wwid, machine.HasHost path host := by
  obtain ⟨hosts, remains⟩ := leaves_setUp given noAddress before
  have inHosts : ∀ host, host ∈ (leaves (setUp machine params) before).host ↔
      ∃ wwid ∈ seen machine.isKnown (wwids.splitOn ' '),
        ∃ path ∈ machine.paths wwid, machine.firstHost path = host := by
    intro host
    rw [hosts, List.mem_eraseDups]
    simp only [List.mem_flatMap, List.mem_map]
  have inLeft : (∀ wwid, wwid ∈ (leaves (setUp machine params) before).wwids ↔
      wwid ∈ wwids.splitOn ' ' ∧ wwid ∈ machine.systemWwids) ↔
      (wwids.splitOn ' ').IsChain fun first second =>
        machine.isKnown first = true ∨ machine.isKnown second = true := by
    rw [← forall_mem_left_iff]
    simp only [remains.mem_iff, Machine.isKnown, List.contains_iff_mem]
  constructor
  · intro selects
    have chain := inLeft.mp selects.wwids
    refine ⟨chain, fun host => ?_⟩
    rw [← seen_eq_unshadowed _ chain, ← inHosts, selects.hosts]
  · rintro ⟨chain, sameHosts⟩
    refine ⟨fun host => ?_, ?_, inLeft.mpr chain⟩
    · rw [inHosts, seen_eq_unshadowed _ chain, sameHosts]
    · rw [hosts]
      exact nodup_eraseDups _

/-- A disk behind a host. -/
def diskEntry : Entry where
  front := "lrwxrwxrwx 1 root root 0 Jan  1 00:00 ".toList
  name := "sda".toList
  dirs := ["devices".toList, "host1".toList, "block".toList]
  flat := by decide +kernel
  noHost := by decide +kernel
  flatDirs := by decide +kernel

/-- A machine with one disk. -/
def oneDisk : Machine where
  interfaces := fun _ => []
  systemWwids := ["3600a".toList]
  paths := fun _ => ["sda".toList]
  listing := [diskEntry]
  portName := fun _ => "0x100000109b".toList
  connects := true
  switch := fun _ => .ok "Port Index: 4".toList

/-- Its WWID and another one are requested. -/
def requests (wwids : String) : Params := ⟨"switch".toList, some wwids.toList, none⟩

/-- Nothing is kept yet. -/
def fresh : Selection := ⟨[], [], [], []⟩

/-- With the unknown WWID behind the known one, the host is selected. -/
theorem selects_oneDisk :
    Selects oneDisk ("3600a 3600b".toList.splitOn ' ')
      (leaves (setUp oneDisk (requests "3600a 3600b")) fresh) := by
  refine (selects_iff rfl rfl fresh).mpr ⟨by decide +kernel, fun host => ?_⟩
  have looked : unshadowed oneDisk.isKnown true ("3600a 3600b".toList.splitOn ' ') =
      ["3600a".toList] := by decide +kernel
  have found : oneDisk.firstHost "sda".toList = some "host1".toList := by decide +kernel
  have own : diskEntry.host = some "host1".toList := by decide +kernel
  rw [looked]
  constructor
  · rintro ⟨wwid, _, path, isPath, rfl⟩
    obtain rfl := List.mem_singleton.mp isPath
    refine ⟨"3600a".toList, by decide +kernel, by decide, "sda".toList, isPath, diskEntry, ?_⟩
    exact ⟨List.mem_singleton_self _, rfl, own.trans found.symm⟩
  · rintro ⟨wwid, _, _, path, isPath, entry, isEntry, _, rfl⟩
    obtain rfl := List.mem_singleton.mp isPath
    obtain rfl := List.mem_singleton.mp isEntry
    exact ⟨"3600a".toList, List.mem_singleton_self _, "sda".toList, isPath,
      found.trans own.symm⟩

/-- With the unknown WWID in front of the known one, no host is selected. -/
theorem not_selected :
    (leaves (setUp oneDisk (requests "3600b 3600a")) fresh).host = [] ∧
    ¬Selects oneDisk ("3600b 3600a".toList.splitOn ' ')
      (leaves (setUp oneDisk (requests "3600b 3600a")) fresh) := by
  have looked : seen oneDisk.isKnown ("3600b 3600a".toList.splitOn ' ') = [] := by
    decide +kernel
  have none : (leaves (setUp oneDisk (requests "3600b 3600a")) fresh).host = [] := by
    rw [(leaves_setUp rfl rfl fresh).1, looked]
    rfl
  refine ⟨none, fun selects => ?_⟩
  have own : oneDisk.HasHost "sda".toList diskEntry.host :=
    ⟨diskEntry, List.mem_singleton_self _, rfl, rfl⟩
  have missing := (selects.hosts diskEntry.host).mpr
    ⟨"3600a".toList, by decide +kernel, by decide, "sda".toList, List.mem_singleton_self _, own⟩
  rw [none] at missing
  cases missing

end AvocadoMisc.PortBounce.HostSelection
