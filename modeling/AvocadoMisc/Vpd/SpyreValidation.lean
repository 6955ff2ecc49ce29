import AvocadoMisc.Vpd.Parsers

/-!
# Validation of the Spyre vital product data

`test_spyre_lsvpd_validation` compares what `lsvpd` and `lscfg` print about each accelerator. It
looks the accelerators up by the location code that `lscfg` prints, takes the block of `lsvpd`
under the address, and compares ten fields.

The test should list every reason to fail. It does not where the comparison meets a `None`, where
`lscfg` prints no location code for an accelerator, and where a later block under the same address
takes the place of an earlier one. A field with the name of the list of missing fields makes it
fail without a reason.
-/

namespace AvocadoMisc.Vpd.SpyreValidation

open Library.Text Parsers

/-! ### The test -/

/-- The class of the devices that are validated. -/
def acceleratorClass : Text := "accelerator".toList

/-- The key of the location code. -/
def locationCode : Text := "YL".toList

/-- What the tools of the machine print. The class of a device may be unknown: then its lookup
raises, and the device is left out. -/
structure Report where
  pciDevices : List Text
  className : Text → Option Text
  lsvpd : Text
  lscfg : Text → Text

/-- `run_cmd_out`. -/
def runCmdOut (output : Text) : Text := strip charSpace output

/-- What `lscfg` says about a device. -/
def Report.lscfgData (report : Report) (dev : Text) : Text → Option Text :=
  parseLscfgOutput (runCmdOut (report.lscfg dev))

/-- The accelerators with a location code, in order. -/
def Report.found (report : Report) : List (Text × Text) :=
  report.pciDevices.filterMap fun dev =>
    if report.className dev = some acceleratorClass then
      (report.lscfgData dev locationCode).map (dev, ·)
    else none

/-- The addresses that are validated. -/
def Report.pciAddresses (report : Report) : List Text := report.found.map Prod.fst

/-- Their location codes. -/
def Report.locationCodes (report : Report) : List Text := report.found.map Prod.snd

/-- An entry of the list of failures. -/
inductive Failure where
  | noEntry
  | noBlock (dev : Text)
  | missing (dev : Text) (fields : List Text)
  | mismatch (dev key lsvpdVal lscfgVal : Text)
deriving DecidableEq

/-- The text of an entry. -/
def Failure.text : Failure → Text
  | .noEntry => "No lsvpd entry found for the Spyre card(s).".toList
  | .noBlock dev => dev ++ ": No lsvpd block found for this device".toList
  | .missing dev fields =>
    dev ++ ": lsvpd fields missing values: ".toList ++ ", ".toList.intercalate fields
  | .mismatch dev key lsvpdVal lscfgVal =>
    dev ++ ": ".toList ++ key ++ " mismatch - lsvpd: ".toList ++ lsvpdVal ++
      ", lscfg: ".toList ++ lscfgVal

/-- The message of a failed test. -/
def failMsg (failures : List Failure) : Text :=
  "Spyre device validation failed:\n".toList ++
    ['\n'].intercalate (failures.map Failure.text)

/-- An exception that nothing handles: `strip` of `None`, or `None` among the texts to join. -/
inductive Fault where
  | attributeError
  | typeError
deriving DecidableEq

/-- The compared fields: the key of `lsvpd` and that of `lscfg`. -/
def validations : List (Text × Text) :=
  [("TM".toList, "Machine Type-Model".toList),
    ("MF".toList, "Manufacturer Name".toList),
    ("PN".toList, "Part Number of assembly".toList),
    ("SN".toList, "Serial Number".toList),
    ("FN".toList, "Field Replaceable Unit Number".toList),
    ("EC".toList, "Engineering Change Level".toList),
    ("RL".toList, "Non-alterable ROM level".toList),
    ("CC".toList, "CC".toList),
    ("YC".toList, "YC".toList),
    ("YL".toList, "YL".toList)]

/-- The comparison of fields that both tools print. A field that one of them does not print is
passed over; one without a value raises, because `None` cannot be stripped. -/
def compareFields (dev : Text) (lsvpdData : Text → Option Value) (lscfgData : Text → Option Text) :
    List (Text × Text) → Except Fault (List Failure)
  | [] => .ok []
  | (lsvpdKey, lscfgKey) :: rest =>
    match lsvpdData lsvpdKey, lscfgData lscfgKey with
    | some value, some lscfgVal =>
      match value.first with
      | none => .error .attributeError
      | some lsvpdVal =>
        (compareFields dev lsvpdData lscfgData rest).map fun others =>
          if strip charSpace lsvpdVal ≠ strip charSpace lscfgVal then
            .mismatch dev lsvpdKey lsvpdVal lscfgVal :: others
          else others
    | _, _ => compareFields dev lsvpdData lscfgData rest

/-- The failures of a device with a block: the fields without values, if there are any, and then
those that differ. An exception leaves no list at all. -/
def validateBlock (dev : Text) (block : List Text) (lscfgData : Text → Option Text) :
    Except Fault (List Failure) :=
  let lsvpdData := parseLsvpdBlock block
  match lsvpdData missingFields with
  | none => compareFields dev lsvpdData lscfgData validations
  | some value =>
    match value.joined with
    | none => .error .typeError
    | some fields =>
      (compareFields dev lsvpdData lscfgData validations).map (Failure.missing dev fields :: ·)

/-- The failures of a device. -/
def validateDevice (report : Report) (spyreBlocks : List (Text × List Text)) (dev : Text) :
    Except Fault (List Failure) :=
  match spyreBlocks.lookup dev with
  | none => .ok [.noBlock dev]
  | some block => validateBlock dev block (report.lscfgData dev)

/-- The failures of the devices, in order. The first exception ends the test. -/
def validateAll (report : Report) (spyreBlocks : List (Text × List Text)) :
    List Text → Except Fault (List Failure)
  | [] => .ok []
  | dev :: rest =>
    (validateDevice report spyreBlocks dev).bind fun own =>
      (validateAll report spyreBlocks rest).map (own ++ ·)

/-- `test_spyre_lsvpd_validation`: the list of failures. The test fails with `failMsg` unless the
list is empty. -/
def testSpyreLsvpdValidation (report : Report) : Except Fault (List Failure) :=
  let spyreBlocks := extractSpyreBlock (runCmdOut report.lsvpd) report.locationCodes
  (validateAll report spyreBlocks report.pciAddresses).map fun failures =>
    if spyreBlocks = [] then .noEntry :: failures else failures

/-! ### The reasons to fail -/

/-- An accelerator of the machine. -/
def Report.Accelerator (report : Report) (dev : Text) : Prop :=
  dev ∈ report.pciDevices ∧ report.className dev = some acceleratorClass

/-- The blocks of a device: those under its address, with the location code of an accelerator. -/
def Report.ownBlocks (report : Report) (dev : Text) : List (List Text) :=
  Parsers.ownBlocks (runCmdOut report.lsvpd) report.locationCodes dev

/-- The reasons to fail, each with its entry of the list. -/
inductive Due (report : Report) : Failure → Prop where
  | noEntry (none : ∀ dev, report.ownBlocks dev = []) : Due report .noEntry
  | noBlock (dev : Text) (accelerator : report.Accelerator dev)
      (none : report.ownBlocks dev = []) : Due report (.noBlock dev)
  | missing (dev : Text) (accelerator : report.Accelerator dev) (block : List Text)
      (own : block ∈ report.ownBlocks dev) (some_missing : valueless block ≠ []) :
      Due report (.missing dev (valueless block))
  | mismatch (dev : Text) (accelerator : report.Accelerator dev) (block : List Text)
      (own : block ∈ report.ownBlocks dev) (lsvpdKey lscfgKey lsvpdVal lscfgVal : Text)
      (compared : (lsvpdKey, lscfgKey) ∈ validations)
      (first : firstValue block lsvpdKey = some lsvpdVal)
      (printed : report.lscfgData dev lscfgKey = some lscfgVal)
      (different : strip charSpace lsvpdVal ≠ strip charSpace lscfgVal) :
      Due report (.mismatch dev lsvpdKey lsvpdVal lscfgVal)

/-- The verdict that is wanted: the test runs to its end, it fails exactly when there is a reason,
and it lists every reason. -/
def Sound (report : Report) : Prop :=
  ∃ failures, testSpyreLsvpdValidation report = .ok failures ∧
    (failures ≠ [] ↔ ∃ failure, Due report failure) ∧
    ∀ failure, Due report failure → failure ∈ failures

/-! ### One block -/

/-- A compared field without a value that `lscfg` prints. -/
def MeetsNone (pairs : List (Text × Text)) (block : List Text) (lscfgData : Text → Option Text) :
    Prop :=
  ∃ pair ∈ pairs, pair.1 ∈ valueless block ∧ lscfgData pair.2 ≠ none

/-- The fields that differ. -/
def mismatches (dev : Text) (block : List Text) (lscfgData : Text → Option Text)
    (pairs : List (Text × Text)) : List Failure :=
  pairs.filterMap fun pair =>
    match firstValue block pair.1, lscfgData pair.2 with
    | some lsvpdVal, some lscfgVal =>
      if strip charSpace lsvpdVal ≠ strip charSpace lscfgVal then
        some (.mismatch dev pair.1 lsvpdVal lscfgVal)
      else none
    | _, _ => none

/-- The reasons that a block gives. -/
def blockReasons (dev : Text) (block : List Text) (lscfgData : Text → Option Text) :
    List Failure :=
  (if valueless block = [] then [] else [.missing dev (valueless block)]) ++
    mismatches dev block lscfgData validations

/-- What is listed for a block. A field of the name `missing_fields` counts as such a list. -/
def blockFailures (dev : Text) (block : List Text) (lscfgData : Text → Option Text) :
    List Failure :=
  (((parseLsvpdBlock block missingFields).bind Value.joined).map (Failure.missing dev)).toList ++
    mismatches dev block lscfgData validations

/-- The comparison lists the fields that differ, unless it meets a `None`.

Proof: by induction on the pairs. What stands first in the dictionary is known for every key. -/
theorem compareFields_eq (dev : Text) (block : List Text) (lscfgData : Text → Option Text)
    (pairs : List (Text × Text)) (fields : ∀ pair ∈ pairs, pair.1 ≠ missingFields)
    (values : ¬ MeetsNone pairs block lscfgData) :
    compareFields dev (parseLsvpdBlock block) lscfgData pairs =
      .ok (mismatches dev block lscfgData pairs) := by
  induction pairs with
  | nil => rfl
  | cons pair rest inductionHypothesis =>
    obtain ⟨lsvpdKey, lscfgKey⟩ := pair
    have first := first_parseLsvpdBlock block (fields _ List.mem_cons_self)
    have further := inductionHypothesis
      (fun other member => fields other (List.mem_cons_of_mem _ member))
      (fun ⟨other, member, meets⟩ => values ⟨other, List.mem_cons_of_mem _ member, meets⟩)
    cases printed : lscfgData lscfgKey with
    | none => simpa [compareFields, mismatches, printed] using further
    | some lscfgVal =>
      have given : lsvpdKey ∉ valueless block := fun gap =>
        values ⟨_, List.mem_cons_self, gap, by simp [printed]⟩
      rw [if_neg given] at first
      cases found : parseLsvpdBlock block lsvpdKey with
      | none =>
        rw [found, Option.map_none, eq_comm, Option.map_eq_none_iff] at first
        simpa [compareFields, mismatches, printed, found, first] using further
      | some value =>
        rw [found, Option.map_some, eq_comm, Option.map_eq_some_iff] at first
        obtain ⟨lsvpdVal, shown, same⟩ := first
        simp only [compareFields, found, printed, ← same, further, Except.map, mismatches,
          List.filterMap_cons, shown]
        split <;> rfl

/-- A `None` in the comparison raises, as it has no `strip`. The induction is on the compared pairs,
and a `None` further on raises too. -/
theorem compareFields_raises (dev : Text) (block : List Text) (lscfgData : Text → Option Text)
    (pairs : List (Text × Text)) (fields : ∀ pair ∈ pairs, pair.1 ≠ missingFields)
    (meets : MeetsNone pairs block lscfgData) :
    ∃ fault, compareFields dev (parseLsvpdBlock block) lscfgData pairs = .error fault := by
  induction pairs with
  | nil => simp [MeetsNone] at meets
  | cons pair rest inductionHypothesis =>
    obtain ⟨lsvpdKey, lscfgKey⟩ := pair
    have first := first_parseLsvpdBlock block (fields _ List.mem_cons_self)
    by_cases later : MeetsNone rest block lscfgData
    · obtain ⟨fault, raised⟩ := inductionHypothesis
        (fun other member => fields other (List.mem_cons_of_mem _ member)) later
      cases printed : lscfgData lscfgKey with
      | none => exact ⟨fault, by simpa [compareFields, printed] using raised⟩
      | some lscfgVal =>
        cases found : parseLsvpdBlock block lsvpdKey with
        | none => exact ⟨fault, by simpa [compareFields, printed, found] using raised⟩
        | some value =>
          cases text : value.first with
          | none => exact ⟨.attributeError, by simp [compareFields, printed, found, text]⟩
          | some lsvpdVal =>
            exact ⟨fault, by simp [compareFields, printed, found, text, raised, Except.map]⟩
    · obtain ⟨pair, member, gap, printed⟩ := meets
      rcases List.mem_cons.mp member with rfl | member
      · obtain ⟨lscfgVal, printed⟩ := Option.ne_none_iff_exists'.mp printed
        rw [if_pos gap] at first
        obtain ⟨value, found, text⟩ := Option.map_eq_some_iff.mp first
        exact ⟨.attributeError, by simp [compareFields, found, text, printed]⟩
      · exact absurd ⟨pair, member, gap, printed⟩ later

/-- No compared field has the name of the list of missing fields. -/
theorem validations_named : ∀ pair ∈ validations, pair.1 ≠ missingFields := by decide

/-- What is joined is never `None`: a missing value fills the list. -/
theorem joined_ne_none (block : List Text) {value : Value}
    (found : parseLsvpdBlock block missingFields = some value) : value.joined ≠ none := by
  by_cases complete : valueless block = []
  · have first := named_parseLsvpdBlock complete
    rw [found, Option.map_some, eq_comm, Option.map_eq_some_iff] at first
    obtain ⟨text, _, same⟩ := first
    cases value with
    | single shown =>
      cases same
      simp [Value.joined]
    | repeated shown others =>
      cases same
      simp [Value.joined]
  · have listed := missing_parseLsvpdBlock complete
    rw [found, Option.bind_some] at listed
    simp [listed]

/-- A block without a `None` in the comparison has its failures listed. -/
theorem validateBlock_eq (dev : Text) (block : List Text) (lscfgData : Text → Option Text)
    (values : ¬ MeetsNone validations block lscfgData) :
    validateBlock dev block lscfgData = .ok (blockFailures dev block lscfgData) := by
  have compared := compareFields_eq dev block lscfgData validations validations_named values
  cases found : parseLsvpdBlock block missingFields with
  | none => simp [validateBlock, blockFailures, found, compared]
  | some value =>
    obtain ⟨fields, joined⟩ := Option.ne_none_iff_exists'.mp (joined_ne_none block found)
    simp [validateBlock, blockFailures, found, joined, compared, Except.map]

theorem validateBlock_raises (dev : Text) (block : List Text) (lscfgData : Text → Option Text)
    (meets : MeetsNone validations block lscfgData) :
    ∃ fault, validateBlock dev block lscfgData = .error fault := by
  obtain ⟨fault, raised⟩ :=
    compareFields_raises dev block lscfgData validations validations_named meets
  cases found : parseLsvpdBlock block missingFields with
  | none => exact ⟨fault, by simpa [validateBlock, found] using raised⟩
  | some value =>
    obtain ⟨fields, joined⟩ := Option.ne_none_iff_exists'.mp (joined_ne_none block found)
    exact ⟨fault, by simp [validateBlock, found, joined, raised, Except.map]⟩

/-- Every value is there, but a field has the name of the list of missing fields. -/
def NamedMissing (block : List Text) : Prop :=
  valueless block = [] ∧ firstValue block missingFields ≠ none

/-- With a missing value, what is listed for a block are its reasons. -/
theorem blockFailures_of_missing {dev : Text} {block : List Text}
    {lscfgData : Text → Option Text} (some_missing : valueless block ≠ []) :
    blockFailures dev block lscfgData = blockReasons dev block lscfgData := by
  simp [blockFailures, blockReasons, missing_parseLsvpdBlock some_missing, some_missing]

/-- Without one it is the same, unless a field has that name. Then there is a failure anyway. -/
theorem blockFailures_of_complete {dev : Text} {block : List Text}
    {lscfgData : Text → Option Text} (complete : valueless block = []) :
    (NamedMissing block ∧ ∃ fields,
      blockFailures dev block lscfgData = .missing dev fields :: blockReasons dev block lscfgData) ∨
    (¬ NamedMissing block ∧
      blockFailures dev block lscfgData = blockReasons dev block lscfgData) := by
  have first := named_parseLsvpdBlock complete
  cases found : parseLsvpdBlock block missingFields with
  | none =>
    rw [found, Option.map_none, eq_comm, Option.map_eq_none_iff] at first
    exact .inr ⟨fun named => named.2 first, by simp [blockFailures, blockReasons, found, complete]⟩
  | some value =>
    obtain ⟨fields, joined⟩ := Option.ne_none_iff_exists'.mp (joined_ne_none block found)
    refine .inl ⟨⟨complete, fun none => ?_⟩, fields, ?_⟩
    · simp [found, none] at first
    · simp [blockFailures, blockReasons, found, joined, complete]

/-- Every reason of a block is listed for it. -/
theorem blockReasons_subset {dev : Text} {block : List Text} {lscfgData : Text → Option Text} :
    blockReasons dev block lscfgData ⊆ blockFailures dev block lscfgData := by
  by_cases complete : valueless block = []
  · rcases @blockFailures_of_complete dev block lscfgData complete with
      ⟨_, fields, listed⟩ | ⟨_, listed⟩
    · rw [listed]
      exact List.subset_cons_self _ _
    · rw [listed]
      exact List.Subset.refl _
  · rw [blockFailures_of_missing complete]
    exact List.Subset.refl _

/-- An entry for a block names its device. -/
def Failure.device : Failure → Option Text
  | .noEntry => none
  | .noBlock dev | .missing dev _ | .mismatch dev _ _ _ => some dev

theorem mem_mismatches {dev : Text} {block : List Text} {lscfgData : Text → Option Text}
    {pairs : List (Text × Text)} {failure : Failure} :
    failure ∈ mismatches dev block lscfgData pairs ↔
      ∃ lsvpdKey lscfgKey lsvpdVal lscfgVal, (lsvpdKey, lscfgKey) ∈ pairs ∧
        firstValue block lsvpdKey = some lsvpdVal ∧ lscfgData lscfgKey = some lscfgVal ∧
        strip charSpace lsvpdVal ≠ strip charSpace lscfgVal ∧
        failure = .mismatch dev lsvpdKey lsvpdVal lscfgVal := by
  constructor
  · intro member
    obtain ⟨⟨lsvpdKey, lscfgKey⟩, compared, given⟩ := List.mem_filterMap.mp member
    cases first : firstValue block lsvpdKey with
    | none => simp [first] at given
    | some lsvpdVal =>
      cases printed : lscfgData lscfgKey with
      | none => simp [first, printed] at given
      | some lscfgVal =>
        simp only [first, printed, Option.ite_none_right_eq_some, Option.some.injEq] at given
        exact ⟨lsvpdKey, lscfgKey, lsvpdVal, lscfgVal, compared, first, printed, given.1,
          given.2.symm⟩
  · rintro ⟨lsvpdKey, lscfgKey, lsvpdVal, lscfgVal, compared, first, printed, different, rfl⟩
    exact List.mem_filterMap.mpr ⟨_, compared, by simp [first, printed, different]⟩

/-- The reasons of a block are reasons to fail. -/
theorem due_of_blockReasons {report : Report} {dev : Text} {block : List Text}
    (accelerator : report.Accelerator dev) (own : block ∈ report.ownBlocks dev)
    {failure : Failure} (member : failure ∈ blockReasons dev block (report.lscfgData dev)) :
    Due report failure := by
  rcases List.mem_append.mp member with missing | mismatch
  · by_cases complete : valueless block = []
    · simp [complete] at missing
    · rw [if_neg complete, List.mem_singleton] at missing
      exact missing ▸ .missing dev accelerator block own complete
  · obtain ⟨lsvpdKey, lscfgKey, lsvpdVal, lscfgVal, compared, first, printed, different, rfl⟩ :=
      mem_mismatches.mp mismatch
    exact .mismatch dev accelerator block own lsvpdKey lscfgKey lsvpdVal lscfgVal compared first
      printed different

/-- Every reason to fail is that there is no entry, that there is no block, or one of a block. -/
theorem due_cases {report : Report} {failure : Failure} (due : Due report failure) :
    (failure = .noEntry ∧ ∀ dev, report.ownBlocks dev = []) ∨
    ∃ dev, report.Accelerator dev ∧
      ((failure = .noBlock dev ∧ report.ownBlocks dev = []) ∨
        ∃ block ∈ report.ownBlocks dev,
          failure ∈ blockReasons dev block (report.lscfgData dev)) := by
  cases due with
  | noEntry none => exact .inl ⟨rfl, none⟩
  | noBlock dev accelerator none => exact .inr ⟨dev, accelerator, .inl ⟨rfl, none⟩⟩
  | missing dev accelerator block own some_missing =>
    exact .inr ⟨dev, accelerator, .inr ⟨block, own, by simp [blockReasons, some_missing]⟩⟩
  | mismatch dev accelerator block own lsvpdKey lscfgKey lsvpdVal lscfgVal compared first printed
      different =>
    refine .inr ⟨dev, accelerator, .inr ⟨block, own, List.mem_append_right _ ?_⟩⟩
    exact mem_mismatches.mpr ⟨lsvpdKey, lscfgKey, lsvpdVal, lscfgVal, compared, first, printed,
      different, rfl⟩

/-! ### All devices -/

/-- What is listed for a device. -/
def deviceFailures (report : Report) (dev : Text) : List Failure :=
  match (report.ownBlocks dev).getLast? with
  | none => [.noBlock dev]
  | some block => blockFailures dev block (report.lscfgData dev)

/-- What is listed for a device names it. -/
theorem device_of_listed {report : Report} {dev : Text} {failure : Failure}
    (listed : failure ∈ deviceFailures report dev) : failure.device = some dev := by
  unfold deviceFailures at listed
  split at listed
  · rw [List.mem_singleton.mp listed]
    rfl
  · rcases List.mem_append.mp listed with missing | mismatch
    · obtain ⟨fields, _, rfl⟩ := Option.map_eq_some_iff.mp (Option.mem_toList.mp missing)
      rfl
    · obtain ⟨_, _, _, _, _, _, _, _, rfl⟩ := mem_mismatches.mp mismatch
      rfl

/-- A reason that a block gives names the device. -/
theorem device_of_blockReasons {dev : Text} {block : List Text} {lscfgData : Text → Option Text}
    {failure : Failure} (member : failure ∈ blockReasons dev block lscfgData) :
    failure.device = some dev := by
  rcases List.mem_append.mp member with missing | mismatch
  · by_cases complete : valueless block = []
    · simp [complete] at missing
    · rw [if_neg complete, List.mem_singleton] at missing
      exact missing ▸ rfl
  · obtain ⟨_, _, _, _, _, _, _, _, rfl⟩ := mem_mismatches.mp mismatch
    rfl

/-- No comparison meets a `None`: none in the last block of a device. -/
def Report.Whole (report : Report) : Prop :=
  ∀ dev ∈ report.pciAddresses, ∀ block, (report.ownBlocks dev).getLast? = some block →
    ¬ MeetsNone validations block (report.lscfgData dev)

/-- The dictionary of the test. -/
def Report.spyreBlocks (report : Report) : List (Text × List Text) :=
  extractSpyreBlock (runCmdOut report.lsvpd) report.locationCodes

/-- One device. -/
theorem validateDevice_eq (report : Report) (dev : Text)
    (values : ∀ block, (report.ownBlocks dev).getLast? = some block →
      ¬ MeetsNone validations block (report.lscfgData dev)) :
    validateDevice report report.spyreBlocks dev = .ok (deviceFailures report dev) := by
  unfold validateDevice deviceFailures Report.spyreBlocks
  rw [lookup_extractSpyreBlock, ← Report.ownBlocks]
  cases last : (report.ownBlocks dev).getLast? with
  | none => rfl
  | some block => exact validateBlock_eq dev block _ (values block last)

/-- The loop over the devices, without an exception. -/
theorem validateAll_eq (report : Report) (devices : List Text)
    (values : ∀ dev ∈ devices, ∀ block, (report.ownBlocks dev).getLast? = some block →
      ¬ MeetsNone validations block (report.lscfgData dev)) :
    validateAll report report.spyreBlocks devices =
      .ok (devices.flatMap (deviceFailures report)) := by
  induction devices with
  | nil => rfl
  | cons dev rest inductionHypothesis =>
    have own := validateDevice_eq report dev (values dev List.mem_cons_self)
    have others := inductionHypothesis fun other member =>
      values other (List.mem_cons_of_mem _ member)
    simp [validateAll, own, others, Except.bind, Except.map]

/-- The loop over the devices, with a `None` in one of the comparisons. -/
theorem validateAll_raises (report : Report) {dev : Text} {block : List Text}
    (last : (report.ownBlocks dev).getLast? = some block)
    (meets : MeetsNone validations block (report.lscfgData dev)) (devices : List Text)
    (member : dev ∈ devices) :
    ∃ fault, validateAll report report.spyreBlocks devices = .error fault := by
  induction devices with
  | nil => cases member
  | cons other rest inductionHypothesis =>
    cases own : validateDevice report report.spyreBlocks other with
    | error fault => exact ⟨fault, by simp [validateAll, own, Except.bind]⟩
    | ok listed =>
      rcases List.mem_cons.mp member with rfl | later
      · obtain ⟨fault, raised⟩ := validateBlock_raises dev block _ meets
        rw [validateDevice, Report.spyreBlocks, lookup_extractSpyreBlock, ← Report.ownBlocks,
          last] at own
        simp [raised] at own
      · obtain ⟨fault, raised⟩ := inductionHypothesis later
        exact ⟨fault, by simp [validateAll, own, raised, Except.bind, Except.map]⟩

/-- There is no entry exactly when no address has a block. -/
theorem spyreBlocks_eq_nil_iff (report : Report) :
    report.spyreBlocks = [] ↔ ∀ dev, report.ownBlocks dev = [] := by
  have looked (dev : Text) :
      report.spyreBlocks.lookup dev = (report.ownBlocks dev).getLast? :=
    lookup_extractSpyreBlock _ _ dev
  constructor
  · intro empty dev
    have nothing := looked dev
    rw [empty, List.lookup_nil, eq_comm, List.getLast?_eq_none_iff] at nothing
    exact nothing
  · intro none
    cases listed : report.spyreBlocks with
    | nil => rfl
    | cons entry others =>
      have found := looked entry.1
      simp [listed, none] at found

/-- Everything that is listed. -/
def failureList (report : Report) : List Failure :=
  if report.spyreBlocks = [] then
    .noEntry :: report.pciAddresses.flatMap (deviceFailures report)
  else report.pciAddresses.flatMap (deviceFailures report)

/-- Without a `None` the test lists the failures of its devices. -/
theorem test_eq {report : Report} (whole : report.Whole) :
    testSpyreLsvpdValidation report = .ok (failureList report) := by
  have validated := validateAll_eq report report.pciAddresses whole
  rw [Report.spyreBlocks] at validated
  rw [testSpyreLsvpdValidation, failureList, Report.spyreBlocks]
  simp only [validated, Except.map]

/-- With one it raises. -/
theorem whole_of_ok {report : Report} {failures : List Failure}
    (ran : testSpyreLsvpdValidation report = .ok failures) : report.Whole := by
  intro dev member block last meets
  obtain ⟨fault, raised⟩ := validateAll_raises report last meets report.pciAddresses member
  rw [Report.spyreBlocks] at raised
  simp [testSpyreLsvpdValidation, raised, Except.map] at ran

/-- What is listed about a device comes from its turn in the loop. -/
theorem mem_failureList {report : Report} {failure : Failure} {dev : Text}
    (named : failure.device = some dev) :
    failure ∈ failureList report ↔
      dev ∈ report.pciAddresses ∧ failure ∈ deviceFailures report dev := by
  have other : failure ≠ .noEntry := by
    rintro rfl
    cases named
  have inLoop : failure ∈ failureList report ↔
      failure ∈ report.pciAddresses.flatMap (deviceFailures report) := by
    unfold failureList
    split <;> simp [other]
  rw [inLoop, List.mem_flatMap]
  constructor
  · rintro ⟨turn, member, listed⟩
    have same := (device_of_listed listed).symm.trans named
    cases Option.some.inj same
    exact ⟨member, listed⟩
  · rintro ⟨member, listed⟩
    exact ⟨dev, member, listed⟩

/-- The validated devices are the accelerators with a location code. -/
theorem mem_pciAddresses_iff {report : Report} {dev : Text} :
    dev ∈ report.pciAddresses ↔
      report.Accelerator dev ∧ report.lscfgData dev locationCode ≠ none := by
  constructor
  · intro member
    obtain ⟨⟨other, code⟩, found, rfl⟩ := List.mem_map.mp member
    obtain ⟨candidate, listed, kept⟩ := List.mem_filterMap.mp found
    by_cases known : report.className candidate = some acceleratorClass
    · rw [if_pos known] at kept
      obtain ⟨_, printed, same⟩ := Option.map_eq_some_iff.mp kept
      cases same
      exact ⟨⟨listed, known⟩, Option.ne_none_iff_exists'.mpr ⟨code, printed⟩⟩
    · rw [if_neg known] at kept
      cases kept
  · rintro ⟨⟨listed, known⟩, printed⟩
    obtain ⟨code, printed⟩ := Option.ne_none_iff_exists'.mp printed
    refine List.mem_map.mpr ⟨(dev, code), List.mem_filterMap.mpr ⟨dev, listed, ?_⟩, rfl⟩
    rw [if_pos known, printed, Option.map_some]

/-! ### When the verdict is right -/

/-- The reports on which the test does what it should.

* `values`: no accelerator with a location code in `lscfg` has, in the last of its blocks, a
  compared field without a value that `lscfg` prints;
* `unlocated`: an accelerator without such a code has a block, by the code of another one, and
  its blocks give no reason;
* `superseded`: what an earlier block of a device gives as a reason is listed for its last one;
* `named`: a field of the name `missing_fields`, in the last block of a device and with all values
  there, stands only where there is a reason to fail. -/
structure Clear (report : Report) : Prop where
  values : ∀ dev, report.Accelerator dev → report.lscfgData dev locationCode ≠ none →
    ∀ block, (report.ownBlocks dev).getLast? = some block →
      ∀ lsvpdKey lscfgKey, (lsvpdKey, lscfgKey) ∈ validations → lsvpdKey ∈ valueless block →
        report.lscfgData dev lscfgKey = none
  unlocated : ∀ dev, report.Accelerator dev → report.lscfgData dev locationCode = none →
    report.ownBlocks dev ≠ [] ∧
      ∀ block ∈ report.ownBlocks dev, blockReasons dev block (report.lscfgData dev) = []
  superseded : ∀ dev, report.Accelerator dev → report.lscfgData dev locationCode ≠ none →
    ∀ last, (report.ownBlocks dev).getLast? = some last → ∀ block ∈ report.ownBlocks dev,
      blockReasons dev block (report.lscfgData dev) ⊆
        blockFailures dev last (report.lscfgData dev)
  named : ∀ dev, report.Accelerator dev → report.lscfgData dev locationCode ≠ none →
    ∀ last, (report.ownBlocks dev).getLast? = some last → NamedMissing last →
      ∃ failure, Due report failure

/-- On a report with one block at most for a device, a location code for every accelerator, and
no field without a value, nothing of this happens. -/
theorem clear_of_complete {report : Report}
    (located : ∀ dev, report.Accelerator dev → report.lscfgData dev locationCode ≠ none)
    (single : ∀ dev, (report.ownBlocks dev).length ≤ 1)
    (complete : ∀ dev, ∀ block ∈ report.ownBlocks dev, valueless block = [])
    (unnamed : ∀ dev, ∀ block ∈ report.ownBlocks dev, firstValue block missingFields = none) :
    Clear report := by
  constructor
  · intro dev _ _ block last lsvpdKey lscfgKey _ gap
    rw [complete dev block (List.mem_of_getLast? last)] at gap
    cases gap
  · intro dev accelerator absent
    exact absurd absent (located dev accelerator)
  · intro dev _ _ last found block own
    have same : block = last := by
      obtain ⟨only, listed⟩ := List.length_eq_one_iff.mp
        (Nat.le_antisymm (single dev) (List.length_pos_of_mem own))
      rw [listed] at own found
      rw [List.mem_singleton.mp own]
      exact Option.some.inj found
    exact same ▸ blockReasons_subset
  · intro dev _ _ last found named
    exact absurd (unnamed dev last (List.mem_of_getLast? found)) named.2

/-- No comparison of a clear report meets a `None`. -/
theorem Clear.whole {report : Report} (clear : Clear report) : report.Whole := by
  rintro dev member block last ⟨⟨lsvpdKey, lscfgKey⟩, compared, gap, printed⟩
  obtain ⟨accelerator, located⟩ := mem_pciAddresses_iff.mp member
  exact printed (clear.values dev accelerator located block last _ _ compared gap)

/-- What a clear report has listed comes from a reason: the list is not filled by a field of the
name `missing_fields` alone. -/
theorem Clear.due_of_listed {report : Report} (clear : Clear report) {failure : Failure}
    (listed : failure ∈ failureList report) : ∃ reason, Due report reason := by
  cases named : failure.device with
  | none =>
    have entry : failure = .noEntry := by
      cases failure <;> simp_all [Failure.device]
    subst entry
    by_cases empty : report.spyreBlocks = []
    · exact ⟨.noEntry, .noEntry ((spyreBlocks_eq_nil_iff report).mp empty)⟩
    · rw [failureList, if_neg empty] at listed
      obtain ⟨dev, _, entry⟩ := List.mem_flatMap.mp listed
      cases device_of_listed entry
  | some dev =>
    obtain ⟨member, entry⟩ := (mem_failureList named).mp listed
    obtain ⟨accelerator, located⟩ := mem_pciAddresses_iff.mp member
    unfold deviceFailures at entry
    cases last : (report.ownBlocks dev).getLast? with
    | none => exact ⟨_, .noBlock dev accelerator (List.getLast?_eq_none_iff.mp last)⟩
    | some block =>
      simp only [last] at entry
      have own : block ∈ report.ownBlocks dev := List.mem_of_getLast? last
      by_cases complete : valueless block = []
      · rcases @blockFailures_of_complete dev block (report.lscfgData dev) complete with
          ⟨spurious, _⟩ | ⟨_, same⟩
        · exact clear.named dev accelerator located block last spurious
        · exact ⟨failure, due_of_blockReasons accelerator own (same ▸ entry)⟩
      · rw [blockFailures_of_missing complete] at entry
        exact ⟨failure, due_of_blockReasons accelerator own entry⟩

/-- A clear report has every reason listed: a device without a location gives none, and what an
earlier block of a device gives is listed for its last one. -/
theorem Clear.listed_of_due {report : Report} (clear : Clear report) {failure : Failure}
    (due : Due report failure) : failure ∈ failureList report := by
  rcases due_cases due with ⟨rfl, none⟩ | ⟨dev, accelerator, reason⟩
  · rw [failureList, if_pos ((spyreBlocks_eq_nil_iff report).mpr none)]
    exact List.mem_cons_self
  · by_cases located : report.lscfgData dev locationCode = none
    · obtain ⟨some_block, silent⟩ := clear.unlocated dev accelerator located
      rcases reason with ⟨_, none⟩ | ⟨block, own, member⟩
      · exact absurd none some_block
      · rw [silent block own] at member
        cases member
    · have turn := mem_pciAddresses_iff.mpr ⟨accelerator, located⟩
      rcases reason with ⟨rfl, none⟩ | ⟨block, own, member⟩
      · refine (mem_failureList rfl).mpr ⟨turn, ?_⟩
        simp [deviceFailures, none]
      · refine (mem_failureList (device_of_blockReasons member)).mpr ⟨turn, ?_⟩
        cases last : (report.ownBlocks dev).getLast? with
        | none =>
          rw [List.getLast?_eq_none_iff.mp last] at own
          cases own
        | some final =>
          simp only [deviceFailures, last]
          exact clear.superseded dev accelerator located final last block own member

/-- The verdict of the test is right exactly on the clear reports.

A report is what `lsvpd` and `lscfg` print, of any length and about any number of accelerators.
Tools that fail are not covered.

Proof: where the comparison meets no missing value the loop over the blocks lists the reasons of the
last block of each located accelerator, and the conditions say that there are no others. -/
theorem sound_iff_clear (report : Report) : Sound report ↔ Clear report := by
  constructor
  · rintro ⟨failures, ran, fails, complete⟩
    have whole := whole_of_ok ran
    cases Except.ok.inj ((test_eq whole).symm.trans ran)
    constructor
    · intro dev accelerator located block last lsvpdKey lscfgKey compared gap
      by_contra printed
      exact whole dev (mem_pciAddresses_iff.mpr ⟨accelerator, located⟩) block last
        ⟨_, compared, gap, printed⟩
    · intro dev accelerator located
      have outside {failure : Failure} (names : failure.device = some dev)
          (due : Due report failure) : False :=
        (mem_pciAddresses_iff.mp ((mem_failureList names).mp (complete failure due)).1).2 located
      refine ⟨fun none => outside rfl (.noBlock dev accelerator none), fun block own => ?_⟩
      refine List.eq_nil_iff_forall_not_mem.mpr fun failure member => ?_
      exact outside (device_of_blockReasons member) (due_of_blockReasons accelerator own member)
    · intro dev accelerator located final last block own failure member
      have listed := complete failure (due_of_blockReasons accelerator own member)
      have entry := ((mem_failureList (device_of_blockReasons member)).mp listed).2
      simpa only [deviceFailures, last] using entry
    · intro dev accelerator located final last spurious
      obtain ⟨fields, listed⟩ : ∃ fields, blockFailures dev final (report.lscfgData dev) =
          .missing dev fields :: blockReasons dev final (report.lscfgData dev) := by
        rcases @blockFailures_of_complete dev final (report.lscfgData dev) spurious.1 with
          ⟨_, listed⟩ | ⟨other, _⟩
        · exact listed
        · exact absurd spurious other
      have entry : Failure.missing dev fields ∈ failureList report := by
        refine (mem_failureList rfl).mpr
          ⟨mem_pciAddresses_iff.mpr ⟨accelerator, located⟩, ?_⟩
        simp [deviceFailures, last, listed]
      exact fails.mp (List.ne_nil_of_mem entry)
  · intro clear
    refine ⟨failureList report, test_eq clear.whole, ⟨fun some_failure => ?_, ?_⟩,
      fun failure due => clear.listed_of_due due⟩
    · obtain ⟨failure, listed⟩ := List.exists_mem_of_ne_nil _ some_failure
      exact clear.due_of_listed listed
    · rintro ⟨failure, due⟩
      exact List.ne_nil_of_mem (clear.listed_of_due due)

/-! ### A field without a value -/

/-- An accelerator whose serial number `lsvpd` prints without a value. -/
def serialNumberMissing : Report where
  pciDevices := ["0001:00:00.0".toList]
  className _ := some acceleratorClass
  lsvpd := "*FC ab\n*AX 0001:00:00.0\n*SN\n*YL U1".toList
  lscfg _ := "Serial Number...............123\nDevice Specific.(YL)........U1".toList

/-- There is a reason to fail, but the test raises. -/
theorem serial_number_raises : ¬ ∀ report, Sound report := by
  intro always
  obtain ⟨failures, ran, _⟩ := always serialNumberMissing
  have raised : testSpyreLsvpdValidation serialNumberMissing = .error .attributeError := by
    decide +kernel
  cases raised.symm.trans ran

end AvocadoMisc.Vpd.SpyreValidation
