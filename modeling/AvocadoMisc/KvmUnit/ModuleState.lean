import Mathlib.Data.List.Nodup
import AvocadoMisc.Library.Assignments

/-!
# The KVM module before and after a test

`setUp` records whether the vendor's module is loaded and the readable ones of its
parameters. A test with a mode then loads the module anew, with one parameter set.
`tearDown` unloads a module that was not loaded, and loads one that was, with the recorded
parameters as a row of assignments. If none was recorded it does nothing.

The record is one dictionary: the state stands among the parameters, under a name of its
own.

After the module was loaded in `setUp` nothing touches it before `tearDown`, so it is the
same wherever the verification, the clone, the build or the tests stop.
-/

namespace AvocadoMisc.KvmUnit.ModuleState

open Library.Text Library.Assignments

abbrev Text := List Char

/-- The name of a parameter: no white space and no sign of equality. -/
structure ParamName where
  text : Text
  isWord : IsWord charSpace text
  plain : '=' ∉ text
  deriving DecidableEq

/-- The values of all parameters, as their files are read without the line end. -/
abbrev Values := Text → Text

/-- The vendors with a module. -/
inductive Cpu where
  | amd
  | intel
  deriving DecidableEq

/-- `kvm_module`. -/
def Cpu.module : Cpu → Text
  | .amd => "kvm_amd".toList
  | .intel => "kvm_intel".toList

/-- What the module is: the parameters in the order of their directory, which of them can be
read, and the values that they have when they are not given. -/
structure Vendor where
  cpu : Cpu
  names : List ParamName
  distinct : names.Nodup
  readable : ParamName → Bool
  defaults : Values

/-- `mode`. -/
inductive Mode where
  | unset
  | accelerated
  | nonAccelerated
  | other (text : Text)
  deriving DecidableEq

/-- `linux_modules.ModuleConfig`. -/
inductive ModuleConfig where
  | notSet
  | module
  | builtin
  deriving DecidableEq

/-- Where `setUp` can stop before the module was loaded. -/
inductive Stage where
  | parameters
  | environment
  | detect
  | moduleState
  | sysfsDir
  | listing
  | kernelConfig
  | loadedCheck
  | dmesg
  deriving DecidableEq

/-- A call that loads or unloads the module: whether it has its effect, and whether it
raises. -/
structure Effect where
  takes : Bool
  raises : Bool

/-- One test: its parameters, where `setUp` stops, and what its calls do. Reading the
parameters can be broken off in front of one of them. -/
structure Run where
  mode : Mode
  kvmModuleParam : ParamName
  config : ModuleConfig
  stops : Stage → Bool
  breaksAt : Option Nat
  unload : Effect
  load : Effect

/-- `initial_kvm_params`: the entry `__state__`, and the others in order. -/
structure Captured where
  state : Option Text
  saved : List (Text × Text)

/-- The two values of the state. -/
def unloadedText : Text := "unloaded".toList

def loadedText : Text := "loaded".toList

/-- The name under which the state is kept. -/
def stateName : ParamName where
  text := "__state__".toList
  isWord := isWord_of_check (by decide) (by decide)
  plain := by decide

/-- Store a parameter. One that has the name of the state replaces it. -/
def Captured.store (captured : Captured) (name : ParamName) (value : Text) : Captured :=
  if name = stateName then { captured with state := some value }
  else { captured with saved := captured.saved ++ [(name.text, value)] }

/-- The parameters that are read, as far as the loop comes. -/
def Run.reads (run : Run) (vendor : Vendor) : List ParamName :=
  (match run.breaksAt with
    | some count => vendor.names.take count
    | none => vendor.names).filter vendor.readable

/-- The loop over the directory. -/
def captureParams (vendor : Vendor) (run : Run) (values : Values) : Captured :=
  (run.reads vendor).foldl (fun captured name => captured.store name (values name.text))
    ⟨some loadedText, []⟩

/-- A request that loads the module: its name, then assignments. -/
def request (cpu : Cpu) (assignments : Text) : Text := [' '].intercalate [cpu.module, assignments]

/-- `load_module`: the parameters that the words after the first give, defaults otherwise. A
module that is loaded stays as it is. -/
def loadModule (vendor : Vendor) (text : Text) : Option Values → Option Values
  | some values => some values
  | none => some (assignAll '=' vendor.defaults (words charSpace text).tail)

/-- The value that a mode sets. -/
def Mode.setting : Mode → Text
  | .accelerated => ['1']
  | _ => ['0']

/-- `configure_kvm_module`: the module that it leaves. Unless the mode is unset the module is
unloaded and loaded again with the parameter, and each of these calls may fail. -/
def configureKvmModule (vendor : Vendor) (run : Run) (module : Option Values) : Option Values :=
  if run.stops .loadedCheck then module
  else
    match run.mode with
    | .unset =>
      if module.isNone ∧ run.load.takes then loadModule vendor vendor.cpu.module module else module
    | _ =>
      let unloaded := if module.isSome ∧ run.unload.takes then none else module
      if module.isSome ∧ run.unload.raises then unloaded
      else if run.mode = .accelerated ∧ run.stops .dmesg then unloaded
      else if run.load.takes then
        loadModule vendor
          (request vendor.cpu (pair '=' run.kvmModuleParam.text run.mode.setting)) unloaded
      else unloaded

/-- `check_and_configure_kvm_module`. A builtin module is only looked at. -/
def checkAndConfigureKvmModule (vendor : Vendor) (run : Run) (module : Option Values) :
    Option Values :=
  if run.stops .kernelConfig then module
  else
    match run.config with
    | .notSet => module
    | .module => configureKvmModule vendor run module
    | .builtin => module

/-- The mode is one of the three. -/
def Mode.valid : Mode → Bool
  | .other _ => false
  | _ => true

/-- `setUp` and the test: the record, if there is one, and the module. -/
def setUp (vendor : Vendor) (run : Run) (module : Option Values) :
    Option Captured × Option Values :=
  if run.stops .parameters then (none, module)
  else if run.mode.valid = false ∨ run.stops .environment then (some ⟨none, []⟩, module)
  else if run.stops .detect ∨ run.stops .moduleState then (some ⟨none, []⟩, module)
  else
    match module with
    | none => (some ⟨some unloadedText, []⟩, checkAndConfigureKvmModule vendor run none)
    | some values =>
      if run.stops .sysfsDir then (some ⟨none, []⟩, some values)
      else if run.stops .listing then (some ⟨some loadedText, []⟩, some values)
      else
        (some (captureParams vendor run values),
          if run.breaksAt.isSome then some values
          else checkAndConfigureKvmModule vendor run (some values))

/-- `param_args`. -/
def paramArgs (captured : Captured) : Text :=
  [' '].intercalate (captured.saved.map fun entry => pair '=' entry.1 entry.2)

/-- `tearDown`, with every call succeeding. -/
def tearDown (vendor : Vendor) : Option Captured × Option Values → Option Values
  | (none, module) => module
  | (some captured, module) =>
    if captured.state = some unloadedText then none
    else if captured.state = some loadedText then
      if paramArgs captured ≠ [] then
        loadModule vendor (request vendor.cpu (paramArgs captured)) none
      else module
    else module

/-- The module is as it was: loaded or not, and every readable parameter with its value. -/
structure PutBack (vendor : Vendor) (before after : Option Values) : Prop where
  loaded : after.isSome = before.isSome
  values : ∀ values, before = some values → ∀ now, after = some now →
    ∀ name ∈ vendor.names, vendor.readable name = true → now name.text = values name.text

/-! ### When it is -/

/-- `setUp` comes to reading the parameters of a loaded module. -/
structure Run.Lists (run : Run) : Prop where
  parameters : run.stops .parameters = false
  mode : run.mode.valid = true
  environment : run.stops .environment = false
  detect : run.stops .detect = false
  moduleState : run.stops .moduleState = false
  sysfsDir : run.stops .sysfsDir = false
  listing : run.stops .listing = false

/-- It reads all of them and comes to loading the module with another parameter. -/
structure Run.Reconfigures (run : Run) : Prop where
  lists : run.Lists
  complete : run.breaksAt = none
  kernelConfig : run.stops .kernelConfig = false
  config : run.config = .module
  mode : run.mode ≠ .unset
  loadedCheck : run.stops .loadedCheck = false

/-- What the test itself leaves is as it was: it does not unload the module, or loads it
again and the readable parameters have the values they get then. -/
def LeavesLoaded (vendor : Vendor) (run : Run) (values : Values) : Prop :=
  run.Reconfigures → run.unload.takes = true →
    run.unload.raises = false ∧ (run.mode = .accelerated → run.stops .dmesg = false) ∧
      run.load.takes = true ∧ ∀ name ∈ vendor.names, vendor.readable name = true →
        (if name = run.kvmModuleParam then run.mode.setting else vendor.defaults name.text) =
          values name.text

/-- A parameter is recorded, and none that replaces the state by another one. -/
def Reloads (vendor : Vendor) (run : Run) (values : Values) : Prop :=
  run.Lists ∧ (∃ name ∈ run.reads vendor, name ≠ stateName) ∧
    (stateName ∈ run.reads vendor → values stateName.text = loadedText)

/-- A loaded module comes back: no parameter says that it was not loaded, and if it is loaded
anew, recorded values have no white space and the others are the defaults, and else what the
test leaves is as it was. -/
structure Restorable (vendor : Vendor) (run : Run) (values : Values) : Prop where
  state : run.Lists → stateName ∈ run.reads vendor → values stateName.text ≠ unloadedText
  solid : Reloads vendor run values → ∀ name ∈ run.reads vendor, name ≠ stateName →
    ∀ c ∈ values name.text, charSpace c = false
  others : Reloads vendor run values → ∀ name ∈ vendor.names, vendor.readable name = true →
    name ∉ run.reads vendor ∨ name = stateName → vendor.defaults name.text = values name.text
  left : ¬ Reloads vendor run values → LeavesLoaded vendor run values

/-! ### The record -/

section Record

variable {vendor : Vendor} {run : Run} {values : Values}

/-- What the loop over the parameters records. -/
theorem foldl_store (values : Values) (names : List ParamName) (captured : Captured) :
    names.foldl (fun captured name => captured.store name (values name.text)) captured =
      ⟨if stateName ∈ names then some (values stateName.text) else captured.state,
        captured.saved ++ (names.filter (· ≠ stateName)).map fun name =>
          (name.text, values name.text)⟩ := by
  induction names generalizing captured with
  | nil => simp
  | cons name rest inductionHypothesis =>
    rw [List.foldl_cons, inductionHypothesis]
    by_cases same : name = stateName
    · subst same
      simp [Captured.store]
    · simp [Captured.store, same, Ne.symm same, List.append_assoc]

/-- The record of a loop over the parameters. -/
theorem captureParams_eq (vendor : Vendor) (run : Run) (values : Values) :
    captureParams vendor run values =
      ⟨if stateName ∈ run.reads vendor then some (values stateName.text) else some loadedText,
        ((run.reads vendor).filter (· ≠ stateName)).map fun name =>
          (name.text, values name.text)⟩ := by
  rw [captureParams, foldl_store, List.nil_append]

/-- A parameter that is read is one of the module's, and readable. -/
theorem mem_reads {name : ParamName} (member : name ∈ run.reads vendor) :
    name ∈ vendor.names ∧ vendor.readable name = true := by
  obtain ⟨listed, readable⟩ := List.mem_filter.mp member
  refine ⟨?_, readable⟩
  cases breaks : run.breaksAt with
  | none => simpa [breaks] using listed
  | some count =>
    rw [breaks] at listed
    exact (List.take_subset count vendor.names) listed

/-- Names are read once. -/
theorem reads_nodup (vendor : Vendor) (run : Run) : (run.reads vendor).Nodup := by
  apply List.Nodup.filter
  cases run.breaksAt with
  | none => exact vendor.distinct
  | some count => exact vendor.distinct.sublist (List.take_sublist count vendor.names)

/-- Parameters with the same text are the same. -/
theorem text_injective {first second : ParamName} (same : first.text = second.text) :
    first = second := by
  cases first
  cases second
  cases same
  rfl

end Record

/-! ### The restored module -/

section Restored

variable {vendor : Vendor}

/-- The words behind the module's name are those of the assignments. -/
theorem request_words (cpu : Cpu) (assignments : Text) :
    (words charSpace (request cpu assignments)).tail = words charSpace assignments := by
  have isWord : IsWord charSpace cpu.module := by
    cases cpu
    · exact isWord_of_check (by decide) (by decide)
    · exact isWord_of_check (by decide) (by decide)
  have blank : charSpace ' ' = true := by decide
  rw [request, words_intercalate blank, List.flatMap_cons, words_solid isWord]
  simp

/-- What loading with recorded parameters gives, for a list of those recorded. -/
def restored (vendor : Vendor) (values : Values) (names : List ParamName) : Values :=
  assignAll '=' vendor.defaults
    (words charSpace ([' '].intercalate (names.map fun name =>
      pair '=' name.text (values name.text))))

/-- The words of the row are the words of its pairs. -/
theorem row_words (values : Values) (names : List ParamName) :
    words charSpace ([' '].intercalate (names.map fun name =>
      pair '=' name.text (values name.text))) =
      names.flatMap fun name => words charSpace (pair '=' name.text (values name.text)) := by
  have blank : charSpace ' ' = true := by decide
  rw [words_intercalate blank, List.flatMap_map]

/-- Without white space in the values they are the pairs. -/
theorem row_words_solid {values : Values} {names : List ParamName}
    (solid : ∀ name ∈ names, ∀ c ∈ values name.text, charSpace c = false) :
    words charSpace ([' '].intercalate (names.map fun name =>
      pair '=' name.text (values name.text))) =
      (names.map fun name => (name.text, values name.text)).map fun entry =>
        pair '=' entry.1 entry.2 := by
  have sign : charSpace '=' = false := by decide
  rw [row_words, List.map_map, List.map_eq_flatMap]
  refine List.flatMap_congr fun name member => ?_
  refine words_solid ⟨by simp [pair], fun c inPair => ?_⟩
  rcases List.mem_append.mp inPair with inName | rest
  · exact name.isWord.solid c inName
  · rcases List.mem_cons.mp rest with rfl | inValue
    · exact sign
    · exact solid name member c inValue

/-- A parameter that is restored from the row gets a value without white space. -/
theorem restored_no_space (values : Values) {names : List ParamName} {name : ParamName}
    (member : name ∈ names) : ∀ c ∈ restored vendor values names name.text,
      charSpace c = false := by
  have sign : charSpace '=' = false := by decide
  obtain ⟨word, among, named⟩ :=
    exists_word_of_pair name.isWord name.plain sign (values name.text)
  rw [restored, row_words]
  refine @assignAll_of_mem _ _ '=' (fun value => ∀ c ∈ value, charSpace c = false) _ name.text
    ?_ ?_ _
  · intro other written
    obtain ⟨first, listed, fromPair⟩ := List.mem_flatMap.mp written
    exact valueOf_solid (isWord_of_mem_words fromPair)
  · exact ⟨word, List.mem_flatMap.mpr ⟨name, member, among⟩, named⟩

/-- Without white space, the names of the row get their values and the others the defaults. -/
theorem restored_solid {values : Values} {names : List ParamName} (distinct : names.Nodup)
    (solid : ∀ name ∈ names, ∀ c ∈ values name.text, charSpace c = false) (name : ParamName) :
    restored vendor values names name.text =
      if name ∈ names then values name.text else vendor.defaults name.text := by
  rw [restored, row_words_solid solid]
  have plain : ∀ entry ∈ names.map fun name => (name.text, values name.text),
      '=' ∉ entry.1 := by
    intro entry member
    obtain ⟨other, -, rfl⟩ := List.mem_map.mp member
    exact other.plain
  by_cases member : name ∈ names
  · have texts : ((names.map fun name => (name.text, values name.text)).map Prod.fst).Nodup := by
      rw [List.map_map]
      exact distinct.map (fun first second same => text_injective same)
    rw [if_pos member]
    exact assignAll_pairs plain texts vendor.defaults (List.mem_map_of_mem member)
  · rw [if_neg member]
    refine assignAll_of_not_mem ?_ vendor.defaults
    intro word written
    obtain ⟨entry, among, rfl⟩ := List.mem_map.mp written
    obtain ⟨other, listed, rfl⟩ := List.mem_map.mp among
    rw [(pair_cut other.plain _).1]
    exact fun same => member (text_injective same ▸ listed)

/-- Restoring from the parameters that were read brings every readable one back exactly when
those of the row have no white space and the others are the defaults. -/
theorem module_restored_iff (run : Run) (values : Values) :
    (∀ name ∈ vendor.names, vendor.readable name = true →
      restored vendor values ((run.reads vendor).filter (· ≠ stateName)) name.text =
        values name.text) ↔
      (∀ name ∈ run.reads vendor, name ≠ stateName →
        ∀ c ∈ values name.text, charSpace c = false) ∧
      ∀ name ∈ vendor.names, vendor.readable name = true →
        name ∉ run.reads vendor ∨ name = stateName →
          vendor.defaults name.text = values name.text := by
  have row (name : ParamName) : name ∈ (run.reads vendor).filter (· ≠ stateName) ↔
      name ∈ run.reads vendor ∧ name ≠ stateName := by simp
  have distinct := (reads_nodup vendor run).filter (fun name => decide (name ≠ stateName))
  constructor
  · intro back
    have solid : ∀ name ∈ run.reads vendor, name ≠ stateName →
        ∀ c ∈ values name.text, charSpace c = false := by
      intro name member differs
      obtain ⟨listed, readable⟩ := mem_reads member
      rw [← back name listed readable]
      exact restored_no_space values ((row name).mpr ⟨member, differs⟩)
    refine ⟨solid, fun name listed readable missing => ?_⟩
    have unsaved : name ∉ (run.reads vendor).filter (· ≠ stateName) := by
      rw [row]
      rintro ⟨member, differs⟩
      exact missing.elim (fun absent => absent member) differs
    have same := back name listed readable
    rwa [restored_solid distinct (fun other saved =>
      solid other ((row other).mp saved).1 ((row other).mp saved).2), if_neg unsaved] at same
  · rintro ⟨solid, others⟩ name listed readable
    rw [restored_solid distinct fun other saved =>
      solid other ((row other).mp saved).1 ((row other).mp saved).2]
    split
    · rfl
    · rename_i unsaved
      refine others name listed readable ?_
      by_cases member : name ∈ run.reads vendor
      · exact .inr (not_not.mp fun differs => unsaved ((row name).mpr ⟨member, differs⟩))
      · exact .inl member

end Restored

/-! ### The test -/

section Test

variable {vendor : Vendor} {run : Run} {values : Values}

/-- A loaded module is put back when it is loaded with the values that it had. -/
theorem putBack_some (vendor : Vendor) (values now : Values) :
    PutBack vendor (some values) (some now) ↔ ∀ name ∈ vendor.names,
      vendor.readable name = true → now name.text = values name.text :=
  ⟨fun back => back.values values rfl now rfl, fun same => ⟨rfl, by
    rintro _ ⟨⟩ _ ⟨⟩
    exact same⟩⟩

/-- It is not while it is unloaded. -/
theorem not_putBack_none (vendor : Vendor) (values : Values) :
    ¬ PutBack vendor (some values) none := fun back => by
  have loaded := back.loaded
  cases loaded

/-- What `setUp` makes of a module of which it lists the parameters. -/
def left (vendor : Vendor) (run : Run) (values : Values) : Option Values :=
  if run.breaksAt.isSome then some values
  else checkAndConfigureKvmModule vendor run (some values)

/-- The parameter that a mode sets, and the defaults. -/
theorem configured_values (vendor : Vendor) (run : Run) (name : ParamName) :
    assignAll '=' vendor.defaults (words charSpace (request vendor.cpu
      (pair '=' run.kvmModuleParam.text run.mode.setting))).tail name.text =
      if name = run.kvmModuleParam then run.mode.setting else vendor.defaults name.text := by
  have isWord : IsWord charSpace (pair '=' run.kvmModuleParam.text run.mode.setting) := by
    have digit : run.mode.setting = ['1'] ∨ run.mode.setting = ['0'] := by
      cases run.mode <;> simp [Mode.setting]
    have value : ∀ c ∈ '=' :: run.mode.setting, charSpace c = false := by
      cases digit with
      | inl one => rw [one]; exact none_of_check (by decide)
      | inr zero => rw [zero]; exact none_of_check (by decide)
    refine ⟨by simp [pair], fun c member => ?_⟩
    rcases List.mem_append.mp member with inName | rest
    · exact run.kvmModuleParam.isWord.solid c inName
    · exact value c rest
  obtain ⟨named, given⟩ := pair_cut run.kvmModuleParam.plain run.mode.setting
  rw [request_words, words_solid isWord]
  change assign '=' vendor.defaults _ name.text = _
  rw [assign, named, given]
  by_cases same : name = run.kvmModuleParam
  · rw [if_pos same, same, Function.update_self]
  · rw [if_neg same, Function.update_of_ne fun texts => same (text_injective texts)]

/-- A test that does not come to loading the module anew leaves it alone. -/
theorem left_of_not_reconfigures (lists : run.Lists) (keeps : ¬ run.Reconfigures) :
    left vendor run values = some values := by
  unfold left checkAndConfigureKvmModule configureKvmModule
  cases breaks : run.breaksAt with
  | some count => rfl
  | none =>
    cases kernel : run.stops .kernelConfig with
    | true => rfl
    | false =>
      cases config : run.config with
      | notSet => rfl
      | builtin => rfl
      | module =>
        cases check : run.stops .loadedCheck with
        | true => rfl
        | false =>
          cases mode : run.mode with
          | unset => rfl
          | _ =>
            have differs : run.mode ≠ .unset := by simp [mode]
            exact absurd ⟨lists, breaks, kernel, config, differs, check⟩ keeps

/-- One that does leaves what loading leaves. -/
theorem left_of_reconfigures (reconfigures : run.Reconfigures) :
    left vendor run values =
      if run.unload.takes then
        if run.unload.raises = false ∧ (run.mode = .accelerated → run.stops .dmesg = false) ∧
            run.load.takes = true then
          loadModule vendor
            (request vendor.cpu (pair '=' run.kvmModuleParam.text run.mode.setting)) none
        else none
      else some values := by
  obtain ⟨lists, breaks, kernel, config, differs, check⟩ := reconfigures
  have valid := lists.mode
  unfold left checkAndConfigureKvmModule configureKvmModule
  simp only [breaks, kernel, config, check, Option.isSome_none, Bool.false_eq_true, ↓reduceIte,
    Option.isSome_some, true_and]
  cases mode : run.mode with
  | unset => exact absurd mode differs
  | other text => simp [Mode.valid, mode] at valid
  | accelerated =>
    cases takes : run.unload.takes <;> cases raises : run.unload.raises <;>
      cases dmesg : run.stops .dmesg <;> cases load : run.load.takes <;>
      simp [loadModule]
  | nonAccelerated =>
    cases takes : run.unload.takes <;> cases raises : run.unload.raises <;>
      cases load : run.load.takes <;> simp [loadModule]

/-- What the test leaves is as it was exactly when it leaves the module loaded. -/
theorem left_putBack_iff (lists : run.Lists) :
    PutBack vendor (some values) (left vendor run values) ↔ LeavesLoaded vendor run values := by
  by_cases reconfigures : run.Reconfigures
  · rw [left_of_reconfigures reconfigures]
    cases takes : run.unload.takes with
    | false =>
      exact iff_of_true ((putBack_some vendor values values).mpr fun _ _ _ => rfl)
        fun _ unloads => by simp [takes] at unloads
    | true =>
      simp only [↓reduceIte]
      by_cases again : run.unload.raises = false ∧
          (run.mode = .accelerated → run.stops .dmesg = false) ∧ run.load.takes = true
      · rw [if_pos again, loadModule, putBack_some]
        simp only [configured_values]
        exact ⟨fun same _ _ => ⟨again.1, again.2.1, again.2.2, same⟩,
          fun leaves => (leaves reconfigures takes).2.2.2⟩
      · rw [if_neg again]
        refine iff_of_false (not_putBack_none vendor values) fun leaves => ?_
        obtain ⟨raises, dmesg, load, -⟩ := leaves reconfigures takes
        exact again ⟨raises, dmesg, load⟩
  · rw [left_of_not_reconfigures lists reconfigures]
    exact iff_of_true ((putBack_some vendor values values).mpr fun _ _ _ => rfl)
      fun comes => absurd comes reconfigures

/-- The test comes to look whether the module is loaded. -/
structure Run.Looks (run : Run) : Prop where
  parameters : ¬ run.stops .parameters = true
  environment : ¬ (run.mode.valid = false ∨ run.stops .environment = true)
  detect : ¬ (run.stops .detect = true ∨ run.stops .moduleState = true)

/-- A test that does not come to look at the module changes nothing. -/
theorem tearDown_of_not_looks (early : ¬ run.Looks) (module : Option Values) :
    tearDown vendor (setUp vendor run module) = module := by
  unfold setUp
  by_cases parameters : run.stops .parameters = true
  · rw [if_pos parameters]
    rfl
  · rw [if_neg parameters]
    by_cases environment : run.mode.valid = false ∨ run.stops .environment = true
    · rw [if_pos environment]
      rfl
    · rw [if_neg environment]
      by_cases detect : run.stops .detect = true ∨ run.stops .moduleState = true
      · rw [if_pos detect]
        rfl
      · exact absurd ⟨parameters, environment, detect⟩ early

/-- Nor does one that does not list the parameters. -/
theorem tearDown_of_not_lists (unlisted : ¬ run.Lists) :
    tearDown vendor (setUp vendor run (some values)) = some values := by
  by_cases looks : run.Looks
  · obtain ⟨parameters, environment, detect⟩ := looks
    rw [setUp, if_neg parameters, if_neg environment, if_neg detect]
    by_cases sysfsDir : run.stops .sysfsDir = true
    · rw [if_pos sysfsDir]
      rfl
    · rw [if_neg sysfsDir]
      by_cases listing : run.stops .listing = true
      · have different : loadedText ≠ unloadedText := by decide
        rw [if_pos listing]
        simp [tearDown, different, paramArgs]
      · refine absurd ?_ unlisted
        simp only [not_or, Bool.not_eq_false, Bool.not_eq_true] at *
        exact ⟨parameters, environment.1, environment.2, detect.1, detect.2, sysfsDir, listing⟩
  · exact tearDown_of_not_looks looks _

/-- One that does goes on with its record. -/
theorem setUp_of_lists (lists : run.Lists) :
    setUp vendor run (some values) =
      (some (captureParams vendor run values), left vendor run values) := by
  obtain ⟨parameters, mode, environment, detect, moduleState, sysfsDir, listing⟩ := lists
  simp only [setUp, parameters, mode, environment, detect, moduleState, sysfsDir, listing, left,
    Bool.false_eq_true, Bool.true_eq_false, or_self, ↓reduceIte]

/-- A row of pairs is empty when there is none. -/
theorem row_eq_nil (entries : List (Text × Text)) :
    [' '].intercalate (entries.map fun entry => pair '=' entry.1 entry.2) = [] ↔
      entries = [] := by
  cases entries with
  | nil => simp
  | cons first rest => cases rest <;> simp [pair]

/-- With a record of a loaded module, `tearDown` loads it anew unless nothing is saved. -/
theorem tearDown_loaded (vendor : Vendor) (saved : List (Text × Text)) (module : Option Values) :
    tearDown vendor (some ⟨some loadedText, saved⟩, module) =
      if saved = [] then module
      else some (assignAll '=' vendor.defaults (words charSpace
        ([' '].intercalate (saved.map fun entry => pair '=' entry.1 entry.2)))) := by
  have different : ¬ some loadedText = some unloadedText := by decide
  by_cases nothing : saved = []
  · have empty : ¬ paramArgs ⟨some loadedText, saved⟩ ≠ [] :=
      not_not.mpr ((row_eq_nil saved).mpr nothing)
    rw [if_pos nothing, tearDown, if_neg different, if_pos rfl, if_neg empty]
  · have row : paramArgs ⟨some loadedText, saved⟩ ≠ [] := mt (row_eq_nil saved).mp nothing
    rw [if_neg nothing, tearDown, if_neg different, if_pos rfl, if_pos row, loadModule,
      request_words]
    rfl

/-- The module is loaded anew from what was read. -/
theorem tearDown_reloads (reloads : Reloads vendor run values) (module : Option Values) :
    tearDown vendor (some (captureParams vendor run values), module) =
      some (restored vendor values ((run.reads vendor).filter (· ≠ stateName))) := by
  obtain ⟨-, ⟨name, member, differs⟩, state⟩ := reloads
  have loaded : (if stateName ∈ run.reads vendor then some (values stateName.text)
      else some loadedText) = some loadedText := by
    split
    · rename_i read
      rw [state read]
    · rfl
  have among : name ∈ (run.reads vendor).filter (· ≠ stateName) := by simp [member, differs]
  have something := List.ne_nil_of_mem among
  rw [captureParams_eq, loaded, tearDown_loaded, if_neg (by simpa using something), List.map_map]
  rfl

/-- Without a reason to load it, `tearDown` leaves the module as the test did: the state that was
recorded is neither that of an unloaded module nor joined by a parameter to load it with. -/
theorem tearDown_keeps (lists : run.Lists) (keeps : ¬ Reloads vendor run values)
    (state : stateName ∈ run.reads vendor → values stateName.text ≠ unloadedText)
    (module : Option Values) :
    tearDown vendor (some (captureParams vendor run values), module) = module := by
  rw [captureParams_eq]
  by_cases replaced : stateName ∈ run.reads vendor ∧ values stateName.text ≠ loadedText
  · have other : ¬ some (values stateName.text) = some unloadedText := fun same =>
      state replaced.1 (Option.some.inj same)
    have another : ¬ some (values stateName.text) = some loadedText := fun same =>
      replaced.2 (Option.some.inj same)
    rw [if_pos replaced.1, tearDown, if_neg other, if_neg another]
  · -- The state is that of a loaded module, so nothing else is recorded.
    have stays : stateName ∈ run.reads vendor → values stateName.text = loadedText :=
      fun read => not_not.mp fun differs => replaced ⟨read, differs⟩
    have loaded : (if stateName ∈ run.reads vendor then some (values stateName.text)
        else some loadedText) = some loadedText := by
      split
      · rename_i read
        rw [stays read]
      · rfl
    have nothing : (run.reads vendor).filter (· ≠ stateName) = [] := by
      refine List.filter_eq_nil_iff.mpr fun name member => ?_
      simpa using not_not.mp fun differs => keeps ⟨lists, ⟨name, member, differs⟩, stays⟩
    rw [loaded, nothing, tearDown_loaded]
    rfl

/-- The module is as it was after the test exactly when it was not loaded, or it was and is
restorable.

The unloading and the loading in the test may each fail, raise or have no effect, and the parameters
may be read in part. The module is loaded anew by `tearDown` with success.

Proof: by what was recorded. Without a parameter nothing is done in the end, and with one the
recorded values come back and the others get their defaults. -/
theorem module_put_back_iff (vendor : Vendor) (run : Run) (module : Option Values) :
    PutBack vendor module (tearDown vendor (setUp vendor run module)) ↔
      ∀ values, module = some values → Restorable vendor run values := by
  cases module with
  | none =>
    have unloaded : tearDown vendor (setUp vendor run none) = none := by
      by_cases looks : run.Looks
      · rw [setUp, if_neg looks.parameters, if_neg looks.environment, if_neg looks.detect]
        rfl
      · exact tearDown_of_not_looks looks none
    rw [unloaded]
    exact iff_of_true ⟨rfl, fun _ impossible => by cases impossible⟩
      fun _ impossible => by cases impossible
  | some values =>
    refine Iff.trans ?_ (⟨fun holds _ same => Option.some.inj same ▸ holds,
      fun every => every values rfl⟩ : Restorable vendor run values ↔ _)
    by_cases lists : run.Lists
    · rw [setUp_of_lists lists]
      by_cases unloads : stateName ∈ run.reads vendor ∧ values stateName.text = unloadedText
      · have gone : tearDown vendor (some (captureParams vendor run values),
            left vendor run values) = none := by
          rw [captureParams_eq, tearDown]
          simp only [unloads.1, unloads.2, ↓reduceIte]
        rw [gone]
        exact iff_of_false (not_putBack_none vendor values)
          fun restorable => restorable.state lists unloads.1 unloads.2
      · have state : stateName ∈ run.reads vendor → values stateName.text ≠ unloadedText :=
          fun read same => unloads ⟨read, same⟩
        by_cases reloads : Reloads vendor run values
        · rw [tearDown_reloads reloads, putBack_some, module_restored_iff]
          exact ⟨fun ⟨solid, others⟩ => ⟨fun _ => state, fun _ => solid, fun _ => others,
              fun keeps => absurd reloads keeps⟩,
            fun restorable => ⟨restorable.solid reloads, restorable.others reloads⟩⟩
        · rw [tearDown_keeps lists reloads state, left_putBack_iff lists]
          exact ⟨fun leaves => ⟨fun _ => state, fun reloading => absurd reloading reloads,
              fun reloading => absurd reloading reloads, fun _ => leaves⟩,
            fun restorable => restorable.left reloads⟩
    · rw [tearDown_of_not_lists lists]
      exact iff_of_true ((putBack_some vendor values values).mpr fun _ _ _ => rfl)
        ⟨fun comes => absurd comes lists, fun reloads => absurd reloads.1 lists,
          fun reloads => absurd reloads.1 lists, fun _ comes => absurd comes.lists lists⟩

end Test

/-- A module with one parameter that can be read or not. -/
def oneParameter (readable : Bool) : Vendor where
  cpu := .amd
  names := [⟨"avic".toList, isWord_of_check (by decide) (by decide), by decide⟩]
  distinct := List.nodup_singleton _
  readable _ := readable
  defaults _ := "N".toList

/-- A test that stops because the module cannot be loaded again. -/
def refusedLoad : Run where
  mode := .accelerated
  kvmModuleParam := ⟨"avic".toList, isWord_of_check (by decide) (by decide), by decide⟩
  config := .module
  stops _ := false
  breaksAt := none
  unload := ⟨true, false⟩
  load := ⟨false, true⟩

/-- The module stays unloaded when it has no readable parameter and the load fails. -/
theorem module_put_back_fails :
    ¬ ∀ vendor run module, PutBack vendor module (tearDown vendor (setUp vendor run module)) := by
  intro always
  have loaded := (always (oneParameter false) refusedLoad (some fun _ => "N".toList)).loaded
  exact absurd loaded (by decide)

end AvocadoMisc.KvmUnit.ModuleState
