import AvocadoMisc.Library.LineTools
import AvocadoMisc.Library.ShrinkingLoops

/-!
# The gates of the module parameter test

`driver_parameter.py` does not run for a module that is built in, nor for a parameter that the
module does not have, and in the end it looks at the value of the parameter in sysfs.

`built_in_module` runs the first file name of `modules.builtin` as a command and compares the name
of the module with a list of texts. These are never equal, and the loop returns after its first
round, so no module is built in. The test for loading and unloading modules has a copy of it. The
parameter and the value are looked for as parts of what is printed: the parameter may be a part of
the name of another one or of a description, and the value a part of the value that is held.
-/

namespace AvocadoMisc.DriverParameter.Gates

open Library.LineTools Library.Parts Library.ShrinkingLoops Library.Text

/-- A character string. -/
abbrev Text := List Char

/-! ### What is looked at -/

/-- A value that is compared: a text, or a list of texts. -/
inductive PyValue where
  | str (text : Text)
  | list (texts : List Text)
  deriving DecidableEq

/-- A parameter that `modinfo -p` lists, with its description. -/
structure Parameter where
  name : Text
  description : Text

/-- Its line. -/
def Parameter.line (parameter : Parameter) : Text :=
  parameter.name ++ ':' :: parameter.description

/-- A name that a parameter may have: nothing in it ends a name or a line. -/
structure Name where
  text : Text
  nonempty : text ≠ []
  plain : ∀ c ∈ text, c ≠ ':' ∧ isNewline c = false

/-- A module and a parameter to be set to a value, with what the system says of them: the lines of
`modules.builtin`, the output of any command, the parameters of the module, and the value that
sysfs holds for the parameter. -/
structure Setting where
  module : Text
  paramName : Name
  paramValue : Text
  builtin : List Text
  getoutput : Text → Text
  parameters : List Parameter
  held : Text
  heldLine : ∀ c ∈ held, isNewline c = false

/-! ### The checks -/

/-- The loop of `built_in_module`. Its second return is in the body of the loop, and after a loop
without rounds nothing is returned. -/
def builtInLoop (getoutput : Text → Text) (module : Text) : List Text → Option Bool
  | [] => none
  | each :: _ =>
    let out := getoutput ((each.splitOn '/').getLastD [])
    if PyValue.str module = PyValue.list (out.splitOn '.') then some true else some false

/-- `built_in_module`. -/
def builtInModule (setting : Setting) (module : Text) : Option Bool :=
  builtInLoop setting.getoutput module setting.builtin

/-- `param_check`. -/
def paramCheck (setting : Setting) : Bool :=
  let valueCheck := chomp (printed (setting.parameters.map Parameter.line))
  if !contains setting.paramName.text valueCheck then false else true

/-- `sysfs_value_check`. -/
def sysfsValueCheck (setting : Setting) : Bool :=
  let valueCheck := chomp (printed [setting.held])
  if !contains setting.paramValue valueCheck then false else true

/-- Whether `setUp` cancels the test, with the message. -/
def gate (setting : Setting) : Option Text :=
  if builtInModule setting setting.module = some true then
    some ("Module ".toList ++ setting.module ++ " is Built-in Skipping ".toList)
  else if paramCheck setting = false then
    some ("Param ".toList ++ setting.paramName.text ++ " is not Valid for Module ".toList ++
      setting.module)
  else none

namespace ModuleUnloadLoad

/-- `built_in_module` of the test for loading and unloading modules. -/
def builtInModule (setting : Setting) (module : Text) : Option Bool :=
  builtInLoop setting.getoutput module setting.builtin

/-- The modules that are loaded and unloaded. The list is filtered while it is gone through. -/
def modList (setting : Setting) (requested : List Text) : List Text :=
  (shrinkFrom (fun mod => decide (builtInModule setting mod ≠ some true)) requested 0).2

end ModuleUnloadLoad

/-! ### What is asked of the checks -/

/-- The file of a module is in `modules.builtin`. -/
def Setting.IsBuiltIn (setting : Setting) (module : Text) : Prop :=
  ∃ line ∈ setting.builtin, (line.splitOn '/').getLastD [] = module ++ ".ko".toList

/-- The module has the parameter. -/
def Setting.IsListed (setting : Setting) : Prop :=
  ∃ parameter ∈ setting.parameters, parameter.name = setting.paramName.text

/-- Each check returns `True` exactly when what it is for holds, and so does the copy of the first
one. -/
structure Exact (setting : Setting) : Prop where
  builtIn : builtInModule setting setting.module = some true ↔
    setting.IsBuiltIn setting.module
  copy : ModuleUnloadLoad.builtInModule setting setting.module = some true ↔
    setting.IsBuiltIn setting.module
  param : paramCheck setting = true ↔ setting.IsListed
  sysfs : sysfsValueCheck setting = true ↔ setting.held = setting.paramValue

/-- The name of the parameter is a part of the name of another one, or of a description. -/
def Setting.IsMentioned (setting : Setting) : Prop :=
  ∃ parameter ∈ setting.parameters, setting.paramName.text <:+: parameter.name ∨
    setting.paramName.text <:+: parameter.description

/-! ### What the checks return -/

/-- No module is built in. -/
theorem builtInLoop_ne_true (getoutput : Text → Text) (module : Text) (lines : List Text) :
    builtInLoop getoutput module lines ≠ some true := by
  cases lines with
  | nil => simp [builtInLoop]
  | cons each rest =>
    have different : PyValue.str module ≠
        PyValue.list ((getoutput ((each.splitOn '/').getLastD [])).splitOn '.') := by
      intro equal
      cases equal
    rw [builtInLoop, if_neg different]
    simp

/-- The check of the parameter finds it wherever it is mentioned. -/
theorem paramCheck_iff (setting : Setting) : paramCheck setting = true ↔ setting.IsMentioned := by
  have found : paramCheck setting = true ↔ setting.paramName.text <:+:
      chomp (printed (setting.parameters.map Parameter.line)) := by
    rw [paramCheck]
    cases isPart : contains setting.paramName.text
        (chomp (printed (setting.parameters.map Parameter.line))) <;>
      simpa [contains] using isPart
  have noColon : ':' ∉ setting.paramName.text := fun member =>
    (setting.paramName.plain ':' member).1 rfl
  rw [found, infix_chomp_printed_iff setting.paramName.nonempty
    fun c member => (setting.paramName.plain c member).2, Setting.IsMentioned]
  simp only [List.mem_map, exists_exists_and_eq_and, Parameter.line, infix_append_cons_iff noColon]

/-- A parameter that is listed is mentioned. -/
theorem isMentioned_of_isListed {setting : Setting} (listed : setting.IsListed) :
    setting.IsMentioned := by
  obtain ⟨parameter, isParameter, named⟩ := listed
  exact ⟨parameter, isParameter, .inl (named ▸ List.infix_refl _)⟩

/-- The check of the value finds it wherever it is a part of the value that is held. -/
theorem sysfsValueCheck_iff (setting : Setting) :
    sysfsValueCheck setting = true ↔ setting.paramValue <:+: setting.held := by
  have output : chomp (printed [setting.held]) = setting.held := by
    have ending : ∀ c ∈ ['\n'], isNewline c = true := forall_of_check (by decide)
    rw [printed, List.flatMap_singleton, chomp, rdropWhile_append ending,
      List.rdropWhile_eq_self_iff]
    intro something
    simp [setting.heldLine _ (List.getLast_mem something)]
  rw [sysfsValueCheck, output]
  cases isPart : contains setting.paramValue setting.held <;> simpa [contains] using isPart

/-- The gate lets every parameter pass that is mentioned, for a module that may be built in. -/
theorem gate_eq_none_iff (setting : Setting) : gate setting = none ↔ setting.IsMentioned := by
  rw [gate, builtInModule, if_neg (builtInLoop_ne_true _ _ _), ← paramCheck_iff]
  cases paramCheck setting <;> simp

/-- All requested modules are loaded and unloaded. -/
theorem modList_perm (setting : Setting) (requested : List Text) :
    (ModuleUnloadLoad.modList setting requested).Perm requested := by
  have all : ∀ mod ∈ requested,
      decide (ModuleUnloadLoad.builtInModule setting mod ≠ some true) = true := fun mod _ =>
    decide_eq_true (builtInLoop_ne_true setting.getoutput mod setting.builtin)
  have remains := (shrinkFrom_zero
    (fun mod => decide (ModuleUnloadLoad.builtInModule setting mod ≠ some true)) requested).2
  rwa [left_eq_self _ all] at remains

/-! ### The verdict -/

/-- The checks are exact exactly when the module is not built in, the parameter is listed or not
mentioned at all, and the value is the one that is held or no part of it.

What the system says is free: the lines of `modules.builtin`, the output of each command, the
parameters of the module and the value in sysfs. Only the gates are compared, not what the kernel
makes of a value that passed them. -/
theorem gates_exact_iff (setting : Setting) :
    Exact setting ↔ ¬setting.IsBuiltIn setting.module ∧
      (setting.IsListed ∨ ¬setting.IsMentioned) ∧
      (setting.held = setting.paramValue ∨ ¬setting.paramValue <:+: setting.held) := by
  have never := builtInLoop_ne_true setting.getoutput setting.module setting.builtin
  constructor
  · intro exact
    refine ⟨fun isBuiltIn => never (exact.builtIn.mpr isBuiltIn), ?_, ?_⟩
    · have listed := exact.param
      rw [paramCheck_iff] at listed
      rw [← listed]
      exact em _
    · have same := exact.sysfs
      rw [sysfsValueCheck_iff] at same
      rw [← same]
      exact em _
  · rintro ⟨notBuiltIn, listed, same⟩
    refine ⟨iff_of_false never notBuiltIn, iff_of_false never notBuiltIn, ?_, ?_⟩
    · rw [paramCheck_iff]
      exact ⟨fun mentioned => listed.resolve_right (not_not_intro mentioned),
        isMentioned_of_isListed⟩
    · rw [sysfsValueCheck_iff]
      refine ⟨fun isPart => same.resolve_right (not_not_intro isPart), fun equal => ?_⟩
      rw [equal]

/-- The adapter of a system whose driver is built in, with a parameter to be set to one. The
parameter is a part of another one, and the value of the one that is held. -/
def builtInDriver : Setting where
  module := "tg3".toList
  paramName := ⟨"debug".toList, by decide, forall_of_check (by decide)⟩
  paramValue := ['1']
  builtin := ["kernel/drivers/net/ethernet/broadcom/tg3.ko".toList]
  getoutput := fun _ => []
  parameters := [⟨"tg3_debug".toList, "bitmapped message level (int)".toList⟩]
  held := ['1', '0']
  heldLine := forall_of_check (by decide)

/-- All checks are wrong about it. -/
theorem checks_wrong :
    ¬(builtInModule builtInDriver builtInDriver.module = some true ↔
      builtInDriver.IsBuiltIn builtInDriver.module) ∧
    ¬(paramCheck builtInDriver = true ↔ builtInDriver.IsListed) ∧
    ¬(sysfsValueCheck builtInDriver = true ↔ builtInDriver.held = builtInDriver.paramValue) ∧
    ¬Exact builtInDriver := by
  have isBuiltIn : builtInDriver.IsBuiltIn builtInDriver.module :=
    ⟨_, List.mem_cons_self, by decide +kernel⟩
  have notFound : builtInModule builtInDriver builtInDriver.module ≠ some true := by
    decide +kernel
  have notListed : ¬builtInDriver.IsListed := by
    rintro ⟨parameter, isParameter, named⟩
    revert parameter
    decide +kernel
  have passes : paramCheck builtInDriver = true := by decide +kernel
  have notHeld : builtInDriver.held ≠ builtInDriver.paramValue := by decide
  have valuePasses : sysfsValueCheck builtInDriver = true := by decide +kernel
  refine ⟨fun law => notFound (law.mpr isBuiltIn), fun law => notListed (law.mp passes),
    fun law => notHeld (law.mp valuePasses), fun exact => notFound (exact.builtIn.mpr isBuiltIn)⟩

end AvocadoMisc.DriverParameter.Gates
