import Mathlib.Data.List.Basic
import AvocadoMisc.Library.Transitions

/-!
# The backup of the multipath configuration

`setUp` of `multipath_test.py` copies `/etc/multipath.conf` to a backup if there is one, and
`tearDown` copies the backup back if there is one. The backup is never removed. In between, `test`
has the configuration written again and again.

A configuration that was there before a run is put back. Without one, the backup of an earlier run
is put in its place, and without a backup what `test` had written stays.
-/

namespace AvocadoMisc.Multipath.Backup

open Library.Transitions

/-! ### What a run writes -/

/-- The arguments of `form_conf_mpath_file`. -/
structure Form where
  blacklist : String
  defaultsExtra : String
  deriving DecidableEq

/-- A multipath device that is found in `setUp`. -/
structure MpathDic where
  wwid : String
  paths : List String

/-- The test methods. -/
inductive Method where
  | test
  | failReinstateIndividualPaths
  | ioRunOnSinglePath
  | failingReinstateAllPaths
  | removingAllPaths
  | suspendResumeIndividualMpath
  | suspendResumeAllMpath
  | removeAddMpath
  deriving DecidableEq

/-- A run: its method, its policies with the given one at the end, the devices, and the number of
times the configuration is written before the run ends or is stopped. -/
structure Run where
  method : Method
  policy : String
  policies : List String
  mpathList : List MpathDic
  writes : Nat

/-- The line for a policy. -/
def pathSelector (policy : String) : String := "path_selector \"" ++ policy ++ " 0\""

/-- What is written for a device. -/
def formsFor (plcy : String) (policies : List String) (pathDic : MpathDic) : List Form :=
  (policies.map fun policy => ⟨"", pathSelector policy⟩) ++
    [⟨"wwid " ++ pathDic.wwid, plcy⟩, ⟨"", plcy⟩] ++
    (pathDic.paths.flatMap fun disk => [⟨"devnode " ++ disk, plcy⟩, ⟨"", plcy⟩]) ++
    [⟨"", plcy⟩]

/-- What `test` writes. -/
def testForms (run : Run) : List Form :=
  [⟨"", ""⟩, ⟨"", pathSelector run.policy⟩] ++
    run.mpathList.flatMap (formsFor (pathSelector run.policy) run.policies)

/-- What a run writes. Only `test` writes. -/
def Run.forms (run : Run) : List Form :=
  if run.method = .test then (testForms run).take run.writes else []

/-! ### Runs and what happens between them -/

variable {Content : Type}

/-- The contents of `/etc/multipath.conf` and of its backup, if they exist. -/
structure State (Content : Type) where
  conf : Option Content
  bkp : Option Content

/-- A run, or any change of the configuration between two runs. -/
inductive Label (Content : Type) where
  | run (run : Run)
  | edit (conf : Option Content)

/-- `setUp`. -/
def State.setUp (state : State Content) : State Content :=
  match state.conf with
  | some content => { state with bkp := some content }
  | none => state

/-- `form_conf_mpath_file`. -/
def State.write (form : Form → Content) (state : State Content) (arguments : Form) :
    State Content :=
  { state with conf := some (form arguments) }

/-- `tearDown`. -/
def State.tearDown (state : State Content) : State Content :=
  match state.bkp with
  | some content => { state with conf := some content }
  | none => state

/-- One step. -/
def step (form : Form → Content) (state : State Content) :
    Label Content → Option (State Content)
  | .run run => some (run.forms.foldl (State.write form) state.setUp).tearDown
  | .edit conf => some { state with conf := conf }

/-! ### What is asked of the runs -/

/-- After a run the configuration is as it was before the run, there or not. Nothing is asked of the
changes between two runs. -/
def Restored (event : Event (State Content) (Label Content)) : Prop :=
  match event.label with
  | .run _ => event.after.conf = event.before.conf
  | .edit _ => True

/-- A run begins without a configuration, and there is a backup or the run writes one. -/
def Spoils (state : State Content) : Label Content → Prop
  | .run run => state.conf = none ∧ (state.bkp ≠ none ∨ run.method = .test ∧ 0 < run.writes)
  | .edit _ => False

/-! ### Single runs -/

/-- Writing the configuration does not change the backup. -/
theorem foldl_write_bkp (form : Form → Content) (forms : List Form) (state : State Content) :
    (forms.foldl (State.write form) state).bkp = state.bkp := by
  induction forms generalizing state with
  | nil => rfl
  | cons first rest inductionHypothesis =>
    rw [List.foldl_cons, inductionHypothesis]
    rfl

/-- There is a configuration after it was written. -/
theorem foldl_write_conf (form : Form → Content) {forms : List Form} (written : forms ≠ [])
    (state : State Content) : (forms.foldl (State.write form) state).conf ≠ none := by
  obtain ⟨front, last, rfl⟩ := (List.eq_nil_or_concat' forms).resolve_left written
  rw [List.foldl_append]
  exact Option.some_ne_none _

/-- Only `test` writes, and it does so at once. -/
theorem forms_eq_nil_iff (run : Run) :
    run.forms = [] ↔ ¬(run.method = .test ∧ 0 < run.writes) := by
  rw [Run.forms]
  by_cases isTest : run.method = .test
  · rw [if_pos isTest, List.take_eq_nil_iff, and_iff_right isTest]
    have some_form : testForms run ≠ [] := by simp [testForms]
    rw [or_iff_left some_form]
    omega
  · rw [if_neg isTest]
    exact iff_of_true rfl fun both => isTest both.1

/-- `tearDown` puts the backup in the place of the configuration. -/
theorem tearDown_conf (state : State Content) : state.tearDown.conf = state.bkp.or state.conf := by
  rw [State.tearDown]
  cases backup : state.bkp <;> simp

/-- The configuration, or the last one, is in the backup. -/
theorem setUp_bkp (state : State Content) : state.setUp.bkp = state.conf.or state.bkp := by
  rw [State.setUp]
  cases configuration : state.conf <;> simp

/-- The configuration after a run. -/
theorem run_conf {form : Form → Content} {state after : State Content} {run : Run}
    (taken : step form state (.run run) = some after) :
    after.conf = (state.conf.or state.bkp).or
      (run.forms.foldl (State.write form) state.setUp).conf := by
  cases taken
  rw [tearDown_conf, foldl_write_bkp, setUp_bkp]

/-- The backup after a run. -/
theorem run_bkp {form : Form → Content} {state after : State Content} {run : Run}
    (taken : step form state (.run run) = some after) : after.bkp = state.conf.or state.bkp := by
  cases taken
  have same : ∀ state : State Content, state.tearDown.bkp = state.bkp := by
    intro state
    rw [State.tearDown]
    split <;> rfl
  rw [same, foldl_write_bkp, setUp_bkp]

/-- A run puts the configuration back exactly when it spoils nothing. -/
theorem restored_run_iff {form : Form → Content} {state after : State Content} {run : Run}
    (taken : step form state (.run run) = some after) :
    after.conf = state.conf ↔ ¬Spoils state (.run run) := by
  rw [run_conf taken, Spoils]
  cases configuration : state.conf with
  | some content => simp
  | none =>
    cases backup : state.bkp with
    | some content => simp
    | none =>
      have untouched : state.setUp = state := by
        rw [State.setUp, configuration]
      by_cases written : run.forms = []
      · have quiet := (forms_eq_nil_iff run).mp written
        simp [written, untouched, configuration, quiet]
      · have loud := Classical.not_not.mp ((not_congr (forms_eq_nil_iff run)).mp written)
        have there := foldl_write_conf form written state.setUp
        simp [there, loud]

/-! ### Sequences of runs -/

/-- In every sequence of runs, with any changes between them, the configuration is put back by every
run exactly when each run that begins without one finds no backup and writes none.

The contents are of any type, and so is what `test` writes. A run may be stopped after any number of
its writes. The copies that `setUp` and `tearDown` make are taken to succeed. -/
theorem restored_iff (form : Form → Content) {state : State Content}
    {events : List (Event (State Content) (Label Content))}
    (trace : Trace (step form) Unrestricted state events) :
    (∀ event ∈ events, Restored event) ↔
      ∀ event ∈ events, ¬Spoils event.before event.label := by
  refine @Trace.every_iff _ _ _ _ (fun _ => True) Restored Spoils
    (fun before label after _ _ taken fine => ⟨trivial, ?_⟩)
    (fun before label after _ _ taken bad => ?_) _ _ trace trivial
  · cases label with
    | run run => exact (restored_run_iff taken).mpr fine
    | edit conf => trivial
  · cases label with
    | run run => exact fun restored => (restored_run_iff taken).mp restored bad
    | edit conf => exact absurd bad id

/-- A run that found a configuration. -/
def BacksUp (event : Event (State Content) (Label Content)) : Prop :=
  (∃ run, event.label = .run run) ∧ event.before.conf ≠ none

/-- There is a backup in front of a step exactly when there was one at first, or an earlier run
found a configuration.

Proof: by induction on the earlier steps. A backup is not removed. -/
theorem bkp_iff_earlier (form : Form → Content) {state : State Content}
    {earlier later : List (Event (State Content) (Label Content))}
    {event : Event (State Content) (Label Content)}
    (trace : Trace (step form) Unrestricted state (earlier ++ event :: later)) :
    event.before.bkp ≠ none ↔ state.bkp ≠ none ∨ ∃ run ∈ earlier, BacksUp run := by
  induction earlier generalizing state with
  | nil =>
    cases trace
    simp
  | cons first rest inductionHypothesis =>
    cases trace with
    | cons _ label after _ _ taken further =>
      rw [inductionHypothesis further, List.exists_mem_cons_iff, ← or_assoc]
      refine or_congr_left ?_
      cases label with
      | run run =>
        rw [run_bkp taken, BacksUp]
        cases state.conf <;> simp
      | edit conf =>
        cases taken
        simp [BacksUp]

/-- The first write of `test`. -/
def firstWrite : Run := ⟨.test, "service-time", ["service-time"], [], 1⟩

/-- A run that begins without a configuration. -/
def unconfigured : Event (State String) (Label String) :=
  ⟨⟨none, none⟩, .run firstWrite, ⟨some "", none⟩⟩

/-- The run is one of the test. -/
theorem unconfigured_trace :
    Trace (step Form.blacklist) Unrestricted ⟨none, none⟩ [unconfigured] :=
  .cons _ _ _ _ trivial rfl (.nil _)

/-- The statement about sequences, at this run: what it spoils is not put back. -/
theorem restored_iff_unconfigured :
    (∀ event ∈ [unconfigured], Restored event) ↔
      ∀ event ∈ [unconfigured], ¬Spoils event.before event.label :=
  restored_iff Form.blacklist unconfigured_trace

/-- A configuration that was not there before is left. -/
theorem multipathConf_left :
    ∃ (form : Form → String) (state : State String)
      (events : List (Event (State String) (Label String))),
      Trace (step form) Unrestricted state events ∧ ¬∀ event ∈ events, Restored event := by
  refine ⟨Form.blacklist, ⟨none, none⟩, [unconfigured], unconfigured_trace, fun restored => ?_⟩
  exact Option.some_ne_none _ (restored unconfigured List.mem_cons_self)

end AvocadoMisc.Multipath.Backup
