import Mathlib.Algebra.Order.BigOperators.Group.List
import Mathlib.Data.Rat.Lemmas
import Mathlib.Tactic.Linarith
import Mathlib.Tactic.Ring
import AvocadoMisc.Library.Retrace

/-!
# Resources of a partition

A partition has processors, processing units and memory. A test changes them by commands
that add or remove a quantity. Quantities are exact: what the tests compute in floating
point is a sum of multiples of 1, 2 and 0.75 here.
-/

namespace AvocadoMisc.Dlpar.Partition

open Library.Retrace

/-- What a command changes. -/
inductive Resource where
  | procs
  | units
  | memory
deriving DecidableEq

/-- Whether a command adds or removes. -/
inductive Action where
  | add
  | remove
deriving DecidableEq

/-- A request to the management console. -/
structure Command where
  action : Action
  resource : Resource
  quantity : ℚ
deriving DecidableEq

/-- How much of everything the partition has. -/
abbrev Allocation := Resource → ℚ

/-- By how much a command changes its resource. -/
def Command.change (command : Command) : ℚ :=
  match command.action with
  | .add => command.quantity
  | .remove => -command.quantity

/-- The partition after a successful command. -/
def perform (allocation : Allocation) (command : Command) : Allocation :=
  Function.update allocation command.resource (allocation command.resource + command.change)

/-- The command that takes a command back. -/
def Command.inverse (command : Command) : Command :=
  match command.action with
  | .add => { command with action := .remove }
  | .remove => { command with action := .add }

/-- Taking a command back restores the partition. -/
theorem perform_inverse (allocation : Allocation) (command : Command) :
    perform (perform allocation command) command.inverse = allocation := by
  obtain ⟨action, resource, quantity⟩ := command
  cases action <;> simp [perform, Command.inverse, Command.change]

/-- By how much a run changes a resource. -/
def totalChange (resource : Resource) (commands : List Command) : ℚ :=
  (commands.map fun command => if command.resource = resource then command.change else 0).sum

/-- A run changes a resource by the sum of its commands. -/
theorem finish_eq (allocation : Allocation) (commands : List Command) (resource : Resource) :
    finish perform allocation commands resource =
      allocation resource + totalChange resource commands := by
  induction commands generalizing allocation with
  | nil => simp [finish, totalChange]
  | cons command rest inductionHypothesis =>
    have later := inductionHypothesis (perform allocation command)
    simp only [finish, List.foldl_cons, totalChange, List.map_cons, List.sum_cons] at later ⊢
    rw [later, perform]
    by_cases same : command.resource = resource
    · subst same
      simp [add_assoc]
    · simp [same, Ne.symm same]

/-- Runs one after the other. -/
theorem totalChange_append (resource : Resource) (first second : List Command) :
    totalChange resource (first ++ second) =
      totalChange resource first + totalChange resource second := by
  simp [totalChange]

/-- Taking commands back changes every resource back. -/
theorem totalChange_inverse (resource : Resource) (commands : List Command) :
    totalChange resource (commands.map Command.inverse) = -totalChange resource commands := by
  induction commands with
  | nil => rfl
  | cons command rest inductionHypothesis =>
    have back : totalChange resource [command.inverse] = -totalChange resource [command] := by
      obtain ⟨action, changed, quantity⟩ := command
      cases action <;> by_cases same : changed = resource <;>
        simp [totalChange, Command.inverse, Command.change, same]
    calc totalChange resource ([command.inverse] ++ rest.map Command.inverse)
        = -totalChange resource [command] + -totalChange resource rest := by
          rw [totalChange_append, back, inductionHypothesis]
      _ = -(totalChange resource [command] + totalChange resource rest) := by ring
      _ = -totalChange resource ([command] ++ rest) := by rw [totalChange_append]

/-- The order of the commands does not matter. -/
theorem totalChange_perm {resource : Resource} {first second : List Command}
    (same : first.Perm second) : totalChange resource first = totalChange resource second :=
  (same.map _).sum_eq

/-- Undoing a run changes every resource back. -/
theorem totalChange_undo (resource : Resource) (commands : List Command) :
    totalChange resource (undo Command.inverse commands) = -totalChange resource commands := by
  rw [undo, totalChange_inverse, totalChange_perm (List.reverse_perm commands)]

/-- A run that changes every resource back restores the partition. -/
theorem finish_restored {before : Allocation} {performed removal : List Command}
    (opposite : ∀ resource, totalChange resource removal = -totalChange resource performed) :
    finish perform (finish perform before performed) removal = before := by
  funext resource
  rw [finish_eq, finish_eq, opposite]
  ring

/-- Adding never takes anything away. -/
theorem totalChange_nonneg {resource : Resource} {commands : List Command}
    (adds : ∀ command ∈ commands, 0 ≤ command.change) : 0 ≤ totalChange resource commands := by
  apply List.sum_nonneg
  intro change member
  obtain ⟨command, inside, rfl⟩ := List.mem_map.mp member
  split_ifs
  · exact adds command inside
  · exact le_refl 0

/-- A run that only adds stays below where it ends. -/
theorem path_le_finish {allocation : Allocation} {commands : List Command}
    (adds : ∀ command ∈ commands, 0 ≤ command.change) (resource : Resource) :
    ∀ state ∈ path perform allocation commands,
      state resource ≤ finish perform allocation commands resource := by
  intro state visited
  obtain ⟨done, left, rfl, rfl⟩ := (mem_path perform).mp visited
  rw [finish_eq, finish_eq, totalChange_append]
  have rest : 0 ≤ totalChange resource left := totalChange_nonneg fun command member =>
    adds command (List.mem_append_right done member)
  linarith

end AvocadoMisc.Dlpar.Partition
