import Mathlib.Algebra.Group.Nat.Defs
import Mathlib.Order.Bounds.Basic
import AvocadoMisc.Library.WhileLoops

/-!
# The next node with memory

`get_next_mem_node` of `util.c` looks through the nodes behind a start node and, when none of
them has memory, starts again in front of node 0. Its node numbers are of the type `unsigned long`,
and the number in front of node 0 is the largest one, whose successor wraps around to 0.
`bench_movepages` migrates pages between two nodes that it finds in this way.
-/

namespace AvocadoMisc.NumaTest.MemoryNodes

open Library.WhileLoops

/-! ### The search -/

/-- What libnuma says: `numa_max_node`, which returns an `int`, and `numa_node_size`, which is
negative where nothing is known about a node. -/
structure Machine where
  maxNode : Nat
  isInt : maxNode < 2 ^ 31
  nodeSize : Nat → Int

/-- The variables of `get_next_mem_node`, and the value once there is one. -/
structure Search where
  node : BitVec 64
  i : BitVec 64
  returned : Option (BitVec 64)
  deriving DecidableEq

/-- The label `restart` with a node: the loop begins behind it. -/
def restart (node : BitVec 64) : Search := { node, i := node + 1, returned := none }

/-- The function has not returned. -/
def running (search : Search) : Bool := search.returned.isNone

/-- The test of the loop with the turn that follows, or what comes behind the loop. -/
def turn (machine : Machine) (search : Search) : Search :=
  if search.i ≤ BitVec.ofNat 64 machine.maxNode then
    if machine.nodeSize search.i.toNat > 0 then { search with returned := some search.i }
    else { search with i := search.i + 1 }
  else if search.node = -1 then { search with returned := some 0 }
  else restart (-1)

/-- `get_next_mem_node`, with at most so many turns. -/
def getNextMemNode (turns : Nat) (machine : Machine) (node : BitVec 64) : Option (BitVec 64) := do
  let search ← whileLoop running (turn machine) turns (restart node)
  search.returned

/-- `get_first_mem_node`. -/
def getFirstMemNode (turns : Nat) (machine : Machine) : Option (BitVec 64) :=
  getNextMemNode turns machine (-1)

/-- What `main` goes on with: its message, or the two nodes and the nodes it allows. -/
inductive Choice where
  | refused (message : String)
  | chosen (srcNode destNode : BitVec 64) (oldNodes allNodes : List (BitVec 64))
  deriving DecidableEq

/-- `nr_nodes`. The sum is one of two `int` values. -/
def nrNodes (machine : Machine) : BitVec 64 :=
  (BitVec.ofNat 32 machine.maxNode + 1).signExtend 64

/-- `main` up to the choice of the nodes, with at most so many turns for each of them. -/
def chooseNodes (turns : Nat) (machine : Machine) : Option Choice :=
  if nrNodes machine < 2 then
    some (.refused "A minimum of 2 nodes is required for this test.\n")
  else do
    let srcNode ← getFirstMemNode turns machine
    let destNode ← getNextMemNode turns machine srcNode
    some (.chosen srcNode destNode [srcNode] [srcNode, destNode])

/-! ### The cyclic successor -/

section Law

variable (machine : Machine)

/-- A node of the machine has memory. -/
def HasMemory (n : Nat) : Prop := n ≤ machine.maxNode ∧ 0 < machine.nodeSize n

/-- The smallest node with memory behind the start, or else the smallest one at all, or else 0. -/
def NextMemNode (start value : Nat) : Prop :=
  IsLeast {n | HasMemory machine n ∧ start < n} value ∨
    (∀ n, HasMemory machine n → n ≤ start) ∧
      (IsLeast {n | HasMemory machine n} value ∨ (∀ n, ¬ HasMemory machine n) ∧ value = 0)

/-- `get_next_mem_node` ends with a value, given enough turns of its loop. -/
def Returns (node value : BitVec 64) : Prop :=
  ∃ enough, ∀ turns, enough ≤ turns → getNextMemNode turns machine node = some value

/-- `main` makes a choice, given enough turns of the loops that look for the nodes. -/
def Chooses (choice : Choice) : Prop :=
  ∃ enough, ∀ turns, enough ≤ turns → chooseNodes turns machine = some choice

end Law

variable {machine : Machine}

/-- With two nodes that have memory, the successor of a node that has memory is another one. -/
theorem NextMemNode.other {start value other : Nat} (memory : HasMemory machine other)
    (differs : other ≠ start) (next : NextMemNode machine start value) :
    HasMemory machine value ∧ value ≠ start := by
  rcases next with least | ⟨none, least | ⟨nowhere, _⟩⟩
  · have behind : start < value := least.1.2
    exact ⟨least.1.1, by omega⟩
  · have inFront : other ≤ start := none other memory
    have first : value ≤ other := least.2 memory
    exact ⟨least.1, by omega⟩
  · exact absurd memory (nowhere other)

/-- Where a node has memory, the result of a search has memory. -/
theorem NextMemNode.hasMemory {start value some : Nat} (memory : HasMemory machine some)
    (next : NextMemNode machine start value) : HasMemory machine value := by
  rcases next with least | ⟨_, least | ⟨nowhere, _⟩⟩
  · exact least.1.1
  · exact least.1
  · exact absurd memory (nowhere some)

/-! ### The invariant -/

/-- How far a search has come: it looks behind the start, or it looks at all nodes because there
is none behind the start, or it has its result. -/
inductive Progress (machine : Machine) (start : BitVec 64) : Search → Prop
  | behind (i : BitVec 64) (notLast : start ≠ -1) (above : start.toNat < i.toNat)
      (seen : ∀ n, start.toNat < n → n < i.toNat → ¬ HasMemory machine n) :
      Progress machine start { node := start, i, returned := none }
  | again (i : BitVec 64) (bounded : i.toNat ≤ machine.maxNode + 1)
      (notBehind : ∀ n, HasMemory machine n → n ≤ start.toNat)
      (seen : ∀ n, n < i.toNat → ¬ HasMemory machine n) :
      Progress machine start { node := -1, i, returned := none }
  | done (node i value : BitVec 64) (next : NextMemNode machine start.toNat value.toNat) :
      Progress machine start { node, i, returned := some value }

/-- The turns that are left at most. -/
def turnsLeft (machine : Machine) (search : Search) : Nat :=
  if search.returned.isSome then 0
  else machine.maxNode + 1 - search.i.toNat + 1 +
    if search.node = -1 then 0 else machine.maxNode + 3

/-- The largest node is not touched by the conversion. -/
theorem le_maxNode_iff (i : BitVec 64) :
    i ≤ BitVec.ofNat 64 machine.maxNode ↔ i.toNat ≤ machine.maxNode := by
  have small := machine.isInt
  rw [BitVec.le_def, BitVec.toNat_ofNat, Nat.mod_eq_of_lt (by omega)]

/-- The successor does not wrap around below the largest number. -/
theorem toNat_succ {i : BitVec 64} (below : i.toNat < 2 ^ 64 - 1) :
    (i + 1).toNat = i.toNat + 1 := by
  have one : (1 : BitVec 64).toNat = 1 := by decide
  rw [BitVec.toNat_add, one, Nat.mod_eq_of_lt (by omega)]

/-- A number other than the largest one is below it. -/
theorem below_of_ne {node : BitVec 64} (notLast : node ≠ -1) : node.toNat < 2 ^ 64 - 1 := by
  have bound := node.isLt
  have differs : node.toNat ≠ 2 ^ 64 - 1 := by
    intro same
    apply notLast
    apply BitVec.eq_of_toNat_eq
    rw [same]
    decide
  omega

/-- Nodes beyond the first `i` are beyond the next one when node `i` has no memory. -/
theorem seen_succ {i : Nat} {Earlier : Nat → Prop}
    (seen : ∀ n, Earlier n → n < i → ¬ HasMemory machine n) (without : ¬ machine.nodeSize i > 0) :
    ∀ n, Earlier n → n < i + 1 → ¬ HasMemory machine n := by
  intro n earlier bound memory
  rcases Nat.lt_succ_iff_lt_or_eq.mp bound with less | rfl
  · exact seen n earlier less memory
  · exact without memory.2

/-- The search begins behind the start. Behind the largest number that is node 0. -/
theorem progress_restart (machine : Machine) (start : BitVec 64) :
    Progress machine start (restart start) := by
  by_cases last : start = -1
  · subst last
    apply Progress.again
    · exact Nat.zero_le _
    · intro n memory
      have small := machine.isInt
      have bound : n ≤ machine.maxNode := memory.1
      have largest : (-1 : BitVec 64).toNat = 2 ^ 64 - 1 := by decide
      omega
    · intro n negative
      exact absurd negative (Nat.not_lt_zero n)
  · have successor := toNat_succ (below_of_ne last)
    apply Progress.behind
    · exact last
    · omega
    · intro n above bound
      omega

/-- A node with memory ends the search. -/
theorem turn_memory {search : Search} (inside : search.i.toNat ≤ machine.maxNode)
    (memory : machine.nodeSize search.i.toNat > 0) :
    turn machine search = { search with returned := some search.i } := by
  rw [turn, if_pos ((le_maxNode_iff search.i).mpr inside), if_pos memory]

/-- A node without memory is passed. -/
theorem turn_empty {search : Search} (inside : search.i.toNat ≤ machine.maxNode)
    (without : ¬ machine.nodeSize search.i.toNat > 0) :
    turn machine search = { search with i := search.i + 1 } := by
  rw [turn, if_pos ((le_maxNode_iff search.i).mpr inside), if_neg without]

/-- Beyond the last node the search begins again, or ends when it has done so before. -/
theorem turn_past {search : Search} (past : ¬ search.i.toNat ≤ machine.maxNode) :
    turn machine search =
      if search.node = -1 then { search with returned := some 0 } else restart (-1) := by
  rw [turn, if_neg (mt (le_maxNode_iff search.i).mp past)]

/-- A number is the least one when those below are ruled out. -/
theorem isLeast_of_seen {Wanted : Nat → Prop} {i : Nat} (here : Wanted i)
    (seen : ∀ n < i, ¬ Wanted n) : IsLeast {n | Wanted n} i := by
  refine ⟨here, fun n wanted => ?_⟩
  by_contra less
  exact seen n (Nat.lt_of_not_le less) wanted

/-- A turn of the first pass goes forward: it returns the node, goes on to the next one, or begins
the second pass behind the last one, and fewer turns are left each time. -/
theorem progress_turn_behind {start i : BitVec 64} (notLast : start ≠ -1)
    (above : start.toNat < i.toNat)
    (seen : ∀ n, start.toNat < n → n < i.toNat → ¬ HasMemory machine n) :
    Progress machine start (turn machine { node := start, i, returned := none }) ∧
      turnsLeft machine (turn machine { node := start, i, returned := none }) <
        turnsLeft machine { node := start, i, returned := none } := by
  have small := machine.isInt
  by_cases inside : i.toNat ≤ machine.maxNode
  · by_cases memory : machine.nodeSize i.toNat > 0
    · rw [turn_memory inside memory]
      constructor
      · have least : IsLeast {n | HasMemory machine n ∧ start.toNat < n} i.toNat := by
          apply isLeast_of_seen ⟨⟨inside, memory⟩, above⟩
          rintro n less ⟨hasMemory, behind⟩
          exact seen n behind less hasMemory
        exact .done _ _ _ (Or.inl least)
      · simp only [turnsLeft, Option.isSome_some, Option.isSome_none, Bool.false_eq_true,
          ↓reduceIte]
        omega
    · have successor : (i + 1).toNat = i.toNat + 1 := toNat_succ (by omega)
      rw [turn_empty inside memory]
      constructor
      · apply Progress.behind (i + 1) notLast
        · omega
        · rw [successor]
          exact seen_succ seen memory
      · simp only [turnsLeft, successor, notLast, Option.isSome_none, Bool.false_eq_true,
          ↓reduceIte]
        omega
  · rw [turn_past inside, if_neg notLast]
    constructor
    · apply Progress.again _ (Nat.zero_le _)
      · intro n memory
        by_contra behind
        have bound : n ≤ machine.maxNode := memory.1
        exact seen n (Nat.lt_of_not_le behind) (by omega) memory
      · intro n negative
        exact absurd negative (Nat.not_lt_zero n)
    · simp only [turnsLeft, restart, notLast, Option.isSome_none, Bool.false_eq_true, ↓reduceIte]
      omega

/-- A turn of the second pass goes forward: it returns the node, goes on to the next one, or returns
0 behind the last one, where no node has memory. -/
theorem progress_turn_again {start i : BitVec 64} (bounded : i.toNat ≤ machine.maxNode + 1)
    (notBehind : ∀ n, HasMemory machine n → n ≤ start.toNat)
    (seen : ∀ n, n < i.toNat → ¬ HasMemory machine n) :
    Progress machine start (turn machine { node := -1, i, returned := none }) ∧
      turnsLeft machine (turn machine { node := -1, i, returned := none }) <
        turnsLeft machine { node := -1, i, returned := none } := by
  have small := machine.isInt
  by_cases inside : i.toNat ≤ machine.maxNode
  · by_cases memory : machine.nodeSize i.toNat > 0
    · rw [turn_memory inside memory]
      constructor
      · have least : IsLeast {n | HasMemory machine n} i.toNat :=
          isLeast_of_seen ⟨inside, memory⟩ seen
        exact .done _ _ _ (Or.inr ⟨notBehind, Or.inl least⟩)
      · simp [turnsLeft]
    · have successor : (i + 1).toNat = i.toNat + 1 := toNat_succ (by omega)
      rw [turn_empty inside memory]
      constructor
      · apply Progress.again (i + 1) _ notBehind
        · intro n bound
          rw [successor] at bound
          exact seen_succ (fun n (_ : True) => seen n) memory n trivial bound
        · omega
      · simp only [turnsLeft, successor, Option.isSome_none, Bool.false_eq_true, ↓reduceIte]
        omega
  · rw [turn_past inside, if_pos rfl]
    constructor
    · have nowhere : ∀ n, ¬ HasMemory machine n := by
        intro n memory
        have bound : n ≤ machine.maxNode := memory.1
        exact seen n (by omega) memory
      exact .done _ _ _ (Or.inr ⟨notBehind, Or.inr ⟨nowhere, rfl⟩⟩)
    · simp [turnsLeft]

/-- A turn goes forward. -/
theorem progress_turn {start : BitVec 64} {search : Search}
    (progress : Progress machine start search) (goesOn : running search = true) :
    Progress machine start (turn machine search) ∧
      turnsLeft machine (turn machine search) < turnsLeft machine search := by
  cases progress with
  | behind i notLast above seen => exact progress_turn_behind notLast above seen
  | again i bounded notBehind seen => exact progress_turn_again bounded notBehind seen
  | done node i value next => simp [running] at goesOn

/-- The search ends, with the cyclic successor of the start. -/
theorem exists_returns (machine : Machine) (node : BitVec 64) :
    ∃ value, Returns machine node value ∧ NextMemNode machine node.toNat value.toNat := by
  obtain ⟨last, ⟨enough, ends⟩, progress, stopped⟩ :=
    exists_ends (turnsLeft machine) (fun _ => progress_turn) (progress_restart machine node)
  cases progress with
  | behind => simp [running] at stopped
  | again => simp [running] at stopped
  | done lastNode i value next =>
    refine ⟨value, ⟨enough, fun turns more => ?_⟩, next⟩
    rw [getNextMemNode, ends turns more]
    rfl

/-- Where a node beyond the first one exists, `main` goes on. -/
theorem two_le_nrNodes {n : Nat} (positive : 0 < n) (inside : n ≤ machine.maxNode) :
    ¬ nrNodes machine < 2 := by
  have small := machine.isInt
  have sum : (BitVec.ofNat 32 machine.maxNode + 1).toNat = machine.maxNode + 1 := by
    have one : (1 : BitVec 32).toNat = 1 := by decide
    rw [BitVec.toNat_add, BitVec.toNat_ofNat, one,
      Nat.mod_eq_of_lt (by omega : machine.maxNode < 2 ^ 32), Nat.mod_eq_of_lt (by omega)]
  have low : machine.maxNode + 1 ≤ (nrNodes machine).toNat := by
    rw [nrNodes, BitVec.toNat_signExtend, BitVec.toNat_setWidth, sum,
      Nat.mod_eq_of_lt (by omega)]
    exact Nat.le_add_right _ _
  have two : (2 : BitVec 64).toNat = 2 := by decide
  rw [BitVec.lt_def, two]
  omega

/-- The search of the next memory node ends with the cyclic successor for every start, and with
two memory nodes the benchmark chooses two of them that are distinct.

The node numbers are those of `unsigned long`, and any nodes may have memory. Without two nodes with
memory nothing is claimed of the benchmark.

Proof: the search goes up to the last node and then, by the wrap-around, from node 0 on, so it meets
the cyclic successor first if there is one. -/
theorem nextMemNode_law (machine : Machine) :
    (∀ node : BitVec 64,
      ∃ value, Returns machine node value ∧ NextMemNode machine node.toNat value.toNat) ∧
    ((∃ one other, HasMemory machine one ∧ HasMemory machine other ∧ one ≠ other) →
      ∃ srcNode destNode, Chooses machine (.chosen srcNode destNode [srcNode] [srcNode, destNode]) ∧
        HasMemory machine srcNode.toNat ∧ HasMemory machine destNode.toNat ∧
        srcNode ≠ destNode) := by
  refine ⟨exists_returns machine, ?_⟩
  rintro ⟨one, other, memory, otherMemory, differ⟩
  obtain ⟨srcNode, ⟨first, returnsSource⟩, source⟩ := exists_returns machine (-1)
  obtain ⟨destNode, ⟨second, returnsTarget⟩, target⟩ := exists_returns machine srcNode
  have sourceMemory : HasMemory machine srcNode.toNat := source.hasMemory memory
  have targetMemory : HasMemory machine destNode.toNat ∧ destNode.toNat ≠ srcNode.toNat := by
    by_cases same : one = srcNode.toNat
    · exact target.other otherMemory (fun equal => differ (same.trans equal.symm))
    · exact target.other memory same
  have goesOn : ¬ nrNodes machine < 2 := by
    rcases Nat.eq_zero_or_pos one with rfl | positive
    · exact two_le_nrNodes (Nat.pos_of_ne_zero differ.symm) otherMemory.1
    · exact two_le_nrNodes positive memory.1
  refine ⟨srcNode, destNode, ⟨max first second, fun turns more => ?_⟩, sourceMemory,
    targetMemory.1, fun same => targetMemory.2 (congrArg BitVec.toNat same.symm)⟩
  rw [chooseNodes, if_neg goesOn, getFirstMemNode,
    returnsSource turns (le_trans (le_max_left _ _) more)]
  simp only [Option.bind_eq_bind, Option.bind_some,
    returnsTarget turns (le_trans (le_max_right _ _) more)]

/-- Nodes 1 and 3 of four have memory. -/
def sparse : Machine where
  maxNode := 3
  isInt := by decide
  nodeSize n := if n = 1 ∨ n = 3 then 4096 else -1

/-- Pages of the sparse machine are moved between nodes with memory. -/
theorem nextMemNode_law_sparse :
    ∃ srcNode destNode, Chooses sparse (.chosen srcNode destNode [srcNode] [srcNode, destNode]) ∧
      HasMemory sparse srcNode.toNat ∧ HasMemory sparse destNode.toNat ∧ srcNode ≠ destNode := by
  apply (nextMemNode_law sparse).2
  refine ⟨1, 3, ?_, ?_, by decide⟩
  · simp [HasMemory, sparse]
  · simp [HasMemory, sparse]

example : chooseNodes 10 sparse = some (.chosen 1 3 [1] [1, 3]) := by decide

end AvocadoMisc.NumaTest.MemoryNodes
