import Mathlib.Data.Nat.Count
import Mathlib.Data.List.Basic

/-!
# The error injections of the EEH test

`test_eeh_basic_pe` of `EEH.py` injects errors into the functions of an adapter, pass after pass,
until the adapter was frozen `max_freeze` times. It counts hits and misses. After the fifth miss
it stops, and so does the outer loop, whose `else` branch is then left out. That branch looks
whether the adapter was removed, as it has to be after so many freezes.

The outer loop looks at the hits between passes only. So when the last of the `max_freeze` hits
falls early in a pass, the injections go on, and five misses may be counted before that pass ends.

The results of the injections are a sequence, and the injection that comes next reads the entry
whose index is the number of injections so far.
-/

namespace AvocadoMisc.Eeh.InjectionLoop

universe u
variable {Func : Type u}

/-! ### The test -/

/-- What the adapter is, as far as the checks after a hit depend on it: a network adapter with or
without the address of a peer, a Fibre Channel host, or anything else. -/
inductive Adapter where
  | net (peerIp : Bool)
  | fcHost
  | other

/-- A check after a hit: the adapter recovers, the peer answers, no path was lost. -/
inductive Check where
  | recovery
  | network
  | paths
  deriving DecidableEq

/-- What one injection and the checks after it find. -/
structure Answer where
  hit : Bool
  recovered : Bool
  reachable : Bool
  pathsBack : Bool

/-- The outcome of a check. -/
def Answer.passes (answer : Answer) : Check → Bool
  | .recovery => answer.recovered
  | .network => answer.reachable
  | .paths => answer.pathsBack

/-- What is done to the adapter, in order. -/
inductive Event (Func : Type u) where
  | inject (func : Func) (hit : Bool)
  | check (check : Check)
  | checkRemoved
  deriving DecidableEq

/-- What the test is given, and what it meets. -/
structure Setting (Func : Type u) where
  function : List Func
  maxFreeze : Nat
  adapter : Adapter
  answers : Nat → Answer
  removed : Bool

/-- The counters, and what was done so far. -/
structure Run (Func : Type u) where
  numOfHit : Nat
  numOfMiss : Nat
  events : List (Event Func)

/-- The number of injections so far. -/
def Run.done (run : Run Func) : Nat := run.numOfHit + run.numOfMiss

/-- How a turn of the inner loop ends: with the next one, with `enter_loop = False`, or with a
failed check. -/
inductive Flow where
  | loop
  | stop
  | failed
  deriving DecidableEq

/-- The checks after a hit. The first two are left out once there were enough hits. -/
def checksAfter (adapter : Adapter) (maxFreeze numOfHit : Nat) : List Check :=
  (if numOfHit ≤ maxFreeze then
    match adapter with
    | .net true => [.recovery, .network]
    | _ => [.recovery]
  else []) ++
    match adapter with
    | .fcHost => [.paths]
    | _ => []

/-- Checks are made until one fails. -/
def performed (answer : Answer) : List Check → List Check
  | [] => []
  | check :: rest => check :: if answer.passes check then performed answer rest else []

/-- One turn of the inner loop. After five misses it is left; a hit is followed by the checks, up to
the first that fails, which fails the test. -/
def turn (setting : Setting Func) (func : Func) (run : Run Func) : Run Func × Flow :=
  if run.numOfMiss < 5 then
    let answer := setting.answers run.done
    if answer.hit then
      let checks := checksAfter setting.adapter setting.maxFreeze (run.numOfHit + 1)
      ({ run with
          numOfHit := run.numOfHit + 1
          events := run.events ++ .inject func true :: (performed answer checks).map .check },
        if checks.all answer.passes then .loop else .failed)
    else
      ({ run with
          numOfMiss := run.numOfMiss + 1
          events := run.events ++ [.inject func false] },
        .loop)
  else (run, .stop)

/-- The inner loop. -/
def forFunctions (setting : Setting Func) : List Func → Run Func → Run Func × Flow
  | [], run => (run, .loop)
  | func :: rest, run =>
    match turn setting func run with
    | (after, .loop) => forFunctions setting rest after
    | (after, flow) => (after, flow)

/-- How the test ends: everything it did, and whether it passed. -/
structure Ending (Func : Type u) where
  events : List (Event Func)
  passed : Bool

/-- The outer loop with its `else` branch, for as many passes as there is fuel. -/
def whileHits (setting : Setting Func) : Nat → Run Func → Option (Ending Func)
  | 0, _ => none
  | fuel + 1, run =>
    if run.numOfHit < setting.maxFreeze then
      match forFunctions setting setting.function run with
      | (after, .loop) => whileHits setting fuel after
      | (after, .stop) => some ⟨after.events, true⟩
      | (after, .failed) => some ⟨after.events, false⟩
    else some ⟨run.events ++ [.checkRemoved], setting.removed⟩

/-- `test_eeh_basic_pe`. -/
def testEehBasicPe (setting : Setting Func) (fuel : Nat) : Option (Ending Func) :=
  whileHits setting fuel ⟨0, 0, []⟩

/-! ### What is asked of the test -/

/-- The hits among events. -/
def hitCount (events : List (Event Func)) : Nat :=
  events.countP fun
    | .inject _ hit => hit
    | _ => false

/-- The misses among events. -/
def missCount (events : List (Event Func)) : Nat :=
  events.countP fun
    | .inject _ hit => !hit
    | _ => false

/-- No injection comes after the fifth miss, and the adapter's recovery is checked right after
each of the first hits. -/
structure Orderly (maxFreeze : Nat) (events : List (Event Func)) : Prop where
  none_after_fifth : ∀ before func hit after, events = before ++ .inject func hit :: after →
    missCount before < 5
  recovery_first : ∀ before func after, events = before ++ .inject func true :: after →
    hitCount before < maxFreeze → after.head? = some (.check .recovery)

/-- Moreover, after so many hits the last thing done is to look whether the adapter was removed. -/
structure Proper (maxFreeze : Nat) (events : List (Event Func)) : Prop
    extends Orderly maxFreeze events where
  removed_last : maxFreeze ≤ hitCount events → events.getLast? = some .checkRemoved

/-- Every check after a hit finds what it should. -/
def Recovers (setting : Setting Func) : Prop :=
  ∀ k check, (setting.answers k).hit = true → (setting.answers k).passes check = true

/-- The hits among the first injections. -/
def hits (setting : Setting Func) (count : Nat) : Nat :=
  Nat.count (fun k => (setting.answers k).hit = true) count

/-- The misses among the first injections. -/
def misses (setting : Setting Func) (count : Nat) : Nat :=
  Nat.count (fun k => (setting.answers k).hit = false) count

/-- The last injection of the pass that an injection belongs to, when no pass is left early. -/
def lastOfPass (setting : Setting Func) (index : Nat) : Nat :=
  setting.function.length * (index / setting.function.length) + (setting.function.length - 1)

/-- When the hits reach `max_freeze` before the fifth miss, the last function of that pass comes
before the fifth miss, too. -/
def PassCompletes (setting : Setting Func) : Prop :=
  ∀ index, (setting.answers index).hit = true → hits setting index + 1 = setting.maxFreeze →
    misses setting index < 5 → misses setting (lastOfPass setting index) < 5

/-! ### Counting -/

/-- One more result. -/
theorem hits_succ (setting : Setting Func) (count : Nat) :
    hits setting (count + 1) = hits setting count + if (setting.answers count).hit then 1 else 0 :=
  Nat.count_succ _ _

/-- One more result. -/
theorem misses_succ (setting : Setting Func) (count : Nat) :
    misses setting (count + 1) =
      misses setting count + if (setting.answers count).hit then 0 else 1 := by
  cases result : (setting.answers count).hit <;> simp [misses, Nat.count_succ, result]

/-- Hits only grow. -/
theorem hits_mono (setting : Setting Func) {fewer more : Nat} (le : fewer ≤ more) :
    hits setting fewer ≤ hits setting more :=
  Nat.count_monotone _ le

/-- Misses only grow. -/
theorem misses_mono (setting : Setting Func) {fewer more : Nat} (le : fewer ≤ more) :
    misses setting fewer ≤ misses setting more :=
  Nat.count_monotone _ le

/-- The hits reach a positive number at a hit. -/
theorem exists_reaching (setting : Setting Func) {fewer more : Nat} {bound : Nat}
    (below : hits setting fewer < bound) (reached : bound ≤ hits setting more) :
    ∃ index, fewer ≤ index ∧ index < more ∧ (setting.answers index).hit = true ∧
      hits setting index + 1 = bound := by
  induction more with
  | zero =>
    have least : hits setting 0 ≤ hits setting fewer := hits_mono setting (Nat.zero_le fewer)
    omega
  | succ more inductionHypothesis =>
    by_cases earlier : bound ≤ hits setting more
    · obtain ⟨index, low, high, hit, count⟩ := inductionHypothesis earlier
      exact ⟨index, low, by omega, hit, count⟩
    · have step := hits_succ setting more
      cases result : (setting.answers more).hit
      · simp only [result, Bool.false_eq_true, if_false] at step
        omega
      · simp only [result, if_true] at step
        refine ⟨more, ?_, by omega, result, by omega⟩
        by_contra later
        have mono := hits_mono setting (show more + 1 ≤ fewer by omega)
        omega

/-! ### Events in order -/

/-- An event that injects nothing. -/
def Event.Quiet : Event Func → Prop
  | .inject _ _ => False
  | _ => True

/-- An injection in a list with quiet events at its end is an injection before these. -/
theorem split_quiet {events tail before after : List (Event Func)} {func : Func} {hit : Bool}
    (quiet : ∀ event ∈ tail, event.Quiet)
    (split : events ++ tail = before ++ .inject func hit :: after) :
    ∃ rest, events = before ++ .inject func hit :: rest ∧ after = rest ++ tail := by
  rcases List.append_eq_append_iff.mp split with ⟨middle, -, last⟩ | ⟨middle, first, last⟩
  · exact (quiet (.inject func hit) (by simp [last])).elim
  · cases middle with
    | nil =>
      rw [List.nil_append] at last
      exact (quiet (.inject func hit) (by simp [← last])).elim
    | cons event rest =>
      obtain ⟨rfl, rfl⟩ := List.cons_eq_cons.mp last
      exact ⟨rest, first, rfl⟩

/-- Quiet events are not counted. -/
theorem counts_quiet {tail : List (Event Func)} (quiet : ∀ event ∈ tail, event.Quiet) :
    hitCount tail = 0 ∧ missCount tail = 0 := by
  constructor
  all_goals
    refine List.countP_eq_zero.mpr fun event member => ?_
    cases event with
    | inject func hit => exact (quiet _ member).elim
    | check check => exact Bool.false_ne_true
    | checkRemoved => exact Bool.false_ne_true

/-- An injection in time, and checks after it that begin with the recovery while the hits are not
enough, keep the order. -/
theorem Orderly.inject {maxFreeze : Nat} {events tail : List (Event Func)}
    (orderly : Orderly maxFreeze events) (func : Func) (hit : Bool)
    (inTime : missCount events < 5) (quiet : ∀ event ∈ tail, event.Quiet)
    (recovery : hit = true → hitCount events < maxFreeze →
      tail.head? = some (.check .recovery)) :
    Orderly maxFreeze (events ++ .inject func hit :: tail) := by
  have cases : ∀ {before after : List (Event Func)} {other : Func} {result : Bool},
      events ++ .inject func hit :: tail = before ++ .inject other result :: after →
      (∃ rest, events = before ++ .inject other result :: rest ∧
        after = rest ++ .inject func hit :: tail) ∨
      (before = events ∧ result = hit ∧ after = tail) := by
    intro before after other result split
    rw [List.append_cons events] at split
    obtain ⟨rest, first, rfl⟩ := split_quiet quiet split
    rcases List.eq_nil_or_concat rest with rfl | ⟨inner, last, rfl⟩
    · obtain ⟨rfl, same⟩ := List.append_inj' first rfl
      simp only [List.cons.injEq, Event.inject.injEq, and_true] at same
      exact .inr ⟨rfl, same.2.symm, List.nil_append tail⟩
    · rw [List.concat_eq_append, ← List.cons_append, ← List.append_assoc] at first
      obtain ⟨whole, same⟩ := List.append_inj' first rfl
      obtain rfl : .inject func hit = last := by simpa using same
      exact .inl ⟨inner, whole, by simp⟩
  constructor
  · intro before other result after split
    rcases cases split with ⟨rest, earlier, -⟩ | ⟨rfl, -, -⟩
    · exact orderly.none_after_fifth before other result rest earlier
    · exact inTime
  · intro before other after split few
    rcases cases split with ⟨rest, earlier, rfl⟩ | ⟨rfl, same, rfl⟩
    · have first := orderly.recovery_first before other rest earlier few
      simp [List.head?_append, first]
    · exact recovery same.symm few

/-- Looking whether the adapter was removed keeps the order. -/
theorem Orderly.removed {maxFreeze : Nat} {events : List (Event Func)}
    (orderly : Orderly maxFreeze events) : Orderly maxFreeze (events ++ [.checkRemoved]) := by
  have quiet : ∀ event ∈ [(.checkRemoved : Event Func)], event.Quiet := by simp [Event.Quiet]
  constructor
  · intro before func hit after split
    obtain ⟨rest, earlier, -⟩ := split_quiet quiet split
    exact orderly.none_after_fifth before func hit rest earlier
  · intro before func after split few
    obtain ⟨rest, earlier, rfl⟩ := split_quiet quiet split
    have first := orderly.recovery_first before func rest earlier few
    simp [List.head?_append, first]

/-! ### One turn and one pass -/

/-- What holds of a run between turns: the counters count the results so far and the events, the
events are in order, the removal was not looked at, and every injection so far came before the
fifth miss. -/
structure Kept (setting : Setting Func) (run : Run Func) : Prop where
  hit : run.numOfHit = hits setting run.done
  miss : run.numOfMiss = misses setting run.done
  hitEvents : hitCount run.events = run.numOfHit
  missEvents : missCount run.events = run.numOfMiss
  orderly : Orderly setting.maxFreeze run.events
  unchecked : .checkRemoved ∉ run.events
  inTime : ∀ earlier < run.done, misses setting earlier < 5

/-- The checks after one of the first hits begin with the recovery. -/
theorem checksAfter_head (adapter : Adapter) {maxFreeze numOfHit : Nat}
    (few : numOfHit ≤ maxFreeze) :
    (checksAfter adapter maxFreeze numOfHit).head? = some .recovery := by
  match adapter with
  | .net true => simp [checksAfter, few]
  | .net false => simp [checksAfter, few]
  | .fcHost => simp [checksAfter, few]
  | .other => simp [checksAfter, few]

/-- When no check fails, all are made. -/
theorem performed_of_passes {answer : Answer} (passes : ∀ check, answer.passes check = true)
    (checks : List Check) : performed answer checks = checks := by
  induction checks with
  | nil => rfl
  | cons check rest inductionHypothesis => simp [performed, passes, inductionHypothesis]

/-- The run after one more injection, whose checks are the tail. -/
def Run.advance (run : Run Func) (func : Func) (hit : Bool) (tail : List (Event Func)) :
    Run Func where
  numOfHit := run.numOfHit + if hit then 1 else 0
  numOfMiss := run.numOfMiss + if hit then 0 else 1
  events := run.events ++ .inject func hit :: tail

/-- One more injection. -/
theorem Run.advance_done (run : Run Func) (func : Func) (hit : Bool) (tail : List (Event Func)) :
    (run.advance func hit tail).done = run.done + 1 := by
  cases hit <;> simp [Run.advance, Run.done] <;> omega

/-- An injection before the fifth miss, with its result and its checks, keeps what holds of a
run. -/
theorem Kept.advance {setting : Setting Func} {run : Run Func} (kept : Kept setting run)
    (func : Func) {hit : Bool} {tail : List (Event Func)}
    (result : (setting.answers run.done).hit = hit) (few : run.numOfMiss < 5)
    (checks : ∀ event ∈ tail, event ≠ .checkRemoved) (quiet : ∀ event ∈ tail, event.Quiet)
    (recovery : hit = true → run.numOfHit < setting.maxFreeze →
      tail.head? = some (.check .recovery)) :
    Kept setting (run.advance func hit tail) where
  hit := by
    rw [Run.advance_done, hits_succ, result, ← kept.hit]
    rfl
  miss := by
    rw [Run.advance_done, misses_succ, result, ← kept.miss]
    rfl
  hitEvents := by
    have none := (counts_quiet quiet).1
    have before := kept.hitEvents
    simp only [hitCount] at none before
    cases hit <;> simp [Run.advance, hitCount, none, before]
  missEvents := by
    have none := (counts_quiet quiet).2
    have before := kept.missEvents
    simp only [missCount] at none before
    cases hit <;> simp [Run.advance, missCount, none, before]
  orderly := kept.orderly.inject func hit (by rw [kept.missEvents]; exact few) quiet
    (by rw [kept.hitEvents]; exact recovery)
  unchecked := by
    intro member
    rcases List.mem_append.mp member with earlier | here
    · exact kept.unchecked earlier
    · have inTail : .checkRemoved ∈ tail := by simpa using here
      exact checks _ inTail rfl
  inTime := by
    intro index below
    rw [Run.advance_done] at below
    have mono := misses_mono setting (Nat.le_of_lt_succ below)
    have now := kept.miss
    omega

/-- A turn after the fifth miss stops the pass. Any other turn makes one injection, and the loop
goes on. -/
theorem turn_kept {setting : Setting Func} (recovers : Recovers setting) (func : Func)
    {run : Run Func} (kept : Kept setting run) :
    (5 ≤ run.numOfMiss ∧ turn setting func run = (run, .stop)) ∨
    ∃ after, turn setting func run = (after, .loop) ∧ Kept setting after ∧
      after.done = run.done + 1 := by
  by_cases many : 5 ≤ run.numOfMiss
  · exact .inl ⟨many, by simp [turn, Nat.not_lt.mpr many]⟩
  · have few : run.numOfMiss < 5 := Nat.not_le.mp many
    right
    cases result : (setting.answers run.done).hit with
    | false =>
      refine ⟨run.advance func false [], by simp [turn, few, result, Run.advance], ?_,
        Run.advance_done run func false []⟩
      exact kept.advance func result few (by simp) (by simp) (by simp)
    | true =>
      have passes : ∀ check, (setting.answers run.done).passes check = true :=
        fun check => recovers run.done check result
      let checks := checksAfter setting.adapter setting.maxFreeze (run.numOfHit + 1)
      refine ⟨run.advance func true (checks.map .check), ?_, ?_, Run.advance_done run func true _⟩
      · simp [turn, few, result, performed_of_passes passes, passes, Run.advance, checks]
      · refine kept.advance func result few (by simp) (by simp [Event.Quiet]) fun _ enough => ?_
        rw [List.head?_map, checksAfter_head setting.adapter enough]
        rfl

/-- How far a pass over the functions that are left comes: over all of them, or, after the fifth
miss, over some. -/
theorem forFunctions_kept {setting : Setting Func} (recovers : Recovers setting)
    (functions : List Func) {run : Run Func} (kept : Kept setting run) :
    ∃ after flow, forFunctions setting functions run = (after, flow) ∧ Kept setting after ∧
      ((flow = .loop ∧ after.done = run.done + functions.length) ∨
       (flow = .stop ∧ 5 ≤ after.numOfMiss ∧ run.done ≤ after.done ∧
          after.done < run.done + functions.length)) := by
  induction functions generalizing run with
  | nil => exact ⟨run, .loop, rfl, kept, .inl ⟨rfl, rfl⟩⟩
  | cons func rest inductionHypothesis =>
    rcases turn_kept recovers func kept with ⟨many, stops⟩ | ⟨next, goes, keptNext, one⟩
    · exact ⟨run, .stop, by simp [forFunctions, stops], kept,
        .inr ⟨rfl, many, Nat.le_refl _, by simp⟩⟩
    · obtain ⟨after, flow, walked, keptAfter, far⟩ := inductionHypothesis keptNext
      refine ⟨after, flow, by simp [forFunctions, goes, walked], keptAfter, ?_⟩
      simp only [List.length_cons]
      rcases far with ⟨loop, all⟩ | ⟨stop, many, low, high⟩
      · exact .inl ⟨loop, by omega⟩
      · exact .inr ⟨stop, many, by omega, by omega⟩

/-! ### The whole test -/

/-- How the test ends after some full passes: the hits are enough and the removal is checked, or
the fifth miss came within the next pass. In the first case the hits were not enough before the
last of the passes. -/
inductive Ended (setting : Setting Func) (ending : Ending Func) : Prop where
  | enough (passes : Nat) (run : Run Func) (kept : Kept setting run)
      (whole : run.done = setting.function.length * passes)
      (reached : setting.maxFreeze ≤ run.numOfHit)
      (before : ∀ earlier < passes,
        hits setting (setting.function.length * earlier) < setting.maxFreeze)
      (events : ending.events = run.events ++ [.checkRemoved])
  | stopped (passes : Nat) (run : Run Func) (kept : Kept setting run)
      (low : setting.function.length * passes ≤ run.done)
      (high : run.done < setting.function.length * passes + setting.function.length)
      (many : 5 ≤ run.numOfMiss)
      (before : hits setting (setting.function.length * passes) < setting.maxFreeze)
      (events : ending.events = run.events)

/-- There are never more than five misses. -/
theorem Kept.few {setting : Setting Func} {run : Run Func} (kept : Kept setting run) :
    run.numOfMiss ≤ 5 := by
  rw [kept.miss]
  cases done : run.done with
  | zero => simp [misses]
  | succ earlier =>
    have before := kept.inTime earlier (by omega)
    have step := misses_succ setting earlier
    split at step <;> omega

/-- With enough fuel the outer loop ends, in one of the two ways.

Proof: by induction on the fuel. A full pass makes an injection, so it raises the hits, which are
below their bound before it, or the misses, which are never more than five. -/
theorem whileHits_ended {setting : Setting Func} (recovers : Recovers setting)
    (nonempty : setting.function ≠ []) (fuel : Nat) {run : Run Func} (kept : Kept setting run)
    (passes : Nat) (whole : run.done = setting.function.length * passes)
    (before : ∀ earlier < passes,
      hits setting (setting.function.length * earlier) < setting.maxFreeze)
    (enough : (setting.maxFreeze - run.numOfHit) + (5 - run.numOfMiss) < fuel) :
    ∃ ending, whileHits setting fuel run = some ending ∧ Ended setting ending := by
  induction fuel generalizing run passes with
  | zero => omega
  | succ fuel inductionHypothesis =>
    have positive : 0 < setting.function.length := List.length_pos_iff.mpr nonempty
    by_cases below : run.numOfHit < setting.maxFreeze
    · have belowHere : hits setting (setting.function.length * passes) < setting.maxFreeze := by
        rw [← whole, ← kept.hit]
        exact below
      obtain ⟨after, flow, walked, keptAfter, far⟩ :=
        forFunctions_kept recovers setting.function kept
      rcases far with ⟨rfl, all⟩ | ⟨rfl, many, low, high⟩
      · have moreHits := hits_mono setting (show run.done ≤ after.done by omega)
        have moreMisses := misses_mono setting (show run.done ≤ after.done by omega)
        rw [← kept.hit, ← keptAfter.hit] at moreHits
        rw [← kept.miss, ← keptAfter.miss] at moreMisses
        have few := keptAfter.few
        simp only [Run.done] at all
        obtain ⟨ending, ends, ended⟩ := inductionHypothesis keptAfter (passes + 1)
          (by rw [Nat.mul_succ, ← whole]; exact all)
          (by
            intro earlier less
            rcases Nat.lt_succ_iff_lt_or_eq.mp less with sooner | rfl
            · exact before earlier sooner
            · exact belowHere)
          (by omega)
        exact ⟨ending, by simp [whileHits, below, walked, ends], ended⟩
      · exact ⟨⟨after.events, true⟩, by simp [whileHits, below, walked],
          .stopped passes after keptAfter (by omega) (by omega) many belowHere rfl⟩
    · exact ⟨⟨run.events ++ [.checkRemoved], setting.removed⟩, by simp [whileHits, below],
        .enough passes run kept whole (by omega) before rfl⟩

/-- More fuel does not change how the outer loop ends. -/
theorem whileHits_mono (setting : Setting Func) {fuel more : Nat} (le : fuel ≤ more)
    {run : Run Func} {ending : Ending Func} (ends : whileHits setting fuel run = some ending) :
    whileHits setting more run = some ending := by
  induction fuel generalizing run more with
  | zero => cases ends
  | succ fuel inductionHypothesis =>
    obtain ⟨more, rfl⟩ := Nat.exists_eq_add_one_of_ne_zero (show more ≠ 0 by omega)
    unfold whileHits at ends ⊢
    split at ends
    case isFalse enough => rw [if_neg enough, ends]
    case isTrue below =>
      rw [if_pos below]
      split at ends
      · exact inductionHypothesis (by omega) ends
      · exact ends
      · exact ends

/-- However the test ends, its events are in order. -/
theorem Ended.orderly {setting : Setting Func} {ending : Ending Func}
    (ended : Ended setting ending) : Orderly setting.maxFreeze ending.events := by
  cases ended with
  | enough passes run kept whole reached before events => exact events ▸ kept.orderly.removed
  | stopped passes run kept low high many before events => exact events ▸ kept.orderly

/-- When the hits are enough after some full passes, the hit that reaches the bound lies in one of
these, and this pass was ended before the fifth miss. -/
theorem Kept.passCompletes {setting : Setting Func} {run : Run Func} (kept : Kept setting run)
    {passes : Nat} (whole : run.done = setting.function.length * passes)
    (reached : setting.maxFreeze ≤ run.numOfHit) : PassCompletes setting := by
  intro index hit count few
  have early : index < run.done := by
    by_contra late
    have mono := hits_mono setting (Nat.not_lt.mp late)
    have counted := kept.hit
    omega
  have positive : 0 < setting.function.length := by
    apply Nat.pos_of_ne_zero
    intro none
    simp [whole, none] at early
  have quotient : index / setting.function.length < passes :=
    Nat.div_lt_of_lt_mul (by rw [← whole]; exact early)
  have last : setting.function.length * (index / setting.function.length) +
      setting.function.length ≤ setting.function.length * passes := by
    rw [← Nat.mul_succ]
    exact Nat.mul_le_mul_left _ quotient
  exact kept.inTime _ (by unfold lastOfPass; omega)

/-- When the fifth miss stops a proper run, the hits are not enough yet, so none of the injections
before that miss reaches the bound. -/
theorem Kept.passCompletes_of_proper {setting : Setting Func} {run : Run Func}
    (kept : Kept setting run) (many : 5 ≤ run.numOfMiss)
    (proper : Proper setting.maxFreeze run.events) : PassCompletes setting := by
  intro index hit count few
  have missed : 5 ≤ misses setting run.done := kept.miss ▸ many
  have notEnough : run.numOfHit < setting.maxFreeze := by
    by_contra reached
    have last := proper.removed_last (by rw [kept.hitEvents]; exact Nat.not_lt.mp reached)
    exact kept.unchecked (List.mem_of_getLast? last)
  have late : run.done ≤ index := by
    by_contra early
    have mono := hits_mono setting (Nat.succ_le_of_lt (Nat.not_le.mp early))
    have step := hits_succ setting index
    have counted := kept.hit
    simp only [hit, if_true] at step
    simp only [Nat.succ_eq_add_one] at mono
    omega
  have mono := misses_mono setting late
  omega

/-- When the fifth miss comes within a pass and passes end in time, the hits are not enough: the
hit that reaches the bound would lie in this pass, which would then be ended before that miss. -/
theorem Kept.proper_of_passCompletes {setting : Setting Func} {run : Run Func}
    (kept : Kept setting run) {passes : Nat}
    (high : run.done < setting.function.length * passes + setting.function.length)
    (many : 5 ≤ run.numOfMiss)
    (before : hits setting (setting.function.length * passes) < setting.maxFreeze)
    (completes : PassCompletes setting) : Proper setting.maxFreeze run.events := by
  have missed : 5 ≤ misses setting run.done := kept.miss ▸ many
  refine ⟨kept.orderly, fun reached => ?_⟩
  rw [kept.hitEvents, kept.hit] at reached
  obtain ⟨index, first, early, hit, count⟩ := exists_reaching setting before reached
  have inTime := completes index hit count (kept.inTime index early)
  have quotient : index / setting.function.length = passes := by
    rw [Nat.div_eq_iff (by omega)]
    constructor
    · rw [Nat.mul_comm]
      omega
    · rw [Nat.mul_comm]
      omega
  have mono := misses_mono setting
    (show run.done ≤ lastOfPass setting index by rw [lastOfPass, quotient]; omega)
  omega

/-- The end of a test whose passes end in time is proper, and so is no other.

Proof: where the hits are enough, the last of the passes has the hit that reaches the bound. Where
the fifth miss stops a pass, that hit lies in this pass exactly when the hits are enough. -/
theorem Ended.proper_iff {setting : Setting Func} {ending : Ending Func}
    (ended : Ended setting ending) :
    Proper setting.maxFreeze ending.events ↔ PassCompletes setting := by
  cases ended with
  | enough passes run kept whole reached before events =>
    have proper : Proper setting.maxFreeze ending.events := by
      rw [events]
      exact ⟨kept.orderly.removed, fun _ => by simp⟩
    exact iff_of_true proper (kept.passCompletes whole reached)
  | stopped passes run kept low high many before events =>
    rw [events]
    exact ⟨kept.passCompletes_of_proper many,
      kept.proper_of_passCompletes high many before⟩

/-- Nothing was done yet. -/
theorem kept_start (setting : Setting Func) : Kept setting (⟨0, 0, []⟩ : Run Func) where
  hit := by simp [hits, Run.done]
  miss := by simp [misses, Run.done]
  hitEvents := rfl
  missEvents := rfl
  orderly := ⟨by simp, by simp⟩
  unchecked := by simp
  inTime := by simp [Run.done]

/-- When the checks after the hits succeed, the test on a non-empty list of functions ends. Its
injections stop after the fifth miss and each of the first hits is followed by the check of the
recovery, and the test ends as it should exactly when the pass in which the hits are enough has
its last function before the fifth miss. -/
theorem testEehBasicPe_proper_iff (setting : Setting Func) (nonempty : setting.function ≠ [])
    (recovers : Recovers setting) :
    ∃ ending, (∀ fuel, setting.maxFreeze + 6 ≤ fuel →
        testEehBasicPe setting fuel = some ending) ∧
      Orderly setting.maxFreeze ending.events ∧
      (Proper setting.maxFreeze ending.events ↔ PassCompletes setting) := by
  obtain ⟨ending, ends, ended⟩ := whileHits_ended recovers nonempty (setting.maxFreeze + 6)
    (kept_start setting) 0 (by simp [Run.done]) (by simp) (by simp only; omega)
  exact ⟨ending, fun fuel enough => whileHits_mono setting enough ends, ended.orderly,
    ended.proper_iff⟩

/-- Seven functions, one freeze wanted: a hit, and then misses. -/
def earlyHit : Setting Nat where
  function := [4, 5, 6, 7, 8, 9, 10]
  maxFreeze := 1
  adapter := .other
  answers k := ⟨k = 0, true, true, true⟩
  removed := true

/-- One function, three freezes wanted: hits only. -/
def threeHits : Setting Nat where
  function := [4]
  maxFreeze := 3
  adapter := .net true
  answers _ := ⟨true, true, true, true⟩
  removed := true

/-- The adapter that recovers from three hits. -/
theorem testEehBasicPe_proper_iff_threeHits :
    threeHits.function ≠ [] ∧ Recovers threeHits ∧
      ∃ ending, (∀ fuel, threeHits.maxFreeze + 6 ≤ fuel →
          testEehBasicPe threeHits fuel = some ending) ∧
        Orderly threeHits.maxFreeze ending.events ∧
        (Proper threeHits.maxFreeze ending.events ↔ PassCompletes threeHits) := by
  have recovers : Recovers threeHits := fun _ check _ => by cases check <;> rfl
  exact ⟨by decide, recovers, testEehBasicPe_proper_iff threeHits (by decide) recovers⟩

/-- After a hit at the first of seven functions and five misses, the pass is left at the last
function, and nobody looks whether the adapter was removed. -/
theorem earlyHit_not_proper :
    ¬ ∃ ending, (∀ fuel, 7 ≤ fuel → testEehBasicPe earlyHit fuel = some ending) ∧
      Proper 1 ending.events := by
  rintro ⟨ending, ends, proper⟩
  have ended : testEehBasicPe earlyHit 7 = some
      ⟨[.inject 4 true, .check .recovery, .inject 5 false, .inject 6 false, .inject 7 false,
        .inject 8 false, .inject 9 false], true⟩ := by rfl
  obtain rfl := Option.some.inj ((ends 7 (Nat.le_refl 7)).symm.trans ended)
  exact absurd (proper.removed_last (by decide)) (by decide)

end AvocadoMisc.Eeh.InjectionLoop
