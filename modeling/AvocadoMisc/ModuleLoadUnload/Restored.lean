import Mathlib.Data.List.Basic
import Mathlib.Data.List.Induction
import Mathlib.Data.Nat.Find

/-!
# Unloading and loading modules

The requested modules that are not loaded are loaded first. Then each of them has its turn. In
every iteration of it the sub-modules that the configuration names are unloaded, then the
module itself, and then the module is loaded again. The sub-modules are not. A call that does
not do what it should puts its module into the list of errors and ends the loop it is in.

What the kernel does with a call is outside the source. Each place where a call may be made has an
outcome: whether the module of the call is loaded after it, and which other modules the call takes
out or brings in. A call without an outcome raises. From the configuration, the list of modules and
the outcomes alone it can be told which calls are made, which modules are out at the end and which
are in the list of errors, without the loaded modules in between.
-/

namespace AvocadoMisc.ModuleLoadUnload.Restored

abbrev Text := List Char

/-- A module is known by its name. -/
abbrev Name := Text

/-- The word in a configuration that is no module. -/
def multipathWord : Name := "multipath".toList

/-! ### What the calls meet -/

/-- What an unload call does: whether its module is still loaded, and which other modules it takes
out. -/
structure Unloading where
  stays : Bool
  takes : Name → Bool

/-- What a load call does: whether its module is loaded, and which other modules it brings in. -/
structure Loading where
  comes : Bool
  brings : Name → Bool

/-- What the loop over the sub-modules meets at one word: what `lsmod` prints in the rounds of a
flush, or an unload call. -/
structure Freeing where
  lsmod : Nat → Text
  unload : Option Unloading

/-- What one iteration of a turn meets, with the words of the loop over the sub-modules by their
places. -/
structure Round where
  subs : Nat → Freeing
  unload : Option Unloading
  load : Option Loading

/-- What the function meets: the load calls of the first loop, and the iterations of the second, by
the places in the list of modules. -/
structure World where
  first : Nat → Option Loading
  turns : Nat → Nat → Round

/-- The loaded modules and `error_modules`. In addition it is noted in whose turn a module was taken
out last. -/
structure State where
  loaded : Name → Bool
  errorModules : List Name
  behalf : Name → Option Name

/-- `self.error_modules.append`. -/
def State.fault (state : State) (mod : Name) : State :=
  { state with errorModules := state.errorModules ++ [mod] }

/-! ### The configuration -/

/-- `get_depend_modules`, from the lines of the configuration. -/
def dependModules (config : List Text) (module : Name) : Option Text :=
  (config.find? fun line => (line.splitOn '=').headD [] = module).map fun line =>
    (line.splitOn '=').getLastD []

/-- The words that the loop over the sub-modules goes through. -/
def subModules (config : List Text) (module : Name) : List Name :=
  match dependModules config module with
  | none => []
  | some subMod => if subMod = [] then [] else subMod.splitOn ' '

/-! ### The calls -/

/-- The modules after an unload call in the turn of a requested module. -/
def State.unload (state : State) (turn mod : Name) (unloading : Unloading) : State :=
  let loaded := fun m =>
    if m = mod then unloading.stays else state.loaded m && !unloading.takes m
  { state with
    loaded
    behalf := fun m => if state.loaded m && !loaded m then some turn else state.behalf m }

/-- The modules after a load call. -/
def State.load (state : State) (mod : Name) (loading : Loading) : State :=
  { state with
    loaded := fun m => if m = mod then loading.comes else state.loaded m || loading.brings m }

/-- `unload_module`. There is no state after it when it raises. -/
def unloadModule (turn mod : Name) (outcome : Option Unloading) (state : State) : Option State :=
  outcome.map (state.unload turn mod)

/-- `load_module`. -/
def loadModule (mod : Name) (outcome : Option Loading) (state : State) : Option State :=
  outcome.map (state.load mod)

/-- `flush_mpath`: at most twenty looks at `lsmod`, until its last word is zero. -/
def flushMpath (lsmod : Nat → Text) : Bool :=
  (List.range 20).any fun i => ((lsmod i).splitOn ' ').getLastD [] = ['0']

/-! ### The loops -/

/-- The loop over the sub-modules of a requested module. The word for multipath is no module and
flushes the maps; the loop is left at the first one that cannot be freed. -/
def freeModule (mdl : Name) : (Nat → Freeing) → List Name → State → Option State
  | _, [], state => some state
  | subs, mod :: rest, state =>
    if mod = multipathWord then
      if flushMpath (subs 0).lsmod = false then some (state.fault mdl)
      else freeModule mdl (fun i => subs (i + 1)) rest state
    else do
      let state ← unloadModule mdl mod (subs 0).unload state
      if state.loaded mod = true then some (state.fault mod)
      else freeModule mdl (fun i => subs (i + 1)) rest state

/-- The iterations of a turn, with the words of the loop over the sub-modules. -/
def reloadModule (words : List Name) (mdl : Name) : Nat → (Nat → Round) → State → Option State
  | 0, _, state => some state
  | rounds + 1, turn, state => do
    let state ← freeModule mdl (turn 0).subs words state
    let state ← unloadModule mdl mdl (turn 0).unload state
    if state.loaded mdl = true then some (state.fault mdl)
    else do
      let state ← loadModule mdl (turn 0).load state
      if state.loaded mdl = false then some (state.fault mdl)
      else reloadModule words mdl rounds (fun i => turn (i + 1)) state

section Function

variable (world : World)

/-- The first loop, over the requested modules that are left from a place on. -/
def loadMissing : Nat → List Name → State → Option State
  | _, [], state => some state
  | place, mod :: rest, state =>
    if state.loaded mod = false then
      (loadModule mod (world.first place) state).bind (loadMissing (place + 1) rest)
    else loadMissing (place + 1) rest state

variable (config : List Text) (iteration : Int)

/-- The second loop, over the requested modules that are left from a place on. -/
def reloadAll : Nat → List Name → State → Option State
  | _, [], state => some state
  | place, mdl :: rest, state =>
    (reloadModule (subModules config mdl) mdl iteration.toNat (world.turns place) state).bind
      (reloadAll (place + 1) rest)

/-- `module_load_unload`, from the modules that are loaded. It does not return when a call
raises. -/
def moduleLoadUnload (moduleList : List Name) (loaded : Name → Bool) : Option State :=
  (loadMissing world 0 moduleList ⟨loaded, [], fun _ => none⟩).bind
    (reloadAll world config iteration 0 moduleList)

end Function

/-! ### What is asked of the function -/

/-- Every module that was loaded and every requested one is loaded, unless it is among the
errors, or the module is on whose behalf it was unloaded. -/
def AllLoaded (loaded : Name → Bool) (moduleList : List Name) (after : State) : Prop :=
  ∀ m, loaded m = true ∨ m ∈ moduleList →
    after.loaded m = true ∨ m ∈ after.errorModules ∨
      ∃ mdl, after.behalf m = some mdl ∧ mdl ∈ after.errorModules

/-! ### What the outcomes mean

All of this is about the configuration, the list of modules and the outcomes. -/

/-- An unload call for a module takes out a module. -/
def Unloading.Takes (unloading : Unloading) (mod m : Name) : Prop :=
  if m = mod then unloading.stays = false else unloading.takes m = true

/-- A load call for a module brings in a module. -/
def Loading.Brings (loading : Loading) (mod m : Name) : Prop :=
  if m = mod then loading.comes = true else loading.brings m = true

/-- The loop over the sub-modules goes on after a word. -/
def Freeing.Fine (freeing : Freeing) (mod : Name) : Prop :=
  if mod = multipathWord then flushMpath freeing.lsmod = true
  else ∃ unloading, freeing.unload = some unloading ∧ unloading.stays = false

/-- The loop over the sub-modules ends at a word, which puts a module among the errors. -/
def Freeing.Faulty (freeing : Freeing) (mdl mod m : Name) : Prop :=
  ¬freeing.Fine mod ∧ m = if mod = multipathWord then mdl else mod

/-- The call at a word takes out a module. -/
def Freeing.Takes (freeing : Freeing) (mod m : Name) : Prop :=
  mod ≠ multipathWord ∧ ∃ unloading, freeing.unload = some unloading ∧ unloading.Takes mod m

/-- The loop over the sub-modules comes to the word at a place. -/
def Reaches (subs : Nat → Freeing) (words : List Name) (i : Nat) (mod : Name) : Prop :=
  words[i]? = some mod ∧ ∀ j < i, ∀ word, words[j]? = some word → (subs j).Fine word

/-- An iteration does what it should with the module whose turn it is. -/
def Round.Completes (round : Round) : Prop :=
  ∃ unloading loading, round.unload = some unloading ∧ unloading.stays = false ∧
    round.load = some loading ∧ loading.comes = true

/-- An iteration puts a module among the errors. -/
def Round.Faulty (round : Round) (words : List Name) (mdl m : Name) : Prop :=
  (∃ i mod, Reaches round.subs words i mod ∧ (round.subs i).Faulty mdl mod m) ∨
    m = mdl ∧ ¬round.Completes

/-- An iteration takes out another module than the one whose turn it is. -/
def Round.Takes (round : Round) (words : List Name) (m : Name) : Prop :=
  (∃ i mod, Reaches round.subs words i mod ∧ (round.subs i).Takes mod m) ∨
    ∃ unloading, round.unload = some unloading ∧ unloading.takes m = true

/-- An iteration brings in another module than the one whose turn it is, after all that it takes
out. -/
def Round.Brings (round : Round) (m : Name) : Prop :=
  ∃ unloading loading, round.unload = some unloading ∧ unloading.stays = false ∧
    round.load = some loading ∧ loading.brings m = true

/-- A turn comes to an iteration. -/
def ReachesRound (turn : Nat → Round) (rounds r : Nat) : Prop :=
  r < rounds ∧ ∀ q < r, (turn q).Completes

/-- A turn puts a module among the errors. -/
def TurnFaulty (words : List Name) (mdl : Name) (turn : Nat → Round) (rounds : Nat) (m : Name) :
    Prop :=
  ∃ r, ReachesRound turn rounds r ∧ (turn r).Faulty words mdl m

/-- A turn brings in another module. -/
def TurnBrings (turn : Nat → Round) (rounds : Nat) (m : Name) : Prop :=
  ∃ r, ReachesRound turn rounds r ∧ (turn r).Brings m

/-- A turn takes out another module, and does not bring it in again. -/
def TurnLeaves (words : List Name) (turn : Nat → Round) (rounds : Nat) (m : Name) : Prop :=
  ∃ r, ReachesRound turn rounds r ∧ (turn r).Takes words m ∧
    ∀ q, r ≤ q → ReachesRound turn rounds q → ¬(turn q).Brings m

/-- A module is loaded before a place of the first loop. -/
def Found (first : Nat → Option Loading) (moduleList : List Name) (loaded : Name → Bool) :
    Nat → Name → Prop
  | 0, m => loaded m = true
  | place + 1, m =>
    Found first moduleList loaded place m ∨
      ∃ mod loading, moduleList[place]? = some mod ∧ ¬Found first moduleList loaded place mod ∧
        first place = some loading ∧ loading.Brings mod m

section Condition

variable (world : World) (config : List Text) (iteration : Int) (moduleList : List Name)

/-- Some turn puts a module among the errors. -/
def InErrors (m : Name) : Prop :=
  ∃ p mdl, moduleList[p]? = some mdl ∧
    TurnFaulty (subModules config mdl) mdl (world.turns p) iteration.toNat m

/-- The turn of another module leaves a module out. No later turn is its own or brings it in. -/
def LeftOut (p : Nat) (mdl m : Name) : Prop :=
  moduleList[p]? = some mdl ∧ mdl ≠ m ∧
    TurnLeaves (subModules config mdl) (world.turns p) iteration.toNat m ∧
    ∀ q, p < q → ∀ other, moduleList[q]? = some other →
      other ≠ m ∧ ¬TurnBrings (world.turns q) iteration.toNat m

/-- The first turn that leaves a module out, of those with no later turn that is its own or brings
it in. -/
def FirstLeftOut (p : Nat) (mdl m : Name) : Prop :=
  LeftOut world config iteration moduleList p mdl m ∧
    ∀ q, q < p → ∀ other, ¬LeftOut world config iteration moduleList q other m

/-- What is left out is accounted for by the errors. Without an iteration the first loop brings in
what is requested. -/
structure BroughtBack (loaded : Name → Bool) : Prop where
  requested : iteration ≤ 0 → ∀ m ∈ moduleList,
    Found world.first moduleList loaded moduleList.length m
  freed : ∀ m, loaded m = true ∨ m ∈ moduleList → ∀ p mdl,
    FirstLeftOut world config iteration moduleList p mdl m →
      InErrors world config iteration moduleList m ∨ InErrors world config iteration moduleList mdl

end Condition

/-! ### The effect on a module -/

/-- What a part of a turn does to a module that it is not for: it leaves the module out, it brings
the module in, or nothing. The module whose turn it is has taken it out last, if it was in at any
time. -/
structure Effect (mdl m : Name) (Leaves Brings : Prop) (state after : State) : Prop where
  out : Leaves → after.loaded m = false
  back : ¬Leaves → Brings → after.loaded m = true
  same : ¬Leaves → ¬Brings → after.loaded m = state.loaded m
  behalf : after.loaded m = false → state.loaded m = true ∨ Brings → after.behalf m = some mdl
  kept : after.loaded m = false → state.loaded m = false → ¬Brings →
    after.behalf m = state.behalf m

section Effects

variable {mdl mod m : Name} {Leaves Brings Later Again : Prop} {state middle after : State}

/-- Nothing happens. -/
theorem Effect.refl : Effect mdl m False False state state where
  out := False.elim
  back _ := False.elim
  same _ _ := rfl
  behalf out wasIn := wasIn.elim (fun present => by rw [out] at present; cases present) False.elim
  kept _ _ _ := rfl

/-- One part after another. What the second one brings in, the first one does not leave out. -/
theorem Effect.trans (first : Effect mdl m Leaves Brings state middle)
    (second : Effect mdl m Later Again middle after) :
    Effect mdl m (Later ∨ Leaves ∧ ¬Again) (Brings ∨ Again) state after where
  out := by
    rintro (later | ⟨leaves, never⟩)
    · exact second.out later
    · by_cases later : Later
      · exact second.out later
      · rw [second.same later never, first.out leaves]
  back stays brings := by
    obtain ⟨noLater, noFirst⟩ := not_or.mp stays
    by_cases again : Again
    · exact second.back noLater again
    · have notLeft : ¬Leaves := fun leaves => noFirst ⟨leaves, again⟩
      rw [second.same noLater again, first.back notLeft (brings.resolve_right again)]
  same stays never := by
    obtain ⟨noLater, noFirst⟩ := not_or.mp stays
    obtain ⟨noBrings, noAgain⟩ := not_or.mp never
    rw [second.same noLater noAgain, first.same (fun leaves => noFirst ⟨leaves, noAgain⟩) noBrings]
  behalf out wasIn := by
    by_cases again : Again
    · exact second.behalf out (.inr again)
    · cases between : middle.loaded m with
      | true => exact second.behalf out (.inl between)
      | false =>
        rw [second.kept out between again]
        exact first.behalf between (wasIn.imp_right fun brings => brings.resolve_right again)
  kept out wasOut never := by
    obtain ⟨noBrings, noAgain⟩ := not_or.mp never
    have between : middle.loaded m = false := by
      by_cases leaves : Leaves
      · exact first.out leaves
      · rw [first.same leaves noBrings, wasOut]
    rw [second.kept out between noAgain, first.kept between wasOut noBrings]

/-- The same effect in other words. -/
theorem Effect.congr (effect : Effect mdl m Leaves Brings state after) (leaves : Leaves ↔ Later)
    (brings : Brings ↔ Again) : Effect mdl m Later Again state after :=
  propext leaves ▸ propext brings ▸ effect

/-- An error changes no module. -/
theorem Effect.fault (effect : Effect mdl m Leaves Brings state after) (mod : Name) :
    Effect mdl m Leaves Brings state (after.fault mod) :=
  ⟨effect.out, effect.back, effect.same, effect.behalf, effect.kept⟩

/-- An unload call, of whatever module. If it is for the module itself, the module does not
stay. -/
theorem Effect.unload {unloading : Unloading} (goes : m = mod → unloading.stays = false) :
    Effect mdl m (unloading.Takes mod m) False state (state.unload mdl mod unloading) := by
  by_cases own : m = mod
  · have gone : (state.unload mdl mod unloading).loaded m = false := by
      simp [State.unload, own, goes own]
    have takes : unloading.Takes mod m := by rw [Unloading.Takes, if_pos own]; exact goes own
    refine ⟨fun _ => gone, fun stays => absurd takes stays, fun stays => absurd takes stays,
      fun _ wasIn => ?_, fun _ wasOut _ => ?_⟩
    · have present := wasIn.resolve_right id
      simp [State.unload, own, goes own, own ▸ present]
    · simp [State.unload, wasOut]
  · have takes : unloading.Takes mod m ↔ unloading.takes m = true := by
      rw [Unloading.Takes, if_neg own]
    have loaded : (state.unload mdl mod unloading).loaded m =
        (state.loaded m && !unloading.takes m) := if_neg own
    refine ⟨fun taken => ?_, fun _ => False.elim, fun spared _ => ?_, fun out wasIn => ?_,
      fun _ wasOut _ => ?_⟩
    · simp [loaded, takes.mp taken]
    · simp [loaded, mt takes.mpr spared]
    · have present := wasIn.resolve_right id
      have taken : unloading.takes m = true := by simpa [loaded, present] using out
      simp [State.unload, own, present, taken]
    · simp [State.unload, wasOut]

/-- A load call for another module. -/
theorem Effect.load {loading : Loading} (other : m ≠ mod) :
    Effect mdl m False (loading.brings m = true) state (state.load mod loading) := by
  have loaded : (state.load mod loading).loaded m = (state.loaded m || loading.brings m) :=
    if_neg other
  refine ⟨False.elim, fun _ brings => ?_, fun _ never => ?_, fun out wasIn => ?_,
    fun _ _ _ => rfl⟩
  · simp [loaded, brings]
  · simp [loaded, never]
  · rw [loaded] at out
    rcases wasIn with present | brings
    · simp [present] at out
    · simp [brings] at out

end Effects

/-! ### The sub-modules -/

section Subs

variable {mdl m : Name} {subs : Nat → Freeing} {words : List Name} {state after : State}

/-- What holds at a word that the loop comes to: at the first one, or at one behind it if the loop
goes on. -/
theorem exists_reaches_cons (Holds : Nat → Name → Prop) (word : Name) :
    (∃ i mod, Reaches subs (word :: words) i mod ∧ Holds i mod) ↔
      Holds 0 word ∨ (subs 0).Fine word ∧
        ∃ i mod, Reaches (fun i => subs (i + 1)) words i mod ∧ Holds (i + 1) mod := by
  constructor
  · rintro ⟨i, mod, ⟨here, before⟩, holds⟩
    cases i with
    | zero =>
      obtain rfl : word = mod := by simpa using here
      exact .inl holds
    | succ i =>
      refine .inr ⟨before 0 (Nat.succ_pos i) word rfl, i, mod,
        ⟨here, fun j less other isOther => ?_⟩, holds⟩
      exact before (j + 1) (Nat.succ_lt_succ less) other isOther
  · rintro (holds | ⟨fine, i, mod, ⟨here, before⟩, holds⟩)
    · exact ⟨0, word, ⟨rfl, fun j less => absurd less (Nat.not_lt_zero j)⟩, holds⟩
    · refine ⟨i + 1, mod, ⟨here, fun j less other isOther => ?_⟩, holds⟩
      cases j with
      | zero =>
        obtain rfl : word = other := by simpa using isOther
        exact fine
      | succ j => exact before j (Nat.lt_of_succ_lt_succ less) other isOther

/-- There is no word to come to. -/
theorem not_exists_reaches_nil (Holds : Nat → Name → Prop) :
    ¬∃ i mod, Reaches subs [] i mod ∧ Holds i mod := by
  rintro ⟨i, mod, ⟨here, -⟩, -⟩
  cases here

/-- The loop over the sub-modules at a word: it ends there with an error, or it goes on. The calls
leave a module that is not among the errors as the word says. -/
theorem freeModule_cons (m : Name) {word : Name} {rest : List Name}
    (returns : freeModule mdl subs (word :: rest) state = some after) :
    ∃ next : State, next.errorModules = state.errorModules ∧
      ((subs 0).Fine word ∧ freeModule mdl (fun i => subs (i + 1)) rest next = some after ∧
          Effect mdl m ((subs 0).Takes word m) False state next ∨
        ¬(subs 0).Fine word ∧
          after = next.fault (if word = multipathWord then mdl else word) ∧
          (m ∉ after.errorModules → Effect mdl m ((subs 0).Takes word m) False state next)) := by
  rw [freeModule] at returns
  by_cases isFlush : word = multipathWord
  · have noTakes : False ↔ (subs 0).Takes word m := ⟨False.elim, fun takes => takes.1 isFlush⟩
    have fine : (subs 0).Fine word ↔ flushMpath (subs 0).lsmod = true := by
      rw [Freeing.Fine, if_pos isFlush]
    rw [if_pos isFlush] at returns
    refine ⟨state, rfl, ?_⟩
    split at returns
    case isTrue failed =>
      refine .inr ⟨by simp [fine, failed], ?_, fun _ => Effect.refl.congr noTakes Iff.rfl⟩
      rw [if_pos isFlush]
      exact (Option.some.inj returns).symm
    case isFalse answered =>
      exact .inl ⟨fine.mpr (eq_true_of_ne_false answered), returns,
        Effect.refl.congr noTakes Iff.rfl⟩
  · rw [if_neg isFlush] at returns
    obtain ⟨unloaded, called, checks⟩ := Option.bind_eq_some_iff.mp returns
    obtain ⟨unloading, outcome, rfl⟩ := Option.map_eq_some_iff.mp called
    have own : (state.unload mdl word unloading).loaded word = unloading.stays := if_pos rfl
    have fine : (subs 0).Fine word ↔ unloading.stays = false := by
      rw [Freeing.Fine, if_neg isFlush, outcome]
      simp
    have takes : unloading.Takes word m ↔ (subs 0).Takes word m := by
      rw [Freeing.Takes, outcome]
      simp [isFlush]
    refine ⟨state.unload mdl word unloading, rfl, ?_⟩
    rw [own] at checks
    split at checks
    case isTrue stays =>
      obtain rfl := Option.some.inj checks
      refine .inr ⟨by simp [fine, stays], by rw [if_neg isFlush], fun unlisted => ?_⟩
      have other : m ≠ word := by
        rintro rfl
        exact unlisted (by simp [State.fault])
      exact (Effect.unload fun same => absurd same other).congr takes Iff.rfl
    case isFalse goes =>
      have gone := eq_false_of_ne_true goes
      exact .inl ⟨fine.mpr gone, checks, (Effect.unload fun _ => gone).congr takes Iff.rfl⟩

/-- The loop over the sub-modules puts among the errors what ends it. -/
theorem mem_freeModule_errors (returns : freeModule mdl subs words state = some after) (x : Name) :
    x ∈ after.errorModules ↔ x ∈ state.errorModules ∨
      ∃ i mod, Reaches subs words i mod ∧ (subs i).Faulty mdl mod x := by
  induction words generalizing subs state with
  | nil =>
    obtain rfl := Option.some.inj returns
    exact (or_iff_left (not_exists_reaches_nil _)).symm
  | cons word rest inductionHypothesis =>
    rw [exists_reaches_cons fun i mod => (subs i).Faulty mdl mod x]
    obtain ⟨next, errors, ⟨fine, goesOn, -⟩ | ⟨ends, rfl, -⟩⟩ := freeModule_cons x returns
    · have here : ¬(subs 0).Faulty mdl word x := fun faulty => faulty.1 fine
      rw [inductionHypothesis goesOn, errors]
      simp [here, fine]
    · simp [State.fault, errors, Freeing.Faulty, ends]

/-- The loop over the sub-modules takes out what the words that it comes to say. -/
theorem freeModule_effect (returns : freeModule mdl subs words state = some after)
    (unlisted : m ∉ after.errorModules) :
    Effect mdl m (∃ i mod, Reaches subs words i mod ∧ (subs i).Takes mod m) False state after := by
  induction words generalizing subs state with
  | nil =>
    obtain rfl := Option.some.inj returns
    exact Effect.refl.congr (iff_of_false id (not_exists_reaches_nil _)) Iff.rfl
  | cons word rest inductionHypothesis =>
    have split := @exists_reaches_cons subs rest (fun i mod => (subs i).Takes mod m) word
    obtain ⟨next, -, ⟨fine, goesOn, effect⟩ | ⟨ends, rfl, effect⟩⟩ := freeModule_cons m returns
    · refine (effect.trans (inductionHypothesis goesOn)).congr ?_ (or_self_iff)
      rw [split]
      simp [fine, or_comm]
    · refine ((effect unlisted).fault _).congr ?_ Iff.rfl
      rw [split]
      simp [ends]

end Subs

/-! ### The iterations of a turn -/

section Rounds

variable {mdl m : Name} {words : List Name} {rounds : Nat} {turn : Nat → Round}
  {state after : State}

/-- A turn comes to its first iteration. -/
theorem reachesRound_zero : ReachesRound turn (rounds + 1) 0 :=
  ⟨Nat.succ_pos rounds, fun q less => absurd less (Nat.not_lt_zero q)⟩

/-- A turn comes to a later iteration if the first one is complete. -/
theorem reachesRound_succ {r : Nat} :
    ReachesRound turn (rounds + 1) (r + 1) ↔
      (turn 0).Completes ∧ ReachesRound (fun i => turn (i + 1)) rounds r := by
  constructor
  · rintro ⟨less, before⟩
    exact ⟨before 0 (Nat.succ_pos r), Nat.lt_of_succ_lt_succ less,
      fun q earlier => before (q + 1) (Nat.succ_lt_succ earlier)⟩
  · rintro ⟨first, less, before⟩
    refine ⟨Nat.succ_lt_succ less, fun q earlier => ?_⟩
    cases q with
    | zero => exact first
    | succ q => exact before q (Nat.lt_of_succ_lt_succ earlier)

/-- What holds of an iteration that the turn comes to: of the first one, or of a later one if the
first one is complete. -/
theorem exists_round_succ (Holds : Nat → Prop) :
    (∃ r, ReachesRound turn (rounds + 1) r ∧ Holds r) ↔
      Holds 0 ∨ (turn 0).Completes ∧
        ∃ r, ReachesRound (fun i => turn (i + 1)) rounds r ∧ Holds (r + 1) := by
  constructor
  · rintro ⟨r, reaches, holds⟩
    cases r with
    | zero => exact .inl holds
    | succ r =>
      obtain ⟨first, later⟩ := reachesRound_succ.mp reaches
      exact .inr ⟨first, r, later, holds⟩
  · rintro (holds | ⟨first, r, later, holds⟩)
    · exact ⟨0, reachesRound_zero, holds⟩
    · exact ⟨r + 1, reachesRound_succ.mpr ⟨first, later⟩, holds⟩

/-- There is no iteration to come to. -/
theorem not_exists_round_zero (Holds : Nat → Prop) :
    ¬∃ r, ReachesRound turn 0 r ∧ Holds r := by
  rintro ⟨r, ⟨less, -⟩, -⟩
  exact absurd less (Nat.not_lt_zero r)

/-- A turn brings a module in with its first iteration or with a later one. -/
theorem turnBrings_succ :
    TurnBrings turn (rounds + 1) m ↔ (turn 0).Brings m ∨
      (turn 0).Completes ∧ TurnBrings (fun i => turn (i + 1)) rounds m :=
  exists_round_succ fun r => (turn r).Brings m

/-- A turn leaves a module out in a later iteration, or in the first one if the later ones do not
bring it in. -/
theorem turnLeaves_succ :
    TurnLeaves words turn (rounds + 1) m ↔
      ((turn 0).Completes ∧ TurnLeaves words (fun i => turn (i + 1)) rounds m) ∨
        ((turn 0).Takes words m ∧ ¬(turn 0).Brings m) ∧
          ¬((turn 0).Completes ∧ TurnBrings (fun i => turn (i + 1)) rounds m) := by
  have split := @exists_round_succ rounds turn fun r => (turn r).Takes words m ∧
    ∀ q, r ≤ q → ReachesRound turn (rounds + 1) q → ¬(turn q).Brings m
  rw [TurnLeaves, split, or_comm]
  refine or_congr (and_congr_right fun first => ?_) ?_
  · refine exists_congr fun r => and_congr_right fun _ => and_congr_right fun _ => ?_
    constructor
    · intro never q later reaches
      exact never (q + 1) (Nat.succ_le_succ later) (reachesRound_succ.mpr ⟨first, reaches⟩)
    · intro never q later reaches
      obtain ⟨q, rfl⟩ := Nat.exists_eq_succ_of_ne_zero (Nat.ne_of_gt (Nat.zero_lt_of_lt later))
      exact never q (Nat.le_of_succ_le_succ later) (reachesRound_succ.mp reaches).2
  · rw [and_assoc]
    refine and_congr_right fun _ => ?_
    constructor
    · intro never
      refine ⟨never 0 (Nat.le_refl 0) reachesRound_zero, ?_⟩
      rintro ⟨first, r, reaches, brings⟩
      exact never (r + 1) (Nat.zero_le _) (reachesRound_succ.mpr ⟨first, reaches⟩) brings
    · rintro ⟨notFirst, notLater⟩ q - reaches brings
      cases q with
      | zero => exact notFirst brings
      | succ q =>
        obtain ⟨first, later⟩ := reachesRound_succ.mp reaches
        exact notLater ⟨first, q, later, brings⟩

/-- An iteration: it is complete and its module is loaded, or it ends the turn with an error. Any
other module that is not among the errors is left as the iteration says. -/
theorem reloadModule_succ (m : Name)
    (returns : reloadModule words mdl (rounds + 1) turn state = some after) :
    ∃ ended : State,
      (∀ x, x ∈ ended.errorModules ↔ x ∈ state.errorModules ∨
        ∃ i mod, Reaches (turn 0).subs words i mod ∧ ((turn 0).subs i).Faulty mdl mod x) ∧
      (m ≠ mdl → m ∉ ended.errorModules →
        Effect mdl m ((turn 0).Takes words m ∧ ¬(turn 0).Brings m) ((turn 0).Brings m)
          state ended) ∧
      ((turn 0).Completes ∧ ended.loaded mdl = true ∧
          reloadModule words mdl rounds (fun i => turn (i + 1)) ended = some after ∨
        ¬(turn 0).Completes ∧ after = ended.fault mdl) := by
  rw [reloadModule] at returns
  obtain ⟨freed, freeing, returns⟩ := Option.bind_eq_some_iff.mp returns
  obtain ⟨unloaded, unloading, returns⟩ := Option.bind_eq_some_iff.mp returns
  obtain ⟨u, outcome, rfl⟩ := Option.map_eq_some_iff.mp unloading
  have stays : (freed.unload mdl mdl u).loaded mdl = u.stays := if_pos rfl
  have errors (x : Name) : x ∈ freed.errorModules ↔ x ∈ state.errorModules ∨
      ∃ i mod, Reaches (turn 0).subs words i mod ∧ ((turn 0).subs i).Faulty mdl mod x :=
    mem_freeModule_errors freeing x
  -- What the iteration has taken out before the load call.
  have taken (other : m ≠ mdl) (unlisted : m ∉ freed.errorModules) :
      Effect mdl m ((turn 0).Takes words m) False state (freed.unload mdl mdl u) := by
    have unload : Effect mdl m (u.Takes mdl m) False freed (freed.unload mdl mdl u) :=
      Effect.unload fun same => absurd same other
    refine ((freeModule_effect freeing unlisted).trans unload).congr ?_ (or_self_iff)
    rw [Round.Takes, Unloading.Takes, if_neg other, outcome]
    simp [or_comm]
  rw [stays] at returns
  split at returns
  case isTrue still =>
    have noBrings : ¬(turn 0).Brings m := by simp [Round.Brings, outcome, still]
    obtain rfl := Option.some.inj returns
    refine ⟨freed.unload mdl mdl u, errors, fun other unlisted => ?_,
      .inr ⟨by simp [Round.Completes, outcome, still], rfl⟩⟩
    exact (taken other unlisted).congr (by simp [noBrings]) (by simp [noBrings])
  case isFalse gone =>
    obtain ⟨loaded, loading, returns⟩ := Option.bind_eq_some_iff.mp returns
    obtain ⟨l, answer, rfl⟩ := Option.map_eq_some_iff.mp loading
    have comes : ((freed.unload mdl mdl u).load mdl l).loaded mdl = l.comes := if_pos rfl
    have brings : (turn 0).Brings m ↔ l.brings m = true := by
      simp [Round.Brings, outcome, gone, answer]
    have completes : (turn 0).Completes ↔ l.comes = true := by
      simp [Round.Completes, outcome, gone, answer]
    refine ⟨(freed.unload mdl mdl u).load mdl l, errors, fun other unlisted => ?_, ?_⟩
    · have load : Effect mdl m False (l.brings m = true) (freed.unload mdl mdl u)
          ((freed.unload mdl mdl u).load mdl l) := Effect.load other
      refine ((taken other unlisted).trans load).congr ?_ ?_
      · simp [brings]
      · simp [brings]
    · rw [comes] at returns ⊢
      split at returns
      case isTrue missing =>
        exact .inr ⟨by simp [completes, missing], (Option.some.inj returns).symm⟩
      case isFalse present =>
        have isThere := eq_true_of_ne_false present
        exact .inl ⟨completes.mpr isThere, isThere, returns⟩

/-- A turn puts among the errors what its iterations say. -/
theorem mem_reloadModule_errors
    (returns : reloadModule words mdl rounds turn state = some after) (x : Name) :
    x ∈ after.errorModules ↔ x ∈ state.errorModules ∨ TurnFaulty words mdl turn rounds x := by
  induction rounds generalizing turn state with
  | zero =>
    obtain rfl := Option.some.inj returns
    exact (or_iff_left (not_exists_round_zero _)).symm
  | succ rounds inductionHypothesis =>
    have split := @exists_round_succ rounds turn fun r => (turn r).Faulty words mdl x
    obtain ⟨ended, errors, -, ⟨first, -, goesOn⟩ | ⟨ends, rfl⟩⟩ := reloadModule_succ x returns
    · rw [TurnFaulty, split, inductionHypothesis goesOn, errors, TurnFaulty, Round.Faulty]
      simp [first, or_assoc]
    · rw [TurnFaulty, split, Round.Faulty]
      simp [State.fault, errors, ends, or_assoc]

/-- A turn leaves another module that is not among the errors as its iterations say. -/
theorem reloadModule_effect (returns : reloadModule words mdl rounds turn state = some after)
    (other : m ≠ mdl) (unlisted : m ∉ after.errorModules) :
    Effect mdl m (TurnLeaves words turn rounds m) (TurnBrings turn rounds m) state after := by
  induction rounds generalizing turn state with
  | zero =>
    obtain rfl := Option.some.inj returns
    exact Effect.refl.congr (iff_of_false id (not_exists_round_zero _))
      (iff_of_false id (not_exists_round_zero _))
  | succ rounds inductionHypothesis =>
    obtain ⟨ended, -, effect, ⟨first, -, goesOn⟩ | ⟨ends, rfl⟩⟩ := reloadModule_succ m returns
    · have fine : m ∉ ended.errorModules := fun listed =>
        unlisted ((mem_reloadModule_errors goesOn m).mpr (.inl listed))
      refine ((effect other fine).trans (inductionHypothesis goesOn)).congr ?_ ?_
      · rw [turnLeaves_succ]
        simp [first]
      · rw [turnBrings_succ]
        simp [first]
    · have fine : m ∉ ended.errorModules := fun listed =>
        unlisted (List.mem_append_left _ listed)
      refine ((effect other fine).fault mdl).congr ?_ ?_
      · rw [turnLeaves_succ]
        simp [ends]
      · rw [turnBrings_succ]
        simp [ends]

/-- With an iteration the module of a turn is loaded at its end, or it is among the errors. -/
theorem reloadModule_own (returns : reloadModule words mdl (rounds + 1) turn state = some after)
    (unlisted : mdl ∉ after.errorModules) : after.loaded mdl = true := by
  induction rounds generalizing turn state with
  | zero =>
    obtain ⟨ended, -, -, ⟨-, present, goesOn⟩ | ⟨-, rfl⟩⟩ := reloadModule_succ mdl returns
    · exact Option.some.inj goesOn ▸ present
    · exact absurd (by simp [State.fault]) unlisted
  | succ rounds inductionHypothesis =>
    obtain ⟨ended, -, -, ⟨-, -, goesOn⟩ | ⟨-, rfl⟩⟩ := reloadModule_succ mdl returns
    · exact inductionHypothesis goesOn
    · exact absurd (by simp [State.fault]) unlisted

end Rounds

/-! ### The turns -/

/-- A place in a list with one more entry. -/
theorem getElem?_concat_eq_some_iff {front : List Name} {mdl other : Name} {p : Nat} :
    (front ++ [mdl])[p]? = some other ↔
      front[p]? = some other ∨ p = front.length ∧ other = mdl := by
  rcases Nat.lt_trichotomy p front.length with before | rfl | behind
  · simp [List.getElem?_append_left before, Nat.ne_of_lt before]
  · simp [eq_comm]
  · have outside : (front ++ [mdl]).length ≤ p := by
      rw [List.length_append, List.length_singleton]
      exact behind
    rw [List.getElem?_eq_none outside, List.getElem?_eq_none (Nat.le_of_lt behind)]
    simp [Nat.ne_of_gt behind]

section Turns

variable {world : World} {config : List Text} {iteration : Int} {front mods : List Name}
  {mdl other m : Name} {p : Nat} {start after : State}

/-- The turns of a list with one more module. -/
theorem reloadAll_concat (place : Nat) (front : List Name) (mdl : Name) (state : State) :
    reloadAll world config iteration place (front ++ [mdl]) state =
      (reloadAll world config iteration place front state).bind
        (reloadModule (subModules config mdl) mdl iteration.toNat
          (world.turns (place + front.length))) := by
  induction front generalizing place state with
  | nil =>
    simp only [List.nil_append, reloadAll, Option.bind_some, List.length_nil, Nat.add_zero]
    exact Option.bind_fun_some _
  | cons first rest inductionHypothesis =>
    have place_eq : place + 1 + rest.length = place + (first :: rest).length := by
      rw [List.length_cons]
      omega
    simp only [List.cons_append, reloadAll, Option.bind_assoc]
    refine congrArg _ (funext fun state => ?_)
    rw [inductionHypothesis, place_eq]

/-- The errors after all turns. -/
theorem mem_reloadAll_errors (returns : reloadAll world config iteration 0 mods start = some after)
    (x : Name) :
    x ∈ after.errorModules ↔
      x ∈ start.errorModules ∨ InErrors world config iteration mods x := by
  induction mods using List.reverseRecOn generalizing after with
  | nil =>
    obtain rfl := Option.some.inj returns
    simp [InErrors]
  | append_singleton front mdl inductionHypothesis =>
    rw [reloadAll_concat] at returns
    obtain ⟨middle, before, turn⟩ := Option.bind_eq_some_iff.mp returns
    rw [Nat.zero_add] at turn
    have errors : InErrors world config iteration (front ++ [mdl]) x ↔
        InErrors world config iteration front x ∨ TurnFaulty (subModules config mdl) mdl
          (world.turns front.length) iteration.toNat x := by
      simp only [InErrors, getElem?_concat_eq_some_iff, or_and_right, exists_or, and_assoc]
      simp
    rw [mem_reloadModule_errors turn, inductionHypothesis before, errors, or_assoc]

/-- What is left out of a list with one more module: what was left out before it, if its turn
changes nothing about it, and what its turn leaves out. -/
theorem leftOut_concat_iff :
    LeftOut world config iteration (front ++ [mdl]) p other m ↔
      (LeftOut world config iteration front p other m ∧ mdl ≠ m ∧
          ¬TurnBrings (world.turns front.length) iteration.toNat m) ∨
        p = front.length ∧ other = mdl ∧ mdl ≠ m ∧
          TurnLeaves (subModules config mdl) (world.turns front.length) iteration.toNat m := by
  constructor
  · rintro ⟨here, differs, leaves, later⟩
    rcases getElem?_concat_eq_some_iff.mp here with inFront | ⟨rfl, rfl⟩
    · obtain ⟨before, -⟩ := List.getElem?_eq_some_iff.mp inFront
      obtain ⟨own, never⟩ := later front.length before mdl
        (getElem?_concat_eq_some_iff.mpr (.inr ⟨rfl, rfl⟩))
      exact .inl ⟨⟨inFront, differs, leaves, fun q behind next isNext =>
        later q behind next (getElem?_concat_eq_some_iff.mpr (.inl isNext))⟩, own, never⟩
    · exact .inr ⟨rfl, rfl, differs, leaves⟩
  · rintro (⟨⟨inFront, differs, leaves, later⟩, own, never⟩ | ⟨rfl, rfl, differs, leaves⟩)
    · refine ⟨getElem?_concat_eq_some_iff.mpr (.inl inFront), differs, leaves,
        fun q behind next isNext => ?_⟩
      rcases getElem?_concat_eq_some_iff.mp isNext with inRest | ⟨rfl, rfl⟩
      · exact later q behind next inRest
      · exact ⟨own, never⟩
    · refine ⟨getElem?_concat_eq_some_iff.mpr (.inr ⟨rfl, rfl⟩), differs, leaves,
        fun q behind next isNext => ?_⟩
      obtain ⟨inside, -⟩ := List.getElem?_eq_some_iff.mp isNext
      rw [List.length_append, List.length_singleton] at inside
      omega

/-- Without an iteration nothing is left out. -/
theorem not_leftOut_of_nothing (nothing : iteration ≤ 0) :
    ¬LeftOut world config iteration mods p mdl m := by
  rintro ⟨-, -, ⟨r, ⟨less, -⟩, -⟩, -⟩
  rw [Int.toNat_eq_zero.mpr nothing] at less
  exact absurd less (Nat.not_lt_zero r)

/-- What is known of a module after some turns: if one of them leaves it out, it is out, and if it
is out, the first turn that leaves it out is the one that took it out last. -/
structure Settled (world : World) (config : List Text) (iteration : Int) (mods : List Name)
    (m : Name) (after : State) : Prop where
  out : ∀ p mdl, LeftOut world config iteration mods p mdl m → after.loaded m = false
  owner : after.loaded m = false → ∃ p mdl,
    FirstLeftOut world config iteration mods p mdl m ∧ after.behalf m = some mdl

/-- A module that its own turn leaves in. -/
theorem Settled.own (present : after.loaded mdl = true) :
    Settled world config iteration (front ++ [mdl]) mdl after := by
  refine ⟨fun p next left => ?_, fun out => ?_⟩
  · rcases leftOut_concat_iff.mp left with ⟨-, differs, -⟩ | ⟨-, -, differs, -⟩ <;>
      exact absurd rfl differs
  · rw [present] at out
    cases out

/-- The turn of another module after which a module is out that was in before it, or that it brings
in. It is the first one that leaves the module out. -/
theorem firstLeftOut_of_in {middle : State}
    (settled : Settled world config iteration front m middle) (other : mdl ≠ m)
    (effect : Effect mdl m
      (TurnLeaves (subModules config mdl) (world.turns front.length) iteration.toNat m)
      (TurnBrings (world.turns front.length) iteration.toNat m) middle after)
    (out : after.loaded m = false)
    (wasIn : middle.loaded m = true ∨ TurnBrings (world.turns front.length) iteration.toNat m) :
    FirstLeftOut world config iteration (front ++ [mdl]) front.length mdl m := by
  have leaves :
      TurnLeaves (subModules config mdl) (world.turns front.length) iteration.toNat m := by
    by_contra stays
    have isThere : after.loaded m = true := by
      by_cases brings : TurnBrings (world.turns front.length) iteration.toNat m
      · exact effect.back stays brings
      · rw [effect.same stays brings, wasIn.resolve_right brings]
    rw [isThere] at out
    cases out
  refine ⟨leftOut_concat_iff.mpr (.inr ⟨rfl, rfl, other, leaves⟩), fun q earlier next left => ?_⟩
  rcases leftOut_concat_iff.mp left with ⟨leftBefore, -, never⟩ | ⟨rfl, -⟩
  · have absent := settled.out q next leftBefore
    rw [wasIn.resolve_right never] at absent
    cases absent
  · exact absurd earlier (Nat.lt_irrefl _)

/-- The turn of another module. If it leaves the module out or brings it in, this is known of the
module from then on; if it does neither, what was known before still holds. -/
theorem Settled.turn {middle : State} (settled : Settled world config iteration front m middle)
    (other : mdl ≠ m)
    (effect : Effect mdl m
      (TurnLeaves (subModules config mdl) (world.turns front.length) iteration.toNat m)
      (TurnBrings (world.turns front.length) iteration.toNat m) middle after) :
    Settled world config iteration (front ++ [mdl]) m after := by
  refine ⟨fun p next left => ?_, fun out => ?_⟩
  · rcases leftOut_concat_iff.mp left with ⟨leftBefore, -, never⟩ | ⟨-, -, -, leaves⟩
    · by_cases leaves : TurnLeaves (subModules config mdl) (world.turns front.length)
          iteration.toNat m
      · exact effect.out leaves
      · rw [effect.same leaves never, settled.out p next leftBefore]
    · exact effect.out leaves
  · by_cases wasIn : middle.loaded m = true ∨
        TurnBrings (world.turns front.length) iteration.toNat m
    · exact ⟨front.length, mdl, firstLeftOut_of_in settled other effect out wasIn,
        effect.behalf out wasIn⟩
    · obtain ⟨wasOut, never⟩ := not_or.mp wasIn
      have absent := eq_false_of_ne_true wasOut
      obtain ⟨p, next, ⟨left, earliest⟩, behalf⟩ := settled.owner absent
      refine ⟨p, next, ⟨leftOut_concat_iff.mpr (.inl ⟨left, other, never⟩),
        fun q earlier another leftThere => ?_⟩, (effect.kept out absent never).trans behalf⟩
      rcases leftOut_concat_iff.mp leftThere with ⟨leftBefore, -⟩ | ⟨rfl, -⟩
      · exact earliest q earlier another leftBefore
      · obtain ⟨inside, -⟩ := List.getElem?_eq_some_iff.mp left.1
        omega

/-- With an iteration, the modules that were loaded before the turns and the requested ones are
settled after them, unless they are among the errors.

Proof: by induction on the turns, with the last one at the end. Its own turn brings a module in.
Another turn that leaves it out is the first one if the module was in before it or was brought in by
it, and otherwise the earlier turn stays the first one. -/
theorem reloadAll_settled (returns : reloadAll world config iteration 0 mods start = some after)
    (positive : 0 < iteration) (unlisted : m ∉ after.errorModules)
    (asked : start.loaded m = true ∨ m ∈ mods) : Settled world config iteration mods m after := by
  induction mods using List.reverseRecOn generalizing after with
  | nil =>
    obtain rfl := Option.some.inj returns
    have present := asked.resolve_right List.not_mem_nil
    refine ⟨fun p mdl left => ?_, fun out => ?_⟩
    · cases left.1
    · rw [present] at out
      cases out
  | append_singleton front mdl inductionHypothesis =>
    rw [reloadAll_concat] at returns
    obtain ⟨middle, before, turn⟩ := Option.bind_eq_some_iff.mp returns
    rw [Nat.zero_add] at turn
    by_cases own : mdl = m
    · subst own
      obtain ⟨rounds, isRounds⟩ : ∃ rounds, iteration.toNat = rounds + 1 :=
        Nat.exists_eq_succ_of_ne_zero (by omega)
      rw [isRounds] at turn
      exact Settled.own (reloadModule_own turn unlisted)
    · have other : m ≠ mdl := Ne.symm own
      have fine : m ∉ middle.errorModules := fun listed =>
        unlisted ((mem_reloadModule_errors turn m).mpr (.inl listed))
      have askedBefore : start.loaded m = true ∨ m ∈ front := by simpa [other] using asked
      exact (inductionHypothesis before fine askedBefore).turn own
        (reloadModule_effect turn other unlisted)

/-- Only one turn is the first that leaves a module out. -/
theorem FirstLeftOut.unique {q : Nat}
    (first : FirstLeftOut world config iteration mods p mdl m)
    (second : FirstLeftOut world config iteration mods q other m) : mdl = other := by
  rcases Nat.lt_trichotomy p q with earlier | rfl | later
  · exact absurd first.1 (second.2 p earlier mdl)
  · exact Option.some.inj (first.1.1.symm.trans second.1.1)
  · exact absurd second.1 (first.2 q later other)

/-- Without an iteration there are no calls in the turns. -/
theorem reloadAll_nothing (place : Nat) (mods : List Name) (state : State)
    (nothing : iteration ≤ 0) :
    reloadAll world config iteration place mods state = some state := by
  induction mods generalizing place with
  | nil => rfl
  | cons mdl rest inductionHypothesis =>
    rw [reloadAll, Int.toNat_eq_zero.mpr nothing, reloadModule]
    exact inductionHypothesis (place + 1)

end Turns

/-! ### The first loop -/

section First

variable {world : World} {moduleList : List Name} {loaded : Name → Bool} {state after : State}

/-- What was loaded stays so. -/
theorem Found.start {first : Nat → Option Loading} {m : Name} (present : loaded m = true)
    (place : Nat) : Found first moduleList loaded place m := by
  induction place with
  | zero => exact present
  | succ place inductionHypothesis => exact .inl inductionHypothesis

/-- A load call of the first loop. -/
theorem found_succ_of_call {front rest : List Name} {mod : Name} {loading : Loading}
    (split : moduleList = front ++ mod :: rest) (outcome : world.first front.length = some loading)
    (absent : state.loaded mod = false)
    (found : ∀ m, state.loaded m = true ↔ Found world.first moduleList loaded front.length m)
    (m : Name) :
    (state.load mod loading).loaded m = true ↔
      Found world.first moduleList loaded (front.length + 1) m := by
  have here : moduleList[front.length]? = some mod := by simp [split]
  have notFound : ¬Found world.first moduleList loaded front.length mod := by
    simp [← found mod, absent]
  have called : Found world.first moduleList loaded (front.length + 1) m ↔
      Found world.first moduleList loaded front.length m ∨ loading.Brings mod m := by
    simp [Found, here, notFound, outcome]
  rw [called, ← found m, State.load, Loading.Brings]
  by_cases own : m = mod
  · simp [own, absent]
  · simp [own]

/-- The first loop changes the loaded modules only, and leaves those that are found. The induction
is on the modules that remain, with those in front as the number of the next call. -/
theorem loadMissing_found {front rest : List Name} (split : moduleList = front ++ rest)
    (returns : loadMissing world front.length rest state = some after)
    (found : ∀ m, state.loaded m = true ↔ Found world.first moduleList loaded front.length m) :
    after.errorModules = state.errorModules ∧
      ∀ m, after.loaded m = true ↔ Found world.first moduleList loaded moduleList.length m := by
  induction rest generalizing front state with
  | nil =>
    obtain rfl := Option.some.inj returns
    rw [split, List.append_nil] at found ⊢
    exact ⟨rfl, found⟩
  | cons mod rest inductionHypothesis =>
    have more : moduleList = (front ++ [mod]) ++ rest := by simp [split]
    have place : (front ++ [mod]).length = front.length + 1 := by simp
    have here : moduleList[front.length]? = some mod := by simp [split]
    rw [loadMissing, ← place] at returns
    split at returns
    case isTrue absent =>
      obtain ⟨next, called, goesOn⟩ := Option.bind_eq_some_iff.mp returns
      obtain ⟨loading, outcome, rfl⟩ := Option.map_eq_some_iff.mp called
      have foundNext (m : Name) : (state.load mod loading).loaded m = true ↔
          Found world.first moduleList loaded (front ++ [mod]).length m := by
        rw [place]
        exact found_succ_of_call split outcome absent found m
      have later := inductionHypothesis more goesOn foundNext
      exact later
    case isFalse isThere =>
      have present := (found mod).mp (eq_true_of_ne_false isThere)
      refine inductionHypothesis more returns fun m => ?_
      rw [place, found m, Found]
      simp [here, present]

end First

/-! ### The whole function -/

section Whole

variable {world : World} {config : List Text} {iteration : Int} {moduleList : List Name}
  {loaded : Name → Bool} {after : State}

/-- The function is the turns after the first loop. -/
theorem moduleLoadUnload_turns
    (returns : moduleLoadUnload world config iteration moduleList loaded = some after) :
    ∃ start : State, start.errorModules = [] ∧
      (∀ m, start.loaded m = true ↔ Found world.first moduleList loaded moduleList.length m) ∧
      reloadAll world config iteration 0 moduleList start = some after := by
  obtain ⟨start, first, turns⟩ := Option.bind_eq_some_iff.mp returns
  obtain ⟨errors, found⟩ :=
    @loadMissing_found world moduleList loaded _ start [] moduleList rfl first fun _ => Iff.rfl
  exact ⟨start, errors, found, turns⟩

/-- Which modules are among the errors at the end. -/
theorem mem_errorModules_iff
    (returns : moduleLoadUnload world config iteration moduleList loaded = some after) (m : Name) :
    m ∈ after.errorModules ↔ InErrors world config iteration moduleList m := by
  obtain ⟨start, errors, -, turns⟩ := moduleLoadUnload_turns returns
  rw [mem_reloadAll_errors turns, errors]
  simp

/-- Without an iteration the function does what is asked exactly when the first loop brings in what
is requested. -/
theorem allLoaded_iff_of_nothing
    (returns : moduleLoadUnload world config iteration moduleList loaded = some after)
    (nothing : iteration ≤ 0) :
    AllLoaded loaded moduleList after ↔
      ∀ m ∈ moduleList, Found world.first moduleList loaded moduleList.length m := by
  obtain ⟨start, errors, found, turns⟩ := moduleLoadUnload_turns returns
  rw [reloadAll_nothing 0 moduleList start nothing] at turns
  obtain rfl := Option.some.inj turns
  have settled (m : Name) : (start.loaded m = true ∨ m ∈ start.errorModules ∨
      ∃ mdl, start.behalf m = some mdl ∧ mdl ∈ start.errorModules) ↔
        Found world.first moduleList loaded moduleList.length m := by
    rw [← found m]
    simp [errors]
  constructor
  · intro allLoaded m requested
    exact (settled m).mp (allLoaded m (.inr requested))
  · intro all m asked
    exact (settled m).mpr (asked.elim (fun present => Found.start present _) (all m))

/-- With an iteration every module that was loaded and every requested one is settled, unless it is
among the errors. -/
theorem settled_of_positive
    (returns : moduleLoadUnload world config iteration moduleList loaded = some after)
    (positive : 0 < iteration) {m : Name} (unlisted : m ∉ after.errorModules)
    (asked : loaded m = true ∨ m ∈ moduleList) :
    Settled world config iteration moduleList m after := by
  obtain ⟨start, -, found, turns⟩ := moduleLoadUnload_turns returns
  refine reloadAll_settled turns positive unlisted (asked.imp_left fun present => ?_)
  exact (found m).mpr (Found.start present _)

/-- With an iteration the function does what is asked exactly when what is left out is accounted for
by the errors. -/
theorem allLoaded_iff_of_positive
    (returns : moduleLoadUnload world config iteration moduleList loaded = some after)
    (positive : 0 < iteration) :
    AllLoaded loaded moduleList after ↔ ∀ m, loaded m = true ∨ m ∈ moduleList → ∀ p mdl,
      FirstLeftOut world config iteration moduleList p mdl m →
        InErrors world config iteration moduleList m ∨
          InErrors world config iteration moduleList mdl := by
  have errors := mem_errorModules_iff returns
  constructor
  · intro allLoaded m asked p mdl first
    rw [← errors, ← errors]
    by_cases faulty : m ∈ after.errorModules
    · exact .inl faulty
    · have settled := settled_of_positive returns positive faulty asked
      have out := settled.out p mdl first.1
      obtain ⟨q, owner, alsoFirst, behalf⟩ := settled.owner out
      rcases allLoaded m asked with present | listed | ⟨other, onBehalf, listed⟩
      · rw [out] at present
        cases present
      · exact absurd listed faulty
      · obtain rfl : owner = other := Option.some.inj (behalf.symm.trans onBehalf)
        exact .inr (first.unique alsoFirst ▸ listed)
  · intro accounted m asked
    by_cases faulty : m ∈ after.errorModules
    · exact .inr (.inl faulty)
    · cases isThere : after.loaded m with
      | true => exact .inl rfl
      | false =>
        have settled := settled_of_positive returns positive faulty asked
        obtain ⟨p, mdl, first, behalf⟩ := settled.owner isThere
        rcases accounted m asked p mdl first with own | turn
        · exact absurd ((errors m).mpr own) faulty
        · exact .inr (.inr ⟨mdl, behalf, (errors mdl).mpr turn⟩)

/-- Everything that should be loaded is, or is accounted for by an error, exactly when what is left
out is accounted for by the errors. What is left out and what is an error is told from the
configuration, the list of modules and the outcomes of the calls: the turn of another module takes a
module out, and no later turn is its own or brings it in.

A call may fail, may raise, and may take out or bring in any other modules. Where one raises there
is nothing after the function, and nothing is said. -/
theorem all_loaded_iff (world : World) (config : List Text) (iteration : Int)
    (moduleList : List Name) (loaded : Name → Bool) (after : State)
    (returns : moduleLoadUnload world config iteration moduleList loaded = some after) :
    AllLoaded loaded moduleList after ↔
      BroughtBack world config iteration moduleList loaded := by
  by_cases nothing : iteration ≤ 0
  · rw [allLoaded_iff_of_nothing returns nothing]
    constructor
    · intro all
      exact ⟨fun _ => all, fun m _ p mdl first => absurd first.1 (not_leftOut_of_nothing nothing)⟩
    · intro broughtBack
      exact broughtBack.requested nothing
  · have positive : 0 < iteration := by omega
    rw [allLoaded_iff_of_positive returns positive]
    constructor
    · intro accounted
      exact ⟨fun none => absurd none nothing, accounted⟩
    · intro broughtBack
      exact broughtBack.freed

end Whole

/-! ### Calls that do what they should -/

/-- Every call does what it should and nothing else. -/
def plainWorld : World where
  first _ := some ⟨true, fun _ => false⟩
  turns _ _ := {
    subs := fun _ => ⟨fun _ => ['0'], some ⟨false, fun _ => false⟩⟩
    unload := some ⟨false, fun _ => false⟩
    load := some ⟨true, fun _ => false⟩ }

section Plain

variable {config : List Text} {iteration : Int} {moduleList words : List Name}
  {loaded : Name → Bool} {after : State} {m mdl mod : Name} {p r i : Nat}

/-- The loop over the sub-modules goes on. -/
theorem plain_fine : ((plainWorld.turns p r).subs i).Fine mod := by
  have flushed : flushMpath ((plainWorld.turns p r).subs i).lsmod = true := rfl
  rw [Freeing.Fine]
  split
  · exact flushed
  · exact ⟨_, rfl, rfl⟩

/-- An iteration takes out the sub-modules. -/
theorem plain_takes_iff :
    (plainWorld.turns p r).Takes words m ↔ m ∈ words ∧ m ≠ multipathWord := by
  have word (i : Nat) (mod : Name) :
      ((plainWorld.turns p r).subs i).Takes mod m ↔ mod ≠ multipathWord ∧ m = mod := by
    simp [plainWorld, Freeing.Takes, Unloading.Takes]
  constructor
  · rintro (⟨i, mod, ⟨here, -⟩, takes⟩ | ⟨unloading, outcome, takes⟩)
    · obtain ⟨noFlush, rfl⟩ := (word i mod).mp takes
      exact ⟨List.mem_of_getElem? here, noFlush⟩
    · obtain rfl := Option.some.inj outcome
      cases takes
  · rintro ⟨member, noFlush⟩
    obtain ⟨i, here⟩ := List.mem_iff_getElem?.mp member
    exact .inl ⟨i, m, ⟨here, fun _ _ _ _ => plain_fine⟩, (word i m).mpr ⟨noFlush, rfl⟩⟩

/-- An iteration brings in no other module. -/
theorem plain_not_brings : ¬TurnBrings (plainWorld.turns p) r m := by
  rintro ⟨q, -, unloading, loading, -, -, outcome, brings⟩
  obtain rfl := Option.some.inj outcome
  cases brings

/-- Nothing fails. -/
theorem plain_not_inErrors : ¬InErrors plainWorld config iteration moduleList m := by
  rintro ⟨p, mdl, -, r, -, ⟨i, mod, -, faulty⟩ | ⟨-, incomplete⟩⟩
  · exact faulty.1 plain_fine
  · exact incomplete ⟨_, _, rfl, rfl, rfl, rfl⟩

/-- What is left out are the sub-modules that have no later turn of their own. -/
theorem plain_leftOut_iff (positive : 0 < iteration) :
    LeftOut plainWorld config iteration moduleList p mdl m ↔
      moduleList[p]? = some mdl ∧ mdl ≠ m ∧ (m ∈ subModules config mdl ∧ m ≠ multipathWord) ∧
        ∀ q, p < q → moduleList[q]? ≠ some m := by
  have leaves : TurnLeaves (subModules config mdl) (plainWorld.turns p) iteration.toNat m ↔
      m ∈ subModules config mdl ∧ m ≠ multipathWord := by
    constructor
    · rintro ⟨r, -, takes, -⟩
      exact plain_takes_iff.mp takes
    · intro isSub
      refine ⟨0, ⟨by omega, fun q less => absurd less (Nat.not_lt_zero q)⟩,
        plain_takes_iff.mpr isSub, fun q _ reaches brings => ?_⟩
      exact plain_not_brings ⟨q, reaches, brings⟩
  have later : (∀ q, p < q → ∀ other, moduleList[q]? = some other →
      other ≠ m ∧ ¬TurnBrings (plainWorld.turns q) iteration.toNat m) ↔
        ∀ q, p < q → moduleList[q]? ≠ some m := by
    refine forall_congr' fun q => forall_congr' fun _ => ?_
    constructor
    · intro differs own
      exact (differs m own).1 rfl
    · rintro noTurn other here
      exact ⟨fun same => noTurn (same ▸ here), plain_not_brings⟩
  rw [LeftOut, leaves, later]

/-- Where every call does what it should and nothing else, the function does what is asked exactly
when every sub-module of a requested module, if it was loaded or is requested, is requested with a
later turn. -/
theorem plain_allLoaded_iff (positive : 0 < iteration)
    (returns : moduleLoadUnload plainWorld config iteration moduleList loaded = some after) :
    AllLoaded loaded moduleList after ↔
      ∀ m, loaded m = true ∨ m ∈ moduleList → ∀ (p : Nat) (mdl : Name),
        moduleList[p]? = some mdl → mdl ≠ m → m ∈ subModules config mdl → m ≠ multipathWord →
          ∃ q, p < q ∧ moduleList[q]? = some m := by
  rw [allLoaded_iff_of_positive returns positive]
  refine forall_congr' fun m => forall_congr' fun asked => ?_
  constructor
  · intro accounted p mdl here differs isSub noFlush
    by_contra noTurn
    have left : ∃ p mdl, LeftOut plainWorld config iteration moduleList p mdl m :=
      ⟨p, mdl, (plain_leftOut_iff positive).mpr ⟨here, differs, ⟨isSub, noFlush⟩,
        fun q later own => noTurn ⟨q, later, own⟩⟩⟩
    classical
    obtain ⟨first, isLeft⟩ := Nat.find_spec left
    have earliest (q : Nat) (less : q < Nat.find left) (other : Name) :
        ¬LeftOut plainWorld config iteration moduleList q other m := fun leftThere =>
      Nat.find_min left less ⟨other, leftThere⟩
    rcases accounted (Nat.find left) first ⟨isLeft, earliest⟩ with faulty | faulty <;>
      exact plain_not_inErrors faulty
  · intro returned p mdl first
    obtain ⟨here, differs, ⟨isSub, noFlush⟩, noTurn⟩ := (plain_leftOut_iff positive).mp first.1
    obtain ⟨q, later, own⟩ := returned p mdl here differs isSub noFlush
    exact absurd own (noTurn q later)

end Plain

/-- The module of an adapter. -/
def coreModule : Name := "mlx4_core".toList

/-- A module that uses it. -/
def ethernetModule : Name := "mlx4_en".toList

/-- A turn without a sub-module. -/
theorem all_loaded_core : ∃ after,
    moduleLoadUnload plainWorld [] 1 [coreModule] (fun _ => true) = some after ∧
      (AllLoaded (fun _ => true) [coreModule] after ↔
        BroughtBack plainWorld [] 1 [coreModule] fun _ => true) := by
  obtain ⟨after, returns⟩ := Option.isSome_iff_exists.mp (show (moduleLoadUnload plainWorld [] 1
    [coreModule] fun _ => true).isSome = true by decide +kernel)
  exact ⟨after, returns, all_loaded_iff _ _ _ _ _ after returns⟩

/-- A turn with one: it is not loaded again, and there is no error. -/
theorem all_loaded_fails :
    ¬ ∀ (world : World) (config : List Text) (iteration : Int) (moduleList : List Name)
      (loaded : Name → Bool) (after : State),
      moduleLoadUnload world config iteration moduleList loaded = some after →
        AllLoaded loaded moduleList after := by
  intro always
  obtain ⟨after, returns, out⟩ := (Option.any_eq_true _ _).mp (show ((moduleLoadUnload plainWorld
    ["mlx4_core=mlx4_en".toList] 1 [coreModule] fun _ => true).any fun after =>
      !after.loaded ethernetModule && after.errorModules.isEmpty) = true by decide +kernel)
  obtain ⟨absent, fine⟩ := Bool.and_eq_true_iff.mp out
  have errors : after.errorModules = [] := List.isEmpty_iff.mp fine
  rcases always _ _ _ _ _ after returns ethernetModule (.inl rfl) with
    present | faulty | ⟨mdl, -, faulty⟩
  · rw [present] at absent
    cases absent
  · rw [errors] at faulty
    cases faulty
  · rw [errors] at faulty
    cases faulty

end AvocadoMisc.ModuleLoadUnload.Restored
