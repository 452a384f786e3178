import Conformance.Proofs.Validation.History

/-!
# Caches of workspaces

Whatever is done in a workspace, each of its caches goes through calls that compile and clear: those of the cache itself,
and the compilations that resolvers and validators which share the cache ask for.
-/

namespace Conformance.Workspace

open ProgramCache (Call)

/-! ## The calls of operations -/

/-- The calls of a cache that the resolution of a type makes. -/
def resolveCalls (id resolver : Nat) (type : String) (w : Workspace) : List Call :=
  if (w.slot resolver).cache = id then (w.resolution resolver type).programs.map .compile else []

def resolveAllCalls (id resolver : Nat) : List String → Workspace → List Call
  | [], _ => []
  | type :: types, w =>
    resolveCalls id resolver type w ++ resolveAllCalls id resolver types ((resolveIn resolver type).run w).2

/-- The types that an evaluation still has to resolve after the one of the message. -/
def pending (resolver : Nat) (maxDepth : Int) (failFast : Bool) (now : Value) (m : Message) (rules : TypeRules)
    (w : Workspace) : List String :=
  (Walk.run (w.context resolver maxDepth failFast now m.type) rules m).2.visited.filter fun type =>
    !(w.slot resolver).resolver.contains type

def evaluateCalls (id resolver : Nat) (maxDepth : Int) (failFast : Bool) (now : Value) (m : Message) (w : Workspace) :
    List Call :=
  resolveCalls id resolver m.type w ++
    match (resolveIn resolver m.type).run w with
    | ((.error _, _), _) => []
    | ((.ok rules, _), w) => resolveAllCalls id resolver (pending resolver maxDepth failFast now m rules w) w

/-- The calls of a cache that an operation makes. -/
def Operation.calls (id : Nat) (w : Workspace) : Operation → List Call
  | compile key => if w.currentCache = id then [.compile key] else []
  | clearPrograms => if w.currentCache = id then [.clear] else []
  | resolve resolver type => resolveCalls id resolver type w
  | evaluate resolver maxDepth failFast now m => evaluateCalls id resolver maxDepth failFast now m w
  | validate v failFast now m | check v failFast now m =>
    evaluateCalls id v.resolver v.config.maxDepth (failFast.getD v.config.failFast) now m w
  | _ => []

/-! ## Whatever goes on in a workspace -/

def install (config : Config) (resolver : Nat) : Step Validator := do
  let v ← newValidator config resolver
  modify ({ · with current := v })
  return v

/-- A new validator with a new resolver that compiles into the cache of another one. -/
def join (config : Config) (resolver : Nat) : Step Validator := do
  let w ← get
  install config (← newResolver (w.slot resolver).cache)

/-- Operations of the workspace, calls of any of its caches, and further clients of them. -/
inductive Activity where
  | operation (o : Operation)
  | call (cache : Nat) (call : Call)
  | join (config : Config) (resolver : Nat)

def Activity.step : Activity → Step Unit
  | operation o => o.step
  | call cache c => modifyCache cache fun old => c.apply old
  | join config resolver => discard (Workspace.join config resolver)

/-- A workspace after activities of all clients, in the order in which they take turns. -/
def interleaved (s : Schema) (config : Config) (history : List Activity) : Workspace :=
  history.foldl (fun w a => (a.step.run w).2) (start s config)

def Activity.calls (id : Nat) (w : Workspace) : Activity → List Call
  | operation o => o.calls id w
  | call cache c => if cache = id ∧ id < w.caches.size then [c] else []
  | join _ _ => []

def callsFrom (id : Nat) : List Activity → Workspace → List Call
  | [], _ => []
  | a :: history, w => a.calls id w ++ callsFrom id history (a.step.run w).2

/-! ## Steps and their calls -/

/-- The caches of all resolvers are there, and so is the first one. -/
structure Complete (w : Workspace) : Prop where
  first : 0 < w.caches.size
  slots : ∀ slot ∈ w.resolvers, slot.cache < w.caches.size

section
variable {w : Workspace} {cache resolver : Nat} {key : ProgramKey}

theorem Complete.slot (h : w.Complete) (resolver : Nat) : (w.slot resolver).cache < w.caches.size := by
  unfold Workspace.slot
  cases hr : w.resolvers[resolver]? with
  | none => exact h.first
  | some slot => exact h.slots slot (Array.mem_of_getElem? hr)

theorem cache_modifyCache (h : cache < w.caches.size) (f : ProgramCache → ProgramCache) (id : Nat) :
    ((modifyCache cache f).run w).2.cache id = if cache = id then f (w.cache id) else w.cache id := by
  have hcache : ((modifyCache cache f).run w).2.cache id = ((w.caches.modify cache f)[id]?).getD {} := rfl
  rw [hcache, Array.getElem?_modify]
  split
  · next heq =>
    subst heq
    rw [Workspace.cache, Array.getElem?_eq_getElem h]
    rfl
  · rfl

theorem size_modifyCache (f : ProgramCache → ProgramCache) :
    ((modifyCache cache f).run w).2.caches.size = w.caches.size := Array.size_modify

/-- A cache that compiles the keys goes through as many calls, and the others through none. -/
theorem cache_compileAll (h : cache < w.caches.size) (keys : List ProgramKey) (id : Nat) :
    ((compileAll cache keys).run w).2.cache id =
        (w.cache id).through (if cache = id then keys.map .compile else []) ∧
      ((compileAll cache keys).run w).2.caches.size = w.caches.size := by
  induction keys generalizing w with
  | nil => exact ⟨by rw [List.map_nil, ite_self]; rfl, rfl⟩
  | cons key keys ih =>
    have hstep : ((compileIn cache key).run w).2.cache id =
        (w.cache id).through (if cache = id then [.compile key] else []) := by
      refine (cache_modifyCache h _ id).trans ?_
      split
      · next heq =>
        subst heq
        rfl
      · rfl
    have hsize : ((compileIn cache key).run w).2.caches.size = w.caches.size := size_modifyCache _
    obtain ⟨hcache, hsize'⟩ := ih (w := ((compileIn cache key).run w).2) (hsize ▸ h)
    refine ⟨hcache.trans ?_, hsize'.trans hsize⟩
    rw [hstep, ← ProgramCache.through_append]
    split <;> rfl

end

/-- A step keeps the caches together and makes certain calls of them. -/
def Calls {α : Type} (calls : Nat → Workspace → List Call) (x : Step α) : Prop :=
  ∀ w, w.Complete → (x.run w).2.Complete ∧ ∀ id, (x.run w).2.cache id = (w.cache id).through (calls id w)

section
variable {α : Type} {resolver : Nat}

/-- Steps that at most add a new cache. -/
theorem calls_nothing {x : Step α}
    (hc : ∀ w, (x.run w).2.caches = w.caches ∨ (x.run w).2.caches = w.caches.push {})
    (hr : ∀ w, w.Complete → ∀ slot ∈ (x.run w).2.resolvers, slot.cache < (x.run w).2.caches.size) :
    Calls (fun _ _ => []) x := by
  intro w h
  have hcaches := hc w
  generalize hx : (x.run w).2 = w' at hcaches
  have hslots := hr w h
  rw [hx] at hslots
  rcases hcaches with heq | heq
  · refine ⟨⟨by rw [heq]; exact h.first, hslots⟩, fun id => ?_⟩
    unfold Workspace.cache
    rw [heq]
    rfl
  · -- A cache that was not there is an empty one, and so is the new one.
    refine ⟨⟨by rw [heq, Array.size_push]; omega, hslots⟩, fun id => ?_⟩
    unfold Workspace.cache
    rw [heq, Array.getElem?_push]
    split
    · next hid =>
      rw [Array.getElem?_eq_none (by omega)]
      rfl
    · rfl

theorem calls_resolveIn (resolver : Nat) (type : String) :
    Calls (fun id => resolveCalls id resolver type) (resolveIn resolver type) := by
  intro w h
  rw [resolveIn_resolution rfl]
  have hcompile := cache_compileAll (w := { w with resolvers := w.resolvers.modify resolver fun old =>
    { old with resolver := (w.resolution resolver type).resolver } }) (h.slot resolver)
    (w.resolution resolver type).programs
  have hsize := (hcompile 0).2
  refine ⟨⟨hsize ▸ h.first, fun slot hm => ?_⟩, fun id => (hcompile id).1⟩
  rw [(compileAll_run _ _ _).2] at hm
  rw [hsize]
  dsimp only at hm
  rcases mem_modify hm with hm | ⟨old, hold, rfl⟩
  · exact h.slots slot hm
  · exact h.slots old (Array.mem_of_getElem? hold)

theorem calls_resolveAll (resolver : Nat) (types : List String) :
    Calls (fun id => resolveAllCalls id resolver types) (resolveAll resolver types) := by
  induction types with
  | nil => exact fun w h => ⟨h, fun id => rfl⟩
  | cons type types ih =>
    intro w h
    obtain ⟨hw, hcache⟩ := calls_resolveIn resolver type w h
    obtain ⟨hw', hcache'⟩ := ih _ hw
    refine ⟨hw', fun id => (hcache' id).trans ?_⟩
    rw [hcache, ← ProgramCache.through_append]
    rfl

theorem calls_evaluate (resolver : Nat) (maxDepth : Int) (failFast : Bool) (now : Value) (m : Message) :
    Calls (fun id => evaluateCalls id resolver maxDepth failFast now m)
      (evaluate resolver maxDepth failFast now m) := by
  intro w h
  obtain ⟨hw, hcache⟩ := calls_resolveIn resolver m.type w h
  unfold evaluate
  rw [StateT.run_bind]
  cases hr : (resolveIn resolver m.type).run w with
  | mk resolved w' =>
  rw [hr] at hw hcache
  obtain ⟨f | rules, identity⟩ := resolved
  · have hcalls (id : Nat) : evaluateCalls id resolver maxDepth failFast now m w = resolveCalls id resolver m.type w := by
      rw [evaluateCalls, hr]
      exact List.append_nil _
    exact ⟨hw, fun id => (hcache id).trans (congrArg _ (hcalls id).symm)⟩
  · have hcalls (id : Nat) : evaluateCalls id resolver maxDepth failFast now m w = resolveCalls id resolver m.type w ++
        resolveAllCalls id resolver (pending resolver maxDepth failFast now m rules w') w' := by
      rw [evaluateCalls, hr]
    obtain ⟨hw', hcache'⟩ := calls_resolveAll resolver (pending resolver maxDepth failFast now m rules w') w' hw
    refine ⟨hw', fun id => (hcache' id).trans ?_⟩
    rw [hcache, ← ProgramCache.through_append, ← hcalls]

theorem calls_freshValidator (config : Config) : Calls (fun _ _ => []) (freshValidator config) := by
  refine calls_nothing (fun _ => .inr rfl) fun w h slot hm => ?_
  have hpush : slot ∈ w.resolvers.push ⟨{}, w.caches.size⟩ := hm
  have hsize : ((freshValidator config).run w).2.caches.size = w.caches.size + 1 := Array.size_push _
  rw [hsize]
  rcases Array.mem_push.1 hpush with hm | rfl
  · exact Nat.lt_succ_of_lt (h.slots slot hm)
  · exact Nat.lt_succ_self _

theorem calls_renew (config : Config) (sharing : Sharing) : Calls (fun _ _ => []) (renew config sharing) := by
  cases sharing with
  | resolver => exact calls_nothing (fun _ => .inl rfl) fun _ h => h.slots
  | programs =>
    refine calls_nothing (fun _ => .inl rfl) fun w h slot hm => ?_
    have hpush : slot ∈ w.resolvers.push ⟨{}, (w.slot w.current.resolver).cache⟩ := hm
    rcases Array.mem_push.1 hpush with hm | rfl
    · exact h.slots slot hm
    · exact h.slot w.current.resolver
  | nothing =>
    intro w h
    obtain ⟨hw, hcache⟩ := calls_freshValidator config w h
    exact ⟨⟨hw.first, hw.slots⟩, hcache⟩

theorem defaultValidator_state (e : Environment) (w : Workspace) : ((defaultValidator e).run w).2 = w ∨
    ∃ config v, ((defaultValidator e).run w).2 = { ((freshValidator config).run w).2 with default := some v } := by
  obtain ⟨schema, caches, resolvers, validators, current, default⟩ := w
  unfold defaultValidator
  cases default with
  | some v => exact .inl rfl
  | none =>
    cases Config.ofEnvironment e with
    | error e => exact .inl rfl
    | ok config => exact .inr ⟨config, _, rfl⟩

theorem calls_defaultValidator (e : Environment) : Calls (fun _ _ => []) (defaultValidator e) := by
  intro w h
  obtain hsame | ⟨config, v, hfresh⟩ := defaultValidator_state e w
  · rw [hsame]
    exact ⟨h, fun _ => rfl⟩
  · obtain ⟨hw, hcache⟩ := calls_freshValidator config w h
    rw [hfresh]
    exact ⟨⟨hw.first, hw.slots⟩, hcache⟩

/-- A check leaves the workspace as validation does. -/
theorem Operation.check_state (v : Validator) (failFast : Option Bool) (now : Value) (m : Message) (w : Workspace) :
    ((check v failFast now m).step.run w).2 = ((validate v failFast now m).step.run w).2 := by
  have hbind : ((Workspace.check v failFast now m).run w).2 = ((Workspace.validate v failFast now m).run w).2 := by
    unfold Workspace.check
    rw [StateT.run_bind]
    generalize (Workspace.validate v failFast now m).run w = validated
    obtain ⟨⟨f, identity⟩ | o, w⟩ := validated
    · cases f <;> rfl
    · rfl
  exact hbind

/-- Each operation takes the caches through the calls that it makes. -/
theorem Operation.runs_calls (o : Operation) : Calls (fun id w => o.calls id w) o.step := by
  cases o with
  | renew config sharing => exact calls_renew config sharing
  | compile key =>
    intro w h
    have hcompile := cache_compileAll (h.slot w.current.resolver) [key]
    exact ⟨⟨(hcompile 0).2 ▸ h.first, fun slot hm => (hcompile 0).2 ▸ h.slots slot hm⟩, fun id => (hcompile id).1⟩
  | clearPrograms =>
    intro w h
    have hsize : (((Workspace.clearPrograms).run w).2.caches).size = w.caches.size := size_modifyCache _
    refine ⟨⟨hsize ▸ h.first, fun slot hm => hsize ▸ h.slots slot hm⟩, fun id => ?_⟩
    refine (cache_modifyCache (h.slot w.current.resolver) _ id).trans ?_
    change _ = (w.cache id).through (if (w.slot w.current.resolver).cache = id then [.clear] else [])
    split <;> rfl
  | resolve resolver type => exact calls_resolveIn resolver type
  | invalidate type =>
    refine calls_nothing (fun _ => .inl rfl) fun w h slot hm => ?_
    have hmem : slot ∈ w.resolvers.modify w.current.resolver fun old =>
        { old with resolver := old.resolver.invalidate type } := hm
    rcases mem_modify hmem with hm | ⟨old, hold, rfl⟩
    · exact h.slots slot hm
    · exact h.slots old (Array.mem_of_getElem? hold)
  | evaluate resolver maxDepth failFast now m => exact calls_evaluate resolver maxDepth failFast now m
  | validate v failFast now m =>
    exact calls_evaluate v.resolver v.config.maxDepth (failFast.getD v.config.failFast) now m
  | check v failFast now m =>
    intro w h
    rw [Operation.check_state]
    exact calls_evaluate v.resolver v.config.maxDepth (failFast.getD v.config.failFast) now m w h
  | default e => exact calls_defaultValidator e
  | setDefault v => exact calls_nothing (fun _ => .inl rfl) fun _ h => h.slots

theorem calls_join (config : Config) (resolver : Nat) : Calls (fun _ _ => []) (join config resolver) := by
  refine calls_nothing (fun _ => .inl rfl) fun w h slot hm => ?_
  have hpush : slot ∈ w.resolvers.push ⟨{}, (w.slot resolver).cache⟩ := hm
  rcases Array.mem_push.1 hpush with hm | rfl
  · exact h.slots slot hm
  · exact h.slot resolver

theorem calls_call (cache : Nat) (c : Call) :
    Calls (fun id w => (Activity.call cache c).calls id w) (Activity.call cache c).step := by
  intro w h
  have hsize : ((Activity.call cache c).step.run w).2.caches.size = w.caches.size := size_modifyCache _
  refine ⟨⟨hsize ▸ h.first, fun slot hm => hsize ▸ h.slots slot hm⟩, fun id => ?_⟩
  change _ = (w.cache id).through (if cache = id ∧ id < w.caches.size then [c] else [])
  by_cases hcache : cache < w.caches.size
  · refine (cache_modifyCache hcache (fun old => c.apply old) id).trans ?_
    by_cases hid : cache = id
    · rw [if_pos hid, if_pos ⟨hid, hid ▸ hcache⟩]
      rfl
    · rw [if_neg hid, if_neg fun hc => hid hc.1]
      rfl
  · -- There is no such cache.
    have hsame : w.caches.modify cache (fun old => c.apply old) = w.caches := by
      refine Array.ext_getElem? fun i => ?_
      rw [Array.getElem?_modify]
      split
      · next hi =>
        rw [Array.getElem?_eq_none (by omega)]
        rfl
      · rfl
    have hid : ¬(cache = id ∧ id < w.caches.size) := by
      rintro ⟨rfl, hlt⟩
      exact hcache hlt
    rw [if_neg hid]
    exact congrArg (fun caches : Array ProgramCache => (caches[id]?).getD {}) hsame

theorem Activity.runs_calls (a : Activity) : Calls (fun id w => a.calls id w) a.step := by
  cases a with
  | operation o => exact o.runs_calls
  | call cache c => exact calls_call cache c
  | join config resolver => exact calls_join config resolver

end

/-! ## Histories -/

section
variable {s : Schema} {config : Config} {id : Nat}

theorem complete_start : (start s config).Complete := by
  refine ⟨Nat.one_pos, fun slot hm => ?_⟩
  have hslot : slot ∈ #[(⟨{}, 0⟩ : ResolverSlot)] := hm
  rw [Array.mem_singleton.1 hslot]
  exact Nat.one_pos

theorem Complete.foldl {w : Workspace} (h : w.Complete) (history : List Activity) :
    (history.foldl (fun w a => (a.step.run w).2) w).Complete ∧
      ∀ id, (history.foldl (fun w a => (a.step.run w).2) w).cache id = (w.cache id).through (callsFrom id history w) := by
  induction history generalizing w with
  | nil => exact ⟨h, fun _ => rfl⟩
  | cons a history ih =>
    obtain ⟨hw, hcache⟩ := a.runs_calls w h
    obtain ⟨hw', hcache'⟩ := ih hw
    refine ⟨hw', fun id => (hcache' id).trans ?_⟩
    rw [hcache, ← ProgramCache.through_append]
    rfl

theorem complete_interleaved (history : List Activity) : (interleaved s config history).Complete :=
  (complete_start.foldl history).1

/-- A cache in a workspace was new and went through the calls that were made of it. -/
theorem cache_interleaved (history : List Activity) (id : Nat) :
    (interleaved s config history).cache id = ProgramCache.after (callsFrom id history (start s config)) := by
  have hnew : (start s config).cache id = {} := by
    cases id <;> rfl
  exact ((complete_start.foldl history).2 id).trans (by rw [hnew])

theorem cache_interleaved_append (history later : List Activity) (id : Nat) :
    (interleaved s config (history ++ later)).cache id =
      ((interleaved s config history).cache id).through (callsFrom id later (interleaved s config history)) := by
  rw [interleaved, List.foldl_append]
  exact ((complete_interleaved history).foldl later).2 id

end

end Conformance.Workspace
