import Conformance.Program.Cache
import Conformance.Report.Outcome
import Conformance.Resolver.Basic
import Conformance.Validation.Config
import Conformance.Validation.Walk

/-!
# Validators

A validator has options and a resolver; resolvers compile into a cache of programs. Validators may share a
resolver and resolvers may share a cache, so all of them are kept in one workspace and named by numbers.
One validator may be the default one, which is made from the environment when it is first needed.
-/

namespace Conformance

structure Validator where
  id : Nat
  config : Config
  resolver : Nat
  deriving DecidableEq, Repr

/-- A resolver with the number of the cache that it compiles into. -/
structure ResolverSlot where
  resolver : Resolver := {}
  cache : Nat

structure Workspace where
  schema : Schema
  caches : Array ProgramCache := #[]
  resolvers : Array ResolverSlot := #[]
  validators : Nat := 0
  current : Validator := ⟨0, {}, 0⟩
  default : Option Validator := none

/-- Things in a workspace that are told apart, whatever they hold. -/
inductive Identity where
  | validator (id : Nat)
  | resolver (id : Nat)
  /-- The outcome of a compilation in a cache, of one age. -/
  | program (cache : Nat) (key : ProgramKey) (age : Nat)
  /-- The rules of a type in a resolver, or its error, of one generation. -/
  | rules (resolver : Nat) (type : String) (generation : Nat)
  deriving DecidableEq, Repr

/-- A failure, with its identity if it is a remembered one. -/
structure Raised where
  failure : Failure
  identity : Option Identity := none

/-- What new validators share with the current one. -/
inductive Sharing where
  | nothing
  | programs
  | resolver
  deriving DecidableEq, Repr

namespace Workspace

abbrev Step := StateM Workspace

def slot (w : Workspace) (resolver : Nat) : ResolverSlot := (w.resolvers[resolver]?).getD ⟨{}, 0⟩

def cache (w : Workspace) (id : Nat) : ProgramCache := (w.caches[id]?).getD {}

def newCache : Step Nat :=
  modifyGet fun w => (w.caches.size, { w with caches := w.caches.push {} })

def newResolver (cache : Nat) : Step Nat :=
  modifyGet fun w => (w.resolvers.size, { w with resolvers := w.resolvers.push ⟨{}, cache⟩ })

def newValidator (config : Config) (resolver : Nat) : Step Validator :=
  modifyGet fun w => (⟨w.validators, config, resolver⟩, { w with validators := w.validators + 1 })

def freshValidator (config : Config) : Step Validator := do
  let cache ← newCache
  let resolver ← newResolver cache
  newValidator config resolver

def renew (config : Config) (sharing : Sharing) : Step Validator := do
  let w ← get
  let resolver ← match sharing with
    | .resolver => pure w.current.resolver
    | .programs => newResolver (w.slot w.current.resolver).cache
    | .nothing => do newResolver (← newCache)
  let v ← newValidator config resolver
  modify ({ · with current := v })
  return v

def currentCache (w : Workspace) : Nat := (w.slot w.current.resolver).cache

def modifyCache (id : Nat) (f : ProgramCache → ProgramCache) : Step Unit :=
  modify fun w => { w with caches := w.caches.modify id f }

def compileIn (cache : Nat) (key : ProgramKey) : Step (Except Uncompiled Program) := do
  let (outcome, c) := ((← get).cache cache).compile key
  modifyCache cache fun _ => c
  return outcome

def compileAll (cache : Nat) : List ProgramKey → Step Unit
  | [] => return ()
  | k :: ks => do
    discard (compileIn cache k)
    compileAll cache ks

def identityOf (resolver cache : Nat) : Origin → Identity
  | .type name generation => .rules resolver name generation
  | .program key age => .program cache key age

/-- What a resolver makes of a type, with programs from its cache. -/
def resolution (w : Workspace) (resolver : Nat) (type : String) : Resolution :=
  let slot := w.slot resolver
  let cache := w.cache slot.cache
  @Resolver.resolve cache.source w.schema cache.age slot.resolver type

/-- The rules of a type from a resolver, or the failure to have them, and their identity. -/
def resolveIn (resolver : Nat) (type : String) : Step (Except Failure TypeRules × Option Identity) := do
  let w ← get
  let slot := w.slot resolver
  let r := w.resolution resolver type
  modify fun w => { w with resolvers := w.resolvers.modify resolver ({ · with resolver := r.resolver }) }
  compileAll slot.cache r.programs
  return (r.outcome, r.origin.map (identityOf resolver slot.cache))

def resolveAll (resolver : Nat) : List String → Step Unit
  | [] => return ()
  | t :: ts => do
    discard (resolveIn resolver t)
    resolveAll resolver ts

def compile (key : ProgramKey) : Step (Except Uncompiled Program) := do
  compileIn (← get).currentCache key

def clearPrograms : Step Unit := do
  modifyCache (← get).currentCache ProgramCache.clear

/-- The identity that a compilation has in the cache of the current validator. -/
def programIdentity (w : Workspace) (key : ProgramKey) : Identity :=
  .program w.currentCache key (w.cache w.currentCache).age

def invalidate (type : Option String) : Step Unit :=
  modify fun w =>
    { w with resolvers := w.resolvers.modify w.current.resolver fun s =>
        { s with resolver := s.resolver.invalidate type } }

def contains (w : Workspace) (type : String) : Bool := (w.slot w.current.resolver).resolver.contains type

/-- The surroundings of a walk through a message of a type, with the rules that a resolver has or compiles. -/
def context (w : Workspace) (resolver : Nat) (maxDepth : Int) (failFast : Bool) (now : Value) (root : String) :
    WalkContext :=
  { schema := w.schema, failFast, maxDepth, now, root, rulesOf := fun type => (w.resolution resolver type).outcome }

/-- The violations of a message under the rules of its type, which a resolver knows or compiles. -/
def evaluate (resolver : Nat) (maxDepth : Int) (failFast : Bool) (now : Value) (m : Message) :
    Step (Except Raised (List Violation)) := do
  let (outcome, identity) ← resolveIn resolver m.type
  match outcome with
  | .error f => return .error ⟨f, identity⟩
  | .ok rules =>
    let w ← get
    let walked := Walk.run (w.context resolver maxDepth failFast now m.type) rules m
    resolveAll resolver (walked.2.visited.filter fun type => !(w.slot resolver).resolver.contains type)
    return (Walk.conclusion walked).mapError fun f => ⟨f, none⟩

def validate (v : Validator) (failFast : Option Bool) (now : Value) (m : Message) :
    Step (Except Raised Outcome) := do
  let found ← evaluate v.resolver v.config.maxDepth (failFast.getD v.config.failFast) now m
  return found.map fun vs => { violations := vs }

/-- Validates a message; failures other than faults become part of the outcome, with their identity. -/
def check (v : Validator) (failFast : Option Bool) (now : Value) (m : Message) :
    Step (Except Fault (Outcome × Option Identity)) := do
  match ← validate v failFast now m with
  | .ok o => return .ok (o, none)
  | .error ⟨.fault f, _⟩ => return .error f
  | .error ⟨f, identity⟩ => return .ok ({ error := some f.report }, identity)

/-- The default validator, made from the environment if there is none. -/
def defaultValidator (e : Environment) : Step (Except ConfigError Validator) := do
  match (← get).default with
  | some v => return .ok v
  | none =>
    match Config.ofEnvironment e with
    | .error e => return .error e
    | .ok config =>
      let v ← freshValidator config
      modify ({ · with default := some v })
      return .ok v

def setDefault (v : Option Validator) : Step Unit := modify ({ · with default := v })

/-- A workspace with one validator. -/
def start (schema : Schema) (config : Config) : Workspace :=
  ((renew config .nothing).run { schema }).2

end Workspace
end Conformance
