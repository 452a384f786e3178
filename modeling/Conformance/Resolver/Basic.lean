import Conformance.Resolver.Build

/-!
# The resolver

Remembers the compiled rules of message types. A type is resolved together with all types that its messages
may contain: either all of them become known at once, or the error becomes known for the type itself.
-/

namespace Conformance

structure Resolver where
  entries : List (String × Entry) := []
  generation : Nat := 0

/-- What resolving a type gives. -/
structure Resolution where
  outcome : Except Failure TypeRules
  /-- Where the outcome comes from, unless it is a fault. -/
  origin : Option Origin
  resolver : Resolver
  /-- The programs that were asked for, in order. -/
  programs : List ProgramKey

namespace Resolver

def contains (r : Resolver) (name : String) : Bool := (r.entries.lookup name).isSome

/-- Forgets a type, or all of them. -/
def invalidate (r : Resolver) : Option String → Resolver
  | some name => { r with entries := r.entries.filter (·.1 != name) }
  | none => { r with entries := [] }

/-- The rules of a type without any. -/
def noRules (name : String) : TypeRules := { type := name }

def publish (r : Resolver) (b : Building) : Resolver :=
  { entries := r.entries ++ b.done.reverse.map fun (n, rules) => (n, ⟨.ok rules, .type n r.generation⟩)
    generation := r.generation + 1 }

def publishError (r : Resolver) (name : String) (e : BuildError) : Resolver :=
  match e.origin with
  | some origin =>
    { entries := r.entries ++ [(name, ⟨.error e.failure, origin⟩)], generation := r.generation + 1 }
  | none => { r with generation := r.generation + 1 }

/-- The rules of a type. The age is that of the cache of programs. -/
def resolve [ProgramSource] (s : Schema) (age : Nat) (r : Resolver) (name : String) : Resolution :=
  match r.entries.lookup name with
  | some e => ⟨e.content, some e.origin, r, []⟩
  | none =>
    match ({} : Building).complete s r.entries r.generation age [name] with
    | (.ok (), b) =>
      ⟨.ok ((b.done.lookup name).getD (noRules name)), some (.type name r.generation), r.publish b, b.programs⟩
    | (.error e, b) => ⟨.error e.failure, e.origin, r.publishError name e, b.programs⟩

end Resolver
end Conformance
