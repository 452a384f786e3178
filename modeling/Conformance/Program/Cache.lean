import Conformance.Program.Basic

/-!
# Cache of programs

Remembers the outcome of each compilation by its key, errors included. Compilations that end in a fault are
not remembered.
-/

namespace Conformance

/-- A compilation that is remembered. -/
abbrev CachedProgram := Except CompilationError Program

structure ProgramCache where
  /-- How often the cache was cleared; entries of different ages are different things. -/
  age : Nat := 0
  entries : List (ProgramKey × CachedProgram) := []

namespace ProgramCache

def get? (c : ProgramCache) (key : ProgramKey) : Option CachedProgram := c.entries.lookup key

def size (c : ProgramCache) : Nat := c.entries.length

def clear (c : ProgramCache) : ProgramCache := ⟨c.age + 1, []⟩

def record (c : ProgramCache) (key : ProgramKey) (outcome : Except Uncompiled Program) : ProgramCache :=
  match outcome with
  | .ok p => { c with entries := c.entries ++ [(key, .ok p)] }
  | .error (.refused e) => { c with entries := c.entries ++ [(key, .error e)] }
  | .error (.fault _) => c

def compile (c : ProgramCache) (key : ProgramKey) : Except Uncompiled Program × ProgramCache :=
  match c.get? key with
  | some (.ok p) => (.ok p, c)
  | some (.error e) => (.error (.refused e), c)
  | none =>
    let outcome := Program.compile key
    (outcome, c.record key outcome)

/-- Programs are taken from the cache as far as it has them. What is added to it meanwhile makes no difference to the
programs that it gives. -/
@[reducible] def source (c : ProgramCache) : ProgramSource := ⟨fun key => (c.compile key).1⟩

end ProgramCache
end Conformance
