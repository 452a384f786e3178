import Conformance.Constraint.Compile

/-!
# Compilation of a graph of types

Compiling a type also compiles every type that its messages may contain, each one once and in the order in
which a reader going down first meets it. The first failure ends it.
-/

namespace Conformance

/-- What tells one result from another with the same content: results of different origin are different
things, those of the same origin are one. -/
inductive Origin where
  /-- The rules of a type, or the error met while compiling it, of one generation. -/
  | type (name : String) (generation : Nat)
  /-- The error of a program, of one age of the cache of programs. -/
  | program (key : ProgramKey) (age : Nat)
  deriving DecidableEq, Repr

/-- A result that is remembered. -/
structure Entry where
  content : Except Failure TypeRules
  origin : Origin

/-- Types that were compiled one after the other. -/
structure Building where
  done : List (String × TypeRules) := []
  programs : List ProgramKey := []

namespace Building

def has (b : Building) (name : String) : Bool := (b.done.lookup name).isSome

/-- The number of types that are not compiled yet. -/
def left (s : Schema) (b : Building) : Nat := s.types.countP fun t => !b.has t.name

def add (b : Building) (name : String) (rules : TypeRules) (programs : List ProgramKey) : Building :=
  ⟨(name, rules) :: b.done, b.programs ++ programs⟩

theorem has_add (b : Building) (name : String) (rules : TypeRules) (programs : List ProgramKey)
    (n : String) : (b.add name rules programs).has n = (n == name || b.has n) := by
  cases h : n == name <;> simp [has, add, List.lookup_cons, h]

theorem countP_lt_of_imp {α : Type} {p q : α → Bool} {x : α} (h : ∀ y, q y = true → p y = true)
    (hp : p x = true) (hq : q x = false) : ∀ {xs : List α}, x ∈ xs → xs.countP q < xs.countP p
  | y :: ys, hx => by
    have hle : ys.countP q ≤ ys.countP p := List.countP_mono_left fun z _ => h z
    rcases List.mem_cons.1 hx with rfl | hx
    · simp only [List.countP_cons, hp, hq]
      simp
      omega
    · have hlt := countP_lt_of_imp h hp hq hx
      have hy : (if q y = true then 1 else 0) ≤ if p y = true then 1 else 0 := by
        by_cases hqy : q y = true
        · simp [hqy, h y hqy]
        · simp [hqy]
      simp only [List.countP_cons]
      omega

theorem left_add_lt {s : Schema} {b : Building} {name : String} {t : MessageType}
    (rules : TypeRules) (programs : List ProgramKey) (hb : b.has name = false)
    (ht : s.message? name = some t) : (b.add name rules programs).left s < b.left s := by
  have hname : t.name = name := by simpa using List.find?_some ht
  refine countP_lt_of_imp (x := t) (fun u => ?_) ?_ ?_ (List.mem_of_find?_eq_some ht)
  · simp [has_add]
  · simp [hname, hb]
  · simp [has_add, hname]

end Building

/-- The failure that ended a building, with its origin; faults are not remembered and have none. -/
structure BuildError where
  failure : Failure
  origin : Option Origin

/-- The origin of a failure that was met in the compilation of a type. -/
def originOf (failure : Failure) (name : String) (generation age : Nat) (programs : List ProgramKey) :
    Option Origin :=
  match failure, programs.getLast? with
  | .compilation _, some key => some (.program key age)
  | .schema _, _ => some (.type name generation)
  | _, _ => none

/-- Compiles the types that are due, and those that their messages may contain, unless they are known. -/
def Building.complete [ProgramSource] (s : Schema) (known : List (String × Entry)) (generation age : Nat)
    (b : Building) : List String → Except BuildError Unit × Building
  | [] => (.ok (), b)
  | name :: rest =>
    if _hb : b.has name then b.complete s known generation age rest
    else
      match known.lookup name with
      | some ⟨.error f, origin⟩ => (.error ⟨f, some origin⟩, b)
      | some ⟨.ok _, _⟩ => b.complete s known generation age rest
      | none =>
        match _ht : s.message? name with
        | none => b.complete s known generation age rest
        | some t =>
          let c := t.compile s
          match c.outcome with
          | .error f =>
            (.error ⟨f, originOf f name generation age c.programs⟩,
              { b with programs := b.programs ++ c.programs })
          | .ok rules =>
            (b.add name rules c.programs).complete s known generation age (rules.dependencies ++ rest)
termination_by due => (b.left s, due.length)
decreasing_by
  all_goals first
    | exact Prod.Lex.right _ (by simp)
    | exact Prod.Lex.left _ _ (Building.left_add_lt _ _ (by simpa using _hb) _ht)

end Conformance
