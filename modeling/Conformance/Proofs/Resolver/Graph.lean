import Mathlib.Logic.Relation
import Conformance.Proofs.Constraint.Declared
import Conformance.Resolver.Basic

/-!
# The graph of types

Types refer to the types that their messages may contain. A type resolves when all types that it refers to,
at any depth, compile on their own; cycles make no difference to that.
-/

namespace Conformance

/-- A type was refused: its constraints are malformed, or an expression in them does not compile. -/
def Failure.isRefusal : Failure → Bool
  | schema _ => true
  | compilation _ => true
  | _ => false

namespace Schema

/-- The rules that a schema declares for a name; none for names of no type. -/
def rules (s : Schema) (name : String) : TypeRules := (s.messageType name).rules s

/-- What the constraints of a type compile to, whatever other types do. -/
def compiled (s : Schema) (name : String) : Except Failure TypeRules := ((s.messageType name).compile s).outcome

def Compiles (s : Schema) (name : String) : Prop := ∃ rules, s.compiled name = .ok rules

/-- A type compiles, and its messages may contain messages of the other one. -/
def Depends (s : Schema) (name other : String) : Prop :=
  ∃ rules, s.compiled name = .ok rules ∧ other ∈ rules.dependencies

/-- The other type is reached from the type in any number of steps, none included. -/
def Below (s : Schema) : String → String → Prop := Relation.ReflTransGen s.Depends

/-- All types below a type compile, itself included. -/
def Resolves (s : Schema) (name : String) : Prop := ∀ n, s.Below name n → s.Compiles n

/-- A type below fails to compile in this way. -/
def FailsBelow (s : Schema) (name : String) (f : Failure) : Prop := ∃ n, s.Below name n ∧ s.compiled n = .error f

def Fails (s : Schema) (f : Failure) : Prop := ∃ t ∈ s.types, (t.compile s).outcome = .error f

variable {s : Schema} {name other : String}

theorem messageType_name (s : Schema) (name : String) : (s.messageType name).name = name := by
  unfold messageType message?
  cases ht : s.types.find? (·.name == name) with
  | none => rfl
  | some t => simpa using List.find?_some ht

theorem rules_type (s : Schema) (name : String) : (s.rules name).type = name := by
  rw [rules, MessageType.rules_type, messageType_name]

theorem rules_of_none (h : s.message? name = none) : s.rules name = Resolver.noRules name := by
  rw [rules, messageType, h]
  rfl

theorem compiled_of_some {t : MessageType} (h : s.message? name = some t) :
    s.compiled name = (t.compile s).outcome := by
  rw [compiled, messageType, h]
  rfl

theorem compiled_of_none (h : s.message? name = none) : s.compiled name = .ok (Resolver.noRules name) := by
  rw [compiled, messageType, h]
  rfl

theorem compiled_eq_rules {r : TypeRules} (h : s.compiled name = .ok r) : r = s.rules name :=
  MessageType.compile_eq_rules h

theorem Fails.of_compiled {f : Failure} (h : s.compiled name = .error f) : s.Fails f := by
  cases ht : s.message? name with
  | none =>
    rw [compiled_of_none ht] at h
    cases h
  | some t =>
    rw [compiled_of_some ht] at h
    exact ⟨t, List.mem_of_find?_eq_some ht, h⟩

theorem FailsBelow.fails {f : Failure} : s.FailsBelow name f → s.Fails f
  | ⟨_, _, h⟩ => .of_compiled h

/-! ## Types that resolve -/

theorem Below.refl (s : Schema) (name : String) : s.Below name name := Relation.ReflTransGen.refl

theorem Below.step {n : String} (h : s.Depends name other) (hb : s.Below other n) : s.Below name n :=
  Relation.ReflTransGen.head h hb

theorem Resolves.below (h : s.Resolves name) (hb : s.Below name other) : s.Resolves other :=
  fun n hn => h n (hb.trans hn)

theorem Resolves.compiled_eq (h : s.Resolves name) : s.compiled name = .ok (s.rules name) := by
  obtain ⟨rules, hr⟩ := h name (Below.refl s name)
  rw [hr, compiled_eq_rules hr]

theorem Resolves.depends (h : s.Resolves name) (hd : other ∈ (s.rules name).dependencies) : s.Depends name other :=
  ⟨_, h.compiled_eq, hd⟩

theorem Resolves.not_failsBelow (h : s.Resolves name) (f : Failure) : ¬s.FailsBelow name f := by
  rintro ⟨n, hn, hf⟩
  obtain ⟨rules, hr⟩ := h n hn
  rw [hr] at hf
  cases hf

/-- Types that compile and depend on each other only resolve. -/
theorem resolves_of_closed {P : String → Prop} (hc : ∀ n, P n → s.Compiles n)
    (hd : ∀ n d, P n → s.Depends n d → P d) (h : P name) : s.Resolves name := by
  intro n hn
  apply hc
  induction hn with
  | refl => exact h
  | tail _ hstep ih => exact hd _ _ ih hstep

/-- Types that depend on each other only are all that is below. Where the types are listed, this can be evaluated. -/
theorem mem_of_below {names : List String} (h : ∀ n ∈ names, ∀ d ∈ (s.rules n).dependencies, d ∈ names)
    (hname : name ∈ names) {n : String} (hn : s.Below name n) : n ∈ names := by
  induction hn with
  | refl => exact hname
  | tail _ hstep ih =>
    obtain ⟨rules, hr, hd⟩ := hstep
    rw [compiled_eq_rules hr] at hd
    exact h _ ih _ hd

theorem resolves_of_all {names : List String} (h : ∀ n ∈ names, (s.compiled n).toOption.isSome = true ∧
    ∀ d ∈ (s.rules n).dependencies, d ∈ names) (hname : name ∈ names) : s.Resolves name := by
  intro n hn
  have hok := (h n (mem_of_below (fun n hn => (h n hn).2) hname hn)).1
  cases hc : s.compiled n with
  | ok rules => exact ⟨rules, hc⟩
  | error f =>
    rw [hc] at hok
    cases hok

theorem resolves_of_none (h : s.message? name = none) : s.Resolves name := by
  refine resolves_of_closed (P := (· = name)) ?_ ?_ rfl
  · rintro _ rfl
    exact ⟨_, compiled_of_none h⟩
  · rintro _ d rfl ⟨rules, hr, hd⟩
    rw [compiled_of_none h] at hr
    cases hr
    cases hd

end Schema
end Conformance
