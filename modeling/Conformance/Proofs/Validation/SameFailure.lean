import Conformance.Proofs.Resolver.FirstFailure
import Conformance.Proofs.Validation.Transparency

/-!
# Which failure a type has

What a type fails with does not depend on what was done before, as long as no other type was asked for that does not
resolve and is on a cycle which can be entered elsewhere. On such cycles it does.
-/

namespace Conformance

variable {s : Schema}

namespace Workspace

theorem evaluate_of_error {w : Workspace} {resolver : Nat} {m : Message} {f : Failure}
    (hf : ((resolveIn resolver m.type).run w).1.1 = .error f) (maxDepth : Int) (failFast : Bool) (now : Value) :
    ∃ identity, ((evaluate resolver maxDepth failFast now m).run w).1 = .error ⟨f, identity⟩ := by
  rw [evaluate_run]
  cases hr : (resolveIn resolver m.type).run w with
  | mk resolved w' =>
  rw [hr] at hf
  obtain ⟨x, identity⟩ := resolved
  obtain rfl : x = .error f := hf
  exact ⟨identity, rfl⟩

theorem check_of_refusal {w : Workspace} {v : Validator} {m : Message} {f : Failure}
    (hf : ((resolveIn v.resolver m.type).run w).1.1 = .error f) (hr : f.isRefusal = true) (failFast : Option Bool)
    (now : Value) : ∃ identity, ((check v failFast now m).run w).1 = .ok ({ error := some f.report }, identity) := by
  obtain ⟨identity, he⟩ := evaluate_of_error hf v.config.maxDepth (failFast.getD v.config.failFast) now
  refine ⟨identity, ?_⟩
  rw [check_run, validate_run, he]
  cases f with
  | schema e => rfl
  | compilation e => rfl
  | _ => cases hr

/-- A check that is refused leaves the workspace as resolving the type does. -/
theorem check_state_of_error {w : Workspace} {v : Validator} {m : Message} {f : Failure}
    (hf : ((resolveIn v.resolver m.type).run w).1.1 = .error f) (failFast : Option Bool) (now : Value) :
    ((check v failFast now m).run w).2 = ((resolveIn v.resolver m.type).run w).2 := by
  unfold check validate evaluate
  simp only [StateT.run_bind]
  generalize (resolveIn v.resolver m.type).run w = p at hf
  obtain ⟨⟨x, identity⟩, w'⟩ := p
  obtain rfl : x = .error f := hf
  cases f <;> rfl

/-- Validators with the same options check messages of a type alike, if nothing was done that could change what the
type fails with. -/
theorem Traced.check_eq {w w' : Workspace} {m : Message} (h : w.Traced s fun type => ¬s.Entangled m.type type)
    (h' : w'.Traced s fun type => ¬s.Entangled m.type type) {v v' : Validator} (hv : v.config = v'.config)
    (failFast : Option Bool) (now : Value) :
    ((check v failFast now m).run w).1.map (·.1) = ((check v' failFast now m).run w').1.map (·.1) := by
  have hg := h.faithful.resolveIn_gives v.resolver m.type
  have heq : ((resolveIn v.resolver m.type).run w).1.1 = ((resolveIn v'.resolver m.type).run w').1.1 := by
    rw [resolveIn_run h.sound rfl, resolveIn_run h'.sound rfl, h.schema, h'.schema]
    exact (h.slot v.resolver).original.outcome_eq (h'.slot v'.resolver).original _ _
  cases hx : ((resolveIn v.resolver m.type).run w).1.1 with
  | ok rules =>
    rw [check_run, check_run, h.faithful.validate_eq h'.faithful hv (hg.resolves hx)]
  | error f =>
    rw [hx] at heq
    obtain ⟨identity, he⟩ := evaluate_of_error hx v.config.maxDepth (failFast.getD v.config.failFast) now
    obtain ⟨identity', he'⟩ := evaluate_of_error heq.symm v'.config.maxDepth (failFast.getD v'.config.failFast) now
    rw [check_run, check_run, validate_run, validate_run, he, he']
    cases f <;> rfl

/-- A type that a new resolver fails to resolve fails after any calls, as a type below it does on its own. It fails in
the same way, and messages of it are checked with the same outcome, unless another type was asked for that does not
resolve and is on a cycle which can be entered from the first type elsewhere. -/
theorem failure_unchanged (s : Schema) :
    (∀ calls age age' name f, (({} : Resolver).resolve s age' name).outcome = .error f →
      ∃ g, ((Resolver.after s calls).resolve s age name).outcome = .error g ∧ s.FailsBelow name g) ∧
    (∀ calls age age' name, (∀ a n, .resolve a n ∈ calls → ¬s.Entangled name n) →
      ((Resolver.after s calls).resolve s age name).outcome = (({} : Resolver).resolve s age' name).outcome) ∧
    ∀ config history (v : Validator) failFast now (m : Message),
      (∀ o ∈ history, ∀ type, o.asks = some type → ¬s.Entangled m.type type) →
        ((check v failFast now m).run (after s config history)).1.map (·.1) =
          ((check (start s v.config).current failFast now m).run (start s v.config)).1.map (·.1) := by
  refine ⟨?_, ?_, ?_⟩
  · intro calls age age' name f hf
    have hg := (Resolver.faithful_after s calls).gives age name
    have hnew := (Resolver.faithful_empty s).gives age' name
    cases hx : ((Resolver.after s calls).resolve s age name).outcome with
    | ok rules => exact absurd (hnew.failsBelow hf) ((hg.resolves hx).not_failsBelow f)
    | error g => exact ⟨g, rfl, hg.failsBelow hx⟩
  · intro calls age age' name hcalls
    exact (Resolver.original_after hcalls).outcome_eq (Resolver.original_empty s name) age age'
  · intro config history v failFast now m hhistory
    have h := @traced_after s _ config history hhistory
    have hstart := traced_start s (fun type => ¬s.Entangled m.type type) v.config
    have hconfig : v.config = (start s v.config).current.config := rfl
    exact h.check_eq hstart hconfig failFast now

end Workspace

/-! ## Two types on a cycle -/

namespace Sample

def messageField (name : String) (number : Nat) (type : String) : Field :=
  { name, number, type := .message type, shape := .singular, oneof := none, optional := false, hasPresence := true,
    default := .message (.unset type), constraints := none, presence := fun _ _ _ => rfl }

def constrainedNumber (c : FieldConstraints) : Field :=
  { Schema.plainField "n" 1 .int32 with constraints := some c, presence := nofun }

def loopA : MessageType := Schema.plainType "loop.A" [messageField "b" 1 "loop.B", messageField "x" 2 "loop.X"]

def loopB : MessageType := Schema.plainType "loop.B" [messageField "a" 1 "loop.A", messageField "y" 2 "loop.Y"]

def loopX : MessageType := Schema.plainType "loop.X" [constrainedNumber { typed := some ⟨"string", []⟩ }]

def loopY : MessageType := Schema.plainType "loop.Y" [constrainedNumber { custom := [⟨"broken", "", ""⟩] }]

/-- Two types that contain each other, and each of them a malformed one of its own. -/
def loop : Schema := ⟨[loopA, loopB, loopX, loopY], []⟩

def failureX : Failure := .schema ⟨"loop.X.n", .rulesOnValue "string" "int32"⟩

def failureY : Failure := .compilation ⟨.empty, ""⟩

theorem compile_loopA : loopA.compile loop = ⟨.ok (loopA.rules loop), []⟩ := rfl

theorem compile_loopB : loopB.compile loop = ⟨.ok (loopB.rules loop), []⟩ := rfl

theorem compile_loopX : loopX.compile loop = ⟨.error failureX, []⟩ := rfl

theorem compile_loopY : loopY.compile loop = ⟨.error failureY, [⟨"", Rule.customVariables⟩]⟩ := rfl

/-- From the first type the search goes through the second one, and meets the malformed type of that one. -/
theorem resolve_loopA (age : Nat) : (({} : Resolver).resolve loop age "loop.A").outcome = .error failureY := by
  unfold Resolver.resolve
  simp only [List.lookup_nil]
  rw [Building.complete_new rfl rfl rfl compile_loopA,
    show (loopA.rules loop).dependencies ++ [] = ["loop.B", "loop.X"] from rfl,
    Building.complete_new rfl rfl rfl compile_loopB,
    show (loopB.rules loop).dependencies ++ ["loop.X"] = ["loop.A", "loop.Y", "loop.X"] from rfl,
    Building.complete_seen rfl, Building.complete_refused rfl rfl rfl compile_loopY]

theorem resolve_loopB (age : Nat) : ({} : Resolver).resolve loop age "loop.B" =
    ⟨.error failureX, some (.type "loop.X" 0), ⟨[("loop.B", ⟨.error failureX, .type "loop.X" 0⟩)], 1⟩, []⟩ := by
  unfold Resolver.resolve
  simp only [List.lookup_nil]
  rw [Building.complete_new rfl rfl rfl compile_loopB,
    show (loopB.rules loop).dependencies ++ [] = ["loop.A", "loop.Y"] from rfl,
    Building.complete_new rfl rfl rfl compile_loopA,
    show (loopA.rules loop).dependencies ++ ["loop.Y"] = ["loop.B", "loop.X", "loop.Y"] from rfl,
    Building.complete_seen rfl, Building.complete_refused rfl rfl rfl compile_loopX]
  rfl

/-- Once the failure of the second type is known, it is met before that of the first one. -/
theorem resolve_loopA_known (age : Nat) :
    ((⟨[("loop.B", ⟨.error failureX, .type "loop.X" 0⟩)], 1⟩ : Resolver).resolve loop age "loop.A").outcome =
      .error failureX := by
  unfold Resolver.resolve
  rw [show List.lookup "loop.A" [("loop.B", (⟨.error failureX, .type "loop.X" 0⟩ : Entry))] = none from rfl]
  dsimp only
  rw [Building.complete_new rfl rfl rfl compile_loopA,
    show (loopA.rules loop).dependencies ++ [] = ["loop.B", "loop.X"] from rfl,
    Building.complete_known rfl rfl]

end Sample

namespace Workspace

/-- What two types on a cycle fail with depends on which of them was resolved first, and so does the status that a
check reports. -/
theorem failure_loop :
    let v := (start Sample.loop {}).current
    let w := after Sample.loop {} [.check v none .none (.unset "loop.B")]
    (({} : Resolver).resolve Sample.loop 0 "loop.A").outcome = .error Sample.failureY ∧
    ((Resolver.after Sample.loop [.resolve 0 "loop.B"]).resolve Sample.loop 0 "loop.A").outcome =
      .error Sample.failureX ∧
    ((check v none .none (.unset "loop.A")).run (start Sample.loop {})).1.map (·.1.status) = .ok .compilationError ∧
    ((check v none .none (.unset "loop.A")).run w).1.map (·.1.status) = .ok .schemaError := by
  intro v w
  refine ⟨Sample.resolve_loopA 0, ?_, ?_, ?_⟩
  · have hafter : Resolver.after Sample.loop [.resolve 0 "loop.B"] =
        (({} : Resolver).resolve Sample.loop 0 "loop.B").resolver := rfl
    rw [hafter, Sample.resolve_loopB]
    exact Sample.resolve_loopA_known 0
  · have hresolved : ((resolveIn v.resolver "loop.A").run (start Sample.loop {})).1.1 = .error Sample.failureY :=
      Sample.resolve_loopA 0
    obtain ⟨identity, hc⟩ := check_of_refusal (m := .unset "loop.A") hresolved rfl none .none
    rw [hc]
    rfl
  · have hstate : (resolveIn v.resolver "loop.B").run (start Sample.loop {}) = _ :=
      resolveIn_start "loop.B" (Sample.resolve_loopB 0)
    have hother : ((resolveIn v.resolver "loop.B").run (start Sample.loop {})).1.1 = .error Sample.failureX := by
      rw [hstate]
    have hw : w = ((resolveIn v.resolver "loop.B").run (start Sample.loop {})).2 :=
      check_state_of_error (m := .unset "loop.B") hother none .none
    have hresolved : ((resolveIn v.resolver "loop.A").run w).1.1 = .error Sample.failureX := by
      rw [hw, hstate]
      exact Sample.resolve_loopA_known 0
    obtain ⟨identity, hc⟩ := check_of_refusal (m := .unset "loop.A") hresolved rfl none .none
    rw [hc]
    rfl

end Workspace
end Conformance
