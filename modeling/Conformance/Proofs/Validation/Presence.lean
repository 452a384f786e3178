import Conformance.Proofs.Validation.Unique
import Conformance.Proofs.Walk.Required

/-!
# Presence in expressions and in walks

The function `has` tells the presence of a field by what its descriptor says, a walk by its shape. Both say the same, so a
walk says of the fields that a message is required to set just where `has` says that it does not.
-/

namespace Conformance

open Conformance.Expr (Eval)

variable {s : Schema}

/-! ## What `has` gives -/

namespace Expr.Library

theorem isSetField_eq (f : Field) (m : Message) : isSetField m f = f.isSetIn m := by
  unfold isSetField memberCount Field.isSetIn Field.isRepeated
  cases f.shape with
  | singular => rfl
  | repeated => cases m.elements f.name <;> rfl
  | map key => cases m.entries f.name <;> rfl

theorem call_has {f : Field} {m : Message} (hf : (s.messageType m.type).field? f.name = some f) :
    call s (.function .has) ⟨[.message m, .text f.name], []⟩ = pure (.bool (f.isSetIn m)) := by
  have hcall : call s (.function .has) ⟨[.message m, .text f.name], []⟩ =
      do return .bool (← Eval.lift (isSet s (.message m) (.text f.name))) := rfl
  have hset : isSet s (.message m) (.text f.name) = .ok (f.isSetIn m) := by
    simp only [isSet, hf, isSetField_eq]
    rfl
  rw [hcall, hset]
  rfl

end Expr.Library

theorem Expr.Eval.pure_bool_inj {a b : Bool} (h : (pure (.bool a) : Eval Value) = pure (.bool b)) : a = b := by
  have hrun := congrArg (fun e : Eval Value => (e.run.run {}).1) h
  cases hrun
  rfl

/-! ## What a walk gives -/

/-- A walk that does not end at a violation gives all that is found. -/
theorem Event.found_of_verdict {failFast : Bool} {es : List Event} {vs : List Violation}
    (h : verdict failFast es = .ok vs) (hfull : failFast = false ∨ vs = []) :
    ending es = .ok () ∧ found es = vs := by
  cases failFast with
  | false => exact verdict_full_eq_ok.1 h
  | true =>
    obtain rfl := hfull.resolve_left (by decide)
    cases hfound : found es with
    | nil =>
      refine ⟨?_, rfl⟩
      cases hend : ending es with
      | ok u => rfl
      | error f => simp [verdict, hfound, hend, Except.map] at h
    | cons v vs => simp [verdict, hfound] at h

/-- The violations that a walk gives are those of demands that are not met: all of them, if it does not end at one. -/
theorem WalkContext.mem_violations {c : WalkContext} (hc : ∀ type, c.schema.Gives type (c.rulesOf type))
    {type : String} {m : Message} {vs : List Violation} (h : c.violations (c.schema.rules type) m = .ok vs)
    (v : Violation) :
    (v ∈ vs → ∃ d ∈ c.schema.demands type m [], d.IsViolated c.schema c.now v) ∧
      (c.failFast = false ∨ vs = [] →
        ∀ d ∈ c.schema.demands type m [], d.IsViolated c.schema c.now v → v ∈ vs) := by
  rw [violations_eq] at h
  constructor
  · intro hv
    exact Walk.isViolated_of_event hc (Event.violation_mem_of_found (Event.mem_found_of_verdict h hv))
  · intro hfull d hd hv
    obtain ⟨hend, rfl⟩ := Event.found_of_verdict h hfull
    have hno := Event.ending_eq_ok.1 hend
    rw [Event.found_eq hno, events, (Walk.events_eq c hc _ 0 type m [] hno).1]
    refine List.mem_filterMap.2 ⟨d, hd, ?_⟩
    rw [Demand.violation?, hv]

namespace Workspace

open Expr.Library

/-- Evaluation returns that a value is required at a field of a message that it gets to only if the rules require the field
and the message does not set it; and it does so, unless it ends at some violation. -/
theorem required_of_evaluate {m inner : Message} {type : String} {path : Path} {f : Field} {config : Config}
    {history : List Operation} {resolver : Nat} {maxDepth : Int} {failFast : Bool} {now : Value} {vs : List Violation}
    (hs : s.Named) (hm : m.Keyed) (hvisits : s.Visits m.type m type inner path)
    (hf : f ∈ (s.messageType type).fields)
    (h : ((evaluate resolver maxDepth failFast now m).run (after s config history)).1 = .ok vs) :
    ((∃ v ∈ vs, v.path = path ++ [.field f.name] ∧ v.IsRequired) →
      (s.rules type).Requires f ∧ f.isSetIn inner = false) ∧
    (failFast = false ∨ vs = [] → (s.rules type).Requires f ∧ f.isSetIn inner = false →
      ∃ v ∈ vs, v.path = path ++ [.field f.name] ∧ v.IsRequired) := by
  rw [← hvisits.required_iff hs hm hf now]
  obtain ⟨e, -, he⟩ | ⟨rulesOf, hc, he⟩ := (faithful_after s config history).evaluate_cases resolver m
  · cases h.symm.trans (he maxDepth failFast now)
  · let c : WalkContext := { schema := s, rulesOf, failFast, maxDepth, now, root := m.type }
    have hviolations : c.violations (s.rules m.type) m = .ok vs :=
      mapError_eq_ok.1 ((he maxDepth failFast now).symm.trans h)
    have hmem := WalkContext.mem_violations (c := c) hc hviolations
    constructor
    · rintro ⟨v, hv, hpath, hr⟩
      obtain ⟨d, hd, hviolated⟩ := (hmem v).1 hv
      exact ⟨d, hd, v, hviolated, hpath, hr⟩
    · rintro hfull ⟨d, hd, v, hviolated, hpath, hr⟩
      exact ⟨v, (hmem v).2 hfull d hd hviolated, hpath, hr⟩

/-- The function `has` and evaluation agree on presence. For each field of each message `has` gives whether evaluation takes
the field to be set. And at a field of a message that evaluation gets to, it returns a standard violation of the rule
`required` if and only if the rules of the type have the field as required and `has` gives that it is not set; only that
an evaluation up to the first violation may end before it gets there. -/
theorem presence_agrees (hs : s.Named) :
    (∀ n : Message, ∀ f ∈ (s.messageType n.type).fields,
      call s (.function .has) ⟨[.message n, .text f.name], []⟩ = pure (.bool (f.isSetIn n))) ∧
    ∀ m : Message, m.Conforms s → m.Keyed → ∀ type inner path, s.Visits m.type m type inner path →
      ∀ f ∈ (s.messageType type).fields, ∀ config history resolver maxDepth now,
        let outcome (failFast : Bool) :=
          ((evaluate resolver maxDepth failFast now m).run (after s config history)).1
        let IsReturned (vs : List Violation) := ∃ v ∈ vs, v.path = path ++ [.field f.name] ∧ v.IsRequired
        let IsMissing := (s.rules type).Requires f ∧
          call s (.function .has) ⟨[.message inner, .text f.name], []⟩ = pure (.bool false)
        (∀ vs, outcome false = .ok vs → (IsReturned vs ↔ IsMissing)) ∧
          ∀ vs, outcome true = .ok vs → (IsReturned vs → IsMissing) ∧ (IsMissing → vs ≠ []) := by
  have hhas (n : Message) (f : Field) (hf : f ∈ (s.messageType n.type).fields) :
      call s (.function .has) ⟨[.message n, .text f.name], []⟩ = pure (.bool (f.isSetIn n)) :=
    call_has ((hs.messageType n.type).fields f hf).2
  refine ⟨hhas, ?_⟩
  intro m hm hkeyed type inner path hvisits f hf config history resolver maxDepth now outcome IsReturned IsMissing
  have htype : inner.type = type := hvisits.type_eq hs hm rfl
  have hmissing : IsMissing ↔ (s.rules type).Requires f ∧ f.isSetIn inner = false := by
    refine and_congr_right fun _ => ?_
    rw [hhas inner f (by rwa [htype])]
    exact ⟨Eval.pure_bool_inj, fun hunset => by rw [hunset]⟩
  constructor
  · intro vs h
    obtain ⟨honly, hall⟩ := required_of_evaluate hs hkeyed hvisits hf h
    exact ⟨fun hv => hmissing.2 (honly hv), fun hno => hall (.inl rfl) (hmissing.1 hno)⟩
  · intro vs h
    obtain ⟨honly, hall⟩ := required_of_evaluate hs hkeyed hvisits hf h
    refine ⟨fun hv => hmissing.2 (honly hv), ?_⟩
    rintro hno rfl
    obtain ⟨v, hv, -⟩ := hall (.inr rfl) (hmissing.1 hno)
    cases hv

end Workspace

namespace Sample

theorem visits_item : schema.Visits "Order" message "Item" (.unset "Item") [.field "item"] := by
  have hholds : ∃ f ∈ (schema.messageType "Order").fields, f.Holds message "Item" (.unset "Item") [.field "item"] :=
    ⟨_, List.mem_cons_of_mem _ List.mem_cons_self, .single rfl rfl ⟨rfl, rfl, rfl, fun h => by cases h⟩⟩
  obtain ⟨f, hf, hholds⟩ := hholds
  exact .inside rfl hf hholds .here

end Sample

namespace Workspace

open Expr.Library

/-- The item of an order is found to lack what `has` gives that it lacks. -/
theorem presence_agrees_of_order :
    (Sample.schema.rules "Item").Requires (Sample.requiredText "sku" 1) ∧
      call Sample.schema (.function .has) ⟨[.message (.unset "Item"), .text "sku"], []⟩ = pure (.bool false) := by
  have h := (presence_agrees Sample.schema_named).2 Sample.message rfl rfl "Item" (.unset "Item") [.field "item"]
    Sample.visits_item (Sample.requiredText "sku" 1) List.mem_cons_self {} [] 0 32 .none
  exact (h.1 _ Sample.evaluate_message).1 ⟨Sample.lacksSku, List.mem_cons_of_mem _ List.mem_cons_self, rfl, rfl, rfl⟩

end Workspace
end Conformance
