import Conformance.Proofs.Validation.Check
import Conformance.Proofs.Walk.Enumeration
import Conformance.Proofs.Walk.Depth
import Conformance.Proofs.Walk.Safe

/-!
# Validation by standard rules

Where only standard rules are declared, validation of a message that conforms to the schema returns: each check that
it makes gives a truth value.
-/

namespace Conformance

open Calendar

variable {s : Schema}

/-! ## Inner messages -/

/-- A message that a field holds conforms as the outer one does. -/
theorem Field.Holds.conforms {f : Field} {m inner : Message} {name : String} {place : Path} (hs : s.Regular)
    (hf : f ∈ (s.messageType m.type).fields) (hm : m.Conforms s) (hbound : m.InTime)
    (h : f.Holds m name inner place) : inner.type = name ∧ inner.Conforms s ∧ inner.InTime :=
  ⟨h.type_eq (hs.distinct.unique m.type f hf) hm, h.everywhere hm, h.everywhere hbound⟩

/-! ## Demands -/

namespace Demand

/-- A check that is demanded gives a truth value. -/
def Decides (s : Schema) (now : Value) : Demand → Prop
  | check c v _ _ => c.Decides s v now
  | _ => True

variable {now : Value} {d : Demand}

theorem Decides.result_ok (h : d.Decides s now) : ∃ v, d.result s now = .ok v := by
  cases d with
  | field path => exact ⟨_, rfl⟩
  | oneof path => exact ⟨_, rfl⟩
  | check c v path forKey =>
    obtain ⟨answer, ha⟩ := Check.Decides.run_ok h
    exact ⟨_, by simp only [result, ha]; rfl⟩

theorem Decides.no_failure (h : d.Decides s now) (f : Failure) : .failure f ∉ d.events s now := by
  obtain ⟨v, hv⟩ := h.result_ok
  cases v <;> simp [events, hv]

end Demand

theorem Task.IsSafe.decides {now : Value} {d : Demand} (h : (Task.demand d).IsSafe s now) : d.Decides s now := by
  cases d <;> exact h

/-- What is needed for all messages of a type: it resolves, and no expression is declared below it. -/
structure Schema.Standard (s : Schema) (type : String) : Prop where
  resolves : s.Resolves type
  standard : ∀ name, s.Below type name → (s.messageType name).IsStandard

namespace Schema.Standard

variable {now : Value} {type name : String} {m inner : Message} {path place : Path}

theorem tasks (h : s.Standard type) (hs : s.Regular) (htype : m.type = type) (hm : m.Conforms s) (hbound : m.InTime)
    (hn : Domain.instant.Holds now) :
    ∀ t ∈ (s.rules type).tasks (s.messageType type) m path, t.IsSafe s now :=
  have hself := Below.refl s type
  MessageType.safe_tasks hs (h.resolves type hself) (h.standard type hself) htype hm hbound hn

theorem of_inner (h : s.Standard type)
    (hi : .inner name inner place ∈ (s.rules type).tasks (s.messageType type) m path) : s.Standard name := by
  have hdepends := h.resolves.inner hi
  have hbelow : s.Below type name := .single hdepends
  exact ⟨h.resolves.below hbelow, fun n hn => h.standard n (hbelow.trans hn)⟩

/-- All checks that are demanded of a message and of those inside of it give truth values. -/
theorem demands (hs : s.Regular) (hn : Domain.instant.Holds now) (type : String) (m : Message) (path : Path)
    (h : s.Standard type) (htype : m.type = type) (hm : m.Conforms s) (hbound : m.InTime) :
    ∀ d ∈ s.demands type m path, d.Decides s now := by
  intro d hmem
  rw [Schema.demands_eq] at hmem
  obtain ⟨t, ht, hd⟩ := List.mem_flatMap.1 hmem
  have hsafe := h.tasks hs htype hm hbound hn t ht
  cases t with
  | demand e =>
    obtain rfl := List.mem_singleton.1 hd
    exact hsafe.decides
  | unbound f => cases hd
  | inner name inner place =>
    obtain ⟨-, f, hf, _, hh, -⟩ := MessageType.inner_mem_tasks.1 ht
    subst htype
    obtain ⟨hname, hconf, htime⟩ := hh.conforms hs hf hm hbound
    have hlt := hh.sizeOf_lt
    exact demands hs hn name inner place (h.of_inner ht) hname hconf htime d hd
termination_by sizeOf m

end Schema.Standard

/-! ## The walk -/

theorem Walk.no_failure {c : WalkContext} (hs : c.schema.Regular) (hn : Domain.instant.Holds c.now) :
    ∀ (fuel depth : Nat) (type : String) (m : Message) (path : Path), c.schema.Standard type → m.type = type →
      m.Conforms c.schema → m.InTime → (∀ n, c.schema.Reaches type m n → n < fuel ∧ depth + n ≤ capacity) →
      ∀ f, .failure f ∉ events c.declared fuel depth (c.schema.rules type) m path
  | 0, _, _, _, _, _, _, _, _, hdepth => absurd (hdepth 0 .here).1 (Nat.not_lt_zero 0)
  | fuel + 1, depth, type, m, path, h, htype, hm, hbound, hdepth => by
    intro f hfailure
    have hcap : ¬capacity < depth := by
      have := (hdepth 0 .here).2
      omega
    obtain ⟨t, ht, hf⟩ := (failure_mem_events (c := c.declared) hcap).1 hfailure
    have hsafe := h.tasks hs htype hm hbound hn t ht
    cases t with
    | demand e => exact hsafe.decides.no_failure f hf
    | unbound g => exact hsafe
    | inner name inner place =>
      obtain ⟨hdis, field, hfield, _, hh, -⟩ := MessageType.inner_mem_tasks.1 ht
      subst htype
      obtain ⟨hname, hconf, htime⟩ := hh.conforms hs hfield hm hbound
      have hin : .failure f ∈ events c.declared fuel (depth + 1) (c.schema.rules name) inner place :=
        (List.mem_cons.1 hf).resolve_left fun he => by cases he
      -- What is inside is a level deeper, with a level less to go.
      have hless (n : Nat) (hr : c.schema.Reaches name inner n) : n < fuel ∧ depth + 1 + n ≤ capacity := by
        have := hdepth (n + 1) (.inside hdis hfield hh hr)
        omega
      exact no_failure hs hn fuel (depth + 1) name inner place (h.of_inner ht) hname hconf htime hless f hin

theorem Event.verdict_ok {es : List Event} (h : ending es = .ok ()) (failFast : Bool) :
    ∃ vs, verdict failFast es = .ok vs := by
  unfold verdict
  rw [h]
  split
  · exact ⟨_, rfl⟩
  · exact ⟨_, rfl⟩

namespace Workspace

/-- Validation of a message by standard rules alone returns, whatever was done before: all that the rules are run on is
what they are made for. The message is one that the schema admits, its times can be bound, and it is nested no deeper
than it may be; the present is the time of some place. -/
theorem validate_standard (s : Schema) (config : Config) (history : List Operation) (v : Validator)
    (failFast : Option Bool) (m : Message) (now : Instant) (hs : s.Regular) (hstandard : s.Standard m.type)
    (hm : m.Conforms s) (hbound : m.InTime)
    (hdepth : ∀ n, s.Reaches m.type m n → n ≤ v.config.maxDepth ∧ n ≤ Walk.capacity)
    (hnow : Instant.least - microsPerDay ≤ now.micros ∧ now.micros ≤ Instant.greatest + microsPerDay) :
    (∃ o, ((validate v failFast (.instant now) m).run (after s config history)).1 = .ok o) ∧
      ∀ d ∈ s.demands m.type m [], d.Decides s (.instant now) := by
  have hn : Domain.instant.Holds (.instant now) := .instant hnow.1 hnow.2
  refine ⟨?_, Schema.Standard.demands hs hn m.type m [] hstandard rfl hm hbound⟩
  let c : WalkContext :=
    { schema := s
      rulesOf := fun type => .ok (s.rules type)
      failFast := failFast.getD v.config.failFast
      maxDepth := v.config.maxDepth
      now := .instant now
      root := m.type }
  have hevents : ∀ f, .failure f ∉ Walk.events c (c.maxDepth + 1).toNat 0 (s.rules m.type) m [] := by
    refine Walk.no_failure (c := c) hs hn _ 0 m.type m [] hstandard rfl hm hbound fun n hr => ?_
    have := hdepth n hr
    have hmax : c.maxDepth = v.config.maxDepth := rfl
    omega
  obtain ⟨vs, hvs⟩ := Event.verdict_ok (Event.ending_eq_ok.2 hevents) c.failFast
  have hviolations : c.violations (s.rules m.type) m = .ok vs := by
    rw [WalkContext.violations_eq]
    exact hvs
  have hevaluate := (faithful_after s config history).evaluate_of_resolves v.resolver hstandard.resolves
    v.config.maxDepth c.failFast (.instant now)
  rw [validate_run, hevaluate, hviolations]
  exact ⟨_, rfl⟩

end Workspace

/-! ## A range with a gap -/

namespace Sample

def inGap : Message := .mk "Gap" [("n", .single (.int 7))]

theorem gaps_regular : gaps.Regular := by
  refine ⟨fun t ht => ?_, fun t ht => ?_⟩
  · obtain rfl := List.mem_singleton.1 ht
    refine ⟨fun f hf => ?_, fun f hf _ => ?_, gap_declared⟩
    · obtain rfl := List.mem_singleton.1 hf
      rfl
    · obtain rfl := List.mem_singleton.1 hf
      rfl
  · obtain rfl := List.mem_singleton.1 ht
    decide +kernel

theorem gap_independent (name : String) : ¬gaps.Depends "Gap" name := by
  rintro ⟨rules, hr, hd⟩
  rw [Schema.compiled_eq_rules hr] at hd
  cases hd

theorem gaps_standard : gaps.Standard "Gap" := by
  have hcompiles : gaps.Compiles "Gap" := (Compile.typeRules_ok_iff gap_declared gap_inTime).2 gap_wellFormed
  have hself (name : String) (h : gaps.Below "Gap" name) : name = "Gap" := by
    obtain rfl | ⟨_, hstep, -⟩ := Relation.ReflTransGen.cases_head h
    · rfl
    · exact absurd hstep (gap_independent _)
  refine ⟨fun name hn => ?_, fun name hn => ?_⟩
  · rw [hself name hn]
    exact hcompiles
  · rw [hself name hn]
    refine ⟨fun c hc => (by cases hc), fun f hf c hc => ?_⟩
    obtain rfl := List.mem_singleton.1 hf
    obtain rfl : FieldConstraints.ofMessage gapOptions = c := Option.some.inj hc
    rw [gapOptions_eq]
    exact ⟨rfl, rfl, rfl, rfl⟩

theorem depth_inGap {n : Nat} (h : gaps.Reaches "Gap" inGap n) : n = 0 := by
  cases h with
  | here => rfl
  | inside _ hf hh _ =>
    obtain rfl := List.mem_singleton.1 hf
    cases hh with
    | single _ _ he => cases he.type_eq
    | item hs _ _ => cases hs
    | entry hs _ _ => cases hs

end Sample

namespace Workspace

theorem validate_standard_of_gap :
    ∃ o, ((validate (start Sample.gaps {}).current none (.instant ⟨0⟩) Sample.inGap).run
      (after Sample.gaps {} [])).1 = .ok o := by
  have hdepth (n : Nat) (h : Sample.gaps.Reaches "Gap" Sample.inGap n) : n ≤ 32 ∧ n ≤ Walk.capacity := by
    rw [Sample.depth_inGap h]
    exact ⟨Nat.zero_le _, Nat.zero_le _⟩
  exact (validate_standard Sample.gaps {} [] (start Sample.gaps {}).current none Sample.inGap ⟨0⟩ Sample.gaps_regular
    Sample.gaps_standard rfl rfl hdepth (by decide)).1

end Workspace
end Conformance
