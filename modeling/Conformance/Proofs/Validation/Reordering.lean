import Conformance.Proofs.Validation.Soundness
import Conformance.Proofs.Walk.Reordered

/-!
# The order in which maps were filled

By standard rules, validation does not see in which order the entries of maps were inserted, at any depth: messages
that differ in nothing else have the same violations in the same order, or the same error.
-/

namespace Conformance

variable {s : Schema}

/-- Reordered messages make the same events: their tasks come to the same one by one, and the messages inside are
reordered in their turn. -/
theorem Walk.events_reordered (c : WalkContext) (hs : c.schema.Distinct) :
    ∀ (fuel depth : Nat) (type : String) (m n : Message) (path : Path), c.schema.Standard type → m.type = type →
      m.Conforms c.schema → m.Keyed → m.Reorders n →
        events c.declared fuel depth (c.schema.rules type) m path =
          events c.declared fuel depth (c.schema.rules type) n path
  | 0, _, _, _, _, _, _, _, _, _, _ => rfl
  | fuel + 1, depth, type, m, n, path, h, htype, hm, hkeyed, hmn => by
    subst htype
    rw [events_succ c.declared, events_succ c.declared]
    split
    · rfl
    have hself := Schema.Below.refl c.schema m.type
    have htasks := @MessageType.tasks_reorder c.schema c.now path m n hs (h.resolves _ hself) (h.standard _ hself) hm
      hkeyed hmn
    have htask : ∀ t ∈ (c.schema.rules m.type).tasks (c.schema.messageType m.type) m path, ∀ u,
        t.Reorders c.schema c.now u → t.events c.declared (inside c.declared (events c.declared fuel (depth + 1))) =
          u.events c.declared (inside c.declared (events c.declared fuel (depth + 1))) := by
      intro t ht u htu
      cases htu with
      | unbound f => rfl
      | demand hresult => simp only [Task.events, Demand.events, hresult]
      | @inner name inner also place hinner =>
        obtain ⟨-, f, hf, _, hh, -⟩ := MessageType.inner_mem_tasks.1 ht
        have htype := hh.type_eq (hs.unique m.type f hf) hm
        have ih := events_reordered c hs fuel (depth + 1) name inner also place (h.of_inner ht) htype
          (hh.everywhere hm) (hh.everywhere hkeyed) hinner
        simp only [Task.events, inside, ih]
    exact flatMap_eq_of_forall₂ htask htasks

namespace Workspace

/-- Where no expression is declared for any type that validation of a message may get to, evaluation comes to the same
however the maps inside of the message were filled: the same violations in the same order, or the same error. -/
theorem evaluate_reordered (s : Schema) (config : Config) (history : List Operation) (resolver : Nat) (maxDepth : Int)
    (failFast : Bool) (now : Value) (m n : Message) (hs : s.Distinct) (hstandard : s.Standard m.type)
    (hm : m.Conforms s) (hkeyed : m.Keyed) (h : m.Reorders n) :
    ((evaluate resolver maxDepth failFast now m).run (after s config history)).1 =
      ((evaluate resolver maxDepth failFast now n).run (after s config history)).1 := by
  have hw := faithful_after s config history
  have htype := h.type_eq
  rw [hw.evaluate_of_resolves resolver hstandard.resolves,
    hw.evaluate_of_resolves resolver (htype ▸ hstandard.resolves), WalkContext.violations_eq,
    WalkContext.violations_eq, ← htype]
  let c : WalkContext := { schema := s, rulesOf := fun type => .ok (s.rules type), failFast, maxDepth, now, root := m.type }
  have hevents : c.declared.events (s.rules m.type) m = c.declared.events (s.rules m.type) n :=
    Walk.events_reordered c hs _ 0 m.type m n [] hstandard rfl hm hkeyed h
  exact congrArg (fun es => (Event.verdict failFast es).mapError (⟨·, none⟩ : Failure → Raised)) hevents

end Workspace
/-! ## Stocks -/

namespace Sample

/-- Counts by name, three at least and all of them positive. -/
def stock : MessageType :=
  { name := "Stock"
    fields := [
      { name := "counts", number := 1, type := .scalar .int32, shape := .map .string, oneof := none, optional := false,
        hasPresence := false, default := .int 0,
        constraints := some { typed := some ⟨"map", [("min_pairs", .single (.int 3))]⟩,
                              values := some { typed := some ⟨"int32", [("gt", .single (.int 0))]⟩ } },
        presence := nofun }]
    oneofs := []
    constraints := none }

/-- No two of the stocks are equal. -/
def stocks : MessageType :=
  { name := "Stocks"
    fields := [
      { name := "items", number := 1, type := .message "Stock", shape := .repeated, oneof := none, optional := false,
        hasPresence := false, default := .message (.unset "Stock"),
        constraints := some { typed := some ⟨"repeated", [("unique", .single (.bool true))]⟩ }, presence := nofun }]
    oneofs := []
    constraints := none }

def stocksSchema : Schema := ⟨[stocks, stock], []⟩

def stockOf (counts : List (Datum × Datum)) : Datum := .message (.mk "Stock" [("counts", .entries counts)])

/-- A stock, and one more with the same counts. -/
def stocksOf (counts : List (Datum × Datum)) : Message :=
  .mk "Stocks" [("items", .repeated [stockOf counts, stockOf [(.text "nuts", .int 7), (.text "bolts", .int 0)]])]

def boltsFirst : Message := stocksOf [(.text "bolts", .int 0), (.text "nuts", .int 7)]

def nutsFirst : Message := stocksOf [(.text "nuts", .int 7), (.text "bolts", .int 0)]

theorem stocks_distinct : stocksSchema.Distinct := by
  refine ⟨fun t ht f hf => ?_, by decide +kernel⟩
  simp only [stocksSchema, List.mem_cons, List.not_mem_nil, or_false] at ht
  rcases ht with rfl | rfl
  · obtain rfl := List.mem_singleton.1 hf
    rfl
  · obtain rfl := List.mem_singleton.1 hf
    rfl

theorem stocks_standard : stocksSchema.Standard "Stocks" := by
  have hcompiles : ∀ n ∈ ["Stocks", "Stock"], (stocksSchema.compiled n).toOption.isSome = true ∧
      ∀ d ∈ (stocksSchema.rules n).dependencies, d ∈ ["Stocks", "Stock"] := by
    decide +kernel
  refine ⟨Schema.resolves_of_all hcompiles List.mem_cons_self, fun name hname => ?_⟩
  have hmem := Schema.mem_of_below (fun n hn => (hcompiles n hn).2) List.mem_cons_self hname
  simp only [List.mem_cons, List.not_mem_nil, or_false] at hmem
  rcases hmem with rfl | rfl
  · refine ⟨fun c hc => (by cases hc), fun f hf c hc => ?_⟩
    obtain rfl := List.mem_singleton.1 hf
    cases hc
    exact ⟨rfl, rfl, rfl, rfl⟩
  · refine ⟨fun c hc => (by cases hc), fun f hf c hc => ?_⟩
    obtain rfl := List.mem_singleton.1 hf
    cases hc
    exact ⟨rfl, rfl, rfl, rfl⟩

theorem stocks_reorder : boltsFirst.Reorders nutsFirst := by
  have hcounts : (Content.entries [(.text "bolts", .int 0), (.text "nuts", .int 7)]).Reorders
      (.entries [(.text "nuts", .int 7), (.text "bolts", .int 0)]) :=
    .entries (forall₂_entryReorders_refl _) (.swap _ _ _)
  have hstock : (Message.mk "Stock" [("counts", .entries [(.text "bolts", .int 0), (.text "nuts", .int 7)])]).Reorders
      (.mk "Stock" [("counts", .entries [(.text "nuts", .int 7), (.text "bolts", .int 0)])]) :=
    .mk (.cons (.field hcounts) .nil)
  exact .mk (.cons (.field (.repeated (.cons (.message hstock) (forall₂_reorders_refl _)))) .nil)

end Sample

namespace Workspace

theorem evaluate_reordered_of_stocks : Sample.stocksSchema.Distinct ∧ Sample.stocksSchema.Standard "Stocks" ∧
    Sample.boltsFirst.Conforms Sample.stocksSchema ∧ Sample.boltsFirst.Keyed ∧
    Sample.boltsFirst.Reorders Sample.nutsFirst ∧
    ((evaluate 0 32 false .none Sample.boltsFirst).run (after Sample.stocksSchema {} [])).1 =
      ((evaluate 0 32 false .none Sample.nutsFirst).run (after Sample.stocksSchema {} [])).1 := by
  have hconforms : Sample.boltsFirst.Conforms Sample.stocksSchema := by
    unfold Message.Conforms
    decide +kernel
  have hkeyed : Sample.boltsFirst.Keyed := by
    unfold Message.Keyed
    decide +kernel
  exact ⟨Sample.stocks_distinct, Sample.stocks_standard, hconforms, hkeyed, Sample.stocks_reorder,
    evaluate_reordered Sample.stocksSchema {} [] 0 32 false .none Sample.boltsFirst Sample.nutsFirst
      Sample.stocks_distinct Sample.stocks_standard hconforms hkeyed Sample.stocks_reorder⟩

end Workspace
end Conformance
