import Conformance.Proofs.Walk.FailFast
import Conformance.Proofs.Walk.Inner

/-!
# The depth limit

A walk under a lower limit has the events of the walk under a higher one, up to the first message that is too
deep (`cuts_events`). So a walk that is not cut short is the same under all higher limits; and one that would
else end well is cut short if and only if it gets to a message below the limit, which is said of the schema
and the message alone (`Schema.Reaches`).
-/

namespace Conformance

/-- Validation of a message of a type gets to a message so many levels below it. Lists and maps make no level,
messages of disabled types are gotten to but not gone into. -/
inductive Schema.Reaches (s : Schema) : String → Message → Nat → Prop
  | here {type : String} {m : Message} : Reaches s type m 0
  | inside {type name : String} {m inner : Message} {f : Field} {place : Path} {n : Nat} :
    (s.messageType type).constraints.any (·.disabled) = false → f ∈ (s.messageType type).fields →
      f.Holds m name inner place → Reaches s name inner n → Reaches s type m (n + 1)

/-- The names of fields in a path. -/
def Path.names (p : Path) : List String :=
  p.filterMap fun
    | .field name => some name
    | _ => none

theorem Path.names_append (p q : Path) : names (p ++ q) = names p ++ names q := List.filterMap_append

theorem Field.Holds.names {f : Field} {m inner : Message} {name : String} {place : Path}
    (h : f.Holds m name inner place) : Path.names place = [f.name] := by
  cases h <;> rfl

/-! ## Events that are cut short -/

namespace Event

/-- Events that are the same as others up to a message that is too deep. -/
inductive Cuts : List Event → List Event → Prop
  | nil : Cuts [] []
  | cons (e : Event) {es es' : List Event} : Cuts es es' → Cuts (e :: es) (e :: es')
  | depth (e : DepthError) {es es' : List Event} : Cuts (failure (.depth e) :: es) es'

namespace Cuts

theorem refl : ∀ es, Cuts es es
  | [] => nil
  | e :: es => cons e (refl es)

theorem append {es es' fs fs' : List Event} (h : Cuts es es') (hf : Cuts fs fs') : Cuts (es ++ fs) (es' ++ fs') := by
  induction h with
  | nil => exact hf
  | cons e _ ih => exact cons e ih
  | depth e => exact depth e

theorem flatMap {α : Type} {f g : α → List Event} (h : ∀ a, Cuts (f a) (g a)) : ∀ as : List α,
    Cuts (as.flatMap f) (as.flatMap g)
  | [] => nil
  | a :: as => append (h a) (flatMap h as)

variable {es es' : List Event}

theorem ending_or (h : Cuts es es') :
    (∃ e, ending es = .error (.depth e)) ∨ ending es' = ending es ∧ found es' = found es := by
  induction h with
  | nil => exact .inr ⟨rfl, rfl⟩
  | depth e => exact .inl ⟨e, rfl⟩
  | cons e _ ih =>
    cases e with
    | enter type => exact ih
    | violation v => exact ih.imp_right fun ⟨he, hf⟩ => ⟨he, congrArg (v :: ·) hf⟩
    | failure f => exact .inr ⟨rfl, rfl⟩

theorem found_prefix (h : Cuts es es') : found es <+: found es' := by
  induction h with
  | nil => exact List.prefix_rfl
  | depth e => exact List.nil_prefix
  | cons e _ ih =>
    cases e with
    | enter type => exact ih
    | violation v => exact List.prefix_cons_inj v |>.2 ih
    | failure f => exact List.prefix_rfl

/-- What is said of events is said of those under a higher limit, if it is not that they go too deep. -/
theorem verdict_eq (h : Cuts es es') {failFast : Bool}
    (hd : ∀ e, verdict failFast es ≠ .error (.depth e)) : verdict failFast es' = verdict failFast es := by
  obtain ⟨e, he⟩ | ⟨he, hf⟩ := h.ending_or
  · cases hf : found es with
    | nil => exact absurd (by simp [verdict, hf, he, Except.map]) (hd e)
    | cons v vs =>
      cases failFast with
      | false => exact absurd (by simp [verdict, he, Except.map]) (hd e)
      | true =>
        obtain ⟨more, hmore⟩ := h.found_prefix
        simp [verdict, ← hmore, hf]
  · simp only [verdict, he, hf]

end Cuts
end Event

abbrev WalkContext.limited (c : WalkContext) (maxDepth : Int) : WalkContext := { c with maxDepth }

namespace Walk
open Event

section
variable (c : WalkContext) (d d' : Int)

theorem cuts_events : ∀ (fuel fuel' depth : Nat) (r : TypeRules) (m : Message) (path : Path), fuel ≤ fuel' →
    Cuts (events (c.limited d) fuel depth r m path) (events (c.limited d') fuel' depth r m path)
  | 0, _, _, _, _, _, _ => .depth _
  | fuel + 1, 0, _, _, _, _, h => absurd h (Nat.not_succ_le_zero fuel)
  | fuel + 1, fuel' + 1, depth, r, m, path, h => by
    unfold events
    by_cases hcap : capacity < depth
    · rw [if_pos hcap]
      exact .depth _
    · rw [if_neg hcap, if_neg hcap]
      cases r.disabled
      · refine Cuts.flatMap (fun t => ?_) _
        cases t with
        | demand d => exact .refl _
        | unbound f => exact .refl _
        | inner type inner place =>
          refine .cons _ ?_
          unfold inside
          dsimp only
          cases c.rulesOf type with
          | error f => exact .refl _
          | ok rules => exact cuts_events fuel fuel' (depth + 1) rules inner place (Nat.le_of_succ_le_succ h)
      · exact .refl _

end

/-! ## What is too deep -/

/-- Events that fail only by their depth fail by it if they fail at all. -/
theorem deep_iff {es : List Event} (h : ∀ f, .failure f ∈ es → ∃ e, f = .depth e) :
    (∃ e, verdict false es = .error (.depth e)) ↔ ∃ f, .failure f ∈ es := by
  simp only [verdict_full_eq_error]
  constructor
  · rintro ⟨e, he⟩
    exact ⟨_, failure_mem_of_ending he⟩
  · rintro ⟨f, hf⟩
    cases he : ending es with
    | ok _ => exact absurd hf (ending_eq_ok.1 he f)
    | error g =>
      obtain ⟨e, rfl⟩ := h g (failure_mem_of_ending he)
      exact ⟨e, rfl⟩

section
variable {c : WalkContext} {d d' : Int} {fuel fuel' depth : Nat} {type : String} {m : Message} {path : Path}
  {f : Failure}

theorem failure_mem_events (hcap : ¬capacity < depth) :
    .failure f ∈ events c (fuel + 1) depth (c.schema.rules type) m path ↔
      ∃ t ∈ (c.schema.rules type).tasks (c.schema.messageType type) m path,
        .failure f ∈ t.events c (inside c (events c fuel (depth + 1))) := by
  rw [events_succ, if_neg hcap, List.mem_flatMap]

/-- A task that does not fail under one limit can fail under another only in messages inside of it. -/
theorem failure_mem_task {inside inside' : String → Message → Path → List Event} {t : Task}
    (hf : ∀ f, .failure f ∉ t.events (c.limited d') inside') :
    .failure f ∈ t.events (c.limited d) inside ↔
      ∃ name inner place, t = .inner name inner place ∧ .failure f ∈ inside name inner place := by
  cases t with
  | demand a => exact iff_of_false (hf f) (by simp)
  | unbound e => exact absurd List.mem_cons_self (hf _)
  | inner name inner place =>
    constructor
    · intro h
      exact ⟨name, inner, place, rfl, (List.mem_cons.1 h).resolve_left nofun⟩
    · rintro ⟨_, _, _, ⟨⟩, h⟩
      exact List.mem_cons_of_mem _ h

variable (hc : ∀ type, c.schema.Gives type (c.rulesOf type))
  (hcap : ¬capacity < depth) (hd : (c.schema.messageType type).constraints.any (·.disabled) = false)
  (hf : ∀ f, .failure f ∉ events (c.limited d') (fuel' + 1) depth (c.schema.rules type) m path)
include hc hcap hd hf

omit hd in
/-- A walk that does not fail resolves the inner messages and does not fail in them. -/
theorem no_failure_inside {name : String} {inner : Message} {place : Path}
    (ht : .inner name inner place ∈ (c.schema.rules type).tasks (c.schema.messageType type) m path) :
    c.rulesOf name = .ok (c.schema.rules name) ∧
      ∀ f, .failure f ∉ events (c.limited d') fuel' (depth + 1) (c.schema.rules name) inner place := by
  have hin : ∀ f, .failure f ∉ inside (c.limited d') (events (c.limited d') fuel' (depth + 1)) name inner place :=
    fun f hm => hf f ((failure_mem_events hcap).2 ⟨.inner name inner place, ht, List.mem_cons_of_mem _ hm⟩)
  unfold inside at hin
  cases hr : c.rulesOf name with
  | error e => simp [hr] at hin
  | ok rules =>
    obtain rfl := (hc name).rules_eq hr
    simp only [hr] at hin
    exact ⟨rfl, hin⟩

theorem failure_mem_inside :
    .failure f ∈ events (c.limited d) (fuel + 1) depth (c.schema.rules type) m path ↔
      ∃ field ∈ (c.schema.messageType type).fields, ∃ name inner place, field.Holds m name inner place ∧
        .failure f ∈ events (c.limited d) fuel (depth + 1) (c.schema.rules name) inner (path ++ place) := by
  rw [failure_mem_events (c := c.limited d) hcap]
  constructor
  · rintro ⟨t, ht, hm⟩
    have hft : ∀ f, .failure f ∉ t.events (c.limited d') (inside (c.limited d')
        (events (c.limited d') fuel' (depth + 1))) :=
      fun f h => hf f ((failure_mem_events hcap).2 ⟨t, ht, h⟩)
    obtain ⟨name, inner, p, rfl, hin⟩ := (failure_mem_task hft).1 hm
    have hr := (no_failure_inside hc hcap hf ht).1
    obtain ⟨-, field, hfield, place, hh, rfl⟩ := MessageType.inner_mem_tasks.1 ht
    exact ⟨field, hfield, name, inner, place, hh, by simpa [inside, hr] using hin⟩
  · rintro ⟨field, hfield, name, inner, place, hh, hin⟩
    have ht : .inner name inner (path ++ place) ∈ (c.schema.rules type).tasks (c.schema.messageType type) m path :=
      MessageType.inner_mem_tasks.2 ⟨hd, field, hfield, place, hh, rfl⟩
    have hr := (no_failure_inside hc hcap hf ht).1
    exact ⟨_, ht, List.mem_cons_of_mem _ (by simpa [inside, hr] using hin)⟩

end

/-- If nothing fails under a higher limit, a walk fails exactly if it gets to a message that its levels do not
suffice for; and the path of such a failure has a name more for each level. -/
theorem failure_events {c : WalkContext} {d d' : Int}
    (hc : ∀ type, c.schema.Gives type (c.rulesOf type)) :
    ∀ (fuel fuel' depth : Nat) (type : String) (m : Message) (path : Path), fuel ≤ fuel' →
      (∀ f, .failure f ∉ events (c.limited d') fuel' depth (c.schema.rules type) m path) →
      ((∃ f, .failure f ∈ events (c.limited d) fuel depth (c.schema.rules type) m path) ↔
        ∃ n, fuel ≤ n ∧ c.schema.Reaches type m n) ∧
      ∀ f, .failure f ∈ events (c.limited d) fuel depth (c.schema.rules type) m path →
        ∃ name place, f = .depth (.exceeded name place d) ∧ place.names.length = path.names.length + fuel
  | 0, _, _, type, _, path, _, _ => by
    refine ⟨⟨fun _ => ⟨0, Nat.le_refl 0, .here⟩, fun _ => ⟨_, List.mem_cons_self⟩⟩, fun f hf => ?_⟩
    simp only [events, List.mem_singleton, Event.failure.injEq] at hf
    exact ⟨_, _, hf, rfl⟩
  | fuel + 1, 0, _, _, _, _, h, _ => absurd h (Nat.not_succ_le_zero fuel)
  | fuel + 1, fuel' + 1, depth, type, m, path, h, hf => by
    have hcap : ¬capacity < depth := by
      intro hcap
      unfold events at hf
      rw [if_pos hcap] at hf
      exact hf _ List.mem_cons_self
    cases hd : (c.schema.messageType type).constraints.any (·.disabled) with
    | true =>
      have he : events (c.limited d) (fuel + 1) depth (c.schema.rules type) m path = [] := by
        unfold events
        simp [hcap, Schema.rules, MessageType.rules_disabled, hd]
      rw [he]
      refine ⟨⟨?_, ?_⟩, fun f hm => absurd hm List.not_mem_nil⟩
      · rintro ⟨f, hm⟩
        cases hm
      · rintro ⟨_, hn, _ | ⟨hd', _, _, _⟩⟩
        · omega
        · cases hd.symm.trans hd'
    | false =>
      -- The induction for a message that a field holds.
      have ih := fun (field : Field) (hfield : field ∈ (c.schema.messageType type).fields) (name : String)
          (inner : Message) (place : Path) (hh : field.Holds m name inner place) =>
        failure_events (d := d) hc fuel fuel' (depth + 1) name inner (path ++ place) (Nat.le_of_succ_le_succ h)
          (no_failure_inside hc hcap hf
            (MessageType.inner_mem_tasks.2 ⟨hd, field, hfield, place, hh, rfl⟩)).2
      simp only [failure_mem_inside hc hcap hd hf]
      refine ⟨⟨?_, ?_⟩, ?_⟩
      · rintro ⟨f, field, hfield, name, inner, place, hh, hm⟩
        obtain ⟨n, hn, hr⟩ := (ih field hfield name inner place hh).1.1 ⟨f, hm⟩
        exact ⟨n + 1, by omega, .inside hd hfield hh hr⟩
      · rintro ⟨_, hn, _ | ⟨_, hfield, hh, hr⟩⟩
        · omega
        · obtain ⟨f, hm⟩ := (ih _ hfield _ _ _ hh).1.2 ⟨_, by omega, hr⟩
          exact ⟨f, _, hfield, _, _, _, hh, hm⟩
      · rintro f ⟨field, hfield, name, inner, place, hh, hm⟩
        obtain ⟨name, p, rfl, hp⟩ := (ih field hfield name inner place hh).2 f hm
        refine ⟨name, p, rfl, ?_⟩
        rw [hp, Path.names_append, hh.names]
        simp
        omega

end Walk

namespace Workspace

/-- What evaluation gives under one limit, if that is not that the message is nested too deeply, it gives under
every higher one. And if evaluation to the end gives violations under a higher limit, then under the lower one
it finds the message nested too deeply exactly if validation gets to a message more levels down than the limit
is; the path that it names then has one name more than that. -/
theorem evaluate_depth (s : Schema) (config : Config) (history : List Operation) (resolver : Nat)
    (now : Value) (m : Message) (d d' : Int) (h : d ≤ d') :
    let outcome (maxDepth : Int) (failFast : Bool) :=
      ((evaluate resolver maxDepth failFast now m).run (after s config history)).1
    (∀ failFast, (∀ e identity, outcome d failFast ≠ .error ⟨.depth e, identity⟩) →
      outcome d' failFast = outcome d failFast) ∧
    ∀ vs, outcome d' false = .ok vs →
      ((∃ e identity, outcome d false = .error ⟨.depth e, identity⟩) ↔ ∃ n : Nat, d < n ∧ s.Reaches m.type m n) ∧
      ∀ e identity, outcome d false = .error ⟨.depth e, identity⟩ →
        ∃ type path, e = .exceeded type path d ∧ path.names.length = (d + 1).toNat := by
  intro outcome
  obtain ⟨e, -, he⟩ | ⟨rulesOf, hc, he⟩ := (faithful_after s config history).evaluate_cases resolver m
  · -- Without rules for the message the limit plays no part.
    refine ⟨fun failFast _ => (he d' failFast now).trans (he d failFast now).symm, fun vs hok => ?_⟩
    cases (he d' false now).symm.trans hok
  · let c : WalkContext := { schema := s, rulesOf, failFast := false, maxDepth := d, now, root := m.type }
    have hout : ∀ maxDepth failFast, outcome maxDepth failFast = (Event.verdict failFast
        (Walk.events (c.limited maxDepth) (maxDepth + 1).toNat 0 (s.rules m.type) m [])).mapError (⟨·, none⟩) := by
      intro maxDepth failFast
      rw [← Walk.events_failFast (c.limited maxDepth) failFast]
      exact (he maxDepth failFast now).trans (congrArg _ (WalkContext.violations_eq _ _ _))
    have hfuel : (d + 1).toNat ≤ (d' + 1).toNat := by omega
    refine ⟨fun failFast hd => ?_, fun vs hok => ?_⟩
    · have hcuts := Walk.cuts_events c d d' _ _ 0 (s.rules m.type) m [] hfuel
      rw [hout, hout, hcuts.verdict_eq]
      intro e hv
      exact hd e none (by rw [hout, hv]; rfl)
    · rw [hout, mapError_eq_ok] at hok
      have hf := Event.ending_eq_ok.1 (Event.verdict_full_eq_ok.1 hok).1
      obtain ⟨hreach, hpath⟩ := Walk.failure_events (d := d) hc _ _ 0 m.type m [] hfuel hf
      simp only [hout, mapError_eq_error]
      constructor
      · have hdeep := Walk.deep_iff fun f hm => by
          obtain ⟨type, path, hfe, -⟩ := hpath f hm
          exact ⟨_, hfe⟩
        constructor
        · rintro ⟨e, -, he, -⟩
          obtain ⟨n, hn, hr⟩ := hreach.1 (hdeep.1 ⟨e, he⟩)
          exact ⟨n, by omega, hr⟩
        · rintro ⟨n, hn, hr⟩
          obtain ⟨e, he⟩ := hdeep.2 (hreach.2 ⟨n, by omega, hr⟩)
          exact ⟨e, none, he, rfl⟩
      · rintro e - ⟨he, -⟩
        obtain ⟨type, path, hfe, hp⟩ := hpath _ (Event.failure_mem_of_ending (Event.verdict_full_eq_error.1 he))
        cases hfe
        exact ⟨type, path, rfl, by simpa [Path.names] using hp⟩

/-- The item of the sample is one level down: no level is too few, one is enough. -/
theorem evaluate_depth_sample :
    (∃ n : Nat, 0 < (n : Int) ∧ Sample.schema.Reaches "Order" Sample.message n) ∧
      ((evaluate 0 32 true .none Sample.message).run (after Sample.schema {} [] )).1 =
        ((evaluate 0 1 true .none Sample.message).run (after Sample.schema {} [])).1 := by
  have hrun : ∀ maxDepth failFast, ((evaluate 0 maxDepth failFast .none Sample.message).run
      (after Sample.schema {} [])).1 = _ := fun maxDepth failFast => by
    rw [evaluate_run, after, List.foldl_nil, resolveIn_start Sample.message.type (Sample.resolve_order 0)]
  constructor
  · have h := (evaluate_depth Sample.schema {} [] 0 .none Sample.message 0 32 (by decide)).2 _ (hrun 32 false)
    exact h.1.1 ⟨_, _, hrun 0 false⟩
  · refine (evaluate_depth Sample.schema {} [] 0 .none Sample.message 1 32 (by decide)).1 true fun e identity h => ?_
    cases (hrun 1 true).symm.trans h

end Workspace
end Conformance
