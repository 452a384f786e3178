import Conformance.Proofs.Walk.Composition
import Conformance.Proofs.Walk.Independence
import Conformance.Proofs.Walk.Unwrapped

/-!
# Wrapper fields and optional fields

A field of a wrapper type is validated as the optional scalar is that it could be declared as: its type resolves just if
the other one does, and messages that hold the same value in both have the same violations.
-/

namespace Conformance

/-! ## Events that tell of another outermost type -/

namespace Event

variable {p : Path} {cut : Prop} {es es' : List Event}

theorem Mirrors.ends_alike (h : Mirrors p cut es es') (hcut : ¬cut) :
    found es = (found es').map (Violation.within p) ∧ (ending es = .ok () ↔ ending es' = .ok ()) := by
  induction h with
  | nil => exact ⟨rfl, Iff.rfl⟩
  | enter type _ ih => exact ih
  | violation v _ ih => exact ⟨congrArg (v.within p :: ·) ih.1, ih.2⟩
  | failure _ => exact ⟨rfl, iff_of_false (fun h => by cases h) fun h => by cases h⟩
  | exhausted hc => exact absurd hc hcut

theorem verdict_congr (hfound : found es = found es') (hending : ending es = .ok () ↔ ending es' = .ok ())
    (failFast : Bool) (vs : List Violation) : verdict failFast es = .ok vs ↔ verdict failFast es' = .ok vs := by
  have hmap (found : List Violation) :
      (ending es).map (fun _ => found) = .ok vs ↔ (ending es').map (fun _ => found) = .ok vs := by
    cases he : ending es with
    | ok a => rw [hending.1 he]
    | error f =>
      cases he' : ending es' with
      | ok a =>
        rw [hending.2 he'] at he
        cases he
      | error f' => exact iff_of_false (fun h => by cases h) fun h => by cases h
  unfold verdict
  rw [hfound]
  split
  · exact Iff.rfl
  · exact hmap _

end Event

namespace MessageType.Unwraps

variable {s : Schema} {t u : MessageType} {f g : Field} {wrapper : String} {k : Scalar} {m n : Message}

/-- Walks through both messages come to the same events, but for what failures tell of the outermost type. -/
theorem mirrors_events (h : u.Unwraps t g f wrapper k) (ht : s.messageType t.name = t) (hu : s.messageType u.name = u)
    (hc : (f.constraints.getD {}).IsFor k) (hm : n.Unwraps m g f wrapper k) (c : WalkContext) (hs : c.schema = s)
    (hwhole : ∀ check ∈ (s.rules t.name).rules, check.run s (.message m) c.now = check.run s (.message n) c.now)
    (fuel : Nat) : Event.Mirrors [] (0 < 0) (Walk.events c fuel 0 (s.rules t.name) m [])
      (Walk.events (c.alone 0 u.name) fuel 0 (s.rules u.name) n []) := by
  subst hs
  cases fuel with
  | zero => exact .failure rfl
  | succ fuel =>
    let events := Task.events (c.alone 0 u.name) (Walk.inside (c.alone 0 u.name) (Walk.events (c.alone 0 u.name) fuel 1))
    have hstep (name : String) (m : Message) : Walk.events (c.alone 0 u.name) (fuel + 1) 0 (c.schema.rules name) m [] =
        if Walk.capacity < 0 then [.failure (.depth (.exhausted u.name (c.maxDepth - (0 : Nat))))]
        else ((c.schema.rules name).tasks (c.schema.messageType name) m []).flatMap events :=
      Walk.events_succ (c.alone 0 u.name) fuel 0 name m []
    have hevents : ((c.schema.rules u.name).tasks (c.schema.messageType u.name) n []).flatMap events =
        ((c.schema.rules t.name).tasks (c.schema.messageType t.name) m []).flatMap events := by
      rw [Schema.rules, ht] at hwhole
      have hchecks : (checkTasks (.ok (.message m)) [] false (t.rules c.schema).rules).flatMap events =
          (checkTasks (.ok (.message n)) [] false (t.rules c.schema).rules).flatMap events :=
        checkTasks_events_congr hwhole [] false
      rw [Schema.rules, Schema.rules, ht, hu, TypeRules.tasks, TypeRules.tasks, h.members_eq hc hm, h.rules_eq]
      simp only [List.flatMap_append, hchecks]
    rw [hstep u.name n, hevents, ← hstep t.name m]
    exact Walk.mirrors_events c [] 0 0 u.name (fuel + 1) 0 (c.schema.rules t.name) m []

end MessageType.Unwraps

/-- The surroundings of a walk through a message of a type, with the rules that the schema declares. -/
def Schema.context (s : Schema) (type : String) (maxDepth : Int) (failFast : Bool) (now : Value) : WalkContext :=
  { schema := s, rulesOf := fun type => .ok (s.rules type), failFast, maxDepth, now, root := type }

theorem Schema.context_alone (s : Schema) (type other : String) (maxDepth : Int) (failFast : Bool) (now : Value) :
    (s.context type maxDepth failFast now).alone 0 other = s.context other maxDepth failFast now := by
  simp only [WalkContext.alone, context, Int.ofNat_zero, Int.sub_zero]

namespace Sample

/-- Numbers are positive, and that is all. -/
abbrev positiveAlone : FieldConstraints := notFive.typedAlone

def optionalNumber : Field :=
  { number with oneof := some "_n", optional := true, hasPresence := true, constraints := some positiveAlone,
                presence := fun _ _ _ => rfl }

/-- A box of a number that may be there or not. -/
def openBox : MessageType :=
  { name := "OpenBox", fields := [optionalNumber], oneofs := [⟨"_n", none⟩], constraints := none }

def bothBoxes : Schema := ⟨[box positiveAlone, openBox], []⟩

def boxOfZero : Message :=
  .mk "Box" [("n", .single (.message (Scalar.int32.wrap "google.protobuf.Int32Value" (.int 0))))]

def openBoxOfZero : Message := .mk "OpenBox" [("n", .single (.int 0))]

def notPositive : Violation := ⟨[.field "n"], "int32.gt", "value must be greater than 0", .standard, false⟩

theorem openBox_unwraps : openBox.Unwraps (box positiveAlone) optionalNumber (boxed.declaring positiveAlone)
    "google.protobuf.Int32Value" .int32 where
  field := ⟨rfl, ⟨rfl, rfl⟩, ⟨rfl, rfl⟩, rfl, rfl, rfl⟩
  fields := ⟨[], [], rfl, rfl, fun _ h => absurd h List.not_mem_nil⟩
  constraints := rfl
  groups := rfl
  alone := fun _ h => absurd h List.not_mem_nil

theorem boxes_unwrap : openBoxOfZero.Unwraps boxOfZero optionalNumber (boxed.declaring positiveAlone)
    "google.protobuf.Int32Value" .int32 where
  others name hne := by
    have hname : (name == "n") = false := beq_eq_false_iff_ne.2 hne
    simp only [Message.content?, Message.fields, boxOfZero, openBoxOfZero, List.lookup_cons, hname, List.lookup_nil]
  held := by
    have hpositive : (optionalNumber.stored (.int 0)).HasPositiveZero := by
      intro x hx
      cases hx
    exact .inr ⟨.int 0, rfl, hpositive, rfl, rfl⟩

theorem evaluate_boxOfZero : ((Workspace.evaluate 0 32 false .none boxOfZero).run
    (Workspace.after bothBoxes {} [])).1 = .ok [notPositive] := by
  have hcompiles : ∀ n ∈ ["Box"], (bothBoxes.compiled n).toOption.isSome = true ∧
      ∀ d ∈ (bothBoxes.rules n).dependencies, d ∈ ["Box"] := by
    decide +kernel
  have hresolves : bothBoxes.Resolves boxOfZero.type := Schema.resolves_of_all hcompiles List.mem_cons_self
  rw [(Workspace.faithful_after bothBoxes {} []).evaluate_of_resolves 0 hresolves, Workspace.mapError_eq_ok]
  decide +kernel

end Sample

namespace Workspace

section
variable {s : Schema}

/-- Evaluation gives violations just if the type of the message resolves, and the walk with the declared rules gives
them. -/
theorem Faithful.evaluate_eq_ok {w : Workspace} (h : w.Faithful s) (resolver : Nat) (maxDepth : Int) (failFast : Bool)
    (now : Value) (m : Message) (vs : List Violation) :
    ((evaluate resolver maxDepth failFast now m).run w).1 = .ok vs ↔ s.Resolves m.type ∧
      Event.verdict failFast ((s.context m.type maxDepth failFast now).events (s.rules m.type) m) = .ok vs := by
  constructor
  · intro hok
    have hr := h.resolves_of_ok hok
    rw [h.evaluate_of_resolves resolver hr, mapError_eq_ok, WalkContext.violations_eq] at hok
    exact ⟨hr, hok⟩
  · rintro ⟨hr, hok⟩
    rw [h.evaluate_of_resolves resolver hr, mapError_eq_ok, WalkContext.violations_eq]
    exact hok

end

/-- A wrapper field with typed rules for its scalar and without expressions is as good as an optional field: both types
resolve or neither does, and messages that hold a value wrapped and bare, or none, have the same violations. If there
are expressions on the messages as a whole, then this is so where they tell no difference between the two. -/
theorem wrapper_as_optional {s : Schema} {t u : MessageType} {f g : Field} {wrapper : String} {k : Scalar}
    (h : u.Unwraps t g f wrapper k) (ht : s.messageType t.name = t) (hu : s.messageType u.name = u)
    (hc : (f.constraints.getD {}).IsFor k) (config : Config) (history : List Operation) (resolver : Nat) :
    ((∃ rules, ((resolveIn resolver t.name).run (after s config history)).1.1 = .ok rules) ↔
      ∃ rules, ((resolveIn resolver u.name).run (after s config history)).1.1 = .ok rules) ∧
    ∀ m n : Message, m.type = t.name → n.type = u.name → n.Unwraps m g f wrapper k → ∀ now,
      (∀ check ∈ (s.rules t.name).rules, check.run s (.message m) now = check.run s (.message n) now) →
      ∀ maxDepth failFast vs,
        ((evaluate resolver maxDepth failFast now m).run (after s config history)).1 = .ok vs ↔
          ((evaluate resolver maxDepth failFast now n).run (after s config history)).1 = .ok vs := by
  have hw := faithful_after s config history
  have hresolves := h.resolves_iff ht hu
  constructor
  · rw [(hw.resolveIn_gives resolver t.name).eq_ok_iff, (hw.resolveIn_gives resolver u.name).eq_ok_iff, hresolves]
  · intro m n hm hn hmn now hwhole maxDepth failFast vs
    rw [hw.evaluate_eq_ok, hw.evaluate_eq_ok, hm, hn, hresolves]
    refine and_congr_right fun _ => ?_
    have hmirrors := h.mirrors_events ht hu hc hmn (s.context t.name maxDepth failFast now) rfl hwhole
      (maxDepth + 1).toNat
    rw [Schema.context_alone] at hmirrors
    obtain ⟨hfound, hending⟩ := hmirrors.ends_alike (Nat.lt_irrefl 0)
    have hwithin : Violation.within [] = id := rfl
    rw [hwithin, List.map_id] at hfound
    exact Event.verdict_congr hfound hending failFast vs

/-- A number is at fault in its box just as it is on its own. -/
theorem wrapper_as_optional_of_zero : ((evaluate 0 32 false .none Sample.openBoxOfZero).run
    (after Sample.bothBoxes {} [])).1 = .ok [Sample.notPositive] := by
  have hc : ((Sample.boxed.declaring Sample.positiveAlone).constraints.getD {}).IsFor .int32 := by
    refine ⟨fun r hr => ?_, rfl⟩
    cases hr
    rfl
  have h := (wrapper_as_optional (s := Sample.bothBoxes) Sample.openBox_unwraps rfl rfl hc {} [] 0).2
  have hwhole : ∀ check ∈ (Sample.bothBoxes.rules "Box").rules,
      check.run Sample.bothBoxes (.message Sample.boxOfZero) .none =
        check.run Sample.bothBoxes (.message Sample.openBoxOfZero) .none :=
    fun _ hcheck => absurd hcheck List.not_mem_nil
  exact (h _ _ rfl rfl Sample.boxes_unwrap .none hwhole 32 false _).1 Sample.evaluate_boxOfZero

end Workspace
end Conformance
