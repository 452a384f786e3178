import Conformance.Proofs.Program.Cache
import Conformance.Proofs.Resolver.Calls
import Conformance.Proofs.Walk.Entered
import Conformance.Validation.Workspace

/-!
# Histories of workspaces

What can be done in a workspace, in any order and any number of times. The schema stays, and no resolver ever
remembers rules that the schema does not declare; so what was done before makes no difference to the rules
that a message is validated with.
-/

namespace Conformance

namespace Workspace

inductive Operation where
  | renew (config : Config) (sharing : Sharing)
  | compile (key : ProgramKey)
  | clearPrograms
  | resolve (resolver : Nat) (type : String)
  | invalidate (type : Option String)
  | evaluate (resolver : Nat) (maxDepth : Int) (failFast : Bool) (now : Value) (m : Message)
  | validate (v : Validator) (failFast : Option Bool) (now : Value) (m : Message)
  | check (v : Validator) (failFast : Option Bool) (now : Value) (m : Message)
  | default (e : Environment)
  | setDefault (v : Option Validator)

/-- An operation as a step of work. -/
def Operation.step : Operation → Step Unit
  | renew config sharing => discard (Workspace.renew config sharing)
  | compile key => discard (Workspace.compile key)
  | clearPrograms => Workspace.clearPrograms
  | resolve resolver type => discard (resolveIn resolver type)
  | invalidate type => Workspace.invalidate type
  | evaluate resolver maxDepth failFast now m => discard (Workspace.evaluate resolver maxDepth failFast now m)
  | validate v failFast now m => discard (Workspace.validate v failFast now m)
  | check v failFast now m => discard (Workspace.check v failFast now m)
  | default e => discard (defaultValidator e)
  | setDefault v => Workspace.setDefault v

/-- A workspace after operations, from the first one on. -/
def after (s : Schema) (config : Config) (history : List Operation) : Workspace :=
  history.foldl (fun w o => (o.step.run w).2) (start s config)

/-- The type whose rules an operation asks for first. -/
def Operation.asks : Operation → Option String
  | resolve _ type => some type
  | evaluate _ _ _ _ m => some m.type
  | validate _ _ _ m => some m.type
  | check _ _ _ m => some m.type
  | _ => none

/-- The caches give what compilation gives. -/
def Sound (w : Workspace) : Prop := ∀ c ∈ w.caches, c.Sound

/-- The workspace is for the schema, and its resolvers and caches remember what is declared. -/
structure Faithful (s : Schema) (w : Workspace) : Prop where
  schema : w.schema = s
  sound : w.Sound
  resolvers : ∀ slot ∈ w.resolvers, slot.resolver.Faithful s

/-- The workspace is for the schema, and its resolvers were asked for certain types only, apart from types that
resolve. -/
structure Traced (s : Schema) (asked : String → Prop) (w : Workspace) : Prop where
  schema : w.schema = s
  sound : w.Sound
  resolvers : ∀ slot ∈ w.resolvers, slot.resolver.Reached s asked

section
variable {s : Schema} {asked : String → Prop} {w : Workspace}

theorem Faithful.slot (h : w.Faithful s) (resolver : Nat) : (w.slot resolver).resolver.Faithful s := by
  unfold Workspace.slot
  cases hr : w.resolvers[resolver]? with
  | none => exact Resolver.faithful_empty s
  | some slot => exact h.resolvers slot (Array.mem_of_getElem? hr)

theorem Traced.slot (h : w.Traced s asked) (resolver : Nat) : (w.slot resolver).resolver.Reached s asked := by
  unfold Workspace.slot
  cases hr : w.resolvers[resolver]? with
  | none => exact .new
  | some slot => exact h.resolvers slot (Array.mem_of_getElem? hr)

theorem Traced.faithful (h : w.Traced s asked) : w.Faithful s :=
  ⟨h.schema, h.sound, fun slot hm => (h.resolvers slot hm).faithful⟩

theorem Sound.cache (h : w.Sound) (id : Nat) : (w.cache id).Sound := by
  unfold Workspace.cache
  cases hc : w.caches[id]? with
  | none => exact ProgramCache.sound_empty 0
  | some c => exact h c (Array.mem_of_getElem? hc)

end

/-! ## Resolving in a workspace -/

section
variable {s : Schema} {asked : String → Prop} {w : Workspace} {resolver : Nat} {type : String} {m : Message}

theorem resolveIn_resolution {r : Resolution} (h : w.resolution resolver type = r) :
    (resolveIn resolver type).run w =
      ((r.outcome, r.origin.map (identityOf resolver (w.slot resolver).cache)),
        ((compileAll (w.slot resolver).cache r.programs).run
          { w with resolvers := w.resolvers.modify resolver ({ · with resolver := r.resolver }) }).2) := by
  subst h
  rfl

/-- A resolver makes of a type what it would without a cache. -/
theorem Sound.resolution_eq (hw : w.Sound) (resolver : Nat) (type : String) : w.resolution resolver type =
    (w.slot resolver).resolver.resolve w.schema (w.cache (w.slot resolver).cache).age type := by
  unfold resolution
  dsimp only
  rw [(hw.cache (w.slot resolver).cache).source_eq]

theorem resolveIn_run (hw : w.Sound) {r : Resolution}
    (h : (w.slot resolver).resolver.resolve w.schema (w.cache (w.slot resolver).cache).age type = r) :
    (resolveIn resolver type).run w =
      ((r.outcome, r.origin.map (identityOf resolver (w.slot resolver).cache)),
        ((compileAll (w.slot resolver).cache r.programs).run
          { w with resolvers := w.resolvers.modify resolver ({ · with resolver := r.resolver }) }).2) :=
  resolveIn_resolution ((hw.resolution_eq resolver type).trans h)

/-- Compilation of programs leaves the schema and the resolvers alone. -/
theorem compileAll_run (cache : Nat) : ∀ (keys : List ProgramKey) (w : Workspace),
    ((compileAll cache keys).run w).2.schema = w.schema ∧ ((compileAll cache keys).run w).2.resolvers = w.resolvers
  | [], _ => ⟨rfl, rfl⟩
  | key :: keys, w => compileAll_run cache keys ((compileIn cache key).run w).2

theorem resolveIn_schema : ((resolveIn resolver type).run w).2.schema = w.schema := by
  rw [resolveIn_resolution rfl]
  exact (compileAll_run _ _ _).1

theorem mem_modify {α : Type} {xs : Array α} {i : Nat} {f : α → α} {y : α} (h : y ∈ xs.modify i f) :
    y ∈ xs ∨ ∃ x, xs[i]? = some x ∧ y = f x := by
  obtain ⟨j, hj⟩ := Array.mem_iff_getElem?.1 h
  rw [Array.getElem?_modify] at hj
  split at hj
  · next hij =>
    obtain ⟨x, hx, rfl⟩ := Option.map_eq_some_iff.1 hj
    exact .inr ⟨x, hij ▸ hx, rfl⟩
  · exact .inl (Array.mem_of_getElem? hj)

theorem Sound.modifyCache (hw : w.Sound) {id : Nat} {f : ProgramCache → ProgramCache}
    (hf : ∀ c ∈ w.caches, (f c).Sound) : ((modifyCache id f).run w).2.Sound := by
  intro c hc
  have hmem : c ∈ w.caches.modify id f := hc
  rcases mem_modify hmem with hc | ⟨old, hold, rfl⟩
  · exact hw c hc
  · exact hf old (Array.mem_of_getElem? hold)

theorem Sound.compileIn (hw : w.Sound) (cache : Nat) (key : ProgramKey) : ((compileIn cache key).run w).2.Sound :=
  hw.modifyCache fun _ _ => (hw.cache cache).compile key

theorem Sound.compileAll (hw : w.Sound) (cache : Nat) (keys : List ProgramKey) :
    ((compileAll cache keys).run w).2.Sound := by
  induction keys generalizing w with
  | nil => exact hw
  | cons key keys ih => exact ih (hw.compileIn cache key)

theorem Sound.resolveIn (hw : w.Sound) (resolver : Nat) (type : String) : ((resolveIn resolver type).run w).2.Sound := by
  rw [resolveIn_resolution rfl]
  have hsame : Sound { w with resolvers := w.resolvers.modify resolver fun old =>
      { old with resolver := (w.resolution resolver type).resolver } } := hw
  exact hsame.compileAll _ _

/-- Resolving in a workspace touches the one resolver that is asked. -/
theorem mem_resolvers_resolveIn (hw : w.Sound) {slot : ResolverSlot}
    (h : slot ∈ ((resolveIn resolver type).run w).2.resolvers) :
    slot ∈ w.resolvers ∨ ∃ age, slot.resolver = ((w.slot resolver).resolver.resolve w.schema age type).resolver := by
  rw [resolveIn_run hw rfl] at h
  rw [(compileAll_run _ _ _).2] at h
  dsimp only at h
  rcases mem_modify h with h | ⟨old, _, rfl⟩
  · exact .inl h
  · exact .inr ⟨_, rfl⟩

theorem Faithful.after_resolveIn (h : w.Faithful s) (resolver : Nat) (type : String) :
    ((resolveIn resolver type).run w).2.Faithful s := by
  refine ⟨resolveIn_schema.trans h.schema, h.sound.resolveIn resolver type, fun slot hm => ?_⟩
  rcases mem_resolvers_resolveIn h.sound hm with hm | ⟨age, hs⟩
  · exact h.resolvers slot hm
  · rw [hs, h.schema]
    exact (h.slot resolver).resolve age type

theorem Faithful.resolveIn_gives (h : w.Faithful s) (resolver : Nat) (type : String) :
    s.Gives type ((resolveIn resolver type).run w).1.1 := by
  rw [resolveIn_run h.sound rfl, h.schema]
  exact (h.slot resolver).gives _ type

theorem Faithful.context_gives (h : w.Faithful s) {maxDepth : Int} {failFast : Bool} {now : Value} {root : String}
    (type : String) : s.Gives type ((w.context resolver maxDepth failFast now root).rulesOf type) := by
  have hg := (h.slot resolver).gives (w.cache (w.slot resolver).cache).age type
  rw [← h.schema] at hg ⊢
  rw [← h.sound.resolution_eq] at hg
  exact hg

/-- A walk through a message of a type that resolves visits messages of such types only. -/
theorem Faithful.resolves_of_visited (h : w.Faithful s) {maxDepth : Int} {failFast : Bool} {now : Value}
    (hr : s.Resolves m.type) {name : String}
    (hn : name ∈ (Walk.run (w.context resolver maxDepth failFast now m.type) (s.rules m.type) m).2.visited) :
    s.Resolves name := by
  obtain rfl := h.schema
  exact hr.below (Walk.below_of_visited h.context_gives hr hn)

end

/-! ## Steps that keep what is known of a workspace -/

def Keeps {α : Type} (s : Schema) (asked : String → Prop) (x : Step α) : Prop :=
  ∀ w, w.Traced s asked → (x.run w).2.Traced s asked

section
variable {α β : Type} {s : Schema} {asked : String → Prop}

theorem keeps_pure (a : α) : Keeps s asked (pure a) := fun _ h => h

theorem keeps_get : Keeps s asked get := fun _ h => h

theorem keeps_bind {x : Step α} {f : α → Step β} (hx : Keeps s asked x) (hf : ∀ a, Keeps s asked (f a)) :
    Keeps s asked (x >>= f) := fun w h => hf _ _ (hx w h)

theorem keeps_discard {x : Step α} (hx : Keeps s asked x) : Keeps s asked (discard x) := fun w h => hx w h

/-- Steps that leave the schema, the caches and the resolvers alone. -/
theorem keeps_modifyGet {f : Workspace → α × Workspace} (hs : ∀ w, (f w).2.schema = w.schema)
    (hc : ∀ w, (f w).2.caches = w.caches) (hr : ∀ w, (f w).2.resolvers = w.resolvers) :
    Keeps s asked (modifyGet f) := fun w h =>
  ⟨(hs w).trans h.schema, fun c hm => h.sound c (hc w ▸ hm), fun slot hm => h.resolvers slot (hr w ▸ hm)⟩

end

variable {s : Schema} {asked : String → Prop}

theorem keeps_newCache : Keeps s asked newCache := by
  intro w h
  refine ⟨h.schema, fun c hm => ?_, h.resolvers⟩
  have hpush : c ∈ w.caches.push {} := hm
  rcases Array.mem_push.1 hpush with hm | rfl
  · exact h.sound c hm
  · exact ProgramCache.sound_empty 0

theorem keeps_newResolver (cache : Nat) : Keeps s asked (newResolver cache) := by
  intro w h
  refine ⟨h.schema, h.sound, fun slot hm => ?_⟩
  rcases Array.mem_push.1 hm with hm | rfl
  · exact h.resolvers slot hm
  · exact .new

theorem keeps_newValidator (config : Config) (resolver : Nat) : Keeps s asked (newValidator config resolver) :=
  keeps_modifyGet (fun _ => rfl) (fun _ => rfl) (fun _ => rfl)

theorem keeps_renew (config : Config) (sharing : Sharing) : Keeps s asked (renew config sharing) := by
  have hv : ∀ resolver, Keeps s asked (do
      let v ← newValidator config resolver
      modify ({ · with current := v })
      return v) := fun resolver =>
    keeps_bind (keeps_newValidator config resolver) fun v =>
      keeps_bind (keeps_modifyGet (fun _ => rfl) (fun _ => rfl) (fun _ => rfl)) fun _ => keeps_pure v
  refine keeps_bind keeps_get fun w => ?_
  cases sharing with
  | nothing => exact keeps_bind keeps_newCache fun cache => keeps_bind (keeps_newResolver cache) hv
  | programs => exact keeps_bind (keeps_newResolver _) hv
  | resolver => exact hv _

theorem keeps_freshValidator (config : Config) : Keeps s asked (freshValidator config) :=
  keeps_bind keeps_newCache fun cache => keeps_bind (keeps_newResolver cache) (keeps_newValidator config)

theorem keeps_compileIn (cache : Nat) (key : ProgramKey) : Keeps s asked (compileIn cache key) := fun _ h =>
  ⟨h.schema, h.sound.compileIn cache key, h.resolvers⟩

theorem keeps_resolveIn (resolver : Nat) {type : String} (ht : asked type ∨ s.Resolves type) :
    Keeps s asked (resolveIn resolver type) := by
  intro w h
  refine ⟨resolveIn_schema.trans h.schema, h.sound.resolveIn resolver type, fun slot hm => ?_⟩
  rcases mem_resolvers_resolveIn h.sound hm with hm | ⟨age, hs⟩
  · exact h.resolvers slot hm
  · rw [hs, h.schema]
    exact (h.slot resolver).apply (c := .resolve age type) ht

theorem keeps_resolveAll (resolver : Nat) : ∀ {types : List String}, (∀ type ∈ types, asked type ∨ s.Resolves type) →
    Keeps s asked (resolveAll resolver types)
  | [], _ => keeps_pure ()
  | _ :: _, ht => keeps_bind (keeps_discard (keeps_resolveIn resolver (ht _ List.mem_cons_self))) fun _ =>
    keeps_resolveAll resolver fun type hm => ht type (List.mem_cons_of_mem _ hm)

theorem keeps_invalidate (type : Option String) : Keeps s asked (invalidate type) := by
  intro w h
  refine ⟨h.schema, h.sound, fun slot hm => ?_⟩
  have hs : slot ∈ w.resolvers.modify w.current.resolver fun old =>
      { old with resolver := old.resolver.invalidate type } := hm
  rcases mem_modify hs with hm | ⟨old, ho, rfl⟩
  · exact h.resolvers slot hm
  · exact (h.resolvers old (Array.mem_of_getElem? ho)).apply (c := .invalidate type) trivial

/-- An evaluation asks for the type of the message, and if that one resolves, for types that resolve. -/
theorem keeps_evaluate (resolver : Nat) (maxDepth : Int) (failFast : Bool) (now : Value) {m : Message}
    (hm : asked m.type) : Keeps s asked (evaluate resolver maxDepth failFast now m) := by
  intro w h
  have hg := h.faithful.resolveIn_gives resolver m.type
  have hw := keeps_resolveIn resolver (.inl hm) w h
  unfold evaluate
  rw [StateT.run_bind]
  generalize (resolveIn resolver m.type).run w = resolved at hg hw
  obtain ⟨⟨f | rules, identity⟩, w'⟩ := resolved
  · exact hw
  · obtain ⟨rfl, hr⟩ := hg
    refine keeps_resolveAll resolver (fun type ht => ?_) w' hw
    exact .inr (hw.faithful.resolves_of_visited hr (List.mem_filter.1 ht).1)

theorem keeps_validate (v : Validator) (failFast : Option Bool) (now : Value) {m : Message} (hm : asked m.type) :
    Keeps s asked (validate v failFast now m) :=
  keeps_bind (keeps_evaluate v.resolver _ _ now hm) fun _ => keeps_pure _

theorem keeps_check (v : Validator) (failFast : Option Bool) (now : Value) {m : Message} (hm : asked m.type) :
    Keeps s asked (check v failFast now m) := by
  refine keeps_bind (keeps_validate v failFast now hm) fun found => ?_
  split <;> exact keeps_pure _

theorem keeps_defaultValidator (e : Environment) : Keeps s asked (defaultValidator e) := by
  refine keeps_bind keeps_get fun w => ?_
  split
  · exact keeps_pure _
  · split
    · exact keeps_pure _
    · exact keeps_bind (keeps_freshValidator _) fun _ =>
        keeps_bind (keeps_modifyGet (fun _ => rfl) (fun _ => rfl) (fun _ => rfl)) fun _ => keeps_pure _

theorem Operation.keeps (o : Operation) (h : ∀ type, o.asks = some type → asked type) : Keeps s asked o.step := by
  cases o with
  | renew config sharing => exact keeps_discard (keeps_renew config sharing)
  | compile key => exact keeps_discard (keeps_bind keeps_get fun _ => keeps_compileIn _ key)
  | clearPrograms =>
    exact fun w h => ⟨h.schema, h.sound.modifyCache fun c _ => ProgramCache.sound_empty _, h.resolvers⟩
  | resolve resolver type => exact keeps_discard (keeps_resolveIn resolver (.inl (h type rfl)))
  | invalidate type => exact keeps_invalidate type
  | evaluate resolver maxDepth failFast now m =>
    exact keeps_discard (keeps_evaluate resolver maxDepth failFast now (h m.type rfl))
  | validate v failFast now m => exact keeps_discard (keeps_validate v failFast now (h m.type rfl))
  | check v failFast now m => exact keeps_discard (keeps_check v failFast now (h m.type rfl))
  | default e => exact keeps_discard (keeps_defaultValidator e)
  | setDefault v => exact keeps_modifyGet (fun _ => rfl) (fun _ => rfl) (fun _ => rfl)

theorem traced_start (s : Schema) (asked : String → Prop) (config : Config) : (start s config).Traced s asked :=
  keeps_renew config .nothing { schema := s }
    ⟨rfl, fun _ h => absurd h (Array.not_mem_empty _), fun _ h => absurd h (Array.not_mem_empty _)⟩

/-- After operations in a workspace its resolvers were asked for the types of these operations only, apart from
types that resolve. -/
theorem traced_after (config : Config) {history : List Operation}
    (h : ∀ o ∈ history, ∀ type, o.asks = some type → asked type) : (after s config history).Traced s asked :=
  List.foldlRecOn history _ (traced_start s asked config) fun w hw o ho => o.keeps (h o ho) w hw

/-- Whatever was done in a workspace, its resolvers remember what is declared. -/
theorem faithful_after (s : Schema) (config : Config) (history : List Operation) :
    (after s config history).Faithful s :=
  (@traced_after s (fun _ => True) config history fun _ _ _ _ => trivial).faithful

/-- The first resolution of all. -/
theorem resolveIn_start {config : Config} (type : String) {r : Resolution}
    (h : ({} : Resolver).resolve s 0 type = r) : (resolveIn 0 type).run (start s config) =
      ((r.outcome, r.origin.map (identityOf 0 0)), ((compileAll 0 r.programs).run
        { start s config with
          resolvers := (start s config).resolvers.modify 0 ({ · with resolver := r.resolver }) }).2) :=
  resolveIn_run (faithful_after s config []).sound h

/-! ## Evaluation -/

section
variable {resolver : Nat} {m : Message} {w : Workspace}

/-- What evaluation gives: the failure to have rules for the message, or what a walk with them comes to. -/
theorem evaluate_run (maxDepth : Int) (failFast : Bool) (now : Value) :
    ((evaluate resolver maxDepth failFast now m).run w).1 =
      match (resolveIn resolver m.type).run w with
      | ((.error f, identity), _) => .error ⟨f, identity⟩
      | ((.ok rules, _), w) =>
        ((w.context resolver maxDepth failFast now m.type).violations rules m).mapError (⟨·, none⟩) := by
  unfold evaluate
  rw [StateT.run_bind]
  generalize (resolveIn resolver m.type).run w = resolved
  obtain ⟨⟨f | rules, identity⟩, w⟩ := resolved <;> rfl

theorem mapError_eq_ok {α ε ε' : Type} {x : Except ε α} {f : ε → ε'} {a : α} :
    x.mapError f = .ok a ↔ x = .ok a := by
  cases x <;> constructor <;> rintro ⟨⟩ <;> rfl

theorem mapError_eq_error {α : Type} {x : Except Failure α} {f : Failure} {identity : Option Identity} :
    x.mapError (⟨·, none⟩ : Failure → Raised) = .error ⟨f, identity⟩ ↔ x = .error f ∧ identity = none := by
  constructor
  · intro h
    cases x with
    | ok a => cases h
    | error g =>
      cases h
      exact ⟨rfl, rfl⟩
  · rintro ⟨rfl, rfl⟩
    rfl

/-- Evaluation fails as a type below the type of the message does, however it is asked for, or it is a walk with
the rules that the schema declares. -/
theorem Faithful.evaluate_cases (h : w.Faithful s) (resolver : Nat) (m : Message) :
    (∃ e, s.FailsBelow m.type e.failure ∧
      ∀ maxDepth failFast now, ((evaluate resolver maxDepth failFast now m).run w).1 = .error e) ∨
    ∃ rulesOf : String → Except Failure TypeRules, (∀ type, s.Gives type (rulesOf type)) ∧
      ∀ maxDepth failFast now, ((evaluate resolver maxDepth failFast now m).run w).1 =
        (({ schema := s, rulesOf, failFast, maxDepth, now, root := m.type } : WalkContext).violations
          (s.rules m.type) m).mapError (⟨·, none⟩) := by
  have hg := h.resolveIn_gives resolver m.type
  have hw := h.after_resolveIn resolver m.type
  cases hr : (resolveIn resolver m.type).run w with
  | mk resolved w' =>
  rw [hr] at hg hw
  obtain ⟨f | rules, identity⟩ := resolved
  · refine .inl ⟨⟨f, identity⟩, hg, fun maxDepth failFast now => ?_⟩
    rw [evaluate_run, hr]
  · obtain rfl : w'.schema = s := hw.schema
    obtain rfl : rules = w'.schema.rules m.type := hg.1
    refine .inr ⟨(w'.context resolver 0 false .none m.type).rulesOf, hw.context_gives, fun maxDepth failFast now => ?_⟩
    rw [evaluate_run, hr]
    rfl

/-- Where the type of the message resolves, evaluation is the walk with the declared rules of all types. -/
theorem Faithful.evaluate_of_resolves (h : w.Faithful s) (resolver : Nat) (hr : s.Resolves m.type) (maxDepth : Int)
    (failFast : Bool) (now : Value) : ((evaluate resolver maxDepth failFast now m).run w).1 =
      (({ schema := s, rulesOf := fun type => .ok (s.rules type), failFast, maxDepth, now, root := m.type } :
        WalkContext).violations (s.rules m.type) m).mapError (⟨·, none⟩) := by
  obtain ⟨e, he, -⟩ | ⟨rulesOf, hc, he⟩ := h.evaluate_cases resolver m
  · exact absurd he (hr.not_failsBelow e.failure)
  · rw [he, WalkContext.violations_declared hc hr]

end

end Workspace

/-! ## A small schema -/

namespace Sample

/-- A text field that must be set. -/
def requiredText (name : String) (number : Nat) : Field :=
  { Schema.plainField name number .string with constraints := some { required := true }, presence := nofun }

def item : MessageType := { name := "Item", fields := [requiredText "sku" 1], oneofs := [], constraints := none }

/-- Orders have a name and an item. -/
def order : MessageType :=
  { name := "Order"
    fields := [requiredText "name" 1,
      { name := "item", number := 2, type := .message "Item", shape := .singular, oneof := none, optional := false,
        hasPresence := true, default := .message (.unset "Item"), constraints := none, presence := fun _ _ _ => rfl }]
    oneofs := []
    constraints := none }

def schema : Schema := ⟨[order, item], []⟩

/-- An order without a name, of an item without anything. -/
def message : Message := .mk "Order" [("item", .single (.message (.unset "Item")))]

theorem compile_order : order.compile schema = ⟨.ok (order.rules schema), []⟩ := rfl

theorem compile_item : item.compile schema = ⟨.ok (item.rules schema), []⟩ := rfl

theorem complete_order (generation age : Nat) : ({} : Building).complete schema [] generation age ["Order"] =
    (.ok (), ⟨[("Item", item.rules schema), ("Order", order.rules schema)], []⟩) := by
  rw [Building.complete_new rfl rfl rfl compile_order,
    show (order.rules schema).dependencies ++ [] = ["Item"] from rfl,
    Building.complete_new rfl rfl rfl compile_item,
    show (item.rules schema).dependencies ++ [] = [] from rfl, Building.complete]
  rfl

theorem resolve_order (age : Nat) : ({} : Resolver).resolve schema age "Order" =
    ⟨.ok (order.rules schema), some (.type "Order" 0),
      ⟨[("Order", ⟨.ok (order.rules schema), .type "Order" 0⟩),
        ("Item", ⟨.ok (item.rules schema), .type "Item" 0⟩)], 1⟩, []⟩ := by
  unfold Resolver.resolve
  simp only [List.lookup_nil, complete_order]
  rfl

end Sample
end Conformance
