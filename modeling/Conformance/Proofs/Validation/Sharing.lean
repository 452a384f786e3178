import Conformance.Proofs.Resolver.Contents
import Conformance.Proofs.Validation.Caches

/-!
# Shared caches

Resolvers that share a cache of programs and resolvers that each have their own behave alike. Two workspaces in which the
same was done differ only in their caches and in where results come from, which no operation depends on.
-/

namespace Conformance.Workspace

/-! ## Workspaces that behave alike -/

/-- The workspaces have the same validators, and resolvers with the same contents. -/
structure Alike (w w' : Workspace) : Prop where
  schema : w.schema = w'.schema
  contents : w.resolvers.map (·.resolver.contents) = w'.resolvers.map (·.resolver.contents)
  validators : w.validators = w'.validators
  current : w.current = w'.current
  default : w.default = w'.default
  sound : w.Sound
  sound' : w'.Sound

section
variable {w w' : Workspace}

theorem Alike.withCaches (h : Alike w w') {caches caches' : Array ProgramCache} (hs : ∀ c ∈ caches, c.Sound)
    (hs' : ∀ c ∈ caches', c.Sound) : Alike { w with caches := caches } { w' with caches := caches' } :=
  ⟨h.schema, h.contents, h.validators, h.current, h.default, hs, hs'⟩

theorem Alike.slot (h : Alike w w') (resolver : Nat) :
    (w.slot resolver).resolver.contents = (w'.slot resolver).resolver.contents := by
  have hslot (w : Workspace) : (w.slot resolver).resolver.contents =
      ((w.resolvers.map (·.resolver.contents))[resolver]?).getD [] := by
    rw [Workspace.slot, Array.getElem?_map]
    cases w.resolvers[resolver]? <;> rfl
  rw [hslot, hslot, h.contents]

theorem compileAll_state (cache : Nat) (keys : List ProgramKey) (w : Workspace) :
    ((compileAll cache keys).run w).2 = { w with caches := ((compileAll cache keys).run w).2.caches } := by
  induction keys generalizing w with
  | nil => rfl
  | cons key keys ih => exact ih ((compileIn cache key).run w).2

theorem Alike.resolution (h : Alike w w') (resolver : Nat) (type : String) :
    (w.resolution resolver type).outcome = (w'.resolution resolver type).outcome ∧
      (w.resolution resolver type).resolver.contents = (w'.resolution resolver type).resolver.contents := by
  rw [h.sound.resolution_eq, h.sound'.resolution_eq, h.schema]
  obtain ⟨houtcome, -, hcontents⟩ := Resolver.resolve_contents (h.slot resolver) type
  exact ⟨houtcome, hcontents⟩

theorem Alike.context (h : Alike w w') (resolver : Nat) (maxDepth : Int) (failFast : Bool) (now : Value)
    (root : String) : w.context resolver maxDepth failFast now root = w'.context resolver maxDepth failFast now root := by
  have hrules : (fun type => (w.resolution resolver type).outcome) = fun type => (w'.resolution resolver type).outcome :=
    funext fun type => (h.resolution resolver type).1
  rw [Workspace.context, Workspace.context, hrules, h.schema]

end

theorem map_modify {α β : Type} {f : α → α} {g : α → β} {k : β → β} (h : ∀ x, g (f x) = k (g x)) (xs : Array α)
    (i : Nat) : (xs.modify i f).map g = (xs.map g).modify i k := by
  refine Array.ext_getElem? fun j => ?_
  rw [Array.getElem?_map, Array.getElem?_modify, Array.getElem?_modify, Array.getElem?_map]
  split
  · cases xs[j]? with
    | none => rfl
    | some x => exact congrArg some (h x)
  · rfl

/-! ## Steps that match -/

/-- In workspaces that behave alike the steps give related results, and the workspaces still behave alike. -/
def Matches {α β : Type} (R : α → β → Prop) (x : Step α) (y : Step β) : Prop :=
  ∀ w w', Alike w w' → R (x.run w).1 (y.run w').1 ∧ Alike (x.run w).2 (y.run w').2

section
variable {α β γ δ : Type} {R : α → β → Prop} {Q : γ → δ → Prop}

theorem Matches.bind {x : Step α} {y : Step β} {f : α → Step γ} {g : β → Step δ} (hx : Matches R x y)
    (hf : ∀ a b, R a b → Matches Q (f a) (g b)) : Matches Q (x >>= f) (y >>= g) := by
  intro w w' h
  obtain ⟨hr, hw⟩ := hx w w' h
  exact hf _ _ hr _ _ hw

theorem Matches.discard {x : Step α} {y : Step β} (h : Matches R x y) :
    Matches (fun _ _ => True) (discard x) (discard y) := fun w w' hw => ⟨trivial, (h w w' hw).2⟩

theorem Matches.pure {a : α} {b : β} (h : R a b) : Matches R (pure a) (pure b) := fun _ _ hw => ⟨h, hw⟩

end

theorem matches_get : Matches Alike get get := fun _ _ h => ⟨h, h⟩

theorem matches_compileAll (cache cache' : Nat) (keys keys' : List ProgramKey) :
    Matches (fun _ _ => True) (compileAll cache keys) (compileAll cache' keys') := by
  intro w w' h
  refine ⟨trivial, ?_⟩
  rw [compileAll_state cache keys w, compileAll_state cache' keys' w']
  exact h.withCaches (h.sound.compileAll cache keys) (h.sound'.compileAll cache' keys')

theorem matches_resolveIn (resolver : Nat) (type : String) :
    Matches (fun a b => a.1 = b.1) (resolveIn resolver type) (resolveIn resolver type) := by
  intro w w' h
  obtain ⟨houtcome, hcontents⟩ := h.resolution resolver type
  rw [resolveIn_resolution rfl, resolveIn_resolution rfl]
  refine ⟨houtcome, (matches_compileAll _ _ _ _ _ _ ?_).2⟩
  refine ⟨h.schema, ?_, h.validators, h.current, h.default, h.sound, h.sound'⟩
  have hmodify (xs : Array ResolverSlot) (r : Resolver) :
      (xs.modify resolver ({ · with resolver := r })).map (·.resolver.contents) =
        (xs.map (·.resolver.contents)).modify resolver fun _ => r.contents :=
    map_modify (f := ({ · with resolver := r })) (g := (·.resolver.contents)) (fun _ => rfl) xs resolver
  dsimp only
  rw [hmodify, hmodify, h.contents, hcontents]

theorem matches_resolveAll (resolver : Nat) (types : List String) :
    Matches (fun _ _ => True) (resolveAll resolver types) (resolveAll resolver types) := by
  induction types with
  | nil => exact .pure trivial
  | cons type types ih =>
    exact (matches_resolveIn resolver type).discard.bind fun _ _ _ => ih

theorem matches_evaluate (resolver : Nat) (maxDepth : Int) (failFast : Bool) (now : Value) (m : Message) :
    Matches (fun a b => a.mapError (·.failure) = b.mapError (·.failure))
      (evaluate resolver maxDepth failFast now m) (evaluate resolver maxDepth failFast now m) := by
  refine (matches_resolveIn resolver m.type).bind ?_
  rintro ⟨x, identity⟩ ⟨x', identity'⟩ heq
  obtain rfl : x = x' := heq
  cases x with
  | error f => exact .pure rfl
  | ok rules =>
    intro w w' h
    -- Both walk alike, so both visit the same types, of which the same are new to the resolvers.
    have hcontext := h.context resolver maxDepth failFast now m.type
    have hpending : pending resolver maxDepth failFast now m rules w =
        pending resolver maxDepth failFast now m rules w' := by
      unfold pending
      simp only [hcontext, Resolver.contains_of_contents (h.slot resolver)]
    have hstate : Alike ((resolveAll resolver (pending resolver maxDepth failFast now m rules w)).run w).2
        ((resolveAll resolver (pending resolver maxDepth failFast now m rules w')).run w').2 := by
      rw [hpending]
      exact (matches_resolveAll resolver _ w w' h).2
    refine ⟨?_, hstate⟩
    change (((w.context resolver maxDepth failFast now m.type).violations rules m).mapError
        (⟨·, none⟩ : Failure → Raised)).mapError (·.failure) =
      (((w'.context resolver maxDepth failFast now m.type).violations rules m).mapError
        (⟨·, none⟩ : Failure → Raised)).mapError (·.failure)
    rw [hcontext]

theorem matches_validate (v : Validator) (failFast : Option Bool) (now : Value) (m : Message) :
    Matches (fun a b => a.mapError (·.failure) = b.mapError (·.failure)) (validate v failFast now m)
      (validate v failFast now m) := by
  refine (matches_evaluate v.resolver v.config.maxDepth (failFast.getD v.config.failFast) now m).bind ?_
  rintro (⟨f, identity⟩ | vs) (⟨f', identity'⟩ | vs') heq
  · obtain rfl : f = f' := Except.error.inj heq
    exact .pure rfl
  · cases heq
  · cases heq
  · cases heq
    exact .pure rfl

theorem matches_check (v : Validator) (failFast : Option Bool) (now : Value) (m : Message) :
    Matches (fun a b => a.map (·.1) = b.map (·.1)) (check v failFast now m) (check v failFast now m) := by
  refine (matches_validate v failFast now m).bind ?_
  rintro (⟨f, identity⟩ | o) (⟨f', identity'⟩ | o') heq
  · obtain rfl : f = f' := Except.error.inj heq
    cases f <;> exact .pure rfl
  · cases heq
  · cases heq
  · cases heq
    exact .pure rfl


/-! ## Operations -/

/-- What becomes of an operation when each resolver has its own cache, which nothing else uses. -/
def Operation.unshared : Operation → List Operation
  | renew config .programs => [renew config .nothing]
  | compile _ | clearPrograms => []
  | o => [o]

def Activity.unshared : Activity → List Operation
  | operation o => o.unshared
  | call _ _ => []
  | join config _ => [.renew config .nothing]

theorem matches_newResolver (cache cache' : Nat) : Matches (· = ·) (newResolver cache) (newResolver cache') := by
  intro w w' h
  have hsize : w.resolvers.size = w'.resolvers.size := by
    have hcontents := congrArg Array.size h.contents
    rwa [Array.size_map, Array.size_map] at hcontents
  refine ⟨hsize, h.schema, ?_, h.validators, h.current, h.default, h.sound, h.sound'⟩
  have hpush (xs : Array ResolverSlot) (cache : Nat) :
      (xs.push ⟨{}, cache⟩).map (·.resolver.contents) = (xs.map (·.resolver.contents)).push [] := Array.map_push ..
  exact (hpush _ _).trans ((congrArg (·.push []) h.contents).trans (hpush _ _).symm)

theorem sound_push {w : Workspace} (h : w.Sound) : ∀ c ∈ w.caches.push {}, c.Sound := by
  intro c hc
  rcases Array.mem_push.1 hc with hc | rfl
  · exact h c hc
  · exact ProgramCache.sound_empty 0

/-- A resolver that shares a cache is like one with its own. -/
theorem matches_ownCache {α β : Type} {R : α → β → Prop} (cache : Nat) {f : Nat → Step α} {g : Nat → Step β}
    (hf : ∀ resolver, Matches R (f resolver) (g resolver)) : Matches R (newResolver cache >>= f)
      (newCache >>= fun cache => newResolver cache >>= g) := by
  intro w w' h
  have hresolver : Matches R (newResolver cache >>= f) (newResolver w'.caches.size >>= g) := by
    refine (matches_newResolver cache w'.caches.size).bind ?_
    rintro resolver _ rfl
    exact hf resolver
  exact hresolver w { w' with caches := w'.caches.push {} } (h.withCaches h.sound (sound_push h.sound'))

theorem matches_newCache : Matches (fun _ _ => True) newCache newCache := fun _ _ h =>
  ⟨trivial, h.withCaches (sound_push h.sound) (sound_push h.sound')⟩

theorem matches_newValidator (config : Config) (resolver : Nat) :
    Matches (· = ·) (newValidator config resolver) (newValidator config resolver) := fun _ _ h =>
  ⟨congrArg (fun id => (⟨id, config, resolver⟩ : Validator)) h.validators,
    ⟨h.schema, h.contents, congrArg (· + 1) h.validators, h.current, h.default, h.sound, h.sound'⟩⟩

theorem matches_freshValidator (config : Config) :
    Matches (· = ·) (freshValidator config) (freshValidator config) := by
  refine matches_newCache.bind fun cache cache' _ => (matches_newResolver cache cache').bind ?_
  rintro resolver _ rfl
  exact matches_newValidator config resolver

theorem matches_install (config : Config) (resolver : Nat) :
    Matches (fun _ _ => True) (install config resolver) (install config resolver) := by
  refine (matches_newValidator config resolver).bind ?_
  rintro v _ rfl
  exact fun w w' h => ⟨trivial, h.schema, h.contents, h.validators, rfl, h.default, h.sound, h.sound'⟩

theorem matches_join (config : Config) (resolver : Nat) :
    Matches (fun _ _ => True) (join config resolver) (renew config .nothing) :=
  matches_get.bind fun w _ _ => matches_ownCache (w.slot resolver).cache (matches_install config)

theorem matches_renew_resolver (config : Config) :
    Matches (fun _ _ => True) (renew config .resolver) (renew config .resolver) := by
  refine matches_get.bind fun w w' h => ?_
  rw [h.current]
  exact matches_install config w'.current.resolver

theorem matches_renew_programs (config : Config) :
    Matches (fun _ _ => True) (renew config .programs) (renew config .nothing) :=
  matches_get.bind fun w _ _ => matches_ownCache (w.slot w.current.resolver).cache (matches_install config)

theorem matches_renew_nothing (config : Config) :
    Matches (fun _ _ => True) (renew config .nothing) (renew config .nothing) := by
  refine matches_get.bind fun _ _ _ => matches_newCache.bind fun cache cache' _ =>
    (matches_newResolver cache cache').bind ?_
  rintro resolver _ rfl
  exact matches_install config resolver

theorem matches_defaultValidator (e : Environment) :
    Matches (fun _ _ => True) (defaultValidator e) (defaultValidator e) := by
  refine matches_get.bind fun w w' h => ?_
  rw [h.default]
  cases w'.default with
  | some v => exact .pure trivial
  | none =>
    cases Config.ofEnvironment e with
    | error e => exact .pure trivial
    | ok config =>
      refine (matches_freshValidator config).bind ?_
      rintro v _ rfl
      exact fun w w' h => ⟨trivial, h.schema, h.contents, h.validators, h.current, rfl, h.sound, h.sound'⟩

theorem matches_invalidate (type : Option String) :
    Matches (fun _ _ => True) (invalidate type) (invalidate type) := by
  intro w w' h
  refine ⟨trivial, h.schema, ?_, h.validators, h.current, h.default, h.sound, h.sound'⟩
  have hmodify (xs : Array ResolverSlot) (i : Nat) :
      (xs.modify i fun slot => { slot with resolver := slot.resolver.invalidate type }).map (·.resolver.contents) =
        (xs.map (·.resolver.contents)).modify i (Resolver.forget type) :=
    map_modify (fun slot => Resolver.contents_invalidate slot.resolver type) xs i
  refine (hmodify w.resolvers w.current.resolver).trans ?_
  rw [h.contents, h.current]
  exact (hmodify w'.resolvers w'.current.resolver).symm

abbrev perform (os : List Operation) (w : Workspace) : Workspace := os.foldl (fun w o => (o.step.run w).2) w

section
variable {w w' : Workspace}

theorem Alike.operation (h : Alike w w') (o : Operation) :
    Alike (o.step.run w).2 (perform o.unshared w') := by
  cases o with
  | renew config sharing =>
    cases sharing with
    | resolver => exact (matches_renew_resolver config w w' h).2
    | programs => exact (matches_renew_programs config w w' h).2
    | nothing => exact (matches_renew_nothing config w w' h).2
  -- Calls of a cache are left out on the other side.
  | compile key => exact h.withCaches (h.sound.compileIn _ key) h.sound'
  | clearPrograms => exact h.withCaches (h.sound.modifyCache fun _ _ => ProgramCache.sound_empty _) h.sound'
  | resolve resolver type => exact (matches_resolveIn resolver type w w' h).2
  | invalidate type => exact (matches_invalidate type w w' h).2
  | evaluate resolver maxDepth failFast now m => exact (matches_evaluate resolver maxDepth failFast now m w w' h).2
  | validate v failFast now m => exact (matches_validate v failFast now m w w' h).2
  | check v failFast now m => exact (matches_check v failFast now m w w' h).2
  | default e => exact (matches_defaultValidator e w w' h).2
  | setDefault v => exact ⟨h.schema, h.contents, h.validators, h.current, rfl, h.sound, h.sound'⟩

theorem Alike.activity (h : Alike w w') (a : Activity) : Alike (a.step.run w).2 (perform a.unshared w') := by
  cases a with
  | operation o => exact h.operation o
  | call cache c => exact h.withCaches (h.sound.modifyCache fun old hold => (h.sound old hold).apply c) h.sound'
  | join config resolver => exact (matches_join config resolver w w' h).2

theorem Alike.foldl (h : Alike w w') (history : List Activity) :
    Alike (history.foldl (fun w a => (a.step.run w).2) w) (perform (history.flatMap Activity.unshared) w') := by
  induction history generalizing w w' with
  | nil => exact h
  | cons a history ih =>
    rw [List.flatMap_cons, perform, List.foldl_append]
    exact ih (h.activity a)

end

/-- What was done in a workspace makes the same of it when each resolver has its own cache. -/
theorem alike_interleaved (s : Schema) (config : Config) (history : List Activity) :
    Alike (interleaved s config history) (after s config (history.flatMap Activity.unshared)) := by
  have hsound : (start s config).Sound := (faithful_after s config []).sound
  exact Alike.foldl ⟨rfl, rfl, rfl, rfl, rfl, hsound, hsound⟩ history

/-! ## Caches of their own -/

def homes (w : Workspace) : Array Nat := w.resolvers.map (·.cache)

/-- No two resolvers share a cache. -/
def Apart (w : Workspace) : Prop := w.homes.toList.Nodup

/-- The resolvers stay with their caches, and there are no new ones. -/
def Settled {α : Type} (x : Step α) : Prop := ∀ w, (x.run w).2.homes = w.homes

section
variable {α β : Type}

theorem Settled.bind {x : Step α} {f : α → Step β} (hx : Settled x) (hf : ∀ a, Settled (f a)) : Settled (x >>= f) :=
  fun w => (hf _ _).trans (hx w)

theorem settled_pure (a : α) : Settled (pure a) := fun _ => rfl

theorem homes_modify {w : Workspace} (resolver : Nat) (f : Resolver → Resolver) :
    (w.resolvers.modify resolver fun slot => { slot with resolver := f slot.resolver }).map (·.cache) = w.homes := by
  refine Array.ext_getElem? fun i => ?_
  rw [homes, Array.getElem?_map, Array.getElem?_modify, Array.getElem?_map]
  split
  · cases w.resolvers[i]? <;> rfl
  · rfl

theorem settled_resolveIn (resolver : Nat) (type : String) : Settled (resolveIn resolver type) := by
  intro w
  rw [resolveIn_resolution rfl, homes, (compileAll_run _ _ _).2]
  exact homes_modify resolver fun _ => (w.resolution resolver type).resolver

theorem settled_resolveAll (resolver : Nat) (types : List String) : Settled (resolveAll resolver types) := by
  induction types with
  | nil => exact settled_pure ()
  | cons type types ih => exact Settled.bind (settled_resolveIn resolver type) fun _ => ih

theorem settled_evaluate (resolver : Nat) (maxDepth : Int) (failFast : Bool) (now : Value) (m : Message) :
    Settled (evaluate resolver maxDepth failFast now m) := by
  refine (settled_resolveIn resolver m.type).bind ?_
  rintro ⟨f | rules, identity⟩
  · exact settled_pure _
  · exact fun w => settled_resolveAll resolver (pending resolver maxDepth failFast now m rules w) w

theorem settled_validate (v : Validator) (failFast : Option Bool) (now : Value) (m : Message) :
    Settled (validate v failFast now m) :=
  (settled_evaluate v.resolver _ _ now m).bind fun _ => settled_pure _

theorem Apart.fresh {w : Workspace} (h : w.Apart) (hw : w.Complete) : (w.homes.push w.caches.size).toList.Nodup := by
  rw [Array.toList_push, List.nodup_append]
  refine ⟨h, List.nodup_singleton _, fun id hid _ hlast => ?_⟩
  obtain ⟨slot, hslot, rfl⟩ := Array.mem_map.1 (Array.mem_toList_iff.1 hid)
  -- The new cache has the first number that no cache has.
  rw [List.mem_singleton.1 hlast]
  exact Nat.ne_of_lt (hw.slots slot hslot)

theorem Apart.operation {w : Workspace} (h : w.Apart) (hw : w.Complete) {o : Operation}
    (ho : ∀ config, o ≠ .renew config .programs) : (o.step.run w).2.Apart := by
  have hkeep {γ : Type} {x : Step γ} (hx : Settled x) : (x.run w).2.Apart := by
    rw [Apart, hx w]
    exact h
  have hfresh (config : Config) : ((freshValidator config).run w).2.Apart := by
    have hpush : ((freshValidator config).run w).2.homes = w.homes.push w.caches.size := Array.map_push ..
    rw [Apart, hpush]
    exact h.fresh hw
  cases o with
  | renew config sharing =>
    cases sharing with
    | resolver => exact h
    | programs => exact absurd rfl (ho config)
    | nothing => exact hfresh config
  | compile key => exact h
  | clearPrograms => exact h
  | resolve resolver type => exact hkeep (settled_resolveIn resolver type)
  | invalidate type =>
    rw [Apart, show ((Operation.invalidate type).step.run w).2.homes = w.homes from
      homes_modify w.current.resolver (Resolver.invalidate · type)]
    exact h
  | evaluate resolver maxDepth failFast now m => exact hkeep (settled_evaluate resolver maxDepth failFast now m)
  | validate v failFast now m => exact hkeep (settled_validate v failFast now m)
  | check v failFast now m =>
    rw [Operation.check_state]
    exact hkeep (settled_validate v failFast now m)
  | default e =>
    obtain hsame | ⟨config, v, hnew⟩ := defaultValidator_state e w
    · exact (congrArg Apart hsame).mpr h
    · exact (congrArg Apart hnew).mpr (hfresh config)
  | setDefault v => exact h

end

theorem Activity.not_programs_of_unshared {a : Activity} {o : Operation} (h : o ∈ a.unshared) (config : Config) :
    o ≠ .renew config .programs := by
  rintro rfl
  cases a with
  | call cache c => cases h
  | join config' resolver => cases List.mem_singleton.1 h
  | operation o =>
    cases o with
    | renew config' sharing => cases sharing <;> cases List.mem_singleton.1 h
    | compile key => cases h
    | clearPrograms => cases h
    | _ => cases List.mem_singleton.1 h

theorem apart_unshared (s : Schema) (config : Config) (history : List Activity) :
    (after s config (history.flatMap Activity.unshared)).Apart := by
  have hhomes : (start s config).homes = #[0] := Array.map_singleton
  have hstart : (start s config).Apart := by
    rw [Apart, hhomes]
    exact List.nodup_singleton 0
  refine (List.foldlRecOn (motive := fun w : Workspace => w.Complete ∧ w.Apart) _ _ ⟨complete_start, hstart⟩
    fun w hw o ho => ?_).2
  obtain ⟨a, -, ha⟩ := List.mem_flatMap.1 ho
  exact ⟨(o.runs_calls w hw.1).1, hw.2.operation hw.1 (Activity.not_programs_of_unshared ha)⟩

/-! ## Transparency -/

/-- Clients of shared caches get what clients with their own caches get. -/
structure Transparent (shared own : Workspace) : Prop extends Alike shared own where
  resolve : ∀ resolver type, ((resolveIn resolver type).run shared).1.1 = ((resolveIn resolver type).run own).1.1
  evaluate : ∀ resolver maxDepth failFast now m,
    ((evaluate resolver maxDepth failFast now m).run shared).1.mapError (·.failure) =
      ((evaluate resolver maxDepth failFast now m).run own).1.mapError (·.failure)
  validate : ∀ v failFast now m, ((validate v failFast now m).run shared).1.mapError (·.failure) =
    ((validate v failFast now m).run own).1.mapError (·.failure)
  check : ∀ v failFast now m,
    ((check v failFast now m).run shared).1.map (·.1) = ((check v failFast now m).run own).1.map (·.1)

theorem Alike.transparent {w w' : Workspace} (h : Alike w w') : Transparent w w' where
  toAlike := h
  resolve resolver type := (matches_resolveIn resolver type w w' h).1
  evaluate resolver maxDepth failFast now m := (matches_evaluate resolver maxDepth failFast now m w w' h).1
  validate v failFast now m := (matches_validate v failFast now m w w' h).1
  check v failFast now m := (matches_check v failFast now m w w' h).1

/-- Whatever clients of shared caches do in any order, they notice nothing of each other: each of them gets what it would
get with a cache of its own, and what compilation gives. A cache has one entry for each key that was compiled since its
last clearing, and until the next one all compilations of that key give this entry. -/
theorem sharing_transparent (s : Schema) (config : Config) (history : List Activity) :
    (after s config (history.flatMap Activity.unshared)).Apart ∧
    Transparent (interleaved s config history) (after s config (history.flatMap Activity.unshared)) ∧
    ∀ id,
      (∀ key, ((compileIn id key).run (interleaved s config history)).1 = Program.compile key) ∧
      ProgramCache.Holds (callsFrom id history (start s config)) ((interleaved s config history).cache id) ∧
      ∀ later, .clear ∉ callsFrom id later (interleaved s config history) →
        ((interleaved s config history).cache id).Persists ((interleaved s config (history ++ later)).cache id) := by
  have halike := alike_interleaved s config history
  refine ⟨apart_unshared s config history, halike.transparent, fun id => ⟨fun key => ?_, ?_, fun later hlater => ?_⟩⟩
  · exact (halike.sound.cache id).compile_eq key
  · rw [cache_interleaved]
    exact ProgramCache.holds_after _
  · rw [cache_interleaved_append]
    exact ProgramCache.persists_through hlater

end Conformance.Workspace
