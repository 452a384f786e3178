import Conformance.Proofs.Resolver.Faithful

/-!
# Contents of resolvers

What a resolver makes of a type depends on what its entries say, and not on where they come from. So resolvers that
have compiled at different times, with caches of different ages, behave alike as long as their contents are the same.
-/

namespace Conformance

/-- What an error says, and whether it is remembered. -/
def BuildError.content (e : BuildError) : Failure × Bool := (e.failure, e.origin.isSome)

/-- What the entries of a resolver say. -/
def Resolver.contents (r : Resolver) : List (String × Except Failure TypeRules) :=
  r.entries.map fun e => (e.1, e.2.content)

theorem lookup_content (entries : List (String × Entry)) (name : String) :
    (entries.map fun e => (e.1, e.2.content)).lookup name = (entries.lookup name).map Entry.content := by
  induction entries with
  | nil => rfl
  | cons e entries ih =>
    rw [List.map_cons, List.lookup_cons, List.lookup_cons, ih]
    cases name == e.1 <;> rfl

section
variable {s : Schema} {known known' : List (String × Entry)} {generation generation' age age' : Nat}

theorem isSome_originOf (f : Failure) (name : String) (programs : List ProgramKey) :
    (originOf f name generation age programs).isSome = (originOf f name generation' age' programs).isSome := by
  unfold originOf
  cases f <;> cases programs.getLast? <;> rfl

namespace Building

variable {b : Building} {name : String} {rest : List String}

theorem complete_skip (hb : b.has name = false) {e : Entry} {rules : TypeRules} (hk : known.lookup name = some e)
    (he : e.content = .ok rules) :
    b.complete s known generation age (name :: rest) = b.complete s known generation age rest := by
  obtain ⟨content, origin⟩ := e
  cases he
  rw [Building.complete, dif_neg (by simp [hb])]
  simp only [hk]

theorem complete_untyped (hb : b.has name = false) (hk : known.lookup name = none) (ht : s.message? name = none) :
    b.complete s known generation age (name :: rest) = b.complete s known generation age rest := by
  rw [Building.complete, dif_neg (by simp [hb])]
  simp only [hk]
  split
  · rfl
  · next h => cases ht.symm.trans h

/-- What is built depends on what is known only by what the entries say. -/
theorem complete_content (h : ∀ n, (known.lookup n).map Entry.content = (known'.lookup n).map Entry.content)
    (b : Building) (due : List String) :
    (b.complete s known generation age due).2 = (b.complete s known' generation' age' due).2 ∧
      (b.complete s known generation age due).1.mapError BuildError.content =
        (b.complete s known' generation' age' due).1.mapError BuildError.content := by
  fun_induction Building.complete s known generation age b due with
  | case1 b => rw [Building.complete]; exact ⟨rfl, rfl⟩
  | case2 b name rest hb ih => rwa [complete_seen hb]
  | case3 b name rest hb f origin hk =>
    have hk' := h name
    rw [hk] at hk'
    obtain ⟨⟨_, origin'⟩, hk', rfl⟩ := Option.map_eq_some_iff.1 hk'.symm
    rw [complete_known (by simpa using hb) hk']
    exact ⟨rfl, rfl⟩
  | case4 b name rest hb r origin hk ih =>
    have hk' := h name
    rw [hk] at hk'
    obtain ⟨e, hk', he⟩ := Option.map_eq_some_iff.1 hk'.symm
    rwa [complete_skip (by simpa using hb) hk' he]
  | case5 b name rest hb hk ht ih =>
    have hk' := h name
    rw [hk] at hk'
    rwa [complete_untyped (by simpa using hb) (Option.map_eq_none_iff.1 hk'.symm) ht]
  | case6 b name rest hb hk t ht c f hc =>
    have hk' := h name
    rw [hk] at hk'
    rw [complete_compile (by simpa using hb) (Option.map_eq_none_iff.1 hk'.symm) ht, hc]
    exact ⟨rfl, congrArg (fun o => Except.error (f, o)) (isSome_originOf f name c.programs)⟩
  | case7 b name rest hb hk t ht c rules hc ih =>
    have hk' := h name
    rw [hk] at hk'
    rwa [complete_compile (by simpa using hb) (Option.map_eq_none_iff.1 hk'.symm) ht, hc]

end Building

namespace Resolver

variable {r r' : Resolver}

theorem lookup_of_contents (h : r.contents = r'.contents) (name : String) :
    (r.entries.lookup name).map Entry.content = (r'.entries.lookup name).map Entry.content := by
  rw [← lookup_content, ← lookup_content]
  exact congrArg (List.lookup name) h

theorem contains_of_contents (h : r.contents = r'.contents) (name : String) : r.contains name = r'.contains name := by
  have hmap := congrArg Option.isSome (lookup_of_contents h name)
  rwa [Option.isSome_map, Option.isSome_map] at hmap

/-- Contents without those of a type, or none at all. -/
def forget (name : Option String) (contents : List (String × Except Failure TypeRules)) :
    List (String × Except Failure TypeRules) :=
  match name with
  | some name => contents.filter (·.1 != name)
  | none => []

theorem contents_invalidate (r : Resolver) (name : Option String) :
    (r.invalidate name).contents = forget name r.contents := by
  cases name with
  | none => rfl
  | some name =>
    rw [contents, contents, forget, List.filter_map]
    rfl

theorem contents_publish (r : Resolver) (b : Building) :
    (r.publish b).contents = r.contents ++ b.done.reverse.map fun p => (p.1, .ok p.2) := by
  rw [contents, publish, List.map_append, List.map_map]
  rfl

theorem contents_publishError (r : Resolver) (name : String) (e : BuildError) :
    (r.publishError name e).contents = r.contents ++ if e.content.2 then [(name, .error e.content.1)] else [] := by
  unfold publishError BuildError.content
  cases e.origin with
  | none => exact (List.append_nil _).symm
  | some origin => exact List.map_append

/-- Resolvers with the same contents resolve alike, and have the same contents again. -/
theorem resolve_contents (h : r.contents = r'.contents) (name : String) :
    (r.resolve s age name).outcome = (r'.resolve s age' name).outcome ∧
      (r.resolve s age name).programs = (r'.resolve s age' name).programs ∧
      (r.resolve s age name).resolver.contents = (r'.resolve s age' name).resolver.contents := by
  have hl := lookup_of_contents h name
  unfold resolve
  cases hk : r.entries.lookup name with
  | some e =>
    rw [hk] at hl
    obtain ⟨e', hk', he⟩ := Option.map_eq_some_iff.1 hl.symm
    rw [hk']
    exact ⟨he.symm, rfl, h⟩
  | none =>
    rw [hk] at hl
    rw [Option.map_eq_none_iff.1 hl.symm]
    dsimp only
    obtain ⟨hb, houtcome⟩ := @Building.complete_content s _ _ r.generation r'.generation age age'
      (lookup_of_contents h) {} [name]
    generalize ({} : Building).complete s r.entries r.generation age [name] = built at hb houtcome
    generalize ({} : Building).complete s r'.entries r'.generation age' [name] = built' at hb houtcome
    obtain ⟨x, b⟩ := built
    obtain ⟨x', b'⟩ := built'
    obtain rfl : b = b' := hb
    cases x with
    | ok =>
      cases x' with
      | error e' => cases houtcome
      | ok => exact ⟨rfl, rfl, by rw [contents_publish, contents_publish, h]⟩
    | error e =>
      cases x' with
      | ok => cases houtcome
      | error e' =>
        have he : e.content = e'.content := Except.error.inj houtcome
        exact ⟨congrArg (fun p : Failure × Bool => Except.error p.1) he, rfl,
          by rw [contents_publishError, contents_publishError, h, he]⟩

end Resolver
end

end Conformance
