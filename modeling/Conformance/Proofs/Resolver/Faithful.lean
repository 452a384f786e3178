import Conformance.Proofs.Resolver.Graph

/-!
# Resolvers remember what is declared

Whatever a resolver was asked before and whatever it forgot: the rules that it gives for a name are those
that the schema declares for it, and it gives rules exactly if all types below compile; else it gives the
failure of one of them.
-/

namespace Conformance

/-- What may be given for a name: the rules that are declared for it, if all types below compile, or the
failure of one that does not. -/
def Schema.Gives (s : Schema) (name : String) : Except Failure TypeRules → Prop
  | .ok rules => rules = s.rules name ∧ s.Resolves name
  | .error f => s.FailsBelow name f

namespace Schema.Gives

variable {s : Schema} {name : String} {x : Except Failure TypeRules} {rules : TypeRules} {f : Failure}

theorem rules_eq (h : s.Gives name x) (hx : x = .ok rules) : rules = s.rules name := by
  subst hx
  exact h.1

theorem resolves (h : s.Gives name x) (hx : x = .ok rules) : s.Resolves name := by
  subst hx
  exact h.2

theorem failsBelow (h : s.Gives name x) (hx : x = .error f) : s.FailsBelow name f := by
  subst hx
  exact h

theorem eq_of_resolves (h : s.Gives name x) (hr : s.Resolves name) : x = .ok (s.rules name) := by
  cases hx : x with
  | ok rules => rw [h.rules_eq hx]
  | error f => exact absurd (h.failsBelow hx) (hr.not_failsBelow f)

theorem eq_ok_iff (h : s.Gives name x) : (∃ rules, x = .ok rules) ↔ s.Resolves name := by
  constructor
  · rintro ⟨rules, hx⟩
    exact h.resolves hx
  · intro hr
    exact ⟨_, h.eq_of_resolves hr⟩

end Schema.Gives

def Schema.Under (s : Schema) (due : List String) (n : String) : Prop := ∃ d ∈ due, s.Below d n

namespace Schema.Under

variable {s : Schema} {due : List String} {name n : String} {rules : TypeRules}

theorem cons : s.Under due n → s.Under (name :: due) n
  | ⟨d, hd, hn⟩ => ⟨d, List.mem_cons_of_mem _ hd, hn⟩

theorem head (due : List String) (name : String) : s.Under (name :: due) name :=
  ⟨name, List.mem_cons_self, Below.refl s name⟩

theorem expand (hc : s.compiled name = .ok rules) (h : s.Under (rules.dependencies ++ due) n) :
    s.Under (name :: due) n := by
  obtain ⟨d, hd, hn⟩ := h
  rcases List.mem_append.1 hd with hd | hd
  · exact ⟨name, List.mem_cons_self, .step ⟨rules, hc, hd⟩ hn⟩
  · exact ⟨d, List.mem_cons_of_mem _ hd, hn⟩

theorem below (h : s.Under [name] n) : s.Below name n := by
  obtain ⟨d, hd, hn⟩ := h
  rwa [List.mem_singleton.1 hd] at hn

end Schema.Under

/-! ## Building -/

namespace Building

variable {s : Schema} {known : List (String × Entry)} {generation age : Nat} {b : Building} {due : List String}

section
variable {name : String} {rest : List String} {t : MessageType} {rules : TypeRules} {programs : List ProgramKey}
  {f : Failure} {origin : Origin}

theorem complete_seen (hb : b.has name = true) :
    b.complete s known generation age (name :: rest) = b.complete s known generation age rest := by
  rw [Building.complete, dif_pos hb]

theorem complete_known (hb : b.has name = false) (hk : known.lookup name = some ⟨.error f, origin⟩) :
    b.complete s known generation age (name :: rest) = (.error ⟨f, some origin⟩, b) := by
  rw [Building.complete, dif_neg (by simp [hb])]
  simp only [hk]

/-- A type that is due and new is compiled, and what its messages may contain becomes due. -/
theorem complete_compile (hb : b.has name = false) (hk : known.lookup name = none) (ht : s.message? name = some t) :
    b.complete s known generation age (name :: rest) =
      match (t.compile s).outcome with
      | .error f => (.error ⟨f, originOf f name generation age (t.compile s).programs⟩,
          { b with programs := b.programs ++ (t.compile s).programs })
      | .ok rules => (b.add name rules (t.compile s).programs).complete s known generation age
          (rules.dependencies ++ rest) := by
  rw [Building.complete, dif_neg (by simp [hb])]
  simp only [hk]
  split
  · next h => cases ht.symm.trans h
  · next t' h =>
    cases ht.symm.trans h
    rfl

theorem complete_new (hb : b.has name = false) (hk : known.lookup name = none) (ht : s.message? name = some t)
    (hc : t.compile s = ⟨.ok rules, programs⟩) :
    b.complete s known generation age (name :: rest) =
      (b.add name rules programs).complete s known generation age (rules.dependencies ++ rest) := by
  rw [complete_compile hb hk ht, hc]

theorem complete_refused (hb : b.has name = false) (hk : known.lookup name = none) (ht : s.message? name = some t)
    (hc : t.compile s = ⟨.error f, programs⟩) :
    b.complete s known generation age (name :: rest) =
      (.error ⟨f, originOf f name generation age programs⟩, { b with programs := b.programs ++ programs }) := by
  rw [complete_compile hb hk ht, hc]

end

theorem has_iff {n : String} : b.has n = true ↔ ∃ rules, (n, rules) ∈ b.done := by
  unfold has
  rw [List.lookup_isSome_iff]
  constructor
  · rintro ⟨⟨m, rules⟩, hm, hn⟩
    obtain rfl : n = m := by simpa using hn
    exact ⟨rules, hm⟩
  · rintro ⟨rules, hm⟩
    exact ⟨(n, rules), hm, by simp⟩

/-- What a building adds: a type below those that were due, not known before, with the rules that it compiles
to on its own. -/
structure Added (s : Schema) (known : List (String × Entry)) (due : List String) (p : String × TypeRules) : Prop where
  under : s.Under due p.1
  unknown : known.lookup p.1 = none
  named : (s.message? p.1).isSome = true
  compiled : s.compiled p.1 = .ok p.2

theorem mem_complete {p : String × TypeRules} (h : p ∈ (b.complete s known generation age due).2.done) :
    p ∈ b.done ∨ Added s known due p := by
  fun_induction Building.complete s known generation age b due with
  | case1 b => exact .inl h
  | case2 b name rest hb ih => exact (ih h).imp_right fun ha => { ha with under := ha.under.cons }
  | case3 b name rest hb f origin hk => exact .inl h
  | case4 b name rest hb r origin hk ih => exact (ih h).imp_right fun ha => { ha with under := ha.under.cons }
  | case5 b name rest hb hk ht ih => exact (ih h).imp_right fun ha => { ha with under := ha.under.cons }
  | case6 b name rest hb hk t ht c f hc => exact .inl h
  | case7 b name rest hb hk t ht c rules hc ih =>
    have hcompiled : s.compiled name = .ok rules := (Schema.compiled_of_some ht).trans hc
    rcases ih h with hp | ha
    · rcases List.mem_cons.1 hp with rfl | hp
      · exact .inr ⟨.head rest name, hk, by simp [ht], hcompiled⟩
      · exact .inl hp
    · exact .inr { ha with under := ha.under.expand hcompiled }

theorem has_complete {n : String} (due : List String) (h : b.has n = true) :
    (b.complete s known generation age due).2.has n = true := by
  fun_induction Building.complete s known generation age b due with
  | case1 b => exact h
  | case2 b name rest hb ih => exact ih h
  | case3 b name rest hb f origin hk => exact h
  | case4 b name rest hb r origin hk ih => exact ih h
  | case5 b name rest hb hk ht ih => exact ih h
  | case6 b name rest hb hk t ht c f hc => exact h
  | case7 b name rest hb hk t ht c rules hc ih => exact ih (by rw [has_add, h, Bool.or_true])

/-- Nothing is left to be done for a name: it is built, or its rules are known, or it is no type. -/
def Covers (s : Schema) (known : List (String × Entry)) (b : Building) (n : String) : Prop :=
  b.has n = true ∨ (∃ rules origin, known.lookup n = some ⟨.ok rules, origin⟩) ∨ s.message? n = none

/-- Without failure, nothing is left to be done for what was due, nor for what was added on the way. -/
theorem complete_ok (h : (b.complete s known generation age due).1 = .ok ()) :
    (∀ n ∈ due, Covers s known (b.complete s known generation age due).2 n) ∧
      ∀ p ∈ (b.complete s known generation age due).2.done, p ∈ b.done ∨
        ∀ n ∈ p.2.dependencies, Covers s known (b.complete s known generation age due).2 n := by
  fun_induction Building.complete s known generation age b due with
  | case1 b => exact ⟨by simp, fun p hp => .inl hp⟩
  | case2 b name rest hb ih =>
    exact ⟨List.forall_mem_cons.2 ⟨.inl (has_complete rest hb), (ih h).1⟩, (ih h).2⟩
  | case3 b name rest hb f origin hk => cases h
  | case4 b name rest hb r origin hk ih =>
    exact ⟨List.forall_mem_cons.2 ⟨.inr (.inl ⟨r, origin, hk⟩), (ih h).1⟩, (ih h).2⟩
  | case5 b name rest hb hk ht ih => exact ⟨List.forall_mem_cons.2 ⟨.inr (.inr ht), (ih h).1⟩, (ih h).2⟩
  | case6 b name rest hb hk t ht c f hc => cases h
  | case7 b name rest hb hk t ht c rules hc ih =>
    obtain ⟨hdue, hdone⟩ := ih h
    constructor
    · refine List.forall_mem_cons.2 ⟨.inl ?_, fun n hn => hdue n (List.mem_append_right _ hn)⟩
      exact has_complete _ (by simp [has_add])
    · intro p hp
      rcases hdone p hp with hp | hp
      · rcases List.mem_cons.1 hp with rfl | hp
        · exact .inr fun n hn => hdue n (List.mem_append_left _ hn)
        · exact .inl hp
      · exact .inr hp

/-- A building fails with an error that is known of a type below those that are due, or as such a type fails
to compile on its own. -/
theorem complete_error {e : BuildError} (h : (b.complete s known generation age due).1 = .error e) :
    ∃ n, s.Under due n ∧
      ((∃ f origin, known.lookup n = some ⟨.error f, origin⟩ ∧ e = ⟨f, some origin⟩) ∨
        ∃ t f, s.message? n = some t ∧ (t.compile s).outcome = .error f ∧
          e = ⟨f, originOf f n generation age (t.compile s).programs⟩) := by
  fun_induction Building.complete s known generation age b due with
  | case1 b => cases h
  | case2 b name rest hb ih => exact (ih h).imp fun n hn => ⟨hn.1.cons, hn.2⟩
  | case3 b name rest hb f origin hk =>
    cases h
    exact ⟨name, .head rest name, .inl ⟨f, origin, hk, rfl⟩⟩
  | case4 b name rest hb r origin hk ih => exact (ih h).imp fun n hn => ⟨hn.1.cons, hn.2⟩
  | case5 b name rest hb hk ht ih => exact (ih h).imp fun n hn => ⟨hn.1.cons, hn.2⟩
  | case6 b name rest hb hk t ht c f hc =>
    cases h
    exact ⟨name, .head rest name, .inr ⟨t, f, ht, hc, rfl⟩⟩
  | case7 b name rest hb hk t ht c rules hc ih =>
    exact (ih h).imp fun n hn => ⟨hn.1.expand ((Schema.compiled_of_some ht).trans hc), hn.2⟩

section
variable {name : String} {x : Except BuildError Unit}

theorem added_of_built (hb : ({} : Building).complete s known generation age [name] = (x, b))
    {p : String × TypeRules} (hp : p ∈ b.done) : Added s known [name] p := by
  have hmem := @mem_complete s known generation age {} [name] p
  rw [hb] at hmem
  exact (hmem hp).resolve_left List.not_mem_nil

theorem covers_of_built (hb : ({} : Building).complete s known generation age [name] = (.ok (), b)) :
    Covers s known b name ∧ ∀ p ∈ b.done, ∀ n ∈ p.2.dependencies, Covers s known b n := by
  have hok := complete_ok (congrArg Prod.fst hb)
  rw [hb] at hok
  exact ⟨hok.1 name List.mem_cons_self, fun p hp => (hok.2 p hp).resolve_left List.not_mem_nil⟩

end

end Building

/-! ## Resolving -/

namespace Resolver

/-- All that a resolver remembers is so by the schema. -/
def Faithful (s : Schema) (r : Resolver) : Prop := ∀ p ∈ r.entries, s.Gives p.1 p.2.content

theorem faithful_empty (s : Schema) : Faithful s {} := by
  intro p hp
  cases hp

variable {s : Schema} {r : Resolver}

/-- What resolving a name comes to: the entry that is known, or all that a building adds, or an error that is
remembered for the name alone. -/
theorem resolve_cases (s : Schema) (r : Resolver) (age : Nat) (name : String) :
    (∃ e, r.entries.lookup name = some e ∧ r.resolve s age name = ⟨e.content, some e.origin, r, []⟩) ∨
      r.entries.lookup name = none ∧
        ((∃ b, ({} : Building).complete s r.entries r.generation age [name] = (.ok (), b) ∧
            r.resolve s age name =
              ⟨.ok (s.rules name), some (.type name r.generation), r.publish b, b.programs⟩) ∨
          ∃ e b, ({} : Building).complete s r.entries r.generation age [name] = (.error e, b) ∧
            r.resolve s age name = ⟨.error e.failure, e.origin, r.publishError name e, b.programs⟩) := by
  unfold Resolver.resolve
  cases hk : r.entries.lookup name with
  | some e => exact .inl ⟨e, rfl, rfl⟩
  | none =>
    refine .inr ⟨rfl, ?_⟩
    cases hb : ({} : Building).complete s r.entries r.generation age [name] with
    | mk built b =>
    cases built with
    | error e => exact .inr ⟨e, b, rfl, rfl⟩
    | ok u =>
      refine .inl ⟨b, rfl, ?_⟩
      have hrules : (b.done.lookup name).getD (noRules name) = s.rules name := by
        cases hd : b.done.lookup name with
        | some rules => exact Schema.compiled_eq_rules (Building.added_of_built hb (mem_of_lookup hd)).compiled
        | none =>
          rcases (Building.covers_of_built hb).1 with hh | ⟨rules, origin, hh⟩ | hh
          · rw [Building.has, hd] at hh
            cases hh
          · rw [hk] at hh
            cases hh
          · exact (Schema.rules_of_none hh).symm
      rw [← hrules]

/-- Types that are built without failure resolve, if those that were known do. -/
theorem Faithful.resolves_of_built (h : r.Faithful s) {generation age : Nat} {name : String} {b : Building}
    (hb : ({} : Building).complete s r.entries generation age [name] = (.ok (), b)) :
    ∀ n, Building.Covers s r.entries b n → s.Resolves n := by
  -- What is known resolves and what is no type does too; so the built types and these are closed.
  have hcov : ∀ n, Building.Covers s r.entries b n → (∃ rules, (n, rules) ∈ b.done) ∨ s.Resolves n := by
    rintro n (hn | ⟨rules, origin, hn⟩ | hn)
    · exact .inl (Building.has_iff.1 hn)
    · exact .inr (h (n, _) (mem_of_lookup hn)).2
    · exact .inr (Schema.resolves_of_none hn)
  intro n hn
  refine Schema.resolves_of_closed (P := fun n => (∃ rules, (n, rules) ∈ b.done) ∨ s.Resolves n) ?_ ?_ (hcov n hn)
  · rintro n (⟨rules, hn⟩ | hn)
    · exact ⟨rules, (Building.added_of_built hb hn).compiled⟩
    · exact hn n (.refl s n)
  · rintro n d (⟨rules, hn⟩ | hn) hd
    · obtain ⟨rules', hr, hd⟩ := hd
      cases (Building.added_of_built hb hn).compiled.symm.trans hr
      exact hcov d ((Building.covers_of_built hb).2 _ hn d hd)
    · exact .inr (hn.below (Relation.ReflTransGen.single hd))

theorem Faithful.failsBelow_of_built (h : r.Faithful s) {generation age : Nat} {name : String} {b : Building}
    {e : BuildError} (hb : ({} : Building).complete s r.entries generation age [name] = (.error e, b)) :
    s.FailsBelow name e.failure := by
  obtain ⟨n, hn, ⟨f, origin, hk, rfl⟩ | ⟨t, f, ht, hf, rfl⟩⟩ := Building.complete_error (congrArg Prod.fst hb)
  · obtain ⟨m, hm, hf⟩ := h (n, _) (mem_of_lookup hk)
    exact ⟨m, hn.below.trans hm, hf⟩
  · exact ⟨n, hn.below, (Schema.compiled_of_some ht).trans hf⟩

theorem Faithful.gives (h : r.Faithful s) (age : Nat) (name : String) :
    s.Gives name (r.resolve s age name).outcome := by
  obtain ⟨e, hk, hr⟩ | ⟨-, ⟨b, hb, hr⟩ | ⟨e, b, hb, hr⟩⟩ := resolve_cases s r age name
  · rw [hr]
    exact h (name, e) (mem_of_lookup hk)
  · rw [hr]
    exact ⟨rfl, h.resolves_of_built hb name (Building.covers_of_built hb).1⟩
  · rw [hr]
    exact h.failsBelow_of_built hb

theorem mem_publish {b : Building} {p : String × Entry} (h : p ∈ (r.publish b).entries) :
    p ∈ r.entries ∨ ∃ rules, (p.1, rules) ∈ b.done ∧ p.2 = ⟨.ok rules, .type p.1 r.generation⟩ := by
  rcases List.mem_append.1 h with h | h
  · exact .inl h
  · obtain ⟨⟨n, rules⟩, hq, rfl⟩ := List.mem_map.1 h
    exact .inr ⟨rules, List.mem_reverse.1 hq, rfl⟩

theorem publishError_entries (r : Resolver) (name : String) (e : BuildError) : (r.publishError name e).entries =
    r.entries ++ (e.origin.map fun origin => (name, ⟨.error e.failure, origin⟩)).toList := by
  unfold publishError
  cases e.origin with
  | none => exact (List.append_nil _).symm
  | some origin => rfl

theorem mem_publishError {name : String} {e : BuildError} {p : String × Entry}
    (h : p ∈ (r.publishError name e).entries) :
    p ∈ r.entries ∨ ∃ origin, e.origin = some origin ∧ p = (name, ⟨.error e.failure, origin⟩) := by
  rw [publishError_entries, List.mem_append, Option.mem_toList, Option.map_eq_some_iff] at h
  exact h.imp_right fun ⟨origin, ho, hp⟩ => ⟨origin, ho, hp.symm⟩

/-- What is remembered after a name was resolved: what was before, or what was built, or the error of the name. -/
theorem mem_resolve {age : Nat} {name : String} {p : String × Entry}
    (h : p ∈ (r.resolve s age name).resolver.entries) :
    p ∈ r.entries ∨
      (∃ b rules, ({} : Building).complete s r.entries r.generation age [name] = (.ok (), b) ∧
        (p.1, rules) ∈ b.done ∧ p.2 = ⟨.ok rules, .type p.1 r.generation⟩) ∨
      ∃ e b origin, ({} : Building).complete s r.entries r.generation age [name] = (.error e, b) ∧
        e.origin = some origin ∧ p = (name, ⟨.error e.failure, origin⟩) := by
  obtain ⟨e, -, hr⟩ | ⟨-, ⟨b, hb, hr⟩ | ⟨e, b, hb, hr⟩⟩ := resolve_cases s r age name
  · rw [hr] at h
    exact .inl h
  · rw [hr] at h
    obtain h | ⟨rules, hd, hp⟩ := mem_publish h
    · exact .inl h
    · exact .inr (.inl ⟨b, rules, hb, hd, hp⟩)
  · rw [hr] at h
    obtain h | ⟨origin, ho, hp⟩ := mem_publishError h
    · exact .inl h
    · exact .inr (.inr ⟨e, b, origin, hb, ho, hp⟩)

theorem mem_invalidate {type : Option String} {p : String × Entry} (h : p ∈ (r.invalidate type).entries) :
    p ∈ r.entries := by
  cases type with
  | none => cases h
  | some name => exact (List.mem_filter.1 h).1

theorem Faithful.resolve (h : r.Faithful s) (age : Nat) (name : String) :
    (r.resolve s age name).resolver.Faithful s := by
  intro p hp
  obtain hp | ⟨b, rules, hb, hd, hp⟩ | ⟨e, b, origin, hb, -, rfl⟩ := mem_resolve hp
  · exact h p hp
  · rw [hp]
    refine ⟨Schema.compiled_eq_rules (Building.added_of_built hb hd).compiled, ?_⟩
    exact h.resolves_of_built hb p.1 (.inl (Building.has_iff.2 ⟨rules, hd⟩))
  · exact h.failsBelow_of_built hb

theorem Faithful.invalidate (h : r.Faithful s) (type : Option String) : (r.invalidate type).Faithful s :=
  fun p hp => h p (mem_invalidate hp)

end Resolver
end Conformance
