import Conformance.Proofs.Resolver.Calls

/-!
# What a resolver remembers

Resolving a type that is new to a resolver adds all types below it that are new, or the refusal of the type alone,
or nothing. While no single type is forgotten, the types whose rules are remembered are closed under what their
messages may contain.
-/

namespace Conformance

variable {s : Schema}

/-- Refusals that end a compilation are given an origin, and faults are not. -/
theorem originOf_isSome {t : MessageType} {f : Failure} (h : (t.compile s).outcome = .error f)
    (name : String) (generation age : Nat) :
    (originOf f name generation age (t.compile s).programs).isSome = f.isRefusal := by
  have hrefuses : Compile.Refuses f (t.compile s).programs := (Compile.steady_typeRules s t).refuses [] f h
  obtain ⟨fault, rfl⟩ | ⟨e, rfl⟩ | ⟨⟨e, rfl⟩, hlog⟩ := hrefuses
  · rfl
  · rfl
  · unfold originOf
    cases hlast : (t.compile s).programs.getLast? with
    | none => exact absurd (List.getLast?_eq_none_iff.1 hlast) hlog
    | some key => rfl

namespace Resolver

variable {r : Resolver} {calls : List Call}

def RefusalsOnly (r : Resolver) : Prop := ∀ p ∈ r.entries, ∀ f, p.2.content = .error f → f.isRefusal = true

/-- The rules of a type are remembered. -/
def Knows (r : Resolver) (name : String) : Prop := ∃ rules origin, r.entries.lookup name = some ⟨.ok rules, origin⟩

/-- Where the rules of a type are remembered, those of the types that its messages may contain are. -/
def Closed (s : Schema) (r : Resolver) : Prop :=
  ∀ p ∈ r.entries, ∀ rules, p.2.content = .ok rules →
    ∀ d ∈ rules.dependencies, (s.message? d).isSome = true → r.Knows d

/-! ## Errors -/

theorem RefusalsOnly.origin_isSome (h : r.RefusalsOnly) {generation age : Nat} {name : String} {b : Building}
    {e : BuildError} (hb : ({} : Building).complete s r.entries generation age [name] = (.error e, b)) :
    e.origin.isSome = e.failure.isRefusal := by
  obtain ⟨n, -, ⟨f, origin, hk, rfl⟩ | ⟨t, f, -, hf, rfl⟩⟩ := Building.complete_error (congrArg Prod.fst hb)
  · rw [h (n, _) (mem_of_lookup hk) f rfl]
    rfl
  · exact originOf_isSome hf n generation age

theorem RefusalsOnly.resolve (h : r.RefusalsOnly) (age : Nat) (name : String) :
    (r.resolve s age name).resolver.RefusalsOnly := by
  intro p hp f hf
  obtain hp | ⟨b, rules, -, -, hp⟩ | ⟨e, b, origin, hb, ho, rfl⟩ := mem_resolve hp
  · exact h p hp f hf
  · rw [hp] at hf
    cases hf
  · cases hf
    rw [← h.origin_isSome hb, ho]
    rfl

theorem refusalsOnly_after (s : Schema) (calls : List Call) : (after s calls).RefusalsOnly := by
  apply after_induction
  · intro p hp
    cases hp
  · intro age name _ r h
    exact h.resolve age name
  · intro name _ r h p hp
    exact h p (mem_invalidate hp)

/-! ## Lookups -/

theorem notMem_of_lookup {entries : List (String × Entry)} {name : String} (h : entries.lookup name = none)
    (e : Entry) : (name, e) ∉ entries := by
  intro hmem
  rw [List.lookup_eq_none_iff] at h
  simpa using h _ hmem

theorem contains_eq_false {name : String} : r.contains name = false ↔ r.entries.lookup name = none := by
  unfold contains
  cases r.entries.lookup name <;> simp

theorem lookup_publish {b : Building} {name : String} {e : Entry} (h : r.entries.lookup name = some e) :
    (r.publish b).entries.lookup name = some e := by
  unfold publish
  rw [List.lookup_append, h]
  rfl

theorem lookup_publishError {name n : String} (e : BuildError) (hn : n ≠ name) :
    (r.publishError name e).entries.lookup n = r.entries.lookup n := by
  have hne : (n == name) = false := by simpa using hn
  rw [publishError_entries, List.lookup_append]
  cases e.origin with
  | none => exact Option.or_none
  | some origin => simp [List.lookup_cons, hne]

theorem lookup_publishError_self {name : String} {e : BuildError} {origin : Origin}
    (hk : r.entries.lookup name = none) (ho : e.origin = some origin) :
    (r.publishError name e).entries.lookup name = some ⟨.error e.failure, origin⟩ := by
  rw [publishError_entries, List.lookup_append, hk, ho]
  simp

section
variable {generation age : Nat} {name : String} {b : Building}

/-- What is found afterwards and was not before was built: a type below, with what it compiles to on its own. -/
theorem added_of_lookup (hb : ({} : Building).complete s r.entries generation age [name] = (.ok (), b)) {n : String}
    {e : Entry} (hk : r.entries.lookup n = none) (hn : (r.publish b).entries.lookup n = some e) :
    ∃ rules, e.content = .ok rules ∧ Building.Added s r.entries [name] (n, rules) := by
  obtain hold | ⟨rules, hd, he⟩ := mem_publish (mem_of_lookup hn)
  · exact absurd hold (notMem_of_lookup hk e)
  · have he : e = ⟨.ok rules, .type n r.generation⟩ := he
    exact ⟨rules, by rw [he], Building.added_of_built hb hd⟩

theorem knows_publish_of_has (hb : ({} : Building).complete s r.entries generation age [name] = (.ok (), b))
    {n : String} (hn : b.has n = true) : (r.publish b).Knows n := by
  obtain ⟨rules, hd⟩ := Building.has_iff.1 hn
  have hmem : (n, ⟨.ok rules, .type n r.generation⟩) ∈ (r.publish b).entries := by
    apply List.mem_append_right
    exact List.mem_map.2 ⟨(n, rules), List.mem_reverse.2 hd, rfl⟩
  cases hl : (r.publish b).entries.lookup n with
  | none => exact absurd hmem (notMem_of_lookup hl _)
  | some e =>
    obtain ⟨rules', he, -⟩ := added_of_lookup hb (Building.added_of_built hb hd).unknown hl
    obtain ⟨content, origin⟩ := e
    obtain rfl : content = .ok rules' := he
    exact ⟨rules', origin, hl⟩

theorem knows_publish_of_covers (hb : ({} : Building).complete s r.entries generation age [name] = (.ok (), b))
    {n : String} (hn : Building.Covers s r.entries b n) (ht : (s.message? n).isSome = true) :
    (r.publish b).Knows n := by
  obtain hn | ⟨rules, origin, hn⟩ | hn := hn
  · exact knows_publish_of_has hb hn
  · exact ⟨rules, origin, lookup_publish hn⟩
  · rw [hn] at ht
    cases ht

/-- Where nothing was known before, nothing is left to be done for any type below. -/
theorem covers_of_below (hb : ({} : Building).complete s [] generation age [name] = (.ok (), b)) {n : String}
    (hn : s.Below name n) : Building.Covers s [] b n := by
  obtain ⟨hname, hdone⟩ := Building.covers_of_built hb
  induction hn with
  | refl => exact hname
  | @tail n d _ hstep ih =>
    obtain ⟨rules, hr, hd⟩ := hstep
    obtain hn | ⟨_, _, hn⟩ | hn := ih
    · obtain ⟨built, hmem⟩ := Building.has_iff.1 hn
      cases (Building.added_of_built hb hmem).compiled.symm.trans hr
      exact hdone _ hmem d hd
    · cases hn
    · rw [Schema.compiled_of_none hn] at hr
      cases hr
      cases hd

end

/-! ## Closed resolvers -/

theorem Closed.resolve (h : r.Closed s) (age : Nat) (name : String) : (r.resolve s age name).resolver.Closed s := by
  obtain ⟨e, -, hr⟩ | ⟨hk, ⟨b, hb, hr⟩ | ⟨e, b, hb, hr⟩⟩ := resolve_cases s r age name
  · rw [hr]
    exact h
  · rw [hr]
    intro p hp rules hrules d hd ht
    obtain hp | ⟨rules', hmem, hp⟩ := mem_publish hp
    · obtain ⟨known, origin, hl⟩ := h p hp rules hrules d hd ht
      exact ⟨known, origin, lookup_publish hl⟩
    · rw [hp] at hrules
      cases hrules
      exact knows_publish_of_covers hb ((Building.covers_of_built hb).2 _ hmem d hd) ht
  · rw [hr]
    intro p hp rules hrules d hd ht
    obtain hp | ⟨origin, -, rfl⟩ := mem_publishError hp
    · obtain ⟨known, origin, hl⟩ := h p hp rules hrules d hd ht
      have hne : d ≠ name := by
        rintro rfl
        rw [hk] at hl
        cases hl
      exact ⟨known, origin, by rw [lookup_publishError e hne, hl]⟩
    · cases hrules

theorem closed_after (s : Schema) (calls : List Call) (h : ∀ n, .invalidate (some n) ∉ calls) :
    (after s calls).Closed s := by
  apply after_induction
  · intro p hp
    cases hp
  · intro age name _ r h
    exact h.resolve age name
  · intro name hc r _
    cases name with
    | none =>
      intro p hp
      cases hp
    | some n => exact absurd hc (h n)

/-! ## Publication -/

theorem Knows.contains {name : String} : r.Knows name → r.contains name = true := by
  rintro ⟨rules, origin, hl⟩
  unfold Resolver.contains
  rw [hl]
  rfl

theorem RefusalsOnly.entries_of_error (h : r.RefusalsOnly) {age : Nat} {name : String} {b : Building} {e : BuildError}
    (hk : r.entries.lookup name = none)
    (hb : ({} : Building).complete s r.entries r.generation age [name] = (.error e, b)) :
    (e.failure.isRefusal = true →
      (∃ origin, (r.publishError name e).entries.lookup name = some ⟨.error e.failure, origin⟩) ∧
        ∀ n, n ≠ name → (r.publishError name e).entries.lookup n = r.entries.lookup n) ∧
    (e.failure.isRefusal = false → (r.publishError name e).entries = r.entries) := by
  have horigin := h.origin_isSome hb
  constructor
  · intro hf
    rw [hf] at horigin
    obtain ⟨origin, ho⟩ := Option.isSome_iff_exists.1 horigin
    exact ⟨⟨origin, lookup_publishError_self hk ho⟩, fun n hn => lookup_publishError e hn⟩
  · intro hf
    rw [hf, Option.isSome_eq_false_iff, Option.isNone_iff_eq_none] at horigin
    rw [publishError_entries, horigin]
    exact List.append_nil _

theorem entries_of_ok {age : Nat} {name : String} {b : Building} (ht : (s.message? name).isSome = true)
    (hb : ({} : Building).complete s r.entries r.generation age [name] = (.ok (), b)) :
    (∀ n e, r.entries.lookup n = some e → (r.publish b).entries.lookup n = some e) ∧
    (∀ n e, r.entries.lookup n = none → (r.publish b).entries.lookup n = some e →
      s.Below name n ∧ e.content = s.compiled n ∧ s.Compiles n) ∧
    (r.publish b).Knows name ∧
    (r.entries = [] → ∀ n, (r.publish b).contains n = true ↔ s.Below name n ∧ (s.message? n).isSome = true) := by
  refine ⟨fun n e hn => lookup_publish hn, ?_, knows_publish_of_covers hb (Building.covers_of_built hb).1 ht, ?_⟩
  · intro n e hk hn
    obtain ⟨rules, he, ha⟩ := added_of_lookup hb hk hn
    exact ⟨ha.under.below, by rw [he, ha.compiled], ⟨rules, ha.compiled⟩⟩
  · intro hempty n
    constructor
    · intro hn
      obtain ⟨e, hl⟩ := Option.isSome_iff_exists.1 hn
      obtain ⟨rules, -, ha⟩ := added_of_lookup hb (by rw [hempty]; rfl) hl
      exact ⟨ha.under.below, ha.named⟩
    · rintro ⟨hn, hm⟩
      have hcovers : Building.Covers s r.entries b n := by
        rw [hempty] at hb ⊢
        exact covers_of_below hb hn
      exact (knows_publish_of_covers hb hcovers hm).contains

/-- Resolving a type that a resolver does not have, in any state that calls lead to. A refusal is remembered for the
type and for nothing else; after another failure all is as before; with rules, all entries stay, only types below
are added, each with what it compiles to on its own, and the type is there. If there was nothing before, exactly the
types below are there. Unless single types are forgotten, whatever the messages of a type with rules may contain has
rules too. -/
theorem publication (s : Schema) (calls : List Call) :
    let r := after s calls
    (∀ age name, (s.message? name).isSome = true → r.contains name = false →
      let resolved := r.resolve s age name
      let entries := resolved.resolver.entries
      (∀ f, resolved.outcome = .error f → f.isRefusal = true →
        (∃ origin, entries.lookup name = some ⟨.error f, origin⟩) ∧
          ∀ n, n ≠ name → entries.lookup n = r.entries.lookup n) ∧
      (∀ f, resolved.outcome = .error f → f.isRefusal = false → entries = r.entries) ∧
      ∀ rules, resolved.outcome = .ok rules →
        (∀ n e, r.entries.lookup n = some e → entries.lookup n = some e) ∧
        (∀ n e, r.entries.lookup n = none → entries.lookup n = some e →
          s.Below name n ∧ e.content = s.compiled n ∧ s.Compiles n) ∧
        resolved.resolver.Knows name ∧
        (r.entries = [] → ∀ n, resolved.resolver.contains n = true ↔
          s.Below name n ∧ (s.message? n).isSome = true)) ∧
    ((∀ n, .invalidate (some n) ∉ calls) → ∀ n rules origin, r.entries.lookup n = some ⟨.ok rules, origin⟩ →
      ∀ d ∈ rules.dependencies, (s.message? d).isSome = true → r.Knows d) := by
  intro r
  constructor
  · intro age name ht hnew
    have hk : r.entries.lookup name = none := contains_eq_false.1 hnew
    have hrefusals : r.RefusalsOnly := refusalsOnly_after s calls
    obtain ⟨e, he, -⟩ | ⟨-, ⟨b, hb, hr⟩ | ⟨e, b, hb, hr⟩⟩ := resolve_cases s r age name
    · rw [hk] at he
      cases he
    · rw [hr]
      refine ⟨?_, ?_, ?_⟩
      · rintro f ⟨⟩
      · rintro f ⟨⟩
      · intro rules _
        exact entries_of_ok ht hb
    · rw [hr]
      obtain ⟨hrefused, hfault⟩ := hrefusals.entries_of_error hk hb
      refine ⟨?_, ?_, ?_⟩
      · rintro f ⟨⟩ hf
        exact hrefused hf
      · rintro f ⟨⟩ hf
        exact hfault hf
      · rintro rules ⟨⟩
  · intro hcalls n rules origin hn
    exact closed_after s calls hcalls (n, _) (mem_of_lookup hn) rules rfl

end Resolver
end Conformance
