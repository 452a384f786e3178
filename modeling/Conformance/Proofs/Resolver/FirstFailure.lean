import Conformance.Proofs.Resolver.Calls

/-!
# The failure that is met first

A type that does not resolve fails with what a search through the types below meets first, going down before going on
and not twice into the same type. What a resolver was asked before changes nothing about that, unless it was asked
for a type on a cycle that the search can enter elsewhere: a search from there takes the types of the cycle in another
order.
-/

namespace Conformance

namespace Schema

/-- Reached without passing a type that is avoided. -/
def Around (s : Schema) (avoided name other : String) : Prop :=
  name ≠ avoided ∧ Relation.ReflTransGen (fun n d => s.Depends n d ∧ d ≠ avoided) name other

/-- A type that does not resolve is on a cycle, and from the root the cycle can be entered elsewhere: resolving the
type may change what the root fails with. -/
def Entangled (s : Schema) (root name : String) : Prop :=
  ¬s.Resolves name ∧ ∃ other, s.Around name root other ∧ s.Below name other ∧ s.Below other name

namespace Around

variable {s : Schema} {avoided name other n : String}

theorem refl (h : name ≠ avoided) : s.Around avoided name name := ⟨h, .refl⟩

theorem head (hn : name ≠ avoided) (hd : s.Depends name other) (h : s.Around avoided other n) :
    s.Around avoided name n := ⟨hn, .head ⟨hd, h.1⟩ h.2⟩

theorem tail (h : s.Around avoided name other) (hd : s.Depends other n) (hn : n ≠ avoided) :
    s.Around avoided name n := ⟨h.1, h.2.tail ⟨hd, hn⟩⟩

theorem trans (h : s.Around avoided name other) (h' : s.Around avoided other n) : s.Around avoided name n :=
  ⟨h.1, h.2.trans h'.2⟩

/-- A type below is reached around another type, or the other type lies before it and is reached around it. -/
theorem of_below (h : s.Below name other) (hne : other ≠ n) :
    s.Around n name other ∨ s.Around other name n ∧ s.Below n other := by
  induction h using Relation.ReflTransGen.head_induction_on with
  | refl => exact .inl (.refl hne)
  | @head name d hd hb ih =>
    by_cases hn : name = n
    · subst hn
      exact .inr ⟨.refl hne.symm, .step hd hb⟩
    · by_cases ho : name = other
      · subst ho
        exact .inl (.refl hne)
      · exact ih.imp (.head hn hd) fun h => ⟨.head ho hd h.1, h.2⟩

end Around

variable {s : Schema} {seen seen' : String → Prop} {name n : String} {due rest : List String} {rules : TypeRules}
  {f g : Failure}

/-- What a search through the types that are due fails with, when some types were seen before. Types that resolve
have no part in it. -/
inductive Meets (s : Schema) : (String → Prop) → List String → Failure → Prop
  | skip {seen : String → Prop} {name : String} {rest : List String} {f : Failure} :
    seen name ∨ s.Resolves name → Meets s seen rest f → Meets s seen (name :: rest) f
  | here {seen : String → Prop} {name : String} {rest : List String} {f : Failure} :
    ¬seen name → s.compiled name = .error f → Meets s seen (name :: rest) f
  | into {seen : String → Prop} {name : String} {rest : List String} {f : Failure} {rules : TypeRules} :
    ¬seen name → ¬s.Resolves name → s.compiled name = .ok rules →
      Meets s (fun n => n = name ∨ seen n) (rules.dependencies ++ rest) f → Meets s seen (name :: rest) f

theorem not_resolves_of_error (h : s.compiled name = .error f) : ¬s.Resolves name :=
  fun hr => hr.not_failsBelow f ⟨name, .refl s name, h⟩

namespace Meets

theorem unique (h : s.Meets seen due f) (h' : s.Meets seen due g) : f = g := by
  induction h with
  | skip hs _ ih =>
    cases h' with
    | skip _ h' => exact ih h'
    | here hn hc => exact absurd hs (not_or.2 ⟨hn, not_resolves_of_error hc⟩)
    | into hn hr => exact absurd hs (not_or.2 ⟨hn, hr⟩)
  | here hn hc =>
    cases h' with
    | skip hs => exact absurd hs (not_or.2 ⟨hn, not_resolves_of_error hc⟩)
    | here _ hc' =>
      rw [hc] at hc'
      cases hc'
      rfl
    | into _ _ hc' =>
      rw [hc] at hc'
      cases hc'
  | into hn hr hc _ ih =>
    cases h' with
    | skip hs => exact absurd hs (not_or.2 ⟨hn, hr⟩)
    | here _ hc' =>
      rw [hc] at hc'
      cases hc'
    | into _ _ hc' h' =>
      rw [hc] at hc'
      cases hc'
      exact ih h'

/-- It only matters which of the types below were seen, of those that do not resolve. -/
theorem congr (h : s.Meets seen due f) (hs : ∀ n, s.Under due n → ¬s.Resolves n → (seen n ↔ seen' n)) :
    s.Meets seen' due f := by
  induction h generalizing seen' with
  | @skip seen name rest f hn _ ih =>
    refine .skip ?_ (ih fun n hu => hs n hu.cons)
    by_cases hr : s.Resolves name
    · exact .inr hr
    · exact .inl ((hs name (.head rest name) hr).1 (hn.resolve_right hr))
  | @here seen name rest f hn hc =>
    exact .here (fun hn' => hn ((hs name (.head rest name) (not_resolves_of_error hc)).2 hn')) hc
  | @into seen name rest f rules hn hr hc _ ih =>
    refine .into (fun hn' => hn ((hs name (.head rest name) hr).2 hn')) hr hc (ih ?_)
    intro n hu hrn
    exact or_congr_right (hs n (hu.expand hc) hrn)

theorem append (h : s.Meets seen due f) (more : List String) : s.Meets seen (due ++ more) f := by
  induction h with
  | skip hn _ ih => exact .skip hn ih
  | here hn hc => exact .here hn hc
  | into hn hr hc _ ih =>
    rw [List.append_assoc] at ih
    exact .into hn hr hc ih

theorem of_append : ∀ {resolved : List String}, (∀ n ∈ resolved, s.Resolves n) →
    s.Meets seen (resolved ++ rest) f → s.Meets seen rest f
  | [], _, h => h
  | name :: resolved, hr, h => by
    have hname := hr name List.mem_cons_self
    have hrest : ∀ n ∈ resolved, s.Resolves n := fun n hn => hr n (List.mem_cons_of_mem _ hn)
    cases h with
    | skip _ h => exact of_append hrest h
    | here _ hc => exact absurd hname (not_resolves_of_error hc)
    | into _ hn => exact absurd hname hn

end Meets
end Schema

/-! ## What is still to be done -/

namespace Building

variable {s : Schema} {b : Building} {name : String} {rest : List String} {rules : TypeRules}
  {programs : List ProgramKey}

/-- For each type that was built, the types it depends on are built or resolve or come first of what is due, with
nothing before them but types below. -/
def Pending (s : Schema) (b : Building) (due : List String) : Prop :=
  ∀ v, b.has v = true → ∃ pre post, due = pre ++ post ∧ (∀ x ∈ pre, s.Below v x) ∧
    ∀ d, s.Depends v d → b.has d = true ∨ s.Resolves d ∨ d ∈ pre

theorem pending_empty (s : Schema) (due : List String) : Pending s {} due := by
  intro v hv
  cases hv

theorem Pending.skip (h : Pending s b (name :: rest)) (hn : b.has name = true ∨ s.Resolves name) :
    Pending s b rest := by
  intro v hv
  obtain ⟨_ | ⟨x, pre⟩, post, he, hpre, hdeps⟩ := h v hv
  · refine ⟨[], rest, rfl, by simp, ?_⟩
    intro d hd
    simpa using hdeps d hd
  · cases he
    refine ⟨pre, post, rfl, fun x hx => hpre x (List.mem_cons_of_mem _ hx), ?_⟩
    intro d hd
    obtain hd | hd | hd := hdeps d hd
    · exact .inl hd
    · exact .inr (.inl hd)
    · rcases List.mem_cons.1 hd with rfl | hd
      · exact hn.imp_right .inl
      · exact .inr (.inr hd)

theorem Pending.add (h : Pending s b (name :: rest)) (hc : s.compiled name = .ok rules) :
    Pending s (b.add name rules programs) (rules.dependencies ++ rest) := by
  have hold : ∀ n, b.has n = true → (b.add name rules programs).has n = true := by
    intro n hn
    rw [has_add, hn, Bool.or_true]
  have hnew : (b.add name rules programs).has name = true := by simp [has_add]
  intro v hv
  by_cases hvn : v = name
  · subst hvn
    refine ⟨rules.dependencies, rest, rfl, ?_, ?_⟩
    · intro x hx
      exact .single ⟨rules, hc, hx⟩
    · rintro d ⟨rules', hc', hd⟩
      cases hc.symm.trans hc'
      exact .inr (.inr hd)
  · have hv : b.has v = true := by simpa [has_add, hvn] using hv
    obtain ⟨_ | ⟨x, pre⟩, post, he, hpre, hdeps⟩ := h v hv
    · refine ⟨[], _, rfl, by simp, ?_⟩
      intro d hd
      exact (hdeps d hd).imp_left (hold d)
    · cases he
      refine ⟨rules.dependencies ++ pre, post, (List.append_assoc _ _ _).symm, ?_, ?_⟩
      · intro x hx
        rcases List.mem_append.1 hx with hx | hx
        · exact (hpre name List.mem_cons_self).tail ⟨rules, hc, hx⟩
        · exact hpre x (List.mem_cons_of_mem _ hx)
      · intro d hd
        obtain hd | hd | hd := hdeps d hd
        · exact .inl (hold d hd)
        · exact .inr (.inl hd)
        · rcases List.mem_cons.1 hd with rfl | hd
          · exact .inl hnew
          · exact .inr (.inr (List.mem_append_right _ hd))

/-- The types that are built or due were reached without passing any type that is not built. -/
def Entered (s : Schema) (root : String) (b : Building) (due : List String) : Prop :=
  ∀ n, b.has n = false → ∀ v, b.has v = true ∨ v ∈ due → v ≠ n → s.Around n root v

theorem entered_empty (s : Schema) (root : String) : Entered s root {} [root] := by
  intro n _ v hv hne
  obtain hv | hv := hv
  · cases hv
  · obtain rfl := List.mem_singleton.1 hv
    exact .refl hne

theorem Entered.skip {root : String} (h : Entered s root b (name :: rest)) : Entered s root b rest :=
  fun n hn v hv => h n hn v (hv.imp_right (List.mem_cons_of_mem _))

theorem Entered.add {root : String} (h : Entered s root b (name :: rest)) (hc : s.compiled name = .ok rules) :
    Entered s root (b.add name rules programs) (rules.dependencies ++ rest) := by
  intro n hn v hv hne
  simp only [has_add, Bool.or_eq_false_iff, beq_eq_false_iff_ne] at hn
  have hname : s.Around n root name := h n hn.2 name (.inr List.mem_cons_self) hn.1.symm
  obtain hv | hv := hv
  · simp only [has_add, Bool.or_eq_true, beq_iff_eq] at hv
    obtain rfl | hv := hv
    · exact hname
    · exact h n hn.2 v (.inl hv) hne
  · rcases List.mem_append.1 hv with hv | hv
    · exact hname.tail ⟨rules, hc, hv⟩ hne
    · exact h n hn.2 v (.inr (List.mem_cons_of_mem _ hv)) hne

/-- How far a search from the root has come. -/
structure Progress (s : Schema) (root : String) (b : Building) (due : List String) : Prop where
  compiles : ∀ v, b.has v = true → s.Compiles v
  pending : Pending s b due
  entered : Entered s root b due

namespace Progress

variable {root : String}

theorem start (s : Schema) (root : String) : Progress s root {} [root] := by
  refine ⟨?_, pending_empty s [root], entered_empty s root⟩
  intro v hv
  cases hv

theorem skip (h : Progress s root b (name :: rest)) (hn : b.has name = true ∨ s.Resolves name) :
    Progress s root b rest := ⟨h.compiles, h.pending.skip hn, h.entered.skip⟩

theorem add (h : Progress s root b (name :: rest)) (hc : s.compiled name = .ok rules) :
    Progress s root (b.add name rules programs) (rules.dependencies ++ rest) := by
  refine ⟨?_, h.pending.add hc, h.entered.add hc⟩
  intro v hv
  simp only [has_add, Bool.or_eq_true, beq_iff_eq] at hv
  obtain rfl | hv := hv
  · exact ⟨rules, hc⟩
  · exact h.compiles v hv

/-- The types below what is due next that were built already resolve, unless there is a cycle that was entered
elsewhere. For a built type that is not done yet has what is due next below it. -/
theorem resolves (h : Progress s root b (name :: rest)) (hnew : b.has name = false)
    (hname : ¬s.Entangled root name) {v : String} (hv : b.has v = true) (hb : s.Below name v) : s.Resolves v := by
  by_cases hr : s.Resolves name
  · exact hr.below hb
  refine Schema.resolves_of_closed (P := fun v => (b.has v = true ∧ s.Below name v) ∨ s.Resolves v) ?_ ?_
    (.inl ⟨hv, hb⟩)
  · rintro n (⟨hn, -⟩ | hn)
    · exact h.compiles n hn
    · exact hn n (.refl s n)
  · rintro n d (⟨hn, hbn⟩ | hn) hd
    · obtain ⟨_ | ⟨x, pre⟩, post, he, hpre, hdeps⟩ := h.pending n hn
      · obtain hd' | hd' | hd' := hdeps d hd
        · exact .inl ⟨hd', hbn.tail hd⟩
        · exact .inr hd'
        · cases hd'
      · cases he
        have hne : n ≠ name := by
          rintro rfl
          rw [hnew] at hn
          cases hn
        have haround : s.Around name root n := h.entered name hnew n (.inl hn) hne
        exact absurd ⟨hr, n, haround, hbn, hpre name List.mem_cons_self⟩ hname
    · exact .inr (hn.below (.single hd))

end Progress

/-- What is known of types: rules where they resolve, and else what searches from them meet, if they are not in the
way of a search from the root. -/
structure Known (s : Schema) (root : String) (known : List (String × Entry)) (due : List String) : Prop where
  resolves : ∀ n rules origin, known.lookup n = some ⟨.ok rules, origin⟩ → s.Resolves n
  meets : ∀ n f origin, known.lookup n = some ⟨.error f, origin⟩ → s.Under due n →
    ¬s.Entangled root n ∧ s.Meets (fun _ => False) [n] f

theorem Known.mono {root : String} {known : List (String × Entry)} {due due' : List String}
    (h : Known s root known due) (hdue : ∀ n, s.Under due' n → s.Under due n) : Known s root known due' :=
  { h with meets := fun n f origin hl hu => h.meets n f origin hl (hdue n hu) }

/-- A building that fails, fails as a search does that goes on from what is built and knows nothing else. -/
theorem meets_of_complete {root : String} {known : List (String × Entry)} {generation age : Nat} {due : List String}
    {e : BuildError} (hknown : Known s root known due) (hprogress : Progress s root b due)
    (h : (b.complete s known generation age due).1 = .error e) :
    s.Meets (fun n => b.has n = true) due e.failure := by
  fun_induction Building.complete s known generation age b due with
  | case1 b => cases h
  | case2 b name rest hb ih =>
    exact .skip (.inl hb) (ih (hknown.mono fun _ => .cons) (hprogress.skip (.inl hb)) h)
  | case3 b name rest hb f origin hk =>
    cases h
    have hnew : b.has name = false := by simpa using hb
    obtain ⟨hname, hmeets⟩ := hknown.meets name f origin hk (.head rest name)
    have hseen : s.Meets (fun n => b.has n = true) [name] f := by
      refine hmeets.congr ?_
      intro n hn hr
      refine iff_of_false id ?_
      intro hv
      exact hr (hprogress.resolves hnew hname hv hn.below)
    exact hseen.append rest
  | case4 b name rest hb rules origin hk ih =>
    have hr := hknown.resolves name rules origin hk
    exact .skip (.inr hr) (ih (hknown.mono fun _ => .cons) (hprogress.skip (.inr hr)) h)
  | case5 b name rest hb hk ht ih =>
    have hr : s.Resolves name := Schema.resolves_of_none ht
    exact .skip (.inr hr) (ih (hknown.mono fun _ => .cons) (hprogress.skip (.inr hr)) h)
  | case6 b name rest hb hk t ht c f hc =>
    cases h
    exact .here hb ((Schema.compiled_of_some ht).trans hc)
  | case7 b name rest hb hk t ht c rules hc ih =>
    have hcompiled : s.compiled name = .ok rules := (Schema.compiled_of_some ht).trans hc
    have hadd : ∀ n, (b.add name rules c.programs).has n = true ↔ n = name ∨ b.has n = true := by
      simp [has_add]
    have hmeets := ih (hknown.mono fun _ => .expand hcompiled) (hprogress.add hcompiled) h
    by_cases hr : s.Resolves name
    · have hdeps : ∀ d ∈ rules.dependencies, s.Resolves d :=
        fun d hd => hr.below (.single ⟨rules, hcompiled, hd⟩)
      refine .skip (.inr hr) ((hmeets.of_append hdeps).congr ?_)
      intro n _ hn
      rw [hadd]
      exact or_iff_right fun hname => hn (hname ▸ hr)
    · exact .into hb hr hcompiled (hmeets.congr fun n _ _ => hadd n)

end Building

/-! ## Resolvers -/

namespace Resolver

variable {s : Schema} {r r' : Resolver} {root : String}

/-- The errors that are remembered of a type and of those below are those that a search from them meets. -/
structure Original (s : Schema) (root : String) (r : Resolver) : Prop where
  faithful : r.Faithful s
  meets : ∀ p ∈ r.entries, ∀ f, p.2.content = .error f → s.Below root p.1 →
    ¬s.Entangled root p.1 ∧ s.Meets (fun _ => False) [p.1] f

theorem original_empty (s : Schema) (root : String) : Original s root {} := ⟨faithful_empty s, by simp⟩

/-- For a search from a type that is not in the way of the root, what is known is right. -/
theorem Original.known (h : r.Original s root) {name : String} (hb : s.Below root name)
    (hname : ¬s.Entangled root name) : Building.Known s name r.entries [name] := by
  constructor
  · intro n rules origin hl
    exact (h.faithful (n, _) (mem_of_lookup hl)).2
  · intro n f origin hl hn
    have hmem := mem_of_lookup hl
    obtain ⟨hroot, hmeets⟩ := h.meets (n, _) hmem f rfl (hb.trans hn.below)
    refine ⟨?_, hmeets⟩
    rintro ⟨hr, other, haround, hcycle⟩
    -- Either the cycle is entered elsewhere from the root too, or the way to the name leads through the other type.
    obtain hreach | ⟨hbefore, hback⟩ := Schema.Around.of_below hb haround.1
    · exact hroot ⟨hr, other, hreach.trans haround, hcycle⟩
    · exact hname ⟨fun hrn => hr (hrn.below hn.below), n, hbefore, hn.below, hback⟩

theorem Original.meets_of_built (h : r.Original s root) {generation age : Nat} {name : String} {b : Building}
    {e : BuildError} (hbelow : s.Below root name) (hname : ¬s.Entangled root name)
    (hb : ({} : Building).complete s r.entries generation age [name] = (.error e, b)) :
    s.Meets (fun _ => False) [name] e.failure := by
  have hmeets := Building.meets_of_complete (b := {}) (h.known hbelow hname) (.start s name) (congrArg Prod.fst hb)
  refine hmeets.congr ?_
  intro n _ _
  simp [Building.has]

theorem Original.meets_of_error (h : r.Original s root) {age : Nat} {f : Failure}
    (hf : (r.resolve s age root).outcome = .error f) : s.Meets (fun _ => False) [root] f := by
  have hroot : ¬s.Entangled root root := by
    rintro ⟨-, other, haround, -⟩
    exact haround.1 rfl
  obtain ⟨e, hk, hr⟩ | ⟨-, ⟨b, hb, hr⟩ | ⟨e, b, hb, hr⟩⟩ := resolve_cases s r age root
  · rw [hr] at hf
    exact (h.meets (root, e) (mem_of_lookup hk) f hf (.refl s root)).2
  · rw [hr] at hf
    cases hf
  · rw [hr] at hf
    cases hf
    exact h.meets_of_built (.refl s root) hroot hb

theorem Original.resolve (h : r.Original s root) (age : Nat) {name : String} (hname : ¬s.Entangled root name) :
    (r.resolve s age name).resolver.Original s root := by
  refine ⟨h.faithful.resolve age name, ?_⟩
  intro p hp f hf hb
  obtain hp | ⟨b, rules, -, -, hp⟩ | ⟨e, b, origin, hbuilt, -, rfl⟩ := mem_resolve hp
  · exact h.meets p hp f hf hb
  · rw [hp] at hf
    cases hf
  · cases hf
    exact ⟨hname, h.meets_of_built hb hname hbuilt⟩

theorem Original.invalidate (h : r.Original s root) (type : Option String) : (r.invalidate type).Original s root :=
  ⟨h.faithful.invalidate type, fun p hp => h.meets p (mem_invalidate hp)⟩

theorem Original.outcome_eq (h : r.Original s root) (h' : r'.Original s root) (age age' : Nat) :
    (r.resolve s age root).outcome = (r'.resolve s age' root).outcome := by
  have hg := h.faithful.gives age root
  have hg' := h'.faithful.gives age' root
  cases hx : (r.resolve s age root).outcome with
  | ok rules =>
    rw [hg.rules_eq hx]
    exact (hg'.eq_of_resolves (hg.resolves hx)).symm
  | error f =>
    cases hy : (r'.resolve s age' root).outcome with
    | ok rules => exact absurd (hg.failsBelow hx) ((hg'.resolves hy).not_failsBelow f)
    | error g => rw [(h.meets_of_error hx).unique (h'.meets_of_error hy)]

theorem original_after {calls : List Call} (h : ∀ age name, .resolve age name ∈ calls → ¬s.Entangled root name) :
    (after s calls).Original s root := by
  apply after_induction
  · exact original_empty s root
  · intro age name hc r hr
    exact hr.resolve age (h age name hc)
  · intro type _ r hr
    exact hr.invalidate type

theorem Reached.original (h : r.Reached s fun name => ¬s.Entangled root name) : r.Original s root := by
  obtain ⟨calls, hcalls, rfl⟩ := h
  apply original_after
  intro age name hc he
  obtain hn | hr := hcalls _ hc
  · exact hn he
  · exact he.1 hr

end Resolver
end Conformance
