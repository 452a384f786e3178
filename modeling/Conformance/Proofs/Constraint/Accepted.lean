import Conformance.Proofs.Constraint.Typed

/-!
# Accepted message types

Which declarations are well formed, told without a word about compilation, and that compilation accepts exactly
these.
-/

namespace Conformance

/-! ## Well-formed declarations -/

def CustomRule.Compiles (c : CustomRule) : Prop := ∃ p, Program.compile ⟨c.expression, Rule.customVariables⟩ = .ok p

/-- Typed rules of a kind are for values of a type: the kind is its own, or that of the scalar that it wraps. -/
inductive FieldType.Suits : FieldType → String → Prop
  | scalar (s : Scalar) : Suits (.scalar s) s.name
  | enum (name : String) : Suits (.enum name) "enum"
  | wrapper {name : String} {s : Scalar} : Schema.wrapped? name = some s → Suits (.message name) s.name
  | any : Suits (.message Schema.anyName) "any"
  | duration : Suits (.message Schema.durationName) "duration"
  | timestamp : Suits (.message Schema.timestampName) "timestamp"

/-- Lower and upper bounds of one length. -/
inductive Rule.LengthPair : String → String → String → Prop
  | characters : LengthPair "string" "min_len" "max_len"
  | encoded : LengthPair "string" "min_bytes" "max_bytes"
  | bytes : LengthPair "bytes" "min_len" "max_len"
  | items : LengthPair "repeated" "min_items" "max_items"
  | pairs : LengthPair "map" "min_pairs" "max_pairs"

namespace TypedRules

def number? (t : TypedRules) (name : String) : Option Int :=
  match t.settings.lookup name with
  | some (.single (.int n)) => some n
  | _ => none

/-- No lower bound of a length is greater than the upper one, and all patterns can be read. -/
structure WellFormed (t : TypedRules) : Prop where
  lengths : ∀ lower upper, Rule.LengthPair t.kind lower upper → ∀ low high, t.number? lower = some low →
    t.number? upper = some high → low ≤ high
  patterns : t.kind = "string" ∨ t.kind = "bytes" → ∀ p, ("pattern", .single (.text p)) ∈ t.settings →
    ∃ q, Pattern.ofText p = .ok q

end TypedRules

namespace FieldConstraints

/-- Constraints of a single value of a type. -/
structure WellFormedFor (c : FieldConstraints) (type : FieldType) : Prop where
  typed : ∀ t, c.typed = some t → type.Suits t.kind ∧ t.WellFormed
  custom : ∀ r ∈ c.custom, r.Compiles

/-- Constraints of the elements, keys or values of a collection. -/
structure WellFormedWithin (c : FieldConstraints) (type : FieldType) : Prop where
  optional : c.required = false
  forValue : c.WellFormedFor type

/-- Constraints of a whole collection. -/
structure WellFormedWhole (c : FieldConstraints) (kind : String) : Prop where
  typed : ∀ t, c.typed = some t → t.kind = kind ∧ t.WellFormed
  custom : ∀ r ∈ c.custom, r.Compiles

end FieldConstraints

def Field.WellFormed (f : Field) : Prop :=
  let c := f.constraints.getD {}
  match f.shape with
  | .singular => c.WellFormedFor f.type
  | .repeated => c.WellFormedWhole "repeated" ∧ (c.items.getD {}).WellFormedWithin f.type
  | .map key => c.WellFormedWhole "map" ∧ (c.keys.getD {}).WellFormedWithin (.scalar key) ∧
      (c.values.getD {}).WellFormedWithin f.type

/-- A message type that is disabled, or all of whose declarations are well formed. -/
def MessageType.WellFormed (t : MessageType) : Prop :=
  t.constraints.any (·.disabled) = true ∨
    (∀ c, t.constraints = some c → ∀ r ∈ c.custom, r.Compiles) ∧ ∀ f ∈ t.fields, f.WellFormed

/-- All constraints of the fields are read from options. -/
def MessageType.Declared (t : MessageType) : Prop := ∀ f ∈ t.fields, ∀ c, f.constraints = some c → c.Declared

/-- All times and spans in the constraints of the fields can be bound. -/
def MessageType.InTime (t : MessageType) : Prop := ∀ f ∈ t.fields, ∀ c, f.constraints = some c → c.InTime

namespace Compile

open Rule

/-! ## Kinds -/

theorem suits_iff {type : FieldType} {kind : String} : type.Suits kind ↔ (applies? kind type).isSome = true := by
  cases type with
  | scalar s =>
    by_cases h : s.name = kind
    · subst h
      simpa [applies?] using FieldType.Suits.scalar s
    · have hno : ¬(FieldType.scalar s).Suits kind := by
        rintro ⟨⟩
        exact h rfl
      simp [applies?, h, hno]
  | enum name =>
    by_cases h : kind = "enum"
    · subst h
      simpa [applies?] using FieldType.Suits.enum name
    · have hno : ¬(FieldType.enum name).Suits kind := by
        rintro ⟨⟩
        exact h rfl
      simp [applies?, h, hno]
  | message name =>
    constructor
    · intro h
      cases h with
      | wrapper hs => simp [applies?, hs]
      | any | duration | timestamp => decide
    · intro h
      -- The three other messages that have rules are no wrappers.
      by_cases hw : (Schema.wrapped? name).any (·.name == kind) = true
      · obtain ⟨s, hs, hname⟩ := (Option.any_eq_true _ _).1 hw
        rw [← beq_iff_eq.1 hname]
        exact .wrapper hs
      · have hmem : (name, kind) ∈ [(Schema.anyName, "any"), (Schema.durationName, "duration"),
            (Schema.timestampName, "timestamp")] := by
          by_contra hno
          simp [applies?, hw, hno] at h
        simp only [List.mem_cons, List.not_mem_nil, or_false, Prod.mk.injEq] at hmem
        rcases hmem with ⟨rfl, rfl⟩ | ⟨rfl, rfl⟩ | ⟨rfl, rfl⟩
        · exact .any
        · exact .duration
        · exact .timestamp

theorem domain_of_suits {type : FieldType} {kind : String} (h : type.Suits kind) :
    kindDomain kind = some type.unwrapped.domain ∧ (kind = "enum" → ∃ name, type.unwrapped = .enum name) := by
  have hscalar (s : Scalar) : kindDomain s.name = some s.domain ∧ s.name ≠ "enum" := by
    cases s <;> decide
  cases h with
  | scalar s => exact ⟨(hscalar s).1, fun h => absurd h (hscalar s).2⟩
  | enum name => exact ⟨rfl, fun _ => ⟨name, rfl⟩⟩
  | @wrapper name s hs =>
    have hunwrapped : (FieldType.message name).unwrapped = .scalar s := by simp [FieldType.unwrapped, hs]
    rw [hunwrapped]
    exact ⟨(hscalar s).1, fun h => absurd h (hscalar s).2⟩
  | any | duration | timestamp => exact ⟨by decide, fun h => absurd h (by decide)⟩

/-! ## Bounds of lengths -/

theorem mem_lengthBounds {kind lower upper : String} :
    (lower, upper) ∈ lengthBounds kind ↔ LengthPair kind lower upper := by
  constructor
  · intro h
    unfold lengthBounds at h
    split at h <;> simp only [List.mem_cons, List.not_mem_nil, or_false, Prod.mk.injEq] at h
    · rcases h with ⟨rfl, rfl⟩ | ⟨rfl, rfl⟩
      · exact .characters
      · exact .encoded
    · obtain ⟨rfl, rfl⟩ := h
      exact .bytes
    · obtain ⟨rfl, rfl⟩ := h
      exact .items
    · obtain ⟨rfl, rfl⟩ := h
      exact .pairs
  · intro h
    cases h <;> decide

theorem length_standard {kind lower upper : String} (h : LengthPair kind lower upper) {name : String}
    (hn : name = lower ∨ name = upper) :
    ∃ r, standard? kind name = some r ∧ r.flag = false ∧ r.domain = .int := by
  have hfound (name : String) (h : ((standard? kind name).any fun r => !r.flag && r.domain == .int) = true) :
      ∃ r, standard? kind name = some r ∧ r.flag = false ∧ r.domain = .int := by
    simpa [Option.any_eq_true] using h
  cases h <;> rcases hn with rfl | rfl <;> exact hfound _ (by decide +kernel)

theorem checkBounds_ok_iff {place kind : String} {rules : List Active} {bounds : List (String × String)} :
    (checkBounds place kind rules bounds).outcome = .ok () ↔ ∀ pair ∈ bounds, ∀ low high,
      paramOf? rules pair.1 = some low → paramOf? rules pair.2 = some high → low.related .gt high = .ok false := by
  induction bounds with
  | nil => exact ⟨fun _ pair h => absurd h List.not_mem_nil, fun _ => rfl⟩
  | cons pair rest ih =>
    obtain ⟨lower, upper⟩ := pair
    rw [List.forall_mem_cons, ← ih, checkBounds]
    split
    · next low high hl hh =>
      have hsteady (b : Bool) : Steady (if b then do
          refuse place (.crossedBounds kind lower (← lift low.render) upper (← lift high.render))
          else checkBounds place kind rules rest) := by
        split
        · exact steady_bind (steady_lift _) fun _ => steady_bind (steady_lift _) fun _ => steady_refuse place _
        · exact steady_checkBounds place kind rules rest
      rw [outcome_bind_eq_ok hsteady]
      constructor
      · rintro ⟨crossed, hr, h⟩
        cases crossed with
        -- Crossed bounds are refused, unless one of them cannot even be written.
        | true =>
          obtain ⟨_, _, h⟩ := (outcome_bind_eq_ok fun _ =>
            steady_bind (steady_lift _) fun _ => steady_refuse place _).1 h
          obtain ⟨_, _, h⟩ := (outcome_bind_eq_ok fun _ => steady_refuse place _).1 h
          cases h
        | false =>
          refine ⟨fun low' high' hl' hh' => ?_, h⟩
          rw [hl] at hl'
          rw [hh] at hh'
          cases hl'
          cases hh'
          exact outcome_lift.1 hr
      · rintro ⟨hordered, h⟩
        exact ⟨false, outcome_lift.2 (hordered low high hl hh), h⟩
    · next hno =>
      constructor
      · exact fun h => ⟨fun low high hl hh => absurd hh (hno low high hl), h⟩
      · exact fun h => h.2

end Compile

namespace TypedRules

open Compile Rule

variable {t : TypedRules} {s : Schema} {place : String} {type : FieldType}

theorem number?_eq_some {name : String} {n : Int} :
    t.number? name = some n ↔ t.settings.lookup name = some (.single (.int n)) := by
  unfold number?
  split
  · next m hm => simp [hm]
  · next hno => exact ⟨fun h => (by cases h), fun h => absurd h (hno n)⟩

theorem Declared.paramOf?_length (ht : t.Declared) (hbound : t.IsBound) {lower upper name : String}
    (hp : LengthPair t.kind lower upper) (hn : name = lower ∨ name = upper) (v : Value) :
    paramOf? t.active name = some v ↔ ∃ n, t.number? name = some n ∧ v = .int n := by
  obtain ⟨r, hr, hflag, hdomain⟩ := length_standard hp hn
  have heq : paramOf? t.active name = (t.settings.lookup name).bind fun c => (parameter c).toOption :=
    paramOf?_active hr hflag hbound
  constructor
  · intro h
    rw [heq] at h
    obtain ⟨c, hc, h⟩ := Option.bind_eq_some_iff.1 h
    cases hv : parameter c with
    | error f =>
      rw [hv] at h
      cases h
    | ok w =>
      rw [hv] at h
      cases h
      have hholds : Domain.int.Holds v := hdomain ▸ ht.parameter_holds (mem_of_lookup hc) hr hv
      cases hholds with
      | @int n _ =>
        have hint : c = .single (.int n) := parameter_eq_int.1 hv
        exact ⟨n, number?_eq_some.2 (by rw [hc, hint]), rfl⟩
  · rintro ⟨n, hn, rfl⟩
    rw [heq, number?_eq_some.1 hn, Option.bind_some, parameter_eq_int.2 rfl]
    rfl

theorem Declared.lengths_iff (ht : t.Declared) (hbound : t.IsBound) :
    (checkBounds place t.kind t.active (lengthBounds t.kind)).outcome = .ok () ↔
      ∀ lower upper, LengthPair t.kind lower upper → ∀ low high, t.number? lower = some low →
        t.number? upper = some high → low ≤ high := by
  have hrelated (low high : Int) : (Value.int low).related .gt (.int high) = .ok false ↔ low ≤ high := by
    have hcompare : (Value.int low).related .gt (.int high) = .ok (compare low high == .gt) := rfl
    rw [hcompare, Except.ok.injEq]
    simp [Int.compare_eq_gt]
  rw [checkBounds_ok_iff]
  constructor
  · intro h lower upper hp low high hl hh
    have hlow := (ht.paramOf?_length hbound hp (.inl rfl) (.int low)).2 ⟨low, hl, rfl⟩
    have hhigh := (ht.paramOf?_length hbound hp (.inr rfl) (.int high)).2 ⟨high, hh, rfl⟩
    exact (hrelated low high).1 (h _ (mem_lengthBounds.2 hp) _ _ hlow hhigh)
  · rintro h ⟨lower, upper⟩ hmem low high hl hh
    have hp := mem_lengthBounds.1 hmem
    obtain ⟨m, hm, rfl⟩ := (ht.paramOf?_length hbound hp (.inl rfl) low).1 hl
    obtain ⟨n, hn, rfl⟩ := (ht.paramOf?_length hbound hp (.inr rfl) high).1 hh
    exact (hrelated m n).2 (h lower upper hp m n hm hn)

/-! ## Patterns -/

theorem pattern_standard {kind : String} (hk : kind = "string" ∨ kind = "bytes") :
    ∃ r, standard? kind "pattern" = some r ∧ r.flag = false ∧ r.preparation = some .pattern := by
  rcases hk with rfl | rfl
  · exact ⟨_, rfl, rfl, rfl⟩
  · exact ⟨_, rfl, rfl, rfl⟩

theorem Declared.patterns_iff (ht : t.Declared) :
    (∀ a ∈ t.active, a.rule.preparation = some .pattern → ∀ p, a.param = .text p →
        ∃ q, Pattern.ofText p = .ok q) ↔
      (t.kind = "string" ∨ t.kind = "bytes" → ∀ p, ("pattern", .single (.text p)) ∈ t.settings →
        ∃ q, Pattern.ofText p = .ok q) := by
  constructor
  · intro h hk p hp
    obtain ⟨r, hr, hflag, hprep⟩ := pattern_standard hk
    have hactive : active? t.kind ("pattern", .single (.text p)) = some ⟨r, .text p⟩ := by
      simp [active?, hr, hflag, parameter_eq_text.2 rfl]
    exact h ⟨r, .text p⟩ (List.mem_filterMap.2 ⟨_, hp, hactive⟩) hprep p rfl
  · intro h a ha hprep p hp
    obtain ⟨hmem, hkind, -⟩ := ht.fits ha
    obtain ⟨hk, hname, -, -⟩ := standard_pattern a.rule hmem hprep
    obtain ⟨e, he, ha⟩ := List.mem_filterMap.1 ha
    obtain ⟨hr, hparam⟩ := active?_eq_some ha
    rw [hp, parameter_eq_text] at hparam
    have hpattern : e = ("pattern", .single (.text p)) := by
      rw [← hname, (standard?_eq_some hr).2.2, ← hparam]
    rw [hkind] at hk
    exact h hk p (hpattern ▸ he)

theorem Declared.checks_ok_iff_wellFormed (ht : t.Declared) (hbound : t.IsBound) {d : Domain}
    (hd : kindDomain t.kind = some d) (henum : t.kind = "enum" → ∃ name, type.unwrapped = .enum name) :
    (∃ cs, (typedChecks s place type t).outcome = .ok cs) ↔ t.WellFormed := by
  rw [ht.checks_ok_iff hbound hd henum, ht.lengths_iff hbound, ht.patterns_iff]
  exact ⟨fun h => ⟨h.1, h.2⟩, fun h => ⟨h.lengths, h.patterns⟩⟩

end TypedRules

/-! ## Fields and types -/

namespace Compile

open Rule

section
variable {α β : Type}

theorem ok_map_iff {x : Compile α} {g : α → β} :
    (∃ b, (do return g (← x) : Compile β).outcome = .ok b) ↔ ∃ a, x.outcome = .ok a := by
  have hmap (b : β) : (do return g (← x) : Compile β).outcome = .ok b ↔ ∃ a, x.outcome = .ok a ∧ b = g a :=
    outcome_step_eq_ok (fun _ => steady_pure _) fun _ => outcome_pure_eq_ok
  constructor
  · rintro ⟨b, hb⟩
    obtain ⟨a, ha, -⟩ := (hmap b).1 hb
    exact ⟨a, ha⟩
  · rintro ⟨a, ha⟩
    exact ⟨g a, (hmap _).2 ⟨a, ha, rfl⟩⟩

theorem ok_mapM_iff {f : α → Compile β} (hf : ∀ a, Steady (f a)) {as : List α} :
    (∃ bs, (as.mapM f).outcome = .ok bs) ↔ ∀ a ∈ as, ∃ b, (f a).outcome = .ok b := by
  induction as with
  | nil => exact ⟨fun _ a ha => absurd ha List.not_mem_nil, fun _ => ⟨[], rfl⟩⟩
  | cons a as ih =>
    have hcons (bs : List β) : ((a :: as).mapM f).outcome = .ok bs ↔
        ∃ b, (f a).outcome = .ok b ∧ ∃ rest, (as.mapM f).outcome = .ok rest ∧ bs = b :: rest := by
      rw [List.mapM_cons]
      refine outcome_step_eq_ok (fun b => steady_bind (steady_mapM hf as) fun bs => steady_pure _) fun _ => ?_
      exact outcome_step_eq_ok (fun _ => steady_pure _) fun _ => outcome_pure_eq_ok
    rw [List.forall_mem_cons, ← ih]
    constructor
    · rintro ⟨bs, hbs⟩
      obtain ⟨b, hb, rest, hrest, -⟩ := (hcons bs).1 hbs
      exact ⟨⟨b, hb⟩, rest, hrest⟩
    · rintro ⟨⟨b, hb⟩, rest, hrest⟩
      exact ⟨_, (hcons _).2 ⟨b, hb, rest, hrest, rfl⟩⟩

end

variable {s : Schema} {place : String} {type : FieldType} {c : FieldConstraints}

theorem custom_ok_iff {r : CustomRule} : (∃ check, (custom r).outcome = .ok check) ↔ r.Compiles := by
  unfold custom
  rw [ok_map_iff]
  simp only [outcome_program]
  rfl

theorem customs_ok_iff {rs : List CustomRule} :
    (∃ checks, (rs.mapM custom).outcome = .ok checks) ↔ ∀ r ∈ rs, r.Compiles := by
  simp only [ok_mapM_iff steady_custom, custom_ok_iff]

theorem typedChecks_ok_iff {t : TypedRules} (ht : t.Declared) (hbound : t.IsBound) (hs : type.Suits t.kind) :
    (∃ cs, (typedChecks s place type t).outcome = .ok cs) ↔ t.WellFormed := by
  obtain ⟨hd, henum⟩ := domain_of_suits hs
  exact ht.checks_ok_iff_wellFormed hbound hd henum

theorem valueChecks_ok_iff (hc : c.Declared) (hbound : ∀ t, c.typed = some t → t.IsBound) :
    (∃ checks, (valueChecks s place type c).outcome = .ok checks) ↔
      ∀ t, c.typed = some t → type.Suits t.kind ∧ t.WellFormed := by
  unfold valueChecks
  cases hct : c.typed with
  | none => exact ⟨fun _ t ht => (by cases ht), fun _ => ⟨_, rfl⟩⟩
  | some t =>
    simp only [Option.some.injEq, forall_eq']
    cases ha : applies? t.kind type with
    | none =>
      have hno : ¬type.Suits t.kind := fun h => by simpa [ha] using suits_iff.1 h
      exact ⟨fun ⟨_, h⟩ => (by cases h), fun h => absurd h.1 hno⟩
    | some isWrapper =>
      have hs : type.Suits t.kind := suits_iff.2 (by rw [ha]; rfl)
      dsimp only
      rw [ok_map_iff, typedChecks_ok_iff (hc.typed hct) (hbound t hct) hs]
      exact (and_iff_right hs).symm

theorem valueRules_ok_iff (hc : c.Declared) (hbound : ∀ t, c.typed = some t → t.IsBound) :
    (∃ r, (valueRules s place type c).outcome = .ok r) ↔ c.WellFormedFor type := by
  have hchecks : (∃ checks, (valueChecks s place type c).outcome = .ok checks) ↔
      ∀ t, c.typed = some t → type.Suits t.kind ∧ t.WellFormed := valueChecks_ok_iff hc hbound
  constructor
  · rintro ⟨r, hr⟩
    obtain ⟨checks, hv, customs, hcustoms, -⟩ := valueRules_eq_ok.1 hr
    exact ⟨hchecks.1 ⟨checks, hv⟩, customs_ok_iff.1 ⟨customs, hcustoms⟩⟩
  · intro h
    obtain ⟨checks, hv⟩ := hchecks.2 h.typed
    obtain ⟨customs, hcustoms⟩ := customs_ok_iff.2 h.custom
    exact ⟨_, valueRules_eq_ok.2 ⟨checks, hv, customs, hcustoms, rfl⟩⟩

theorem elementRules_ok_iff {c : Option FieldConstraints} (hc : (c.getD {}).Declared)
    (hbound : ∀ t, (c.getD {}).typed = some t → t.IsBound) :
    (∃ r, (elementRules s place type c).outcome = .ok r) ↔ (c.getD {}).WellFormedWithin type := by
  simp only [elementRules_eq_ok, exists_and_left]
  rw [valueRules_ok_iff hc hbound]
  exact ⟨fun h => ⟨h.1, h.2⟩, fun h => ⟨h.optional, h.forValue⟩⟩

theorem onlyOfKind_ok_iff {kind : String} {problem : String → SchemaProblem} :
    (∃ u, (onlyOfKind place kind problem c).outcome = .ok u) ↔ ∀ t, c.typed = some t → t.kind = kind := by
  unfold onlyOfKind
  cases c.typed with
  | none => exact ⟨fun _ t ht => (by cases ht), fun _ => ⟨_, rfl⟩⟩
  | some t =>
    simp only [Option.some.injEq, forall_eq']
    by_cases hk : t.kind = kind
    · simp only [hk, beq_self_eq_true, if_true, iff_true]
      exact ⟨_, rfl⟩
    · simp only [beq_eq_false_iff_ne.2 hk, Bool.false_eq_true, if_false, hk, iff_false]
      rintro ⟨_, h⟩
      cases h

theorem wholeChecks_ok_iff {name : String} (hc : c.Declared) (hbound : ∀ t, c.typed = some t → t.IsBound) {d : Domain}
    (hd : kindDomain name = some d) (hname : name ≠ "enum") (hk : ∀ t, c.typed = some t → t.kind = name) :
    (∃ checks, (wholeChecks s place type c).outcome = .ok checks) ↔ ∀ t, c.typed = some t → t.WellFormed := by
  unfold wholeChecks
  cases hct : c.typed with
  | none => exact ⟨fun _ t ht => (by cases ht), fun _ => ⟨_, rfl⟩⟩
  | some t =>
    have hkind := hk t hct
    have henum : t.kind = "enum" → ∃ n, type.unwrapped = .enum n := fun h => absurd (hkind.symm.trans h) hname
    simp only [Option.some.injEq, forall_eq']
    exact (hc.typed hct).checks_ok_iff_wellFormed (hbound t hct) (by rw [hkind]; exact hd) henum

theorem whole_ok_iff {kind : Kind} {name : String} {problem : String → SchemaProblem} (hc : c.Declared)
    (hbound : ∀ t, c.typed = some t → t.IsBound) {d : Domain} (hd : kindDomain name = some d) (hname : name ≠ "enum") :
    ((∃ u, (onlyOfKind place name problem c).outcome = .ok u) ∧
      ∃ r, (collectionRules s place kind type c).outcome = .ok r) ↔ c.WellFormedWhole name := by
  rw [onlyOfKind_ok_iff]
  constructor
  · rintro ⟨hk, r, hr⟩
    obtain ⟨checks, hw, customs, hcustoms, -⟩ := collectionRules_eq_ok.1 hr
    have hformed := (wholeChecks_ok_iff hc hbound hd hname hk).1 ⟨checks, hw⟩
    exact ⟨fun t ht => ⟨hk t ht, hformed t ht⟩, customs_ok_iff.1 ⟨customs, hcustoms⟩⟩
  · intro h
    have hk : ∀ t, c.typed = some t → t.kind = name := fun t ht => (h.typed t ht).1
    obtain ⟨checks, hw⟩ := (wholeChecks_ok_iff hc hbound hd hname hk).2 fun t ht => (h.typed t ht).2
    obtain ⟨customs, hcustoms⟩ := customs_ok_iff.2 h.custom
    exact ⟨hk, _, collectionRules_eq_ok.2 ⟨checks, hw, customs, hcustoms, rfl⟩⟩

theorem fieldRules_ok_iff {t : MessageType} {f : Field} (hf : ∀ c, f.constraints = some c → c.Declared)
    (htime : ∀ c, f.constraints = some c → c.InTime) :
    (∃ r, (fieldRules s t f).outcome = .ok r) ↔ f.WellFormed := by
  have hc : (f.constraints.getD {}).Declared := FieldConstraints.Declared.getD hf
  have hbound : (f.constraints.getD {}).InTime := by
    cases hfc : f.constraints with
    | none =>
      exact ⟨fun t h => (by cases h), fun t h => (by cases h), fun t h => (by cases h), fun t h => (by cases h)⟩
    | some c => exact htime c hfc
  have hown := fun t ht => (hbound.own t ht).isBound
  unfold Field.WellFormed
  cases hs : f.shape with
  | map key =>
    dsimp only
    rw [← whole_ok_iff (s := s) hc hown (d := .dict) rfl (by decide),
      ← elementRules_ok_iff (s := s) hc.keys fun t ht => (hbound.keys t ht).isBound,
      ← elementRules_ok_iff (s := s) hc.values fun t ht => (hbound.values t ht).isBound]
    simp only [fieldRules_map hs]
    constructor
    · rintro ⟨_, u, hu, whole, hw, keys, hk, values, hv, -⟩
      exact ⟨⟨⟨u, hu⟩, whole, hw⟩, ⟨keys, hk⟩, values, hv⟩
    · rintro ⟨⟨⟨u, hu⟩, whole, hw⟩, ⟨keys, hk⟩, values, hv⟩
      exact ⟨_, u, hu, whole, hw, keys, hk, values, hv, rfl⟩
  | «repeated» =>
    dsimp only
    rw [← whole_ok_iff (s := s) hc hown (d := .list) rfl (by decide),
      ← elementRules_ok_iff (s := s) hc.items fun t ht => (hbound.items t ht).isBound]
    simp only [fieldRules_repeated hs]
    constructor
    · rintro ⟨_, u, hu, whole, hw, items, hi, -⟩
      exact ⟨⟨⟨u, hu⟩, whole, hw⟩, items, hi⟩
    · rintro ⟨⟨⟨u, hu⟩, whole, hw⟩, items, hi⟩
      exact ⟨_, u, hu, whole, hw, items, hi, rfl⟩
  | singular =>
    dsimp only
    rw [← valueRules_ok_iff (s := s) hc hown]
    simp only [fieldRules_singular hs]
    constructor
    · rintro ⟨_, value, hv, -⟩
      exact ⟨value, hv⟩
    · rintro ⟨value, hv⟩
      exact ⟨_, value, hv, rfl⟩

theorem typeRules_ok_iff {t : MessageType} (ht : t.Declared) (htime : t.InTime) :
    (∃ r, (typeRules s t).outcome = .ok r) ↔ t.WellFormed := by
  unfold MessageType.WellFormed
  cases hd : t.constraints.any (·.disabled) with
  | true =>
    unfold typeRules
    rw [hd]
    exact ⟨fun _ => .inl rfl, fun _ => ⟨_, rfl⟩⟩
  | false =>
    have hcustom : (∀ r ∈ (t.constraints.map (·.custom)).getD [], r.Compiles) ↔
        ∀ c, t.constraints = some c → ∀ r ∈ c.custom, r.Compiles := by
      cases t.constraints <;> simp
    have hfields : (∃ fields, (t.fields.mapM (fieldRules s t)).outcome = .ok fields) ↔
        ∀ f ∈ t.fields, f.WellFormed := by
      rw [ok_mapM_iff (steady_fieldRules s t)]
      exact forall₂_congr fun f hf => fieldRules_ok_iff (ht f hf) (htime f hf)
    simp only [Bool.false_eq_true, false_or, typeRules_eq_ok hd]
    rw [← hfields, ← hcustom, ← customs_ok_iff]
    constructor
    · rintro ⟨_, checks, hc, fields, hf, -⟩
      exact ⟨⟨checks, hc⟩, fields, hf⟩
    · rintro ⟨⟨checks, hc⟩, fields, hf⟩
      exact ⟨_, checks, hc, fields, hf, rfl⟩

end Compile

namespace Sample

/-- Bounds of numbers may be crossed: they make up a range with a gap. -/
def gapOptions : Message :=
  .mk Layout.constraintsName [("int32", .single (.message (.mk (Layout.parametersName "int32")
    [("lt", .single (.int 5)), ("gt", .single (.int 10))])))]

def gap : MessageType :=
  ⟨"Gap", [⟨"n", 1, .scalar .int32, .singular, none, false, false, .int 0, some (.ofMessage gapOptions), nofun⟩], [],
    none⟩

def gaps : Schema := ⟨[gap], []⟩

theorem gapOptions_eq : FieldConstraints.ofMessage gapOptions =
    { typed := some ⟨"int32", [("lt", .single (.int 5)), ("gt", .single (.int 10))]⟩ } := by
  have hsorted : TypedRules.ofParameters "int32" (.mk (Layout.parametersName "int32")
      [("lt", .single (.int 5)), ("gt", .single (.int 10))]) =
      ⟨"int32", [("lt", .single (.int 5)), ("gt", .single (.int 10))]⟩ :=
    congrArg (TypedRules.mk "int32") (MessageType.inNumberOrder_of_pairwise (by decide +kernel))
  rw [← hsorted, FieldConstraints.ofMessage]
  rfl

theorem gap_declared : gap.Declared := by
  intro f hf c hc
  obtain rfl := List.mem_singleton.1 hf
  cases hc
  exact ⟨gapOptions, rfl, by unfold Message.Conforms; decide +kernel, rfl⟩

theorem gap_inTime : gap.InTime := by
  intro f hf c hc
  obtain rfl := List.mem_singleton.1 hf
  obtain rfl : FieldConstraints.ofMessage gapOptions = c := Option.some.inj hc
  rw [gapOptions_eq]
  refine ⟨fun t ht => ?_, fun t ht => (by cases ht), fun t ht => (by cases ht), fun t ht => (by cases ht)⟩
  cases ht
  intro e he
  simp only [List.mem_cons, List.not_mem_nil, or_false] at he
  rcases he with rfl | rfl <;> rfl

theorem gap_wellFormed : gap.WellFormed := by
  refine .inr ⟨fun c hc => (by cases hc), fun f hf => ?_⟩
  obtain rfl := List.mem_singleton.1 hf
  have hvalue : (FieldConstraints.ofMessage gapOptions).WellFormedFor (.scalar .int32) := by
    rw [gapOptions_eq]
    refine ⟨fun t ht => ?_, fun r hr => absurd hr List.not_mem_nil⟩
    cases ht
    exact ⟨.scalar .int32, fun _ _ h => absurd (Compile.mem_lengthBounds.2 h) List.not_mem_nil,
      fun h => absurd h (by decide)⟩
  exact hvalue

end Sample

end Conformance
