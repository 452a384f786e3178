import Conformance.Proofs.Constraint.Declared
import Conformance.Proofs.Constraint.Typed

/-!
# Identifiers of checks

The checks of typed rules have different identifiers where no rule is set twice: each is that of a rule, but for the check
of a range, which takes the place of the lower bound and has a name that no rule has.
-/

namespace Conformance

open Rule Compile

namespace Rule

/-- The name of the check of a range. -/
def rangeName (lower : Lower) (upper : Upper) (outside : Bool) : String :=
  lower.name ++ "_" ++ upper.name ++ if outside then "_exclusive" else ""

theorem rangeName_notMem (lower : Lower) (upper : Upper) (outside : Bool) :
    rangeName lower upper outside ∉ standard.map (·.name) := by
  cases lower <;> cases upper <;> cases outside <;> decide

end Rule

namespace Compile

section
variable {s : Schema} {place kind : String} {type : FieldType} {range : Option ((Lower × Value) × (Upper × Value))}
  {rules : List Active} {cs : List Check} {lower : Lower} {upper : Upper} {low high : Value} {c : Check}

theorem rangeCheck_ruleId (h : rangeCheck kind lower upper low high = .ok c) :
    ∃ outside, c.ruleId = kind ++ "." ++ rangeName lower upper outside := by
  unfold rangeCheck at h
  cases ho : high.related .lt low with
  | error f => rw [ho] at h; cases h
  | ok outside =>
    cases hl : low.render with
    | error f => rw [ho, hl] at h; cases h
    | ok lowText =>
      cases hh : high.render with
      | error f => rw [ho, hl, hh] at h; cases h
      | ok highText =>
        rw [ho, hl, hh] at h
        cases h
        refine ⟨outside, ?_⟩
        dsimp only
        simp only [rangeName, String.append_assoc]

theorem standardCheck_ruleId {a : Active} (h : (standardCheck s place type a).outcome = .ok c) :
    c.ruleId = a.rule.kind ++ "." ++ a.rule.name := by
  obtain ⟨text, -, ⟨_, _, _, _, rfl⟩ | ⟨_, _, _, _, rfl⟩⟩ := standardCheck_eq_ok.1 h <;> rfl

/-- The names that the checks of active rules may have: those of the rules, and that of the range if its lower bound is
among them. -/
def NamedBy (range : Option ((Lower × Value) × (Upper × Value))) (rules : List Active) (name : String) : Prop :=
  name ∈ rules.map (·.rule.name) ∨ ∃ lower low upper high outside, range = some ((lower, low), (upper, high)) ∧
    lower.name ∈ rules.map (·.rule.name) ∧ name = rangeName lower upper outside

theorem NamedBy.cons {name : String} (h : NamedBy range rules name) (a : Active) : NamedBy range (a :: rules) name := by
  obtain h | ⟨lower, low, upper, high, outside, hrange, hmem, rfl⟩ := h
  · exact .inl (List.mem_cons_of_mem _ h)
  · exact .inr ⟨lower, low, upper, high, outside, hrange, List.mem_cons_of_mem _ hmem, rfl⟩

theorem standardChecks_named (h : (standardChecks s place kind type range rules).outcome = .ok cs)
    (hkind : ∀ a ∈ rules, a.rule.kind = kind) :
    ∀ c ∈ cs, ∃ name, c.ruleId = kind ++ "." ++ name ∧ NamedBy range rules name := by
  induction rules generalizing cs with
  | nil =>
    cases h
    exact fun c hc => absurd hc List.not_mem_nil
  | cons a rules ih =>
    obtain ⟨ha, hrules⟩ := List.forall_mem_cons.1 hkind
    have hrest {rest : List Check} (hcs : (standardChecks s place kind type range rules).outcome = .ok rest) :
        ∀ c ∈ rest, ∃ name, c.ruleId = kind ++ "." ++ name ∧ NamedBy range (a :: rules) name := by
      intro c hc
      obtain ⟨name, hid, hname⟩ := ih hcs hrules c hc
      exact ⟨name, hid, hname.cons a⟩
    obtain ⟨-, c, rest, hc, hcs, rfl⟩ | ⟨lower, low, upper, high, hrange, hends⟩ := standardChecks_cons.1 h
    · refine List.forall_mem_cons.2 ⟨⟨a.rule.name, ?_, .inl List.mem_cons_self⟩, hrest hcs⟩
      rw [standardCheck_ruleId hc, ha]
    · obtain ⟨hl, c, rest, hc, hcs, rfl⟩ | ⟨-, -, hcs⟩ := hends
      · obtain ⟨outside, hid⟩ := rangeCheck_ruleId hc
        refine List.forall_mem_cons.2 ⟨⟨_, hid, .inr ⟨lower, low, upper, high, outside, hrange, ?_, rfl⟩⟩, hrest hcs⟩
        rw [List.map_cons, hl]
        exact List.mem_cons_self
      · exact hrest hcs

/-- The checks of rules with different names have different identifiers. -/
theorem standardChecks_nodup (h : (standardChecks s place kind type range rules).outcome = .ok cs)
    (hkind : ∀ a ∈ rules, a.rule.kind = kind) (hmem : ∀ a ∈ rules, a.rule ∈ standard)
    (hnodup : (rules.map (·.rule.name)).Nodup) : (cs.map (·.ruleId)).Nodup := by
  induction rules generalizing cs with
  | nil =>
    cases h
    exact List.nodup_nil
  | cons a rules ih =>
    obtain ⟨ha, hrules⟩ := List.forall_mem_cons.1 hkind
    obtain ⟨hstandard, hothers⟩ := List.forall_mem_cons.1 hmem
    rw [List.map_cons, List.nodup_cons] at hnodup
    -- The name of the first check is not among those of the rest.
    have hcons {c : Check} {rest : List Check} {name : String} (hid : c.ruleId = kind ++ "." ++ name)
        (hcs : (standardChecks s place kind type range rules).outcome = .ok rest) (hfree : ¬NamedBy range rules name) :
        ((c :: rest).map (·.ruleId)).Nodup := by
      rw [List.map_cons, List.nodup_cons]
      refine ⟨fun hc => ?_, ih hcs hrules hothers hnodup.2⟩
      obtain ⟨d, hd, heq⟩ := List.mem_map.1 hc
      obtain ⟨other, hother, hnamed⟩ := standardChecks_named hcs hrules d hd
      rw [hid, hother] at heq
      exact hfree ((String.append_right_inj _).1 heq ▸ hnamed)
    have hname {b : Active} (hb : b.rule ∈ standard) (lower : Lower) (upper : Upper) (outside : Bool) :
        b.rule.name ≠ rangeName lower upper outside :=
      fun heq => rangeName_notMem lower upper outside (heq ▸ List.mem_map_of_mem hb)
    obtain ⟨-, c, rest, hc, hcs, rfl⟩ | ⟨lower, low, upper, high, hrange, hends⟩ := standardChecks_cons.1 h
    · refine hcons (by rw [standardCheck_ruleId hc, ha]) hcs ?_
      rintro (hamong | ⟨lower, low, upper, high, outside, -, -, heq⟩)
      · exact hnodup.1 hamong
      · exact hname hstandard lower upper outside heq
    · obtain ⟨hl, c, rest, hc, hcs, rfl⟩ | ⟨-, -, hcs⟩ := hends
      · obtain ⟨outside, hid⟩ := rangeCheck_ruleId hc
        refine hcons hid hcs ?_
        rintro (hamong | ⟨lower', low', upper', high', outside', hrange', hbound, -⟩)
        · obtain ⟨b, hb, heq⟩ := List.mem_map.1 hamong
          exact hname (hothers b hb) lower upper outside heq
        · rw [hrange] at hrange'
          cases hrange'
          exact hnodup.1 (hl ▸ hbound)
      · exact ih hcs hrules hothers hnodup.2

end
end Compile

/-! ## Declared rules -/

/-- No rule is set twice. -/
def TypedRules.SetsOnce (t : TypedRules) : Prop := (t.settings.map (·.1)).Nodup

/-- No rule is set twice for a value. -/
def FieldConstraints.SetsOnce (c : FieldConstraints) : Prop := ∀ t ∈ c.typed, t.SetsOnce

variable {s : Schema} {place : String} {type : FieldType} {c : FieldConstraints}

theorem TypedRules.nodup_ruleIds {t : TypedRules} {cs : List Check} (ht : t.SetsOnce)
    (h : (typedChecks s place type t).outcome = .ok cs) : (cs.map (·.ruleId)).Nodup := by
  have hactive {a : Active} (ha : a ∈ t.active) : a.rule ∈ standard ∧ a.rule.kind = t.kind := by
    obtain ⟨e, -, he⟩ := List.mem_filterMap.1 ha
    obtain ⟨hmem, hkind, -⟩ := standard?_eq_some (active?_eq_some he).1
    exact ⟨hmem, hkind⟩
  refine standardChecks_nodup (typedChecks_eq_ok.1 h).2.2 (fun a ha => (hactive ha).2) (fun a ha => (hactive ha).1) ?_
  unfold SetsOnce at ht
  rw [List.nodup_iff_pairwise_ne, List.pairwise_map] at ht
  rw [List.nodup_iff_pairwise_ne, List.pairwise_map]
  refine List.pairwise_filterMap.2 (ht.imp fun {e e'} hne a ha b hb heq => hne ?_)
  rw [← (standard?_eq_some (active?_eq_some ha).1).2.2, ← (standard?_eq_some (active?_eq_some hb).1).2.2, heq]

theorem FieldConstraints.nodup_standard (hc : c.SetsOnce) :
    ((c.standard s place type).map (·.ruleId)).Nodup := by
  unfold standard TypedRules.checks
  cases ht : c.typed with
  | none => exact List.nodup_nil
  | some t =>
    rw [Option.map_some, Option.getD_some]
    cases hcs : (typedChecks s place type t).outcome with
    | error f => exact List.nodup_nil
    | ok cs => exact TypedRules.nodup_ruleIds (hc t ht) hcs

end Conformance
