import Conformance.Constraint.Compiled
import Conformance.Validation.Walk

/-!
# Walks while rules may change

A walk asks for the rules of a type whenever it enters a message of it, and what it is told may be another thing
each time. Where the answers agree for the types that it can enter, it is the walk with rules that do not change.
-/

namespace Conformance.Walk

/-- Enters an inner message, and goes on with the rules of its type as they are by then: they may depend on the
number of messages that were entered before. -/
def descendLive (rulesAt : Nat → String → Except Failure TypeRules)
    (proceed : TypeRules → Message → Path → Walk Unit) : Descent := fun type inner path => do
  let n ← modifyGet fun st => (st.visited.length, { st with visited := st.visited ++ [type] })
  match rulesAt n type with
  | .ok rules => proceed rules inner path
  | .error f => throw (.failure f)

/-- Visits a message as `visit` does, with rules that may change on the way. -/
def visitLive (c : WalkContext) (rulesAt : Nat → String → Except Failure TypeRules) :
    (fuel depth : Nat) → TypeRules → Message → Path → Walk Unit
  | 0, _, r, _, path => throw (.failure (.depth (.exceeded r.type path c.maxDepth)))
  | fuel + 1, depth, r, m, path => do
    if capacity < depth then throw (.failure (.depth (.exhausted c.root c.maxDepth)))
    if r.disabled then return
    let descend := descendLive rulesAt (visitLive c rulesAt fuel (depth + 1))
    visitFields c descend m path r.fields
    visitOneofs c (c.schema.messageType r.type) m path r.oneofs
    runChecks c (.message m) path false r.rules

section
variable {c : WalkContext} {descend descend' : Descent} {m : Message} {path : Path}

theorem visitValue_congr {r : ValueRules}
    (h : ∀ type, r.nested = some type → descend type = descend' type) (d : Datum) (path : Path) (forKey : Bool) :
    visitValue c descend r d path forKey = visitValue c descend' r d path forKey := by
  have hinner : visitInner descend r.nested d path = visitInner descend' r.nested d path := by
    unfold visitInner
    split
    · next type m hn => rw [h type hn]
    · rfl
  unfold visitValue
  rw [hinner]

theorem visitItems_congr {r : ValueRules} (h : ∀ type, r.nested = some type → descend type = descend' type) :
    ∀ (i : Nat) (ds : List Datum), visitItems c descend r path i ds = visitItems c descend' r path i ds
  | _, [] => rfl
  | i, d :: ds => by
    unfold visitItems
    rw [visitValue_congr h, visitItems_congr h]

theorem visitEntries_congr {keys values : ValueRules}
    (hk : ∀ type, keys.nested = some type → descend type = descend' type)
    (hv : ∀ type, values.nested = some type → descend type = descend' type) :
    ∀ es : List (Datum × Datum),
      visitEntries c descend keys values path es = visitEntries c descend' keys values path es
  | [] => rfl
  | (k, v) :: es => by
    unfold visitEntries
    simp only [visitValue_congr hk, visitValue_congr hv, visitEntries_congr hk hv]

theorem visitField_congr {r : FieldRules} (h : ∀ type ∈ r.dependencies, descend type = descend' type) :
    visitField c descend m path r = visitField c descend' m path r := by
  have hmem : ∀ value type, some value ∈ [some r.value, r.items, r.keys, r.values] → value.nested = some type →
      descend type = descend' type := by
    intro value type hv hn
    apply h
    unfold FieldRules.dependencies
    rw [List.mem_filterMap]
    exact ⟨value, List.mem_filterMap.2 ⟨some value, hv, rfl⟩, hn⟩
  have hheld : ∀ path, visitHeld c descend m path r = visitHeld c descend' m path r := by
    intro path
    unfold visitHeld
    cases r.field.shape with
    | singular => exact visitValue_congr (fun type => hmem r.value type (by simp)) _ path false
    | repeated =>
      cases hi : r.items with
      | none => rfl
      | some items => simp only [visitItems_congr fun type => hmem items type (by simp [hi])]
    | map key =>
      cases hk : r.keys with
      | none => rfl
      | some keys =>
        cases hv : r.values with
        | none => rfl
        | some values =>
          have hkeys := fun type => hmem keys type (by simp [hk])
          have hvalues := fun type => hmem values type (by simp [hv])
          simp only [visitEntries_congr hkeys hvalues]
  unfold visitField
  simp only [hheld]

theorem visitFields_congr : ∀ {rs : List FieldRules},
    (∀ type ∈ rs.flatMap (·.dependencies), descend type = descend' type) →
      visitFields c descend m path rs = visitFields c descend' m path rs
  | [], _ => rfl
  | r :: rs, h => by
    unfold visitFields
    rw [visitField_congr fun type ht => h type (List.mem_append_left _ ht),
      visitFields_congr fun type ht => h type (List.mem_append_right _ ht)]

end

theorem visit_succ (c : WalkContext) (fuel depth : Nat) (r : TypeRules) (m : Message) (path : Path) :
    visit c (fuel + 1) depth r m path = (do
      if capacity < depth then throw (.failure (.depth (.exhausted c.root c.maxDepth)))
      if r.disabled then return
      visitFields c (descendLive (fun _ => c.rulesOf) (visit c fuel (depth + 1))) m path r.fields
      visitOneofs c (c.schema.messageType r.type) m path r.oneofs
      runChecks c (.message m) path false r.rules) := rfl

/-- Types for which the answers never change, closed under what their rules depend on: a walk from such types does
not notice that others change. -/
theorem visitLive_eq {c : WalkContext} {rulesAt : Nat → String → Except Failure TypeRules} {P : String → Prop}
    (hsame : ∀ n type, P type → rulesAt n type = c.rulesOf type)
    (hclosed : ∀ type rules, P type → c.rulesOf type = .ok rules → ∀ d ∈ rules.dependencies, P d) :
    ∀ (fuel depth : Nat) (r : TypeRules) (m : Message) (path : Path), (∀ d ∈ r.dependencies, P d) →
      visitLive c rulesAt fuel depth r m path = visit c fuel depth r m path
  | 0, _, _, _, _, _ => rfl
  | fuel + 1, depth, r, m, path, hr => by
    rw [visit_succ, visitLive]
    have hdescend : ∀ type ∈ r.dependencies, descendLive rulesAt (visitLive c rulesAt fuel (depth + 1)) type =
        descendLive (fun _ => c.rulesOf) (visit c fuel (depth + 1)) type := by
      intro type ht
      funext inner path
      simp only [descendLive, hsame _ type (hr type ht)]
      cases hrules : c.rulesOf type with
      | error f => rfl
      | ok rules =>
        have hd := hclosed type rules (hr type ht) hrules
        simp only [visitLive_eq hsame hclosed fuel (depth + 1) rules inner path hd]
    have hfields := @visitFields_congr c _ _ m path r.fields hdescend
    dsimp only
    rw [hfields]

/-- With rules that stay what they are, the walk is `visit`. -/
theorem visitLive_const (c : WalkContext) (fuel depth : Nat) (r : TypeRules) (m : Message) (path : Path) :
    visitLive c (fun _ => c.rulesOf) fuel depth r m path = visit c fuel depth r m path :=
  @visitLive_eq c (fun _ => c.rulesOf) (fun _ => True) (fun _ _ _ => rfl) (fun _ _ _ _ _ _ => trivial) fuel depth r m
    path fun _ _ => trivial

end Conformance.Walk
