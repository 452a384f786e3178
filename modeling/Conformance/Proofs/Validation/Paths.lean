import Conformance.Proofs.Validation.History
import Conformance.Proofs.Walk.Placed

/-!
# Paths of violations

Whatever way a violation of a message is found, its path leads to a place in that message which fits the rule, and
another violation of the message with a path of the same text is at the same place.
-/

namespace Conformance

/-! ## Violations that are found -/

theorem Event.violation_mem_of_found {v : Violation} {es : List Event} (h : v ∈ found es) : .violation v ∈ es := by
  induction es with
  | nil => cases h
  | cons e es ih =>
    cases e with
    | enter type => exact List.mem_cons_of_mem _ (ih h)
    | failure f => cases h
    | violation w =>
      rcases List.mem_cons.1 h with rfl | h
      · exact List.mem_cons_self
      · exact List.mem_cons_of_mem _ (ih h)

theorem Event.mem_found_of_verdict {failFast : Bool} {es : List Event} {vs : List Violation}
    (h : verdict failFast es = .ok vs) {v : Violation} (hv : v ∈ vs) : v ∈ found es := by
  unfold verdict at h
  split at h
  · next hf =>
    cases h
    rw [hf, List.mem_singleton.1 hv]
    exact List.mem_cons_self
  · cases he : ending es with
    | error f =>
      rw [he] at h
      cases h
    | ok u =>
      rw [he] at h
      cases h
      exact hv

/-- A violation is among those that an evaluation of a message returns, after whatever was done before. -/
def Workspace.Finds (s : Schema) (m : Message) (v : Violation) : Prop :=
  ∃ config history resolver maxDepth failFast now vs,
    ((evaluate resolver maxDepth failFast now m).run (after s config history)).1 = .ok vs ∧ v ∈ vs

namespace Place

variable {s : Schema} {p q : Place}

end Place

variable {s : Schema} {m : Message} {v : Violation}

namespace Workspace

theorem Finds.admitted (h : Finds s m v) (hs : s.Named) (hm : m.Keyed) :
    ∃ p, s.place? m.type m v.path = some p ∧ p.Admits s v := by
  obtain ⟨config, history, resolver, maxDepth, failFast, now, vs, h, hv⟩ := h
  obtain ⟨e, -, he⟩ | ⟨rulesOf, hc, he⟩ := (faithful_after s config history).evaluate_cases resolver m
  · rw [he] at h
    cases h
  · let c : WalkContext := { schema := s, rulesOf, failFast, maxDepth, now, root := m.type }
    rw [he, mapError_eq_ok, WalkContext.violations_eq] at h
    have hevent := Event.violation_mem_of_found (Event.mem_found_of_verdict h hv)
    obtain ⟨rest, p, hpath, hp, ha⟩ := Walk.isBelow_events (c := c) hc hs (p := .message m.type m) rfl hm hevent
    rw [List.nil_append] at hpath
    exact ⟨p, by rwa [Schema.place?, hpath], ha⟩

/-- Paths have one text only if they agree in each element, where a place in a repeated field is not told from that number
as a key. So the violations of a message with paths of one text have one path. -/
theorem paths_unambiguous (hs : s.Named) (hm : m.Keyed) :
    (∀ p q : Path, p.IsNamed → q.IsNamed → (p.text = q.text ↔ List.Forall₂ PathElement.Alike p q)) ∧
      ∀ v w, Finds s m v → Finds s m w → v.path.text = w.path.text → v.path = w.path := by
  refine ⟨fun p q hp hq => ⟨Path.alike_of_text hp hq, Path.text_of_alike⟩, fun v w hv hw h => ?_⟩
  obtain ⟨p, hp, -⟩ := hv.admitted hs hm
  obtain ⟨q, hq, -⟩ := hw.admitted hs hm
  exact hs.path_eq hp hq h

end Workspace

namespace Sample

theorem schema_named : schema.Named := by
  intro t ht
  simp only [schema, List.mem_cons, List.not_mem_nil, or_false] at ht
  rcases ht with rfl | rfl
  · refine ⟨fun f hf => ?_, fun o ho => absurd ho List.not_mem_nil⟩
    simp only [order, List.mem_cons, List.not_mem_nil, or_false] at hf
    rcases hf with rfl | rfl <;> exact ⟨by decide, rfl⟩
  · refine ⟨fun f hf => ?_, fun o ho => absurd ho List.not_mem_nil⟩
    simp only [item, List.mem_cons, List.not_mem_nil, or_false] at hf
    subst hf
    exact ⟨by decide, rfl⟩

/-- The item of an order lacks what all items must have. -/
def lacksSku : Violation := ⟨[.field "item", .field "sku"], "required", "value is required", .standard, false⟩

theorem finds_lacksSku : Workspace.Finds schema message lacksSku := by
  refine ⟨{}, [], 0, 32, false, .none, [⟨[.field "name"], "required", "value is required", .standard, false⟩, lacksSku],
    ?_, List.mem_cons_of_mem _ List.mem_cons_self⟩
  rw [Workspace.evaluate_run, Workspace.after, List.foldl_nil, Workspace.resolveIn_start message.type (resolve_order 0)]
  rfl

end Sample

namespace Workspace

/-- A key that looks like the end of one element and the start of another. -/
theorem paths_unambiguous_of_order :
    Path.text [.field "m", .key (.text "\"][\"")] ≠ Path.text [.field "m", .key (.text ""), .key (.text "")] ∧
      ∀ v, Finds Sample.schema Sample.message v → v.path.text = "item.sku" → v.path = [.field "item", .field "sku"] := by
  have h := paths_unambiguous (s := Sample.schema) (m := Sample.message) Sample.schema_named rfl
  refine ⟨fun htext => ?_, fun v hv htext => h.2 v Sample.lacksSku hv Sample.finds_lacksSku ?_⟩
  · have hnamed : ∀ ks : List Key, Path.IsNamed (.field "m" :: ks.map .key) := by
      intro ks e he
      rcases List.mem_cons.1 he with rfl | he
      · exact (by decide : isFieldName "m" = true)
      · obtain ⟨k, -, rfl⟩ := List.mem_map.1 he
        trivial
    have halike := (h.1 _ _ (hnamed [.text "\"][\""]) (hnamed [.text "", .text ""])).1 htext
    cases halike.length_eq
  · rw [htext]
    decide

end Workspace
end Conformance
