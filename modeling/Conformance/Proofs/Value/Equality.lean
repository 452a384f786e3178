import Conformance.Proofs.Schema.Equality

/-!
# Equality of values

Numbers are equal by what they stand for, collections by their members. On values without NaN, whose parts can be told
apart by name and by key, this is an equality: such a value equals itself, and what equals it may stand for it
(`Definite.reliable`), so the order of the two sides does not matter (`same_comm`).
-/

namespace Conformance.Value

/-! ## Kinds of values by what they are compared with -/

/-- Values that equal themselves alone. -/
def isPlain : Value → Bool
  | none | ellipsis | text _ | bytes _ | instant _ | span _ | zone | pattern _ | descriptor _ | generator _
  | function _ | unbound .. => true
  | _ => false

/-- The members of a list or of a repeated field. -/
def items? : Value → Option (List Value)
  | list xs | elements _ xs => some xs
  | _ => Option.none

def tuple? : Value → Option (List Value)
  | tuple xs => some xs
  | _ => Option.none

/-- The entries of a mapping or of a map field. -/
def mapping? : Value → Option (List (Value × Value))
  | dict es | entries _ _ es => some es
  | _ => Option.none

def message? : Value → Option Message
  | message m => some m
  | _ => Option.none

/-- Values without NaN in which names, keys and members of sets differ, at any depth. -/
inductive Definite : Value → Prop
  | plain {v : Value} : v.isPlain = true → Definite v
  | number {v : Value} {z : Decimal.Extended × Decimal.Extended} : v.number? = some z → Definite v
  | items {v : Value} {xs : List Value} : v.items? = some xs → (∀ x ∈ xs, Definite x) → Definite v
  | tuple {xs : List Value} : (∀ x ∈ xs, Definite x) → Definite (tuple xs)
  | set {frozen : Bool} {xs : List Value} : xs.Pairwise (fun x y => x.same y = false) → (∀ x ∈ xs, Definite x) →
    Definite (set frozen xs)
  | mapping {v : Value} {es : List (Value × Value)} : v.mapping? = some es →
    es.Pairwise (fun e f => e.1.same f.1 = false) → (∀ e ∈ es, Definite e.1) → (∀ e ∈ es, Definite e.2) → Definite v
  | message {m : Message} : (Datum.message m).Definite → Definite (message m)

theorem sameAll_eq_isEqv {xs ys : List Value} : sameAll xs ys = xs.isEqv ys same := by
  induction xs generalizing ys with
  | nil => cases ys <;> rfl
  | cons x xs ih =>
    cases ys with
    | nil => rfl
    | cons y ys => rw [sameAll, List.isEqv, ih]

variable {v a : Value}

theorem same_of_isPlain (h : v.isPlain = true) : v.same a = true ↔ v = a := by
  have hnumber : v.sameNumber a = false := sameNumber_of_none (by cases v <;> first | rfl | cases h)
  cases v with
  | none | ellipsis | text | bytes | instant | span | zone | pattern | descriptor | generator | function | unbound =>
    cases a <;> simp [same, hnumber]
  | _ => cases h

theorem same_of_items {xs : List Value} (h : v.items? = some xs) :
    v.same a = true ↔ ∃ ys, a.items? = some ys ∧ xs.isEqv ys same = true := by
  have hsame : v.same a = a.items?.any (sameAll xs) := by
    cases v with
    | list | elements =>
      cases h
      cases a <;> first | rfl | exact sameNumber_of_none rfl
    | _ => cases h
  simp only [hsame, Option.any_eq_true, sameAll_eq_isEqv]

theorem same_of_tuple {xs : List Value} (h : v.tuple? = some xs) :
    v.same a = true ↔ ∃ ys, a.tuple? = some ys ∧ xs.isEqv ys same = true := by
  have hsame : v.same a = a.tuple?.any (sameAll xs) := by
    cases v with
    | tuple =>
      cases h
      cases a <;> first | rfl | exact sameNumber_of_none rfl
    | _ => cases h
  simp only [hsame, Option.any_eq_true, sameAll_eq_isEqv]

theorem same_of_message {m : Message} (h : v.message? = some m) :
    v.same a = true ↔ ∃ n, a.message? = some n ∧ m.same n = true := by
  have hsame : v.same a = a.message?.any m.same := by
    cases v with
    | message =>
      cases h
      cases a <;> first | rfl | exact sameNumber_of_none rfl
    | _ => cases h
  rw [hsame, Option.any_eq_true]

/-! ## Sets and mappings -/

theorem allOccur_eq_all {xs ys : List Value} : allOccur xs ys = xs.all fun x => ys.any x.same := by
  induction xs with
  | nil => rfl
  | cons x xs ih => rw [allOccur, List.all_cons, ih]

theorem keysOccur_eq_all {es : List (Value × Value)} {ys : List Value} :
    keysOccur es ys = (es.map (·.1)).all fun x => ys.any x.same := by
  induction es with
  | nil => rfl
  | cons e es ih => rw [keysOccur, List.map_cons, List.all_cons, ih, keyOccurs]

theorem itemOccurs_eq_any {e : Value × Value} {ys : List Value} :
    itemOccurs e ys = ys.any (tuple [e.1, e.2]).same := by
  obtain ⟨k, x⟩ := e
  rw [itemOccurs]
  congr 1
  funext y
  rw [Bool.eq_iff_iff, same_of_tuple rfl]
  split
  · next a b => simp [tuple?, List.isEqv]
  · next hy =>
    refine ⟨nofun, fun ⟨ys, hys, heqv⟩ => ?_⟩
    cases y with
    | tuple zs =>
      cases hys
      rcases ys with _ | ⟨a, _ | ⟨b, _ | ⟨c, ys⟩⟩⟩
      · cases heqv
      · simp [List.isEqv] at heqv
      · exact absurd rfl (hy a b)
      · simp [List.isEqv] at heqv
    | _ => cases hys

theorem itemsOccur_eq_all {es : List (Value × Value)} {ys : List Value} :
    itemsOccur es ys = (es.map fun e => tuple [e.1, e.2]).all fun x => ys.any x.same := by
  induction es with
  | nil => rfl
  | cons e es ih => rw [itemsOccur, List.map_cons, List.all_cons, ih, itemOccurs_eq_any]

theorem sameMembers_eq (xs : List Value) :
    Reliable.sameMembers same xs = fun ys => xs.length == ys.length && allOccur xs ys := by
  funext ys
  rw [Reliable.sameMembers, allOccur_eq_all]

theorem sameMembers_keys (es : List (Value × Value)) :
    Reliable.sameMembers same (es.map (·.1)) = fun ys => es.length == ys.length && keysOccur es ys := by
  funext ys
  rw [Reliable.sameMembers, keysOccur_eq_all, List.length_map]

theorem sameMembers_items (es : List (Value × Value)) :
    Reliable.sameMembers same (es.map fun (k, v) => tuple [k, v]) =
      fun ys => es.length == ys.length && itemsOccur es ys := by
  funext ys
  rw [Reliable.sameMembers, itemsOccur_eq_all, List.length_map]

theorem same_of_setMembers {xs : List Value} (h : v.setMembers? = some xs) :
    v.same a = true ↔ ∃ ys, a.setMembers? = some ys ∧ Reliable.sameMembers same xs ys = true := by
  have hsame : v.same a = a.setMembers?.any (Reliable.sameMembers same xs) := by
    cases v with
    | set _ xs =>
      cases h
      rw [sameMembers_eq]
      cases a with
      | view _ side _ => cases side <;> rfl
      | _ => rfl
    | view _ side es =>
      cases side with
      | keys =>
        cases h
        rw [sameMembers_keys]
        cases a with
        | view _ side _ => cases side <;> rfl
        | _ => rfl
      | items =>
        cases h
        rw [sameMembers_items]
        cases a with
        | view _ side _ => cases side <;> rfl
        | _ => rfl
      | values => cases h
    | _ => cases h
  rw [hsame, Option.any_eq_true]

theorem entryOccurs_eq_occurs (e : Value × Value) (es : List (Value × Value)) :
    entryOccurs e es = Reliable.occurs same same es e := by
  obtain ⟨k, x⟩ := e
  rw [entryOccurs, Reliable.occurs]
  cases es.find? fun e => k.same e.1 <;> rfl

theorem sameEntries_eq_all {es fs : List (Value × Value)} :
    sameEntries es fs = es.all (Reliable.occurs same same fs) := by
  induction es with
  | nil => rfl
  | cons e es ih => rw [sameEntries, List.all_cons, ih, entryOccurs_eq_occurs]

theorem same_of_mapping {es : List (Value × Value)} (h : v.mapping? = some es) :
    v.same a = true ↔ ∃ fs, a.mapping? = some fs ∧ Reliable.sameMapping same same es fs = true := by
  have hsame : v.same a = a.mapping?.any fun fs => es.length == fs.length && sameEntries es fs := by
    cases v with
    | dict | entries =>
      cases h
      cases a <;> first | rfl | exact sameNumber_of_none rfl
    | _ => cases h
  simp only [hsame, Option.any_eq_true, sameEntries_eq_all, Reliable.sameMapping]

/-! ## Where equality is reliable -/

theorem Definite.reliable (h : v.Definite) : Reliable same v := by
  induction h with
  | plain hv => exact .of_eq fun _ => same_of_isPlain hv
  | number hv => exact .of_value (fun h _ => same_of_number h) hv
  | items hv _ ih => exact .of_view (fun h _ => same_of_items h) hv (.isEqv ih)
  | tuple _ ih => exact .of_view (fun h _ => same_of_tuple h) rfl (.isEqv ih)
  | set hdiffer _ ih => exact .of_view (fun h _ => same_of_setMembers h) rfl (.members hdiffer ih)
  | mapping hv hdiffer _ _ hkey hvalue =>
    exact .of_view (fun h _ => same_of_mapping h) hv (.mapping hdiffer hkey hvalue)
  | message hm =>
    have hsame : Reliable Message.same _ :=
      ⟨hm.reliable.self, fun {n} hn k => hm.reliable.congr (b := .message n) hn (.message k)⟩
    exact .of_view (fun h _ => same_of_message h) rfl hsame

theorem same_comm (hv : v.Definite) (ha : a.Definite) : v.same a = a.same v := hv.reliable.comm ha.reliable

end Conformance.Value
