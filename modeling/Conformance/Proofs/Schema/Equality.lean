import Conformance.Proofs.Schema.Reordered
import Conformance.Proofs.Value.Numbers

/-!
# Equality of messages

Messages without NaN, where no field is set twice and no map has a key twice, equal themselves, and what equals them
may stand for them (`Datum.Definite.reliable`). The parts of a message are compared by name and by key, so both
directions of a comparison only agree because names and keys differ.
-/

namespace Conformance

namespace Content

/-- The data in a content, keys of maps included. -/
def data : Content → List Datum
  | single d => [d]
  | «repeated» ds => ds
  | entries es => es.flatMap fun e => [e.1, e.2]

/-- No two entries of a map have the same key. -/
def KeysDiffer : Content → Prop
  | entries es => es.Pairwise fun e f => e.1.same f.1 = false
  | _ => True

end Content

/-- Data without NaN in which names and keys differ, at any depth. -/
inductive Datum.Definite : Datum → Prop
  | bool (b : Bool) : Definite (.bool b)
  | int (n : Int) : Definite (.int n)
  | text (s : String) : Definite (.text s)
  | bytes (b : List UInt8) : Definite (.bytes b)
  | float {x : Decimal.Binary64} : x.isNan = false → Definite (.float x)
  | message {type : String} {fs : List (String × Content)} : (fs.map (·.1)).Nodup → (∀ f ∈ fs, f.2.KeysDiffer) →
    (∀ f ∈ fs, ∀ d ∈ f.2.data, Definite d) → Definite (.message (.mk type fs))

theorem Content.keysDiffer_of_isKeyed {c : Content} (h : c.isKeyed = true) : c.KeysDiffer := by
  cases c with
  | single | «repeated» => trivial
  | entries es =>
    have hkeys : (es.map (Key.ofDatum ·.1)).Nodup := of_decide_eq_true h
    exact (List.pairwise_map.1 hkeys).imp fun hne =>
      Bool.eq_false_iff.2 fun hsame => hne (Datum.ofDatum_eq_of_same hsame)

theorem Content.sizeOf_data {c : Content} {d : Datum} (hd : d ∈ c.data) : sizeOf d < sizeOf c := by
  cases c with
  | single e =>
    obtain rfl := List.mem_singleton.1 hd
    simp
  | «repeated» ds =>
    have hlt : sizeOf d < sizeOf ds := List.sizeOf_lt_of_mem hd
    simp only [«repeated».sizeOf_spec]
    omega
  | entries es =>
    obtain ⟨e, he, hd⟩ := List.mem_flatMap.1 hd
    have hlt := List.sizeOf_lt_of_mem he
    have hpair : sizeOf e = 1 + sizeOf e.1 + sizeOf e.2 := rfl
    simp only [entries.sizeOf_spec]
    rcases List.mem_pair.1 hd with rfl | rfl <;> omega

theorem Content.everywhere_data {p : Message → Bool} {c : Content} (h : c.everywhere p = true) {d : Datum}
    (hd : d ∈ c.data) : d.everywhere p = true := by
  cases c with
  | single e =>
    obtain rfl := List.mem_singleton.1 hd
    exact h
  | «repeated» ds => exact allEverywhere_iff.1 h d hd
  | entries es =>
    obtain ⟨e, he, hd⟩ := List.mem_flatMap.1 hd
    obtain ⟨hkey, hvalue⟩ := entriesEverywhere_iff.1 h e he
    rcases List.mem_pair.1 hd with rfl | rfl
    · exact hkey
    · exact hvalue

def Datum.isNan : Datum → Bool
  | .float x => x.isNan
  | _ => false

/-- No field of a message is set twice, its maps have one entry for each key, and none of its numbers is NaN. -/
def Message.isDefinite (m : Message) : Bool :=
  decide (m.fields.map (·.1)).Nodup && m.isKeyed && m.fields.all (·.2.data.all (!·.isNan))

/-- What is required of a message is checked message by message. -/
theorem Datum.definite_of_everywhere : ∀ d : Datum, d.isNan = false → d.everywhere (·.isDefinite) = true → d.Definite
  | .bool b, _, _ => .bool b
  | .int n, _, _ => .int n
  | .text s, _, _ => .text s
  | .bytes b, _, _ => .bytes b
  | .float _, hnan, _ => .float hnan
  | .message (.mk type fs), _, h => by
    obtain ⟨hdefinite, hinside⟩ := Message.everywhere_iff.1 h
    simp only [Message.isDefinite, Bool.and_eq_true, decide_eq_true_eq, List.all_eq_true, Bool.not_eq_true']
      at hdefinite
    obtain ⟨⟨hnames, hkeyed⟩, hnan⟩ := hdefinite
    refine .message hnames (fun f hf => ?_) fun f hf d hd => ?_
    · exact Content.keysDiffer_of_isKeyed (List.all_eq_true.1 hkeyed f hf)
    · exact definite_of_everywhere d (hnan f hf d hd) (Content.everywhere_data (hinside f hf) hd)
termination_by d => sizeOf d
decreasing_by
  have hfields := List.sizeOf_lt_of_mem hf
  have hpair : sizeOf f = 1 + sizeOf f.1 + sizeOf f.2 := rfl
  have hdata := Content.sizeOf_data hd
  simp only [Datum.message.sizeOf_spec, Message.mk.sizeOf_spec]
  omega

/-! ## Comparisons as those of sequences and mappings -/

theorem sameData_eq_isEqv {ds es : List Datum} : sameData ds es = ds.isEqv es Datum.same := by
  induction ds generalizing es with
  | nil => cases es <;> rfl
  | cons d ds ih =>
    cases es with
    | nil => rfl
    | cons e es => rw [sameData, List.isEqv, ih]

theorem entryOccurs_eq_occurs (e : Datum × Datum) (es : List (Datum × Datum)) :
    entryOccurs e es = Reliable.occurs Datum.same Datum.same es e := by
  obtain ⟨k, d⟩ := e
  rw [entryOccurs, Reliable.occurs]
  cases es.find? fun e => k.same e.1 <;> rfl

theorem Content.same_entries (es fs : List (Datum × Datum)) :
    (Content.entries es).same (.entries fs) = Reliable.sameMapping Datum.same Datum.same es fs := by
  simp only [same, sameEntries_eq_all, entryOccurs_eq_occurs, Reliable.sameMapping]

theorem fieldOccurs_eq_occurs (f : String × Content) (fs : List (String × Content)) :
    fieldOccurs f fs = Reliable.occurs (· == ·) Content.same fs f := by
  obtain ⟨name, c⟩ := f
  rw [fieldOccurs, Reliable.occurs]
  induction fs with
  | nil => rfl
  | cons g fs ih =>
    rw [List.lookup_cons, List.find?_cons]
    cases name == g.1 with
    | true => rfl
    | false => exact ih

theorem sameFields_eq_all {fs gs : List (String × Content)} : sameFields fs gs = fs.all (fieldOccurs · gs) := by
  induction fs with
  | nil => rfl
  | cons f fs ih => rw [sameFields, List.all_cons, ih]

theorem Message.same_mk (t u : String) (fs gs : List (String × Content)) :
    (Message.mk t fs).same (.mk u gs) = (t == u && Reliable.sameMapping (· == ·) Content.same fs gs) := by
  simp only [same, sameFields_eq_all, fieldOccurs_eq_occurs, Reliable.sameMapping, Bool.and_assoc]

/-! ## Where equality is reliable -/

theorem Content.reliable {c : Content} (hkeys : c.KeysDiffer) (h : ∀ d ∈ c.data, Reliable Datum.same d) :
    Reliable Content.same c := by
  cases c with
  | single d =>
    have hd := h d List.mem_cons_self
    refine ⟨hd.self, fun {b} hb c => ?_⟩
    cases b with
    | single e =>
      cases c with
      | single f => exact hd.congr hb f
      | _ => rfl
    | _ => cases hb
  | «repeated» ds =>
    have hds : Reliable (fun ds es => sameData ds es) ds := by
      simp only [sameData_eq_isEqv]
      exact Reliable.isEqv h
    refine ⟨hds.self, fun {b} hb c => ?_⟩
    cases b with
    | «repeated» es =>
      cases c with
      | «repeated» fs => exact hds.congr hb fs
      | _ => rfl
    | _ => cases hb
  | entries es =>
    have hes : Reliable (Reliable.sameMapping Datum.same Datum.same) es := by
      refine Reliable.mapping hkeys (fun e he => h e.1 ?_) fun e he => h e.2 ?_
      · exact List.mem_flatMap.2 ⟨e, he, List.mem_cons_self⟩
      · exact List.mem_flatMap.2 ⟨e, he, List.mem_cons_of_mem _ List.mem_cons_self⟩
    refine ⟨(same_entries es es).trans hes.self, fun {b} hb c => ?_⟩
    cases b with
    | entries fs =>
      cases c with
      | entries gs =>
        rw [same_entries] at hb ⊢
        rw [same_entries, hes.congr hb]
      | _ => rfl
    | _ => cases hb

theorem Message.reliable {type : String} {fs : List (String × Content)} (hnames : (fs.map (·.1)).Nodup)
    (h : ∀ f ∈ fs, Reliable Content.same f.2) : Reliable Message.same (.mk type fs) := by
  have hdiffer : fs.Pairwise fun f g => (f.1 == g.1) = false :=
    (List.pairwise_map.1 hnames).imp fun hne => beq_eq_false_iff_ne.2 hne
  have hfs := Reliable.mapping hdiffer (fun f _ => Reliable.of_lawful f.1) h
  refine ⟨?_, fun {n} hn m => ?_⟩
  · rw [same_mk, hfs.self, beq_self_eq_true, Bool.true_and]
  · obtain ⟨u, gs⟩ := n
    obtain ⟨v, hs⟩ := m
    rw [same_mk, Bool.and_eq_true, beq_iff_eq] at hn
    obtain ⟨rfl, hgs⟩ := hn
    rw [same_mk, same_mk, hfs.congr hgs]

theorem Datum.Definite.reliable {d : Datum} (h : d.Definite) : Reliable Datum.same d := by
  induction h with
  | bool b => exact .of_eq fun e => by cases e <;> simp [Datum.same]
  | int n => exact .of_eq fun e => by cases e <;> simp [Datum.same]
  | text s => exact .of_eq fun e => by cases e <;> simp [Datum.same]
  | bytes b => exact .of_eq fun e => by cases e <;> simp [Datum.same]
  | @float x hx =>
    have hx := Decimal.Binary64.reliable hx
    refine ⟨hx.self, fun {e} he c => ?_⟩
    cases e with
    | float y =>
      cases c with
      | float z => exact hx.congr he z
      | _ => rfl
    | _ => cases he
  | @message type fs hnames hkeys _ ih =>
    have hm : Reliable Message.same (.mk type fs) :=
      Message.reliable hnames fun f hf => Content.reliable (hkeys f hf) (ih f hf)
    refine ⟨hm.self, fun {e} he c => ?_⟩
    cases e with
    | message n =>
      cases c with
      | message m => exact hm.congr he m
      | _ => rfl
    | _ => cases he

end Conformance
