import Mathlib.Data.List.Forall2
import Conformance.Proofs.Text.Quoted
import Conformance.Report.Path

/-!
# Paths as text

Paths are told from each other by their texts, if the fields in them have names that a schema may give them: a place in
a repeated field looks like a number among the keys of a map, and there is nothing else that looks alike. The text is
taken apart from the front. Names end before the next separator, numbers and truth values before their bracket, and
text keys at their own closing mark, so it makes no difference what is inside of them.
-/

namespace Conformance

open Text

/-! ## Names -/

def isNameStart (c : Char) : Bool := c.isAlpha || c == '_'

def isNameRest (c : Char) : Bool := c.isAlphanum || c == '_'

/-- The names that fields may have: letters, digits and low lines of ASCII, no digit first. -/
def isFieldName (name : String) : Bool :=
  match name.toList with
  | [] => false
  | c :: cs => isNameStart c && cs.all isNameRest

theorem isNameRest_of_start {c : Char} (h : isNameStart c = true) : isNameRest c = true := by
  simp only [isNameStart, isNameRest, Char.isAlphanum, Bool.or_eq_true] at h ⊢
  tauto

theorem rest_of_isFieldName {name : String} (h : isFieldName name = true) : ∀ c ∈ name.toList, isNameRest c = true := by
  unfold isFieldName at h
  split at h
  · cases h
  · next d ds hs =>
    obtain ⟨hd, hds⟩ := Bool.and_eq_true_iff.1 h
    rw [hs]
    intro c hc
    rcases List.mem_cons.1 hc with rfl | hc
    · exact isNameRest_of_start hd
    · exact List.all_eq_true.1 hds c hc

theorem ne_nil_of_isFieldName {name : String} (h : isFieldName name = true) : name.toList ≠ [] := by
  intro hn
  simp [isFieldName, hn] at h

namespace Path

/-! ## Separators -/

/-- A text is over, or goes on with another element of a path. -/
def Opens (cs : List Char) : Prop := ∀ c, cs.head? = some c → isNameRest c = false

theorem opens_nil : Opens [] := by
  intro c hc
  cases hc

/-- What is before a text that opens is the longest name. -/
theorem takeWhile_name {cs rest : List Char} (hc : ∀ c ∈ cs, isNameRest c = true) (hr : Opens rest) :
    (cs ++ rest).takeWhile isNameRest = cs := by
  rw [List.takeWhile_append_of_pos hc]
  cases rest with
  | nil => simp
  | cons d ds => simp [hr d rfl]

theorem name_inj {a b : String} {x y : List Char} (ha : isFieldName a = true) (hb : isFieldName b = true)
    (hx : Opens x) (hy : Opens y) (h : a.toList ++ x = b.toList ++ y) : a = b ∧ x = y := by
  have hname : a.toList = b.toList := by
    rw [← takeWhile_name (rest_of_isFieldName ha) hx, ← takeWhile_name (rest_of_isFieldName hb) hy, h]
  rw [hname] at h
  exact ⟨String.toList_inj.1 hname, List.append_cancel_left h⟩

/-- Contents of brackets without a closing one are what is before the first closing one. -/
theorem bracket_inj {cs ds x y : List Char} (hc : ']' ∉ cs) (hd : ']' ∉ ds)
    (h : cs ++ ']' :: x = ds ++ ']' :: y) : cs = ds ∧ x = y := by
  have htake (es z : List Char) (he : ']' ∉ es) : (es ++ ']' :: z).takeWhile (· != ']') = es := by
    rw [List.takeWhile_append_of_pos fun c hm => by simpa using ne_of_mem_of_not_mem hm he]
    simp
  have hcontents : cs = ds := by
    rw [← htake cs x hc, ← htake ds y hd, h]
  rw [hcontents] at h
  exact ⟨hcontents, (List.cons.inj (List.append_cancel_left h)).2⟩

end Path

/-! ## Numbers and keys -/

theorem isDigit_of_mem_digitsOf {n : Nat} {c : Char} (h : c ∈ Decimal.digitsOf n) : c.isDigit = true :=
  Nat.isDigit_of_mem_toDigits (by decide) (by decide) h

theorem digitsOf_inj {m n : Nat} (h : Decimal.digitsOf m = Decimal.digitsOf n) : m = n := by
  have hread (k : Nat) : Nat.ofDigitChars 10 (Decimal.digitsOf k) 0 = k :=
    Nat.ofDigitChars_toDigits (by decide) (by decide)
  rw [← hread m, ← hread n, h]

theorem decimalText_toList (n : Int) :
    (decimalText n).toList = (if n < 0 then ['-'] else []) ++ Decimal.digitsOf n.natAbs := by
  rw [decimalText, String.toList_append, String.toList_ofList]
  split <;> rfl

theorem mem_decimalText {n : Int} {c : Char} (h : c ∈ (decimalText n).toList) : c = '-' ∨ c.isDigit = true := by
  rw [decimalText_toList] at h
  rcases List.mem_append.1 h with h | h
  · split at h
    · exact .inl (List.mem_singleton.1 h)
    · cases h
  · exact .inr (isDigit_of_mem_digitsOf h)

theorem decimalText_inj {m n : Int} (h : (decimalText m).toList = (decimalText n).toList) : m = n := by
  have hsign (k : Int) : '-' ∈ (decimalText k).toList ↔ k < 0 := by
    rw [decimalText_toList]
    constructor
    · intro hm
      rcases List.mem_append.1 hm with hm | hm
      · by_contra hk
        simp [hk] at hm
      · cases isDigit_of_mem_digitsOf hm
    · intro hk
      simp [hk]
  have hsame : m < 0 ↔ n < 0 := by
    rw [← hsign m, ← hsign n, h]
  rw [decimalText_toList, decimalText_toList, if_congr hsame rfl rfl] at h
  have habs := digitsOf_inj (List.append_cancel_left h)
  omega

namespace Key

/-- The text of a number or a truth value is made of a few characters. -/
theorem mem_shown {k : Key} (hk : ∀ s, k ≠ .text s) {c : Char} (hc : c ∈ k.shown.toList) :
    c ≠ ']' ∧ c ≠ '"' := by
  cases k with
  | text s => exact absurd rfl (hk s)
  | int n =>
    rcases mem_decimalText hc with rfl | hd
    · decide
    · constructor <;> rintro rfl <;> cases hd
  | bool b =>
    have hall : (shown (.bool b)).toList.all (fun c => c != ']' && c != '"') = true := by
      cases b <;> decide
    simpa using List.all_eq_true.1 hall c hc

theorem decimal_ne_bool (n : Int) (b : Bool) : (int n).shown.toList ≠ (bool b).shown.toList := by
  intro h
  have he : 'e' ∈ (int n).shown.toList := by
    rw [h]
    cases b <;> decide
  rcases mem_decimalText he with he | he <;> cases he

theorem shown_inj {k l : Key} (hk : ∀ s, k ≠ .text s) (hl : ∀ s, l ≠ .text s)
    (h : k.shown.toList = l.shown.toList) : k = l := by
  cases k with
  | text s => exact absurd rfl (hk s)
  | int m =>
    cases l with
    | text s => exact absurd rfl (hl s)
    | int n => rw [decimalText_inj h]
    | bool b => exact absurd h (decimal_ne_bool m b)
  | bool a =>
    cases l with
    | text s => exact absurd rfl (hl s)
    | int n => exact absurd h.symm (decimal_ne_bool n a)
    | bool b =>
      cases a <;> cases b
      · rfl
      · cases h
      · cases h
      · rfl

theorem shown_text_toList (s : String) : (text s).shown.toList = '"' :: (s.toList.flatMap Quoted.jsonChar ++ ['"']) := by
  rw [shown, Quoted.json, String.toList_ofList]

/-- No other key looks like a text, which starts with its quotation mark. -/
theorem text_ne {s : String} {l : Key} (hl : ∀ t, l ≠ .text t) (x y : List Char) :
    (text s).shown.toList ++ ']' :: x ≠ l.shown.toList ++ ']' :: y := by
  rw [shown_text_toList]
  intro h
  cases hs : l.shown.toList with
  | nil =>
    rw [hs] at h
    cases h
  | cons c cs =>
    rw [hs] at h
    have hc := mem_shown hl (hs ▸ List.mem_cons_self (a := c) (l := cs))
    exact hc.2 (List.cons.inj h).1.symm

/-- Two keys with what follows their brackets are the same if all of it is the same. -/
theorem shown_bracket_inj {k l : Key} {x y : List Char} (h : k.shown.toList ++ ']' :: x = l.shown.toList ++ ']' :: y) :
    k = l ∧ x = y := by
  by_cases hk : ∃ s, k = .text s
  · obtain ⟨s, rfl⟩ := hk
    by_cases hl : ∃ t, l = .text t
    · obtain ⟨t, rfl⟩ := hl
      simp only [shown_text_toList, List.cons_append, List.append_assoc, List.nil_append] at h
      obtain ⟨hs, hrest⟩ := Quoted.jsonText_inj (List.cons.inj h).2
      exact ⟨congrArg text (String.toList_inj.1 hs), (List.cons.inj hrest).2⟩
    · exact absurd h (text_ne (not_exists.1 hl) x y)
  · by_cases hl : ∃ t, l = .text t
    · obtain ⟨t, rfl⟩ := hl
      exact absurd h.symm (text_ne (not_exists.1 hk) y x)
    · have hk := not_exists.1 hk
      have hl := not_exists.1 hl
      obtain ⟨hs, hrest⟩ := Path.bracket_inj (fun hc => (mem_shown hk hc).1 rfl) (fun hc => (mem_shown hl hc).1 rfl) h
      exact ⟨shown_inj hk hl hs, hrest⟩

end Key

/-! ## Elements -/

namespace PathElement

/-- Elements that have one text: they are the same, or a place and a key of one number. -/
inductive Alike : PathElement → PathElement → Prop
  | refl (e : PathElement) : Alike e e
  | indexKey (n : Int) : Alike (.index n) (.key (.int n))
  | keyIndex (n : Int) : Alike (.key (.int n)) (.index n)

def IsNamed : PathElement → Prop
  | field name => isFieldName name = true
  | _ => True

def bracketed? : PathElement → Option Key
  | field _ => none
  | index i => some (.int i)
  | key k => some k

theorem alike_of_bracketed {a b : PathElement} {k : Key} (ha : a.bracketed? = some k) (hb : b.bracketed? = some k) :
    a.Alike b := by
  cases a <;> cases b <;> cases ha <;> cases hb
  · exact .refl _
  · exact .indexKey _
  · exact .keyIndex _
  · exact .refl _

end PathElement

namespace Path

open PathElement

theorem tailText_of_bracketed {e : PathElement} {k : Key} (h : e.bracketed? = some k) :
    (tailText e).toList = '[' :: (k.shown.toList ++ [']']) := by
  have hb : tailText e = "[" ++ k.shown ++ "]" := by
    cases e <;> cases h <;> rfl
  rw [hb, String.toList_append, String.toList_append]
  rfl

theorem tailText_field (name : String) : (tailText (.field name)).toList = '.' :: name.toList := by
  rw [tailText, String.toList_append]
  rfl

theorem tailText_inj {a b : PathElement} {x y : List Char} (ha : a.IsNamed) (hb : b.IsNamed) (hx : Opens x)
    (hy : Opens y) (h : (tailText a).toList ++ x = (tailText b).toList ++ y) : a.Alike b ∧ x = y := by
  cases hka : a.bracketed? with
  | none =>
    cases hkb : b.bracketed? with
    | none =>
      cases a <;> cases hka
      cases b <;> cases hkb
      rw [tailText_field, tailText_field] at h
      obtain ⟨rfl, hrest⟩ := name_inj ha hb hx hy (List.cons.inj h).2
      exact ⟨.refl _, hrest⟩
    | some l =>
      cases a <;> cases hka
      rw [tailText_field, tailText_of_bracketed hkb] at h
      cases (List.cons.inj h).1
  | some k =>
    cases hkb : b.bracketed? with
    | none =>
      cases b <;> cases hkb
      rw [tailText_field, tailText_of_bracketed hka] at h
      cases (List.cons.inj h).1
    | some l =>
      simp only [tailText_of_bracketed hka, tailText_of_bracketed hkb, List.cons_append, List.append_assoc,
        List.nil_append] at h
      obtain ⟨rfl, hrest⟩ := Key.shown_bracket_inj (List.cons.inj h).2
      exact ⟨alike_of_bracketed hka hkb, hrest⟩

theorem alike_tailText {a b : PathElement} (h : a.Alike b) : tailText a = tailText b := by
  cases h <;> rfl

/-! ## Paths -/

/-- All fields on a path have names that a schema may give them. -/
def IsNamed (p : Path) : Prop := ∀ e ∈ p, e.IsNamed

/-- The text of a path that goes on from another one. -/
def tailChars (p : Path) : List Char := p.flatMap fun e => (tailText e).toList

theorem tailChars_cons (e : PathElement) (p : Path) : tailChars (e :: p) = (tailText e).toList ++ tailChars p :=
  List.flatMap_cons ..

theorem opens_tailText (e : PathElement) (rest : List Char) : Opens ((tailText e).toList ++ rest) := by
  cases hk : e.bracketed? with
  | none =>
    cases e <;> cases hk
    rw [tailText_field]
    rintro _ ⟨⟩
    decide
  | some k =>
    rw [tailText_of_bracketed hk]
    rintro _ ⟨⟩
    decide

theorem opens_tailChars : ∀ p : Path, Opens (tailChars p)
  | [] => opens_nil
  | e :: p => opens_tailText e (tailChars p)

theorem tailChars_cons_ne_nil (e : PathElement) (p : Path) : tailChars (e :: p) ≠ [] := by
  cases hk : e.bracketed? with
  | none =>
    cases e <;> cases hk
    simp [tailChars_cons, tailText_field]
  | some k => simp [tailChars_cons, tailText_of_bracketed hk]

theorem tailChars_inj : ∀ {p q : Path}, p.IsNamed → q.IsNamed → tailChars p = tailChars q → List.Forall₂ Alike p q
  | [], [], _, _, _ => .nil
  | [], b :: q, _, _, h => absurd h.symm (tailChars_cons_ne_nil b q)
  | a :: p, [], _, _, h => absurd h (tailChars_cons_ne_nil a p)
  | a :: p, b :: q, hp, hq, h => by
    have ⟨ha, hp⟩ := List.forall_mem_cons.1 hp
    have ⟨hb, hq⟩ := List.forall_mem_cons.1 hq
    rw [tailChars_cons, tailChars_cons] at h
    obtain ⟨hab, hrest⟩ := tailText_inj ha hb (opens_tailChars p) (opens_tailChars q) h
    exact .cons hab (tailChars_inj hp hq hrest)

/-- A text that starts with a name, with the separator that would be before it further in. -/
def separated : List Char → List Char
  | [] => []
  | c :: cs => if isNameRest c then '.' :: c :: cs else c :: cs

theorem separated_of_opens {cs : List Char} (h : Opens cs) : separated cs = cs := by
  cases cs with
  | nil => rfl
  | cons c cs => simp [separated, h c rfl]

theorem separated_name {name : String} (h : isFieldName name = true) (rest : List Char) :
    separated (name.toList ++ rest) = '.' :: (name.toList ++ rest) := by
  cases hn : name.toList with
  | nil => exact absurd hn (ne_nil_of_isFieldName h)
  | cons c cs =>
    have hc : isNameRest c = true := rest_of_isFieldName h c (by simp [hn])
    simp [separated, hc]

theorem separated_text {p : Path} (hp : p.IsNamed) : separated p.text.toList = tailChars p := by
  cases p with
  | nil => rfl
  | cons e p =>
    have ⟨he, _⟩ := List.forall_mem_cons.1 hp
    have htext : (text (e :: p)).toList = (headText e).toList ++ tailChars p := by
      rw [text, String.toList_append, String.toList_join, List.flatMap_map]
      rfl
    rw [htext, tailChars_cons]
    cases hk : e.bracketed? with
    | none =>
      cases e <;> cases hk
      rw [tailText_field]
      exact separated_name he _
    | some k =>
      have hhead : headText e = tailText e := by
        cases e <;> cases hk <;> rfl
      rw [hhead]
      exact separated_of_opens (opens_tailText e _)

/-- Paths with one text are alike, element by element. -/
theorem alike_of_text {p q : Path} (hp : p.IsNamed) (hq : q.IsNamed) (h : p.text = q.text) : List.Forall₂ Alike p q :=
  tailChars_inj hp hq (by rw [← separated_text hp, ← separated_text hq, h])

theorem text_of_alike {p q : Path} (h : List.Forall₂ Alike p q) : p.text = q.text := by
  have htail : ∀ {p q : Path}, List.Forall₂ Alike p q → p.map tailText = q.map tailText := by
    intro p q h
    induction h with
    | nil => rfl
    | cons ha _ ih => rw [List.map_cons, List.map_cons, alike_tailText ha, ih]
  cases h with
  | nil => rfl
  | cons ha hrest =>
    rw [text, text, htail hrest]
    cases ha <;> rfl

end Path
end Conformance
