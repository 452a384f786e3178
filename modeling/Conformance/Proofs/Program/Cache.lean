import Mathlib.Data.List.Induction
import Mathlib.Data.List.Nodup
import Conformance.Program.Cache

/-!
# Caches of programs

A cache went through calls that compile, look up and clear. It gives what compilation gives, and it has one entry for
each key that was compiled, but for faults, since it was last cleared. Until the next time, entries stay where they are.
-/

namespace Conformance.ProgramCache

variable {c : ProgramCache} {key k : ProgramKey} {e : CachedProgram}

/-- The outcome that an entry remembers. -/
def outcome (e : CachedProgram) : Except Uncompiled Program := e.mapError .refused

theorem outcome_inj {e e' : CachedProgram} (h : outcome e = outcome e') : e = e' := by
  cases e <;> cases e' <;> cases h <;> rfl

/-- The entries are what compilation gives. -/
def Sound (c : ProgramCache) : Prop := ∀ key e, c.get? key = some e → Program.compile key = outcome e

theorem compile_of_some (h : c.get? key = some e) : c.compile key = (outcome e, c) := by
  unfold compile
  rw [h]
  cases e <;> rfl

theorem compile_of_none (h : c.get? key = none) :
    c.compile key = (Program.compile key, c.record key (Program.compile key)) := by
  unfold compile
  rw [h]

theorem Sound.compile_eq (h : c.Sound) (key : ProgramKey) : (c.compile key).1 = Program.compile key := by
  cases hk : c.get? key with
  | none => rw [compile_of_none hk]
  | some e => rw [compile_of_some hk, h key e hk]

/-- It makes no difference whether programs are taken from a sound cache or compiled each time. -/
theorem Sound.source_eq (h : c.Sound) : c.source = ProgramSource.fresh :=
  congrArg ProgramSource.mk (funext h.compile_eq)

/-! ## What compilation records -/

theorem record_of_outcome (h : Program.compile key = outcome e) :
    c.record key (Program.compile key) = { c with entries := c.entries ++ [(key, e)] } := by
  rw [h]
  cases e <;> rfl

theorem record_fault {f : Fault} (h : Program.compile key = .error (.fault f)) :
    c.record key (Program.compile key) = c := by
  rw [h]
  rfl

/-- An outcome is remembered unless it is a fault. -/
theorem outcome_or_fault (x : Except Uncompiled Program) : (∃ e, x = outcome e) ∨ ∃ f, x = .error (.fault f) := by
  cases x with
  | ok p => exact .inl ⟨.ok p, rfl⟩
  | error u =>
    cases u with
    | refused e => exact .inl ⟨.error e, rfl⟩
    | fault f => exact .inr ⟨f, rfl⟩

theorem outcome_ne_fault {f : Fault} : outcome e ≠ .error (.fault f) := by
  cases e <;> rintro ⟨⟩

/-- After a compilation nothing changed, or the key was new and is now the last one. -/
theorem compile_cases (c : ProgramCache) (key : ProgramKey) :
    (c.compile key).2 = c ∧ ((∃ e, c.get? key = some e) ∨ ∃ f, Program.compile key = .error (.fault f)) ∨
      c.get? key = none ∧ ∃ e, Program.compile key = outcome e ∧
        (c.compile key).2 = { c with entries := c.entries ++ [(key, e)] } := by
  cases hk : c.get? key with
  | some e => exact .inl ⟨by rw [compile_of_some hk], .inl ⟨e, rfl⟩⟩
  | none =>
    rw [compile_of_none hk]
    obtain ⟨e, he⟩ | ⟨f, hf⟩ := outcome_or_fault (Program.compile key)
    · exact .inr ⟨rfl, e, he, record_of_outcome he⟩
    · exact .inl ⟨record_fault hf, .inr ⟨f, hf⟩⟩

theorem get?_append (entries : List (ProgramKey × CachedProgram)) (age : Nat) :
    (⟨age, entries ++ [(k, e)]⟩ : ProgramCache).get? key =
      (entries.lookup key).or (if key = k then some e else none) := by
  rw [get?, List.lookup_append, List.lookup_cons]
  by_cases h : key = k
  · simp [h]
  · rw [if_neg h, beq_eq_false_iff_ne.2 h]
    rfl

theorem Sound.compile (h : c.Sound) (key : ProgramKey) : (c.compile key).2.Sound := by
  obtain ⟨hsame, -⟩ | ⟨-, e, he, hnew⟩ := c.compile_cases key
  · rwa [hsame]
  · rw [hnew]
    intro k e' hk
    rw [get?_append, Option.or_eq_some_iff] at hk
    rcases hk with hk | ⟨-, hk⟩
    · exact h k e' hk
    · obtain ⟨rfl, heq⟩ := Option.ite_none_right_eq_some.1 hk
      rw [he, Option.some.inj heq]

theorem compile_compile (c : ProgramCache) (k key : ProgramKey) : ((c.compile k).2.compile key).1 = (c.compile key).1 := by
  obtain ⟨hsame, -⟩ | ⟨hk, e, he, hnew⟩ := c.compile_cases k
  · rw [hsame]
  · have hget : (c.compile k).2.get? key = (c.get? key).or (if key = k then some e else none) := by
      rw [hnew, get?_append]
      rfl
    cases hkey : c.get? key with
    | some e' =>
      rw [hkey, Option.some_or] at hget
      rw [compile_of_some hget, compile_of_some hkey]
    | none =>
      rw [hkey, Option.none_or] at hget
      rw [compile_of_none hkey]
      by_cases heq : key = k
      · rw [if_pos heq] at hget
        rw [compile_of_some hget, heq, he]
      · rw [if_neg heq] at hget
        rw [compile_of_none hget]

theorem sound_empty (age : Nat) : (⟨age, []⟩ : ProgramCache).Sound := fun _ _ h => by cases h

/-! ## Calls -/

inductive Call where
  | compile (key : ProgramKey)
  | get (key : ProgramKey)
  | clear
  deriving DecidableEq

def Call.apply (c : ProgramCache) : Call → ProgramCache
  | compile key => (c.compile key).2
  | get _ => c
  | clear => c.clear

theorem Sound.apply (h : c.Sound) (call : Call) : (call.apply c).Sound := by
  cases call with
  | compile key => exact h.compile key
  | get key => exact h
  | clear => exact sound_empty _

/-- A cache after calls, from the first one on. -/
def through (c : ProgramCache) (calls : List Call) : ProgramCache := calls.foldl Call.apply c

abbrev after (calls : List Call) : ProgramCache := through {} calls

theorem through_append (calls more : List Call) : c.through (calls ++ more) = (c.through calls).through more :=
  List.foldl_append

/-- The key was compiled, and there was no clearing since. -/
def Compiled (calls : List Call) (key : ProgramKey) : Prop :=
  ∃ earlier later, calls = earlier ++ .compile key :: later ∧ .clear ∉ later

theorem compiled_concat {calls : List Call} {call : Call} :
    Compiled (calls ++ [call]) key ↔ call = .compile key ∨ call ≠ .clear ∧ Compiled calls key := by
  constructor
  · rintro ⟨earlier, later, heq, hlater⟩
    rcases List.eq_nil_or_concat later with rfl | ⟨init, last, rfl⟩
    · obtain ⟨-, h⟩ := List.append_inj' heq rfl
      exact .inl (List.singleton_inj.1 h)
    · rw [List.concat_eq_append, ← List.cons_append, ← List.append_assoc] at heq
      obtain ⟨rfl, h⟩ := List.append_inj' heq rfl
      obtain rfl := List.singleton_inj.1 h
      rw [List.concat_eq_append, List.mem_append, List.mem_singleton, not_or] at hlater
      exact .inr ⟨Ne.symm hlater.2, earlier, init, rfl, hlater.1⟩
  · rintro (rfl | ⟨hcall, earlier, later, rfl, hlater⟩)
    · exact ⟨calls, [], rfl, List.not_mem_nil⟩
    · refine ⟨earlier, later ++ [call], by simp, ?_⟩
      rw [List.mem_append, List.mem_singleton, not_or]
      exact ⟨hlater, Ne.symm hcall⟩

def keys (c : ProgramCache) : List ProgramKey := c.entries.map (·.1)

theorem get?_eq_none : c.get? key = none ↔ key ∉ c.keys := by
  rw [get?, List.lookup_eq_none_iff, keys, List.mem_map]
  constructor
  · rintro h ⟨p, hp, rfl⟩
    simpa using h p hp
  · intro h p hp
    rw [bne_iff_ne]
    rintro rfl
    exact h ⟨p, hp, rfl⟩

/-- What a cache holds after calls: one entry for each key that was compiled since the last clearing and whose
compilation is no fault, and that entry is the outcome. -/
structure Holds (calls : List Call) (c : ProgramCache) : Prop where
  distinct : c.keys.Nodup
  get?_iff : ∀ key e, c.get? key = some e ↔ Compiled calls key ∧ Program.compile key = outcome e

theorem Holds.sound {calls : List Call} (h : Holds calls c) : c.Sound := fun key e he => ((h.get?_iff key e).1 he).2

/-- Nothing is added for a key that is there, or whose compilation is a fault, which is no entry's outcome. -/
theorem Holds.keep {calls : List Call} (h : Holds calls c)
    (hk : (∃ e, c.get? k = some e) ∨ ∃ f, Program.compile k = .error (.fault f)) : Holds (calls ++ [.compile k]) c := by
  refine ⟨h.distinct, fun key e => ?_⟩
  rw [h.get?_iff, compiled_concat]
  refine and_congr_left fun he => ⟨fun hc => .inr ⟨by simp, hc⟩, ?_⟩
  rintro (hkey | ⟨-, hc⟩)
  · cases hkey
    rcases hk with ⟨e', hk⟩ | ⟨f, hf⟩
    · exact ((h.get?_iff k e').1 hk).1
    · exact absurd (he.symm.trans hf) outcome_ne_fault
  · exact hc

theorem Holds.add {calls : List Call} (h : Holds calls c) (hk : c.get? k = none) {e : CachedProgram}
    (he : Program.compile k = outcome e) :
    Holds (calls ++ [.compile k]) { c with entries := c.entries ++ [(k, e)] } := by
  refine ⟨?_, fun key e' => ?_⟩
  · rw [keys, List.map_append, List.nodup_append]
    refine ⟨h.distinct, List.nodup_singleton _, fun a ha b hb => ?_⟩
    rw [List.map_singleton, List.mem_singleton] at hb
    rw [hb]
    rintro rfl
    exact get?_eq_none.1 hk ha
  · rw [get?_append, compiled_concat]
    by_cases hkey : key = k
    · subst hkey
      have hlookup : c.entries.lookup key = none := hk
      rw [hlookup, if_pos rfl, Option.none_or, Option.some.injEq, he]
      exact ⟨fun heq => ⟨.inl rfl, by rw [heq]⟩, fun heq => outcome_inj heq.2⟩
    · have hget := h.get?_iff key e'
      rw [if_neg hkey, Option.or_none]
      refine hget.trans (and_congr_left fun _ => ⟨fun hc => .inr ⟨by simp, hc⟩, ?_⟩)
      rintro (heq | ⟨-, hc⟩)
      · cases heq
        exact absurd rfl hkey
      · exact hc

theorem Holds.apply {calls : List Call} (h : Holds calls c) (call : Call) :
    Holds (calls ++ [call]) (call.apply c) := by
  cases call with
  | get k => exact ⟨h.distinct, fun key e => by simp [compiled_concat, Call.apply, h.get?_iff]⟩
  | clear => exact ⟨List.nodup_nil, fun key e => by simp [compiled_concat, Call.apply, clear, get?]⟩
  | compile k =>
    rw [Call.apply]
    obtain ⟨hsame, hk⟩ | ⟨hk, e, he, hnew⟩ := c.compile_cases k
    · rw [hsame]
      exact h.keep hk
    · rw [hnew]
      exact h.add hk he

theorem holds_after (calls : List Call) : Holds calls (after calls) := by
  -- From the end: what a key stands for depends on the calls after the last clearing.
  induction calls using List.reverseRecOn with
  | nil =>
    refine ⟨List.nodup_nil, fun key e => ⟨fun h => (by cases h), ?_⟩⟩
    rintro ⟨⟨earlier, later, heq, -⟩, -⟩
    simp at heq
  | append_singleton calls call ih =>
    rw [after, through_append]
    exact ih.apply call

/-! ## Between clearings -/

/-- Until a cache is cleared, it gives the same programs, whatever is added to it. -/
theorem source_through {calls : List Call} (h : .clear ∉ calls) : (c.through calls).source = c.source := by
  induction calls generalizing c with
  | nil => rfl
  | cons call calls ih =>
    obtain ⟨hcall, hcalls⟩ := not_or.1 (mt List.mem_cons.2 h)
    refine (ih hcalls).trans ?_
    cases call with
    | get k => rfl
    | clear => exact absurd rfl hcall
    | compile k => exact congrArg ProgramSource.mk (funext fun key => c.compile_compile k key)

/-- Each entry stays in its place, and compilations and lookups of its key give it. -/
structure Persists (c c' : ProgramCache) : Prop where
  age : c'.age = c.age
  place : ∀ (i : Nat) (key : ProgramKey) (e : CachedProgram), c.entries[i]? = some (key, e) → c'.entries[i]? = some (key, e)
  get? : ∀ key e, c.get? key = some e → c'.get? key = some e
  compile : ∀ key e, c.get? key = some e → c'.compile key = (outcome e, c')

theorem through_keeps {calls : List Call} (h : .clear ∉ calls) :
    (c.through calls).age = c.age ∧ c.entries <+: (c.through calls).entries := by
  induction calls generalizing c with
  | nil => exact ⟨rfl, List.prefix_refl _⟩
  | cons call calls ih =>
    obtain ⟨hcall, hcalls⟩ := not_or.1 (mt List.mem_cons.2 h)
    obtain ⟨hage, hentries⟩ := ih (c := call.apply c) hcalls
    have hstep : (call.apply c).age = c.age ∧ c.entries <+: (call.apply c).entries := by
      cases call with
      | get k => exact ⟨rfl, List.prefix_refl _⟩
      | clear => exact absurd rfl hcall
      | compile k =>
        rw [Call.apply]
        obtain ⟨hsame, -⟩ | ⟨-, e, -, hnew⟩ := c.compile_cases k
        · rw [hsame]
          exact ⟨rfl, List.prefix_refl _⟩
        · rw [hnew]
          exact ⟨rfl, List.prefix_append _ _⟩
    exact ⟨hage.trans hstep.1, hstep.2.trans hentries⟩

theorem persists_through {calls : List Call} (h : .clear ∉ calls) : c.Persists (c.through calls) := by
  obtain ⟨hage, more, hentries⟩ := c.through_keeps h
  have hget (key : ProgramKey) (e : CachedProgram) (he : c.get? key = some e) :
      (c.through calls).get? key = some e := by
    rw [ProgramCache.get?, ← hentries, List.lookup_append]
    exact Option.or_eq_some_iff.2 (.inl he)
  refine ⟨hage, fun i key e hi => ?_, hget, fun key e he => compile_of_some (hget key e he)⟩
  obtain ⟨hlt, -⟩ := List.getElem?_eq_some_iff.1 hi
  rw [← hentries, List.getElem?_append_left hlt, hi]

end Conformance.ProgramCache
