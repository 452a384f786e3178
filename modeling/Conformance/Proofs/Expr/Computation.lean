import Conformance.Expr.Scope

/-!
# Computations of an evaluation

What a computation keeps of the store and what its result is, from every store with an invariant. The rules follow
the ways in which computations are put together, so that a statement about an evaluation can follow the recursion
of the evaluation.
-/

namespace Conformance.Expr

section
variable {α β : Type} {I : Store → Prop}

/-- From every store with the invariant, a computation leads to such a store and to a result with a property. -/
def Keeps (I : Store → Prop) (m : StateM Store α) (Q : α → Prop) : Prop :=
  ∀ st, I st → I (m.run st).2 ∧ Q (m.run st).1

/-- The same, for results that are no faults. -/
def Gives (I : Store → Prop) (m : Eval α) (Q : α → Prop) : Prop :=
  Keeps I m.run fun r => ∀ a, r = .ok a → Q a

/-- The same, and there is no fault. -/
def Succeeds (I : Store → Prop) (m : Eval α) (Q : α → Prop) : Prop :=
  Keeps I m.run fun r => ∃ a, r = .ok a ∧ Q a

namespace Keeps

theorem pure {Q : α → Prop} {a : α} (h : Q a) : Keeps I (Pure.pure a) Q := fun _ hst => ⟨hst, h⟩

theorem bind {m : StateM Store α} {f : α → StateM Store β} {Q : α → Prop} {R : β → Prop} (hm : Keeps I m Q)
    (hf : ∀ a, Q a → Keeps I (f a) R) : Keeps I (m >>= f) R := by
  intro st hst
  obtain ⟨hst', hq⟩ := hm st hst
  exact hf _ hq _ hst'

theorem weaken {m : StateM Store α} {Q R : α → Prop} (hm : Keeps I m Q) (h : ∀ a, Q a → R a) : Keeps I m R :=
  fun st hst => ⟨(hm st hst).1, h _ (hm st hst).2⟩

end Keeps

namespace Gives

theorem pure {Q : α → Prop} {a : α} (h : Q a) : Gives I (Pure.pure a) Q := by
  intro st hst
  refine ⟨hst, fun b hb => ?_⟩
  cases hb
  exact h

theorem throw {Q : α → Prop} {f : Fault} : Gives I (throw f) Q := by
  intro st hst
  refine ⟨hst, fun b hb => ?_⟩
  cases hb

theorem lift {r : Except Fault α} {Q : α → Prop} (h : ∀ a, r = .ok a → Q a) : Gives I (Eval.lift r) Q :=
  fun _ hst => ⟨hst, h⟩

theorem bind {m : Eval α} {f : α → Eval β} {Q : α → Prop} {R : β → Prop} (hm : Gives I m Q)
    (hf : ∀ a, Q a → Gives I (f a) R) : Gives I (m >>= f) R := by
  have hrun : Keeps I (m.run >>= ExceptT.bindCont f) fun r => ∀ b, r = .ok b → R b := by
    refine Keeps.bind hm fun r hr => ?_
    cases r with
    | ok a => exact hf a (hr a rfl)
    | error f => exact Keeps.pure fun b hb => by cases hb
  exact hrun

theorem get : Gives I (get : Eval Store) I := by
  intro st hst
  refine ⟨hst, fun b hb => ?_⟩
  cases hb
  exact hst

theorem modify {g : Store → Store} (h : ∀ st, I st → I (g st)) : Gives I (modify g : Eval Unit) fun _ => True :=
  fun st hst => ⟨h st hst, fun _ _ => trivial⟩

theorem weaken {m : Eval α} {Q R : α → Prop} (hm : Gives I m Q) (h : ∀ a, Q a → R a) : Gives I m R :=
  Keeps.weaken hm fun _ hr a ha => h a (hr a ha)

theorem any {m : Eval α} {Q : α → Prop} (hm : Gives I m Q) : Gives I m fun _ => True :=
  hm.weaken fun _ _ => trivial

end Gives

namespace Succeeds

theorem pure {Q : α → Prop} {a : α} (h : Q a) : Succeeds I (Pure.pure a) Q := fun _ hst => ⟨hst, a, rfl, h⟩

theorem lift {r : Except Fault α} {Q : α → Prop} {a : α} (hr : r = .ok a) (h : Q a) : Succeeds I (Eval.lift r) Q :=
  fun _ hst => ⟨hst, a, hr, h⟩

theorem bind {m : Eval α} {f : α → Eval β} {Q : α → Prop} {R : β → Prop} (hm : Succeeds I m Q)
    (hf : ∀ a, Q a → Succeeds I (f a) R) : Succeeds I (m >>= f) R := by
  have hrun : Keeps I (m.run >>= ExceptT.bindCont f) fun r => ∃ b, r = .ok b ∧ R b := by
    refine Keeps.bind hm fun r hr => ?_
    obtain ⟨a, rfl, ha⟩ := hr
    exact hf a ha
  exact hrun

theorem get : Succeeds I (get : Eval Store) I := fun st hst => ⟨hst, st, rfl, hst⟩

theorem modify {g : Store → Store} (h : ∀ st, I st → I (g st)) :
    Succeeds I (modify g : Eval Unit) fun _ => True :=
  fun st hst => ⟨h st hst, (), rfl, trivial⟩

theorem weaken {m : Eval α} {Q R : α → Prop} (hm : Succeeds I m Q) (h : ∀ a, Q a → R a) : Succeeds I m R :=
  Keeps.weaken hm fun _ ⟨a, ha, hq⟩ => ⟨a, ha, h a hq⟩

end Succeeds

/-- From every store with the invariant, a computation leads to such a store, and to a result or a fault with a
property each. -/
def Ends (I : Store → Prop) (F : Fault → Prop) (m : Eval α) (Q : α → Prop) : Prop :=
  Keeps I m.run fun r => (∀ a, r = .ok a → Q a) ∧ ∀ f, r = .error f → F f

namespace Ends

variable {F : Fault → Prop}

theorem pure {Q : α → Prop} {a : α} (h : Q a) : Ends I F (Pure.pure a) Q := by
  intro st hst
  refine ⟨hst, fun b hb => ?_, fun f hf => ?_⟩
  · cases hb
    exact h
  · cases hf

theorem throw {Q : α → Prop} {f : Fault} (h : F f) : Ends I F (throw f) Q := by
  intro st hst
  refine ⟨hst, fun b hb => ?_, fun g hg => ?_⟩
  · cases hb
  · cases hg
    exact h

theorem bind {m : Eval α} {g : α → Eval β} {Q : α → Prop} {R : β → Prop} (hm : Ends I F m Q)
    (hg : ∀ a, Q a → Ends I F (g a) R) : Ends I F (m >>= g) R := by
  have hrun : Keeps I (m.run >>= ExceptT.bindCont g) fun r => (∀ b, r = .ok b → R b) ∧ ∀ f, r = .error f → F f := by
    refine Keeps.bind hm fun r hr => ?_
    cases r with
    | ok a => exact hg a (hr.1 a rfl)
    | error f =>
      refine Keeps.pure ⟨fun b hb => ?_, fun e he => ?_⟩
      · cases hb
      · cases he
        exact hr.2 f rfl
  exact hrun

theorem throw_bind {f : Fault} {g : α → Eval β} {R : β → Prop} (h : F f) :
    Ends I F (MonadExcept.throw f >>= g) R :=
  bind (throw h : Ends I F _ fun _ => False) fun _ h => h.elim

theorem get : Ends I F (get : Eval Store) I := by
  intro st hst
  refine ⟨hst, fun b hb => ?_, fun f hf => ?_⟩
  · cases hb
    exact hst
  · cases hf

theorem modify {g : Store → Store} (h : ∀ st, I st → I (g st)) : Ends I F (modify g : Eval Unit) fun _ => True := by
  intro st hst
  refine ⟨h st hst, fun _ _ => trivial, fun f hf => ?_⟩
  cases hf

theorem gives {m : Eval α} {Q : α → Prop} (hm : Ends I F m Q) : Gives I m Q := Keeps.weaken hm fun _ hr => hr.1

end Ends

theorem Gives.ends {m : Eval α} {Q : α → Prop} (hm : Gives I m Q) : Ends I (fun _ => True) m Q :=
  Keeps.weaken hm fun _ hr => ⟨hr, fun _ _ => trivial⟩

/-! ## Two computations -/

/-- From every store with the invariant, two computations do the same. Their result and the store that they lead to
have a property together, so that the invariant need not be the same before and after. -/
def Matches (I : Store → Prop) (m m' : StateM Store α) (Q : α → Store → Prop) : Prop :=
  ∀ st, I st → m.run st = m'.run st ∧ Q (m.run st).1 (m.run st).2

/-- The same for computations that may end in a fault, which has another property together with the store. -/
def Alike (I : Store → Prop) (E : Fault → Store → Prop) (m m' : Eval α) (Q : α → Store → Prop) : Prop :=
  Matches I m.run m'.run fun r st => (∀ a, r = .ok a → Q a st) ∧ ∀ f, r = .error f → E f st

namespace Matches

variable {J : Store → Prop} {m m' : StateM Store α} {Q R : α → Store → Prop}

theorem pure {a : α} (h : ∀ st, I st → Q a st) : Matches I (Pure.pure a) (Pure.pure a) Q :=
  fun st hst => ⟨rfl, h st hst⟩

theorem bind {f f' : α → StateM Store β} {R : β → Store → Prop} (hm : Matches I m m' Q)
    (hf : ∀ a, Matches (Q a) (f a) (f' a) R) : Matches I (m >>= f) (m' >>= f') R := by
  intro st hst
  obtain ⟨heq, hq⟩ := hm st hst
  obtain ⟨hnext, hr⟩ := hf _ _ hq
  refine ⟨?_, hr⟩
  calc (m >>= f).run st = (f (m.run st).1).run (m.run st).2 := rfl
    _ = (f' (m.run st).1).run (m.run st).2 := hnext
    _ = (m' >>= f').run st := by
      rw [heq]
      rfl

theorem weaken (hm : Matches I m m' Q) (h : ∀ a st, Q a st → R a st) : Matches I m m' R :=
  fun st hst => ⟨(hm st hst).1, h _ _ (hm st hst).2⟩

theorem strengthen (hm : Matches I m m' Q) (h : ∀ st, J st → I st) : Matches J m m' Q :=
  fun st hst => hm st (h st hst)

end Matches

namespace Alike

variable {E : Fault → Store → Prop} {m m' : Eval α} {Q R : α → Store → Prop}

theorem pure {a : α} (h : ∀ st, I st → Q a st) : Alike I E (Pure.pure a) (Pure.pure a) Q := by
  refine Matches.pure fun st hst => ⟨fun b hb => ?_, fun f hf => ?_⟩
  · cases hb
    exact h st hst
  · cases hf

theorem throw {f : Fault} (h : ∀ st, I st → E f st) : Alike I E (throw f) (throw f) Q := by
  refine Matches.pure fun st hst => ⟨fun b hb => ?_, fun g hg => ?_⟩
  · cases hb
  · cases hg
    exact h st hst

theorem bind {g g' : α → Eval β} {R : β → Store → Prop} (hm : Alike I E m m' Q)
    (hg : ∀ a, Alike (Q a) E (g a) (g' a) R) : Alike I E (m >>= g) (m' >>= g') R := by
  have hrun : Matches I (m.run >>= ExceptT.bindCont g) (m'.run >>= ExceptT.bindCont g') fun r st =>
      (∀ b, r = .ok b → R b st) ∧ ∀ f, r = .error f → E f st := by
    refine Matches.bind hm fun r => ?_
    cases r with
    | ok a => exact Matches.strengthen (hg a) fun st hst => hst.1 a rfl
    | error f =>
      refine Matches.pure fun st hst => ⟨fun b hb => ?_, fun e he => ?_⟩
      · cases hb
      · cases he
        exact hst.2 f rfl
  exact hrun

theorem weaken {E' : Fault → Store → Prop} (hm : Alike I E m m' Q) (hE : ∀ f st, E f st → E' f st)
    (h : ∀ a st, Q a st → R a st) : Alike I E' m m' R :=
  Matches.weaken hm fun _ st hr => ⟨fun a ha => h a st (hr.1 a ha), fun f hf => hE f st (hr.2 f hf)⟩

end Alike

theorem Ends.alike {F : Fault → Prop} {m : Eval α} {Q : α → Prop} (hm : Ends I F m Q) :
    Alike I (fun f st => F f ∧ I st) m m fun a st => Q a ∧ I st := by
  intro st hst
  obtain ⟨hkept, hok, herror⟩ := hm st hst
  exact ⟨rfl, fun a ha => ⟨hok a ha, hkept⟩, fun f hf => ⟨herror f hf, hkept⟩⟩

end

end Conformance.Expr
