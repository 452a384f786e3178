import Conformance.Program.Basic
import Conformance.Proofs.Expr.Inside

/-!
# Expressions do not see constraints

What an expression gives depends on the constraints of a schema only if it asks for the descriptor of a message. So all
others are evaluated alike where the constraints are left out.
-/

namespace Conformance

/-! ## Schemas without constraints -/

def Field.bare (f : Field) : Field := { f with constraints := none }

def MessageType.bare (t : MessageType) : MessageType :=
  { t with
    fields := t.fields.map (·.bare)
    oneofs := t.oneofs.map ({ · with constraints := none })
    constraints := none }

/-- The types of a schema without anything that is declared about their values. -/
def Schema.bare (s : Schema) : Schema := ⟨s.messages.map (·.bare), s.enums⟩

theorem Schema.messageType_bare (s : Schema) (name : String) : s.bare.messageType name = (s.messageType name).bare := by
  have hknown : knownTypes.map (·.bare) = knownTypes := rfl
  have htypes : s.bare.types = s.types.map (·.bare) := by
    rw [types, types, List.map_append, hknown]
    rfl
  rw [messageType, message?, htypes, List.find?_map]
  unfold messageType message?
  have hname : ((·.name == name) ∘ (·.bare) : MessageType → Bool) = (·.name == name) := rfl
  rw [hname]
  cases s.types.find? (·.name == name) <;> rfl

theorem MessageType.field?_bare (t : MessageType) (name : String) : t.bare.field? name = (t.field? name).map (·.bare) := by
  rw [field?, bare, List.find?_map]
  rfl

theorem MessageType.syntheticOneofs_bare (t : MessageType) : t.bare.syntheticOneofs = t.syntheticOneofs := by
  simp only [syntheticOneofs, bare, List.filter_map, List.filterMap_map]
  rfl

theorem MessageType.chosen?_bare (t : MessageType) (oneof : String) (m : Message) :
    t.bare.chosen? oneof m = t.chosen? oneof m := by
  simp only [chosen?, bare, List.filter_map, List.find?_map, Option.map_map]
  rfl

/-! ## What is read of a message -/

namespace Value

variable {s : Schema}

theorem messageAttribute_bare {name : String} (hn : name ≠ "DESCRIPTOR") (m : Message) :
    messageAttribute s.bare m name = messageAttribute s m name := by
  unfold messageAttribute
  simp only [s.messageType_bare, MessageType.field?_bare, beq_eq_false_iff_ne.2 hn, Bool.false_eq_true, if_false]
  cases (s.messageType m.type).field? name with
  | some f => rfl
  | none =>
    simp only [Option.map_none, MessageType.bare, List.find?_map]
    split
    · rfl
    · have hnumber : (fun f : Field => f.name.toUpper ++ "_FIELD_NUMBER" == name) ∘ Field.bare =
          fun f => f.name.toUpper ++ "_FIELD_NUMBER" == name := rfl
      rw [hnumber]
      cases (s.messageType m.type).fields.find? fun f : Field => f.name.toUpper ++ "_FIELD_NUMBER" == name <;> rfl

theorem attributeOf_bare {name : String} (hn : name ≠ "DESCRIPTOR") (v : Value) :
    v.attributeOf s.bare name = v.attributeOf s name := by
  cases v with
  | message m => exact messageAttribute_bare hn m
  | _ => rfl

end Value

namespace Expr

namespace Library

variable {s : Schema}

theorem isSet_bare (m name : Value) : isSet s.bare m name = isSet s m name := by
  cases m with
  | message m =>
    simp only [isSet, s.messageType_bare, MessageType.field?_bare]
    cases name with
    | text n =>
      dsimp only
      cases (s.messageType m.type).field? n <;> rfl
    | bytes b =>
      dsimp only
      cases Text.Utf8.decode? b with
      | none => rfl
      | some n =>
        simp only [Option.bind_some]
        cases (s.messageType m.type).field? (String.ofList n) <;> rfl
    | _ => rfl
  | _ => rfl

theorem apply_bare (callKey : KeyCall) (f : Function) (a : Value.Arguments) :
    apply s.bare callKey f a = apply s callKey f a := by
  cases f with
  | has => simp only [apply, isSet_bare]
  | _ => rfl

theorem callWith_bare (callKey : KeyCall) (f : Value) (a : Value.Arguments) :
    callWith s.bare callKey f a = callWith s callKey f a := by
  cases f with
  | function f => exact apply_bare callKey f a
  | _ => rfl

theorem call_bare (f : Value) (a : Value.Arguments) : call s.bare f a = call s f a := by
  have hkey : callForKey s.bare = callForKey s := by
    funext f x
    simp only [callForKey, callWith_bare]
  rw [call, call, hkey, callWith_bare]

end Library

/-! ## Expressions that do not ask -/

def isReflective : Expr → Bool
  | .member _ _ n => n == "DESCRIPTOR"
  | _ => false

/-- The descriptor of a message is asked for somewhere in an expression. -/
def reflects (e : Expr) : Bool := e.anywhere isReflective

def Scope.bare (s : Scope) : Scope := { s with schema := s.schema.bare }

theorem Scope.bare_schema (s : Scope) : s.bare.schema = s.schema.bare := rfl

theorem reflects_child {e x : Expr} (h : e.reflects = false) (hx : x ∈ e.children) : x.reflects = false := by
  rw [reflects, anywhere_eq, Bool.or_eq_false_iff, List.any_eq_false] at h
  simpa [reflects] using h.2 x hx

theorem reflects_of_children {e : Expr} (hself : e.isReflective = false) (h : ∀ x ∈ e.children, x.reflects = false) :
    e.reflects = false := by
  rw [reflects, anywhere_eq, hself, Bool.false_or, List.any_eq_false]
  exact fun x hx => Bool.eq_false_iff.1 (h x hx)

theorem reflects_self {e : Expr} (h : e.reflects = false) : e.isReflective = false := by
  rw [reflects, anywhere_eq, Bool.or_eq_false_iff] at h
  exact h.1

/-- What is written in the clauses of a comprehension. -/
def clauseParts (cs : List Clause) : List Expr := cs.flatMap fun c => c.target :: c.iterated :: c.conditions

section
variable (s : Scope)

mutual

theorem eval_bare : ∀ e : Expr, e.reflects = false → eval s.bare e = eval s e
  | .literal .., _ => rfl
  | .name .., _ => rfl
  | .member _ b n, h => by
    have hn : n ≠ "DESCRIPTOR" := by simpa [isReflective] using reflects_self h
    simp only [eval, eval_bare b (reflects_child h (by simp [children, operands])), Scope.bare_schema,
      Value.attributeOf_bare hn]
  | .subscript _ b i, h => by
    simp only [eval, eval_bare b (reflects_child h (by simp [children, operands])),
      eval_bare i (reflects_child h (by simp [children, operands]))]
  | .slice _ a b c, h => by
    simp only [eval, evalOption_bare a fun x hx => reflects_child h (by simp [children, operands, hx]),
      evalOption_bare b fun x hx => reflects_child h (by simp [children, operands, hx]),
      evalOption_bare c fun x hx => reflects_child h (by simp [children, operands, hx])]
  | .call _ f args named, h => by
    simp only [eval, eval_bare f (reflects_child h (by simp [children])),
      evalList_bare args fun x hx => reflects_child h (by simp [children, hx]),
      evalNamed_bare named fun x hx => reflects_child h (List.mem_append_right _ hx), Scope.bare_schema,
      Library.call_bare]
  | .row _ kind es, h => by
    simp only [eval, evalList_bare es fun x hx => reflects_child h hx]
  | .dict _ es, h => by
    simp only [eval, evalEntries_bare es (fun x hx => reflects_child h (List.mem_append_left _ hx))
      fun x hx => reflects_child h (List.mem_append_right _ hx)]
  | .comprehension _ kind e cs, h => by
    simp only [eval, eval_bare e (reflects_child h List.mem_cons_self),
      evalFirst_bare cs fun x hx => reflects_child h (List.mem_cons_of_mem _ hx)]
  | .joined _ es, h => by
    simp only [eval, evalList_bare es fun x hx => reflects_child h hx]
  | .placed _ e conversion spec, h => by
    simp only [eval, eval_bare e (reflects_child h (by simp [children, operands])),
      evalOption_bare spec fun x hx => reflects_child h (by simp [children, operands, hx])]
  | .unary _ op e, h => by
    simp only [eval, eval_bare e (reflects_child h (by simp [children, operands]))]
  | .logical _ isAnd es, h => by
    simp only [eval, evalLogical_bare isAnd es fun x hx => reflects_child h hx]
  | .binary _ op a b, h => by
    simp only [eval, eval_bare a (reflects_child h (by simp [children, operands])),
      eval_bare b (reflects_child h (by simp [children, operands]))]
  | .compare _ e rest, h => by
    simp only [eval, eval_bare e (reflects_child h (by simp [children, operands])),
      evalComparison_bare rest fun x hx => reflects_child h (List.mem_cons_of_mem _ hx)]
  | .conditional _ c a b, h => by
    simp only [eval, eval_bare c (reflects_child h (by simp [children, operands])),
      eval_bare a (reflects_child h (by simp [children, operands])),
      eval_bare b (reflects_child h (by simp [children, operands]))]
  | .starred .., _ => rfl
  | .foreign .., _ => rfl
termination_by structural x => x

theorem evalOption_bare : ∀ o : Option Expr, (∀ e ∈ o.toList, e.reflects = false) → evalOption s.bare o = evalOption s o
  | none, _ => rfl
  | some e, h => by simp only [evalOption, eval_bare e (h e (by simp))]
termination_by structural x => x

theorem evalList_bare : ∀ es : List Expr, (∀ e ∈ es, e.reflects = false) → evalList s.bare es = evalList s es
  | [], _ => rfl
  | e :: es, h => by
    simp only [evalList, eval_bare e (h e List.mem_cons_self),
      evalList_bare es fun x hx => h x (List.mem_cons_of_mem _ hx)]
termination_by structural x => x

theorem evalArgument_bare : ∀ a : Option String × Expr, a.2.reflects = false →
    evalArgument s.bare a = evalArgument s a
  | (n, e), h => by simp only [evalArgument, eval_bare e h]
termination_by structural x => x

theorem evalNamed_bare : ∀ es : List (Option String × Expr), (∀ e ∈ es.map (·.2), e.reflects = false) →
    evalNamed s.bare es = evalNamed s es
  | [], _ => rfl
  | a :: es, h => by
    simp only [evalNamed, evalArgument_bare a (h _ List.mem_cons_self),
      evalNamed_bare es fun x hx => h x (List.mem_cons_of_mem _ hx)]
termination_by structural x => x

theorem evalEntry_bare : ∀ a : Option Expr × Expr, (∀ e ∈ a.1.toList, e.reflects = false) → a.2.reflects = false →
    evalEntry s.bare a = evalEntry s a
  | (k, e), hk, he => by simp only [evalEntry, evalOption_bare k hk, eval_bare e he]
termination_by structural x => x

theorem evalEntries_bare : ∀ es : List (Option Expr × Expr), (∀ e ∈ es.filterMap (·.1), e.reflects = false) →
    (∀ e ∈ es.map (·.2), e.reflects = false) → ∀ done waiting,
      evalEntries s.bare done waiting es = evalEntries s done waiting es
  | [], _, _, _, _ => rfl
  | a :: es, hkeys, hvalues, done, waiting => by
    have ha := evalEntry_bare a (fun x hx => hkeys x (by
        obtain ⟨k, v⟩ := a
        cases k <;> simp_all)) (hvalues _ List.mem_cons_self)
    have hes := evalEntries_bare es (fun x hx => hkeys x (by
        obtain ⟨b, hb, hbx⟩ := List.mem_filterMap.1 hx
        exact List.mem_filterMap.2 ⟨b, List.mem_cons_of_mem _ hb, hbx⟩))
      fun x hx => hvalues x (List.mem_cons_of_mem _ hx)
    simp only [evalEntries, ha, hes]
termination_by structural x => x

theorem evalLogical_bare (isAnd : Bool) : ∀ es : List Expr, (∀ e ∈ es, e.reflects = false) →
    evalLogical s.bare isAnd es = evalLogical s isAnd es
  | [], _ => rfl
  | e :: es, h => by
    simp only [evalLogical, eval_bare e (h e List.mem_cons_self),
      evalLogical_bare isAnd es fun x hx => h x (List.mem_cons_of_mem _ hx)]
termination_by structural x => x

theorem evalLink_bare : ∀ l : Comparison × Expr, l.2.reflects = false → ∀ left v,
    evalLink s.bare left v l = evalLink s left v l
  | (c, e), h, left, v => by simp only [evalLink, eval_bare e h]
termination_by structural x => x

theorem evalComparison_bare : ∀ rest : List (Comparison × Expr), (∀ e ∈ rest.map (·.2), e.reflects = false) →
    ∀ left v, evalComparison s.bare left v rest = evalComparison s left v rest
  | [], _, _, _ => rfl
  | l :: rest, h, left, v => by
    simp only [evalComparison, evalLink_bare l (h _ List.mem_cons_self),
      evalComparison_bare rest fun x hx => h x (List.mem_cons_of_mem _ hx)]
termination_by structural x => x

theorem evalConditions_bare : ∀ es : List Expr, (∀ e ∈ es, e.reflects = false) →
    evalConditions s.bare es = evalConditions s es
  | [], _ => rfl
  | e :: es, h => by
    simp only [evalConditions, eval_bare e (h e List.mem_cons_self),
      evalConditions_bare es fun x hx => h x (List.mem_cons_of_mem _ hx)]
termination_by structural x => x

theorem evalFirst_bare : ∀ cs : List Clause, (∀ e ∈ clauseParts cs, e.reflects = false) → ∀ frame element,
    evalFirst s.bare frame element cs = evalFirst s frame element cs
  | [], _, _, _ => rfl
  | .mk target iterated conditions isAsync :: cs, h, frame, element => by
    simp only [evalFirst, eval_bare iterated (h _ (by simp [clauseParts, Clause.iterated])),
      evalConditions_bare conditions fun x hx => h x (by simp [clauseParts, Clause.conditions, hx]),
      evalClauses_bare cs fun x hx => h x (List.mem_append_right _ hx)]
termination_by structural x => x

theorem evalClauses_bare : ∀ cs : List Clause, (∀ e ∈ clauseParts cs, e.reflects = false) → ∀ element,
    evalClauses s.bare element cs = evalClauses s element cs
  | [], _, _ => rfl
  | .mk target iterated conditions isAsync :: cs, h, element => by
    simp only [evalClauses, eval_bare iterated (h _ (by simp [clauseParts, Clause.iterated])),
      evalConditions_bare conditions fun x hx => h x (by simp [clauseParts, Clause.conditions, hx]),
      evalClauses_bare cs fun x hx => h x (List.mem_append_right _ hx)]
termination_by structural x => x

end

end

end Expr

/-! ## Programs -/

end Conformance
