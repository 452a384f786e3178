import Conformance.Proofs.Address.Identifiers
import Conformance.Proofs.Address.Lines
import Conformance.Proofs.Rule.Comparison

/-!
# Format checks and line feeds

The format checks of the library, and the rules on strings that call them. A text with a line feed fails them all,
except for the texts of which a line-based form or the zone of an IP address overlooks it.
-/

namespace Conformance

open Address Rule Compile

/-! ## Formats -/

/-- The checks of texts with a format, with the arguments that some of them take. -/
inductive Format where
  | email
  | hostname
  | ip (version : Option Value)
  | uuid
  | uri
  | uriRef
  | address
  | hostAndPort (portRequired : Option Value)

namespace Format

def function : Format → Function
  | email => .isEmail
  | hostname => .isHostname
  | ip _ => .isIp
  | uuid => .isUuid
  | uri => .isUri
  | uriRef => .isUriRef
  | address => .isAddress
  | hostAndPort _ => .isHostAndPort

def arguments : Format → List Value
  | ip v | hostAndPort v => v.toList
  | _ => []

def holds (s : List Char) : Format → Bool
  | email => isMail s
  | hostname => isHostname s
  | ip version => (Ip.ofText? s).any fun ip => Expr.Library.versionFits (version.getD (.int 0)) ip.version
  | uuid => isUuid s
  | uri => isUri s
  | uriRef => isUriReference s
  | address => isAddress s
  | hostAndPort required => isHostAndPort (required.any Value.truth) s

/-- The texts with a line feed that the check admits. -/
def Overlooks (s : List Char) : Format → Prop
  | email => ∃ t, s = t ++ ['\n'] ∧ '\n' ∉ t ∧ isMail t = true ∧ t.length < 254
  | hostname => IsLooseHostname s
  | ip version => IsZoned s ∧ Expr.Library.versionFits (version.getD (.int 0)) .v6 = true
  | uuid => ∃ t, s = t ++ ['\n'] ∧ '\n' ∉ t ∧ isUuid t = true
  | uri => IsLooseUri s
  | uriRef => IsLooseUri s ∨ ∃ t, s = t ++ ['\n'] ∧ '\n' ∉ t ∧ isRelative t = true ∧ EndsOpen t
  | address => IsLooseHostname s ∨ IsZoned s
  | hostAndPort required => ∃ host rest, s = host ++ rest ∧ LooseHost host ∧ LoosePort (required.any Value.truth) rest

theorem holds_iff {s : List Char} (hs : '\n' ∈ s) (f : Format) : f.holds s = true ↔ f.Overlooks s := by
  cases f with
  | email => exact isMail_iff hs
  | hostname => exact isHostname_iff
  | ip version =>
    rw [holds, Overlooks, isZoned_iff hs, Ip.ofText?, v4?_eq_none (.inl hs)]
    cases zoned? s <;> simp
  | uuid => exact isUuid_iff hs
  | uri => exact isUri_iff
  | uriRef => exact isUriReference_iff hs
  | address => rw [holds, Overlooks, isAddress, Bool.or_eq_true, isHostname_iff, ofText?_isSome_iff hs]
  | hostAndPort required => exact isHostAndPort_iff

end Format

/-! ## Calls -/

section
variable (t : String)

theorem Expr.Library.checkMail_eq : checkMail (.text t) = .ok (isMail t.toList) := by
  have hlength : (Value.text t).length? = some t.toList.length := rfl
  unfold checkMail
  rw [hlength]
  by_cases h : 254 < t.toList.length
  · have hmail : isMail t.toList = false := by simp [isMail, Nat.not_le.2 h]
    simp [h, hmail, pure, Except.pure]
  · simp [h, pure, Except.pure]

theorem Expr.Library.checkHostname_eq : checkHostname (.text t) = .ok (isHostname t.toList) := by
  have htruth : (Value.text t).truth = !t.toList.isEmpty := by
    rw [Value.truth, Bool.eq_iff_iff]
    simp
  have hlength : (Value.text t).length? = some t.toList.length := rfl
  unfold checkHostname
  rw [htruth, hlength]
  cases hempty : t.toList.isEmpty with
  | true => simp [isHostname, hempty, pure, Except.pure]
  | false =>
    by_cases h : 253 < t.toList.length
    · have hname : isHostname t.toList = false := by simp [isHostname, Nat.not_le.2 h]
      simp [h, hname, pure, Except.pure]
    · simp [h, textCheck]

theorem Expr.Library.checkAddress_eq : checkAddress (.text t) = .ok (isAddress t.toList) := by
  have hany : checkIp (.text t) (.int 0) = (Ip.ofText? t.toList).isSome := by
    rw [checkIp, addressOf?]
    cases Ip.ofText? t.toList <;> rfl
  rw [checkAddress, checkHostname_eq, isAddress, hany]
  cases isHostname t.toList <;> rfl

end

theorem Format.call_eq (s : Schema) (f : Format) (t : String) :
    Expr.Library.call s (.function f.function) ⟨.text t :: f.arguments, []⟩ = pure (.bool (f.holds t.toList)) := by
  have hlift {r : Except Fault Bool} {b : Bool} (h : r = .ok b) :
      (do return .bool (← Expr.Eval.lift r) : Expr.Eval Value) = pure (.bool b) := by
    rw [h]
    rfl
  cases f with
  | email => exact hlift (Expr.Library.checkMail_eq t)
  | hostname => exact hlift (Expr.Library.checkHostname_eq t)
  | address => exact hlift (Expr.Library.checkAddress_eq t)
  | ip version =>
    have hcheck (v : Value) : Expr.Library.checkIp (.text t) v =
        (Ip.ofText? t.toList).any fun ip => Expr.Library.versionFits v ip.version := by
      rw [Expr.Library.checkIp, Expr.Library.addressOf?]
      cases Ip.ofText? t.toList <;> rfl
    cases version with
    | none =>
      rw [holds, ← hcheck]
      rfl
    | some v =>
      rw [holds, ← hcheck]
      rfl
  | uuid => rfl
  | uri => rfl
  | uriRef => rfl
  | hostAndPort required => cases required <;> rfl

/-! ## Rules -/

namespace Rule

def literal? : Expr → Option Expr.Literal
  | .literal _ l => some l
  | _ => none

/-- The name of a function that an expression calls with the value, and the constants that it adds. -/
def callIn? : Expr → Option (String × List Expr.Literal)
  | .call _ (.name _ f) (.name _ this :: args) [] =>
    if this == "this" then (args.mapM literal?).map (f, ·) else none
  | _ => none

def Form.call? : Form → Option (String × List Expr.Literal)
  | .test _ => none
  | .expression source =>
    match Program.compile ⟨source, standardVariables⟩ with
    | .ok p => callIn? p.tree
    | .error _ => none

/-- The rules on strings that check a format, with the constants in their expressions. -/
def formats : List (String × Format × List Expr.Literal) :=
  [("email", .email, []), ("hostname", .hostname, []), ("ip", .ip none, []), ("ipv4", .ip (some (.int 4)), [.int 4]),
    ("ipv6", .ip (some (.int 6)), [.int 6]), ("uri", .uri, []), ("uri_ref", .uriRef, []), ("uuid", .uuid, []),
    ("address", .address, []), ("host_and_port", .hostAndPort (some (.bool true)), [.bool true])]

theorem formats_arguments : ∀ e ∈ formats, e.2.2.map Expr.Literal.value = e.2.1.arguments := by
  simp [formats, Format.arguments, Expr.Literal.value]

theorem formats_standard : ∀ e ∈ formats, (standard? "string" e.1).any (fun r =>
    r.form.call? == some (e.2.1.function.name, e.2.2) && r.flag && r.preparation == none && r.domain == .bool) = true := by
  decide +kernel

end Rule

namespace Format

section
variable {f : Format} {args : List Expr.Literal} {s : Schema} {now : Value}

theorem named (f : Format) : Function.named? f.function.name = some f.function := by
  cases f <;> rfl

theorem yields_literals {scope : Expr.Scope} {es : List Expr} (h : es.mapM literal? = some args) :
    List.Forall₂ (Expr.Yields scope) es (args.map Expr.Literal.value) := by
  induction es generalizing args with
  | nil =>
    cases h
    exact .nil
  | cons e es ih =>
    rw [List.mapM_cons] at h
    obtain ⟨l, hl, h⟩ := Option.bind_eq_some_iff.1 h
    obtain ⟨ls, hls, h⟩ := Option.bind_eq_some_iff.1 h
    cases h
    cases e with
    | literal k l' =>
      cases hl
      exact .cons (Expr.yields_literal l) (ih hls)
    | _ => cases hl

/-- An expression that calls a format check gives what the check makes of the value. -/
theorem evaluate_call {source : String} {p : Program} (hp : Program.compile ⟨source, standardVariables⟩ = .ok p)
    (hc : callIn? p.tree = some (f.function.name, args)) (ha : args.map Expr.Literal.value = f.arguments) (t : String)
    (param : Value) : p.evaluate s [("this", .text t), ("rule", param), ("now", now)] =
      .ok (.holds (f.holds t.toList)) := by
  unfold callIn? at hc
  split at hc
  · next k kf g kt this es htree =>
    obtain ⟨hthis, hc⟩ := Option.ite_none_right_eq_some.1 hc
    obtain ⟨ls, hls, hc⟩ := Option.map_eq_some_iff.1 hc
    cases hc
    obtain rfl : this = "this" := by simpa using hthis
    have hunbound : [("this", Value.text t), ("rule", param), ("now", now)].lookup f.function.name = none := by
      cases f <;> rfl
    have hfunction : Expr.Yields ⟨s, [("this", .text t), ("rule", param), ("now", now)]⟩ (.name kf f.function.name)
        (.function f.function) := Expr.yields_function hunbound f.named
    have harguments : List.Forall₂ (Expr.Yields ⟨s, [("this", .text t), ("rule", param), ("now", now)]⟩)
        (.name kt "this" :: es) (.text t :: f.arguments) :=
      .cons (Expr.yields_name rfl) (ha ▸ yields_literals hls)
    rw [Program.evaluate_standard hp, htree, Expr.value_call hfunction harguments, f.call_eq]
    rfl
  · cases hc

/-- The rule of a format, where it is set, becomes a check that passes on the texts that have the format. -/
theorem exists_check {name : String} (hf : (name, f, args) ∈ formats) (place : String) (type : FieldType) :
    ∃ r c, standard? "string" name = some r ∧ (standardCheck s place type ⟨r, .bool true⟩).outcome = .ok c ∧
      ∀ t now, ∃ o, c.run s (.text t) now = .ok o ∧ (o = none ↔ f.holds t.toList = true) := by
  obtain ⟨r, hr, hregular⟩ := (Option.any_eq_true _ _).1 (formats_standard _ hf)
  simp only [Bool.and_eq_true, beq_iff_eq] at hregular
  obtain ⟨⟨⟨hcall, -⟩, hprep⟩, hdomain⟩ := hregular
  obtain ⟨hmem, hkind, -⟩ := standard?_eq_some hr
  have hfits : Active.Fits ⟨r, .bool true⟩ "string" := ⟨hmem, hkind, by rw [hdomain]; exact .bool true⟩
  have hok : ∃ c, (standardCheck s place type ⟨r, .bool true⟩).outcome = .ok c :=
    (standardCheck_ok_iff hfits rfl fun h => by simp at h).2 fun h => by rw [hprep] at h; cases h
  obtain ⟨c, hc⟩ := hok
  refine ⟨r, c, hr, hc, fun t now => ?_⟩
  obtain ⟨_, _, ⟨_, _, hform, _, _⟩ | ⟨source, p, hform, hp, rfl⟩⟩ := standardCheck_eq_ok.1 hc
  · rw [hform] at hcall
    cases hcall
  · rw [hform, Form.call?] at hcall
    simp only [hp] at hcall
    unfold Check.run Check.bindings
    dsimp only [Check.param]
    rw [evaluate_call hp hcall (formats_arguments _ hf) t (.bool true)]
    cases f.holds t.toList <;> simp

/-- What becomes of a text with a line feed: a format check gives whether it is one of those that the check overlooks,
and a rule of a format, where it is set, passes on just these. -/
theorem overlooks_lineFeed {t : String} (ht : '\n' ∈ t.toList) (s : Schema) :
    (∀ f : Format, ∃ b, Expr.Library.call s (.function f.function) ⟨.text t :: f.arguments, []⟩ = pure (.bool b) ∧
      (b = true ↔ f.Overlooks t.toList)) ∧
    ∀ name f args, (name, f, args) ∈ formats → ∀ place type, ∃ r c, standard? "string" name = some r ∧
      (standardCheck s place type ⟨r, .bool true⟩).outcome = .ok c ∧
      ∀ now, ∃ o, c.run s (.text t) now = .ok o ∧ (o = none ↔ f.Overlooks t.toList) := by
  refine ⟨fun f => ⟨_, f.call_eq s t, f.holds_iff ht⟩, fun name f args hf place type => ?_⟩
  obtain ⟨r, c, hr, hc, hrun⟩ := exists_check hf place type
  refine ⟨r, c, hr, hc, fun now => ?_⟩
  obtain ⟨o, ho, hpasses⟩ := hrun t now
  exact ⟨o, ho, hpasses.trans (f.holds_iff ht)⟩

end

/-- With a line feed at its end, a UUID is still one for the check and for the rule. -/
theorem overlooks_lineFeed_of_uuid : '\n' ∈ "123e4567-e89b-12d3-a456-426614174000\n".toList ∧
    (∃ b, Expr.Library.call Layout.schema (.function .isUuid)
      ⟨[.text "123e4567-e89b-12d3-a456-426614174000\n"], []⟩ = pure (.bool b) ∧ b = true) ∧
    ∃ r c, standard? "string" "uuid" = some r ∧
      (standardCheck Layout.schema "Box.id" (.scalar .string) ⟨r, .bool true⟩).outcome = .ok c ∧
      ∀ now, c.run Layout.schema (.text "123e4567-e89b-12d3-a456-426614174000\n") now = .ok none := by
  have hmem : '\n' ∈ "123e4567-e89b-12d3-a456-426614174000\n".toList := by decide +kernel
  have hoverlooks : uuid.Overlooks "123e4567-e89b-12d3-a456-426614174000\n".toList :=
    ⟨"123e4567-e89b-12d3-a456-426614174000".toList, by decide +kernel, by decide +kernel, by decide +kernel⟩
  obtain ⟨hcall, hrule⟩ := overlooks_lineFeed hmem Layout.schema
  obtain ⟨b, hb, hb'⟩ := hcall uuid
  obtain ⟨r, c, hr, hc, hrun⟩ := hrule "uuid" uuid [] (by simp [formats]) "Box.id" (.scalar .string)
  refine ⟨hmem, ⟨b, hb, hb'.2 hoverlooks⟩, r, c, hr, hc, fun now => ?_⟩
  obtain ⟨o, ho, ho'⟩ := hrun now
  rw [ho, ho'.2 hoverlooks]

/-- A mail address with a line feed at its end passes for one. -/
theorem call_endedMail : '\n' ∈ "user@example.com\n".toList ∧ Expr.Library.call Layout.schema (.function .isEmail)
    ⟨[.text "user@example.com\n"], []⟩ = pure (.bool true) := by
  have hmail : email.holds "user@example.com\n".toList = true := by decide +kernel
  refine ⟨by decide +kernel, ?_⟩
  rw [← hmail]
  exact email.call_eq Layout.schema "user@example.com\n"

end Format
end Conformance
