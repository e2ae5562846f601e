import Mathlib
import PathRouter.Proofs.Lookup
import PathRouter.Proofs.Resolving

set_option autoImplicit false

/-! # Values satisfy their constraints

A variable gets the piece of the path that its token has captured, or its default if that piece is
empty. Either of them satisfies the constraint by itself (`Pattern.resolve_satisfies`): a piece has
been captured in the midst of a path, but a lenient constraint cannot tell that (`Regex.isLenient`);
and a default has been checked when the source was read. Then, dots did not match line feeds. Where
they do, a lenient constraint matches no fewer texts (`Regex.Alike.language_le`).
-/

namespace PathRouter

namespace Regex

/-! ## Dots that match more characters -/

theorem CharTest.holds_of_loosens {m m' : Modes} (h : Loosens m m') {t : CharTest} {x : Char}
    (hx : t.holds m x = true) : t.holds m' x = true := by
  cases t with
  | any =>
      rcases Bool.or_eq_true_iff.1 hx with hdot | hline
      · exact Bool.or_eq_true_iff.2 (.inl (h.dotAll hdot))
      · exact Bool.or_eq_true_iff.2 (.inr hline)
  | _ =>
      -- the other tests do not ask for the mode
      rw [h.eq]
      exact hx

theorem further_le {L M : Language Char} (h : L ≤ M) (least : Nat) (most : Option Nat) :
    further L least most ≤ further M least most := by
  rintro w ⟨n, hn, hw⟩
  exact ⟨n, hn, pow_le_pow_left' h n hw⟩

namespace Alike

variable {R : Modes → Modes → Prop} {r r' : Regex}

theorem isPlain_eq (h : r.Alike R r') : r.isPlain = r'.isPlain := by
  induction h <;> simp_all [isPlain]

/-- **Expressions whose dots match more characters have more words.** The induction is on how the
two expressions are built alike. -/
theorem language_le (h : r.Alike Loosens r') : r.language ≤ r'.language := by
  induction h with
  | char h t =>
      rintro w ⟨x, rfl, hx⟩
      exact ⟨x, rfl, CharTest.holds_of_loosens h hx⟩
  | seq _ _ hr hs => exact mul_le_mul' hr hs
  | alt _ _ hr hs => exact add_le_add hr hs
  | group _ _ ih => exact ih
  | «scoped» _ ih => exact ih
  | rep greed least most _ ih => exact mul_le_mul' (pow_le_pow_left' ih least) (further_le ih ..)
  | _ => exact le_rfl

theorem isSome_fullMatch? (h : r.Alike Loosens r') (hplain : r'.isPlain = true) {text : List Char}
    (hmatch : (fullMatch? r text).isSome = true) : (fullMatch? r' text).isSome = true :=
  (isSome_fullMatch?_iff hplain text).2
    (h.language_le ((isSome_fullMatch?_iff (h.isPlain_eq.trans hplain) text).1 hmatch))

end Alike

/-! ## Constraints that do not look around -/

/-- There is nothing in the expression that looks around it or stands for a place between
characters, and nothing that refuses to give back what it has taken up. -/
def isLenient : Regex → Bool
  | .empty | .char .. | .backref .. => true
  | .seq r s | .alt r s | .cond _ r s => r.isLenient && s.isLenient
  | .group _ r | .scoped r => r.isLenient
  | .rep greed _ _ r => greed != .possessive && r.isLenient
  | .anchor .. | .atomic _ | .lookAhead .. | .lookBehind .. => false

/-- A lenient expression is plain if it does not refer to groups either. -/
theorem isPlain_of_isLenient {r : Regex} (h : r.isLenient = true)
    (hself : r.isSelfContained = true) : r.isPlain = true := by
  induction r <;> simp_all [isLenient, isSelfContained, isPlain]

end Regex

open Regex

/-- The constraint of a token, if it has one, compiles to a lenient expression. -/
def Token.IsLenient : Token → Prop
  | .var v => ∀ constraint, v.constraint? = some constraint →
      ∀ program, Regex.compile false Pattern.modes constraint.toList = .ok program →
        program.regex.isLenient = true
  | _ => True

namespace Token

variable {source : String} {tokens : List Token} {v : Variable}

/-- Constraints that have been checked have no groups to refer to. -/
theorem IsLenient.isPlain {t : Token} (h : t.IsLenient) (hadmitted : t.Admitted) : t.IsPlain := by
  cases t with
  | var v =>
      intro constraint hconstraint program hprogram
      obtain ⟨checked, hchecked, hgroups⟩ := hadmitted constraint hconstraint
      obtain ⟨b, hb, -⟩ := standsAlone_of_compileConstraint hchecked hgroups
      obtain rfl := Except.ok.inj (hb.compile.symm.trans hprogram)
      exact isPlain_of_isLenient (h constraint hconstraint _ hprogram) hb.isSelfContained
  | _ => trivial

/-! ## Values -/

/-- If a token has a default and a plain constraint, it takes the default. -/
def TakesDefault : Token → Prop
  | .var v => ∀ constraint default, v.constraint? = some constraint → v.default? = some default →
      (Token.var v).IsPlain → (Token.var v).Takes default.toList
  | _ => True

/-- **Defaults have been checked** in the tokens of a source that is read with validation. -/
theorem takesDefault_of_ofSource (h : ofSource source true = .ok tokens) :
    ∀ t ∈ tokens, t.TakesDefault := by
  refine forall_mem_of_ofSource (fun _ => trivial) trivial ?_ h
  rintro ctx text first last s hvalidates hparse expression _ _ hconstraint hdefault hplain
  obtain ⟨name, default?, constraint?, hspecifies, rfl⟩ := VarSpec.parse_eq_ok.1 hparse
  obtain ⟨constraint, rfl, rfl⟩ := Option.map_eq_some_iff.1 hconstraint
  obtain ⟨default, rfl, rfl⟩ := Option.map_eq_some_iff.1 hdefault
  obtain ⟨program, hchecked, hfits⟩ :=
    (@VarSpec.constrains_iff ctx _ _ first last).1 (hspecifies.constraint constraint rfl)
  have hmatch : (fullMatch? program.regex default).isSome = true := by
    have hfit := hfits default rfl
    rw [hvalidates] at hfit
    simpa [VarSpec.satisfies] using hfit
  -- in the modes of patterns, the constraint is built alike and matches no fewer texts
  obtain ⟨hcompile, hgroups⟩ := VarSpec.compileConstraint_of_checkConstraint hchecked
  obtain ⟨b, hb, halike⟩ := standsAlone_of_compileConstraint hcompile hgroups
  rw [← String.toList_ofList (l := constraint)] at hb
  refine (takes_constrained_iff hconstraint).2 ⟨_, hb.compile, ?_⟩
  rw [String.toList_ofList]
  exact halike.isSome_fullMatch? (hplain _ hconstraint _ hb.compile) hmatch

/-- A variable stands for a value that satisfies its constraint if its piece does, and its default
if it has one. -/
theorem TakesDefault.takes_value (h : (Token.var v).TakesDefault) {constraint : String}
    (hconstraint : v.constraint? = some constraint) (hplain : (Token.var v).IsPlain)
    {piece : String} (hpiece : (Token.var v).Takes piece.toList) :
    (Token.var v).Takes ((Token.var v).value piece).toList := by
  rw [value]
  split
  · next hempty =>
    obtain rfl : piece = "" := by simpa using hempty
    cases hdefault : v.default? with
    | none => exact hpiece
    | some default => exact h constraint default hconstraint hdefault hplain
  · exact hpiece

end Token

namespace Pattern

variable {source : String} {p : Pattern} {path : String}

/-- **Values satisfy their constraints.** A pattern of a source that is read with validation and
matches a path has cut it into one piece for each token. It gives every name the value of the last
token of that name: its piece, or its default if the piece is empty. If this token has a constraint,
and the constraint is lenient, then the value satisfies the constraint by itself, whatever the
constraints of other tokens are. -/
theorem resolve_satisfies (hp : parse source true = .ok p) (hmatch : p.isMatch path = true) :
    ∃ pieces bound, p.captures? path = some pieces ∧ p.resolve path = some bound ∧
      ∀ before v after, p.tokens = before ++ .var v :: after →
        v.name ∉ after.filterMap Token.variableName? →
          ∃ piece, pieces[before.length]? = some piece ∧
            bound.get? v.name = some ((Token.var v).value piece) ∧
              ∀ constraint, v.constraint? = some constraint → (Token.var v).IsLenient →
                ∃ program, Regex.compile false modes constraint.toList = .ok program ∧
                  (fullMatch? program.regex ((Token.var v).value piece).toList).isSome = true := by
  obtain ⟨htokens, -⟩ := exists_bodies_of_parse hp
  have hremainder := Token.remainderName_not_mem_of_ofSource htokens
  obtain ⟨bound, hbound⟩ := Option.isSome_iff_exists.1 ((p.isSome_resolve path).trans hmatch)
  obtain ⟨pieces, hcaptured, rfl⟩ := resolve_eq_some.1 hbound
  have hcuts := cuts_of_captures? hp hcaptured
  refine ⟨pieces, _, hcaptured, hbound, fun before v after hsplit hlast => ?_⟩
  obtain ⟨piece, hpiece, hmem, hget⟩ :=
    Token.get?_bound_of_last_variable hcuts.length_eq hremainder hsplit hlast
  refine ⟨piece, hpiece, hget, fun constraint hconstraint hlenient => ?_⟩
  have hv : Token.var v ∈ p.tokens := (List.of_mem_zip hmem).1
  have hplain := hlenient.isPlain (Token.admitted_of_ofSource htokens _ hv)
  have htakes := (List.forall₂_iff_zip.1 hcuts.taken).2 hmem hplain
  have hvalue :=
    (Token.takesDefault_of_ofSource htokens _ hv).takes_value hconstraint hplain htakes
  exact (Token.takes_constrained_iff hconstraint).1 hvalue

/-- A default in place of an empty piece, and a dot that has matched a line feed. -/
theorem resolve_satisfies_default :
    ∃ p bound, parse "/{a=x:.?}-{b:.}" true = .ok p ∧ p.resolve "/-\n" = some bound ∧
      (bound.get? "a" = some "x" ∧ ∃ program, Regex.compile false modes ".?".toList = .ok program ∧
        (fullMatch? program.regex "x".toList).isSome = true) ∧
      bound.get? "b" = some "\n" ∧ ∃ program, Regex.compile false modes ".".toList = .ok program ∧
        (fullMatch? program.regex "\n".toList).isSome = true := by
  let a : Variable := .spelled "a" (some "x") (some ".?")
  let b : Variable := .spelled "b" none (some ".")
  let tokens : List Token := [.literal "/", .var a, .literal "-", .var b]
  have hparsed : (parse "/{a=x:.?}-{b:.}" true).toOption.map
      (fun p => (p.tokens, p.isMatch "/-\n", p.captures? "/-\n")) =
        some (tokens, true, some ["/", "", "-", "\n"]) := by
    decide +kernel
  have hlenient : ∀ constraint ∈ [".?", "."],
      ((Regex.compile false modes constraint.toList).toOption.map fun program =>
        program.regex.isLenient) = some true := by
    decide +kernel
  have hvariable : ∀ v : Variable, (∀ constraint, v.constraint? = some constraint →
      constraint ∈ [".?", "."]) → (Token.var v).IsLenient := by
    intro v hv constraint hconstraint program hprogram
    have hfact := hlenient constraint (hv constraint hconstraint)
    rw [hprogram] at hfact
    exact Option.some.inj hfact
  obtain ⟨p, hp, hfacts⟩ := Outcome.toOption_map_eq_some.1 hparsed
  obtain ⟨htokens, hfacts⟩ := Prod.mk.inj hfacts
  obtain ⟨hmatch, hcaptured⟩ := Prod.mk.inj hfacts
  obtain ⟨pieces, bound, hpieces, hbound, hvalues⟩ := resolve_satisfies hp hmatch
  obtain rfl := Option.some.inj (hcaptured.symm.trans hpieces)
  obtain ⟨_, hempty, ha, hfits⟩ :=
    hvalues [.literal "/"] a [.literal "-", .var b] htokens (by decide)
  obtain ⟨_, hline, hb, hfits'⟩ :=
    hvalues [.literal "/", .var a, .literal "-"] b [] htokens (by decide)
  obtain rfl := Option.some.inj hempty
  obtain rfl := Option.some.inj hline
  refine ⟨p, bound, hp, hbound, ⟨ha, hfits _ rfl (hvariable a ?_)⟩, hb,
    hfits' _ rfl (hvariable b ?_)⟩
  · simp [a, Variable.spelled]
  · simp [b, Variable.spelled]

end Pattern

end PathRouter
