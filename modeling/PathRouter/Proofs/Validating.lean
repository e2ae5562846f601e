import PathRouter.Proofs.Composition
import PathRouter.Proofs.Grammar
import PathRouter.Proofs.Rereading

set_option autoImplicit false

/-! # Validation of defaults

Defaults that do not satisfy their constraints are refused if defaults are validated. This is all
that validation does: what is read with it is what is read without it, provided that all defaults
fit (`Token.ofSource_validated`), whatever else is refused on the way. So every source that is
accepted with validation gives the same pattern without it (`Pattern.validation_refuses_unfit`).
-/

namespace PathRouter

open Outcome

/-! ## Defaults that fit -/

/-- The constraint, compiled by itself, matches all of the default; its dots do not match line
feeds. -/
def VarSpec.Satisfies (constraint default : List Char) : Prop :=
  ∃ program, Regex.compile false { dotAll := false } constraint = .ok program ∧
    (Regex.fullMatch? program.regex default).isSome = true

/-- If there are both a default and a constraint, the default satisfies the constraint. -/
def Variable.Fits (v : Variable) : Prop :=
  ∀ default constraint, v.default? = some default → v.constraint? = some constraint →
    VarSpec.Satisfies constraint.toList default.toList

/-- A variable fits, and so does any other token. -/
def Token.Fits : Token → Prop
  | .var v => v.Fits
  | _ => True

/-- The same place, where defaults need not satisfy their constraints. -/
abbrev SpecContext.lenient (ctx : SpecContext) : SpecContext :=
  { ctx with validateDefaults := false }

namespace VarSpec

variable {ctx : SpecContext} {start : Int}

/-- The variable of a spec fits. -/
def Fits (s : VarSpec) : Prop := (s.variable "").Fits

/-- A constraint is fit for a default if it is one and the default satisfies it. -/
theorem constrains_true_iff {default? : Option (List Char)} {constraint : List Char} :
    Constrains true default? constraint ↔ Constrains false default? constraint ∧
      ∀ default, default? = some default → Satisfies constraint default := by
  constructor
  · rintro ⟨hsome, hembeds, program, halone, hgroups, hfit⟩
    exact ⟨⟨hsome, hembeds, program, halone, hgroups, nofun⟩,
      fun default hd => ⟨program, halone, hfit rfl default hd⟩⟩
  · rintro ⟨⟨hsome, hembeds, program, halone, hgroups, -⟩, hfit⟩
    refine ⟨hsome, hembeds, program, halone, hgroups, fun _ default hd => ?_⟩
    obtain ⟨program', halone', hmatch⟩ := hfit default hd
    obtain rfl := Except.ok.inj (halone.symm.trans halone')
    exact hmatch

theorem specifies_true_iff {text name : List Char} {default? constraint? : Option (List Char)} :
    Specifies true text name default? constraint? ↔
      Specifies false text name default? constraint? ∧
        ∀ default constraint, default? = some default → constraint? = some constraint →
          Satisfies constraint default := by
  constructor
  · rintro ⟨hspelt, hnamed, hdefault, hconstraint⟩
    refine ⟨⟨hspelt, hnamed, hdefault, fun constraint hc => ?_⟩, fun default constraint hd hc => ?_⟩
    · exact (constrains_true_iff.1 (hconstraint constraint hc)).1
    · exact (constrains_true_iff.1 (hconstraint constraint hc)).2 default hd
  · rintro ⟨⟨hspelt, hnamed, hdefault, hconstraint⟩, hfits⟩
    exact ⟨hspelt, hnamed, hdefault, fun constraint hc =>
      constrains_true_iff.2 ⟨hconstraint constraint hc, fun default hd => hfits _ _ hd hc⟩⟩

/-- **One spec.** -/
theorem parse_validated (hctx : ctx.validateDefaults = true) {text : List Char} {stop : Int}
    {s : VarSpec} :
    parse ctx text start stop = .ok s ↔ parse ctx.lenient text start stop = .ok s ∧ s.Fits := by
  rw [parse_eq_ok, parse_eq_ok, hctx]
  constructor
  · rintro ⟨name, default?, constraint?, hspecifies, rfl⟩
    obtain ⟨hlenient, hfits⟩ := specifies_true_iff.1 hspecifies
    refine ⟨⟨name, default?, constraint?, hlenient, rfl⟩, fun _ _ hdefault hconstraint => ?_⟩
    obtain ⟨default, rfl, rfl⟩ := Option.map_eq_some_iff.1 hdefault
    obtain ⟨constraint, rfl, rfl⟩ := Option.map_eq_some_iff.1 hconstraint
    rw [String.toList_ofList, String.toList_ofList]
    exact hfits default constraint rfl rfl
  · rintro ⟨⟨name, default?, constraint?, hlenient, rfl⟩, hfits⟩
    refine ⟨name, default?, constraint?, specifies_true_iff.2 ⟨hlenient, ?_⟩, rfl⟩
    rintro default constraint rfl rfl
    have hfit := hfits (String.ofList default) (String.ofList constraint) rfl rfl
    rwa [String.toList_ofList, String.toList_ofList] at hfit

theorem parsePieces_validated (hctx : ctx.validateDefaults = true) {pieces : List (List Char)}
    {specs : List VarSpec} :
    parsePieces ctx start pieces = .ok specs ↔
      parsePieces ctx.lenient start pieces = .ok specs ∧ ∀ s ∈ specs, s.Fits := by
  induction pieces generalizing start specs with
  | nil =>
      constructor
      · intro h
        obtain rfl := Except.ok.inj h
        exact ⟨rfl, List.forall_mem_nil _⟩
      · exact And.left
  | cons piece rest ih =>
      rw [parsePieces_cons_eq_ok, parsePieces_cons_eq_ok]
      constructor
      · rintro ⟨s, others, hs, hothers, rfl⟩
        obtain ⟨hs, hfits⟩ := (parse_validated hctx).1 hs
        obtain ⟨hothers, hrest⟩ := ih.1 hothers
        exact ⟨⟨s, others, hs, hothers, rfl⟩, List.forall_mem_cons.2 ⟨hfits, hrest⟩⟩
      · rintro ⟨⟨s, others, hs, hothers, rfl⟩, hfits⟩
        obtain ⟨hfits, hrest⟩ := List.forall_mem_cons.1 hfits
        exact ⟨s, others, (parse_validated hctx).2 ⟨hs, hfits⟩, ih.2 ⟨hothers, hrest⟩, rfl⟩

end VarSpec

namespace Token

variable {source : String} {start : Nat} {tokens : List Token}

theorem forall_fits_ofSpecs {lead : String} {specs : List (VarSpec × List Char)} :
    (∀ t ∈ ofSpecs lead specs, t.Fits) ↔ ∀ s ∈ specs.map Prod.fst, s.Fits := by
  fun_induction ofSpecs lead specs with
  | case1 => exact iff_of_true (List.forall_mem_nil _) (List.forall_mem_nil _)
  | case2 lead s piece =>
      rw [List.forall_mem_singleton, List.map_singleton, List.forall_mem_singleton]
      rfl
  | case3 lead s piece rest _ ih =>
      rw [List.forall_mem_cons, List.forall_mem_cons, ih, List.map_cons, List.forall_mem_cons]
      exact and_congr Iff.rfl (and_iff_right trivial)

theorem ofSegment_validated {segment : Segment} :
    ofSegment source true start segment = .ok tokens ↔
      ofSegment source false start segment = .ok tokens ∧ ∀ t ∈ tokens, t.Fits := by
  cases segment with
  | text cs =>
      refine (and_iff_left_of_imp fun h => ?_).symm
      obtain ⟨t, ht, rfl⟩ := map_eq_ok.1 h
      rw [ofText_eq_ok ht]
      exact List.forall_mem_singleton.2 trivial
  | expansion body =>
      let ctx : SpecContext :=
        { source? := some source, offset := start + 1, validateDefaults := true }
      have hvalidated {specs : List VarSpec} :
          VarSpec.parsePieces ctx 0 (splitAt ',' body) = .ok specs ↔
            VarSpec.parsePieces ctx.lenient 0 (splitAt ',' body) = .ok specs ∧
              ∀ t ∈ ofSpecs "\x7b" (specs.zip (splitAt ',' body)), t.Fits := by
        rw [VarSpec.parsePieces_validated rfl]
        refine and_congr_right fun h => ?_
        rw [forall_fits_ofSpecs, List.map_fst_zip (VarSpec.length_of_parsePieces h).le]
      constructor
      · intro h
        obtain ⟨specs, hspecs, rfl⟩ := map_eq_ok.1 h
        obtain ⟨hlenient, hfits⟩ := hvalidated.1 hspecs
        exact ⟨map_eq_ok.2 ⟨specs, hlenient, rfl⟩, hfits⟩
      · rintro ⟨h, hfits⟩
        obtain ⟨specs, hspecs, rfl⟩ := map_eq_ok.1 h
        exact map_eq_ok.2 ⟨specs, hvalidated.2 ⟨hspecs, hfits⟩, rfl⟩

theorem ofSegments_validated {segments : List Segment} :
    ofSegments source true start segments = .ok tokens ↔
      ofSegments source false start segments = .ok tokens ∧ ∀ t ∈ tokens, t.Fits := by
  fun_induction ofSegments source true start segments generalizing tokens with
  | case1 =>
      refine (and_iff_left_of_imp fun h => ?_).symm
      obtain rfl := Except.ok.inj h
      exact List.forall_mem_nil _
  | case2 start cs =>
      refine (and_iff_left_of_imp fun h => ?_).symm
      rcases ofLastText_eq_ok h with rfl | rfl | rfl <;> simp [Fits]
  | case3 start segment rest hlast ih =>
      constructor
      · intro h
        obtain ⟨first, hfirst, h⟩ := bind_eq_ok.1 h
        obtain ⟨further, hfurther, h⟩ := bind_eq_ok.1 h
        obtain rfl := Except.ok.inj h
        obtain ⟨hfirst, hfits⟩ := ofSegment_validated.1 hfirst
        obtain ⟨hfurther, hrest⟩ := ih.1 hfurther
        exact ⟨ofSegments_cons hlast hfirst hfurther, List.forall_mem_append.2 ⟨hfits, hrest⟩⟩
      · rintro ⟨h, hfits⟩
        rw [ofSegments] at h
        · obtain ⟨first, hfirst, h⟩ := bind_eq_ok.1 h
          obtain ⟨further, hfurther, h⟩ := bind_eq_ok.1 h
          obtain rfl := Except.ok.inj h
          obtain ⟨hfits, hrest⟩ := List.forall_mem_append.1 hfits
          exact bind_eq_ok.2 ⟨first, ofSegment_validated.2 ⟨hfirst, hfits⟩,
            bind_eq_ok.2 ⟨further, ih.2 ⟨hfurther, hrest⟩, rfl⟩⟩
        · exact hlast

/-- **A whole source**: what is read with validation is what is read without it if all variables
fit. -/
theorem ofSource_validated :
    ofSource source true = .ok tokens ↔
      ofSource source false = .ok tokens ∧ ∀ v, .var v ∈ tokens → v.Fits := by
  have hvars : (∀ v, .var v ∈ tokens → v.Fits) ↔ ∀ t ∈ tokens, t.Fits := by
    constructor
    · intro h t ht
      cases t with
      | var v => exact h v ht
      | _ => trivial
    · exact fun h v hv => h _ hv
  rw [hvars]
  exact ofSegments_validated

/-- A source is read alike where defaults are not checked. -/
theorem ofSource_lenient {validateDefaults : Bool}
    (h : ofSource source validateDefaults = .ok tokens) : ofSource source false = .ok tokens := by
  cases validateDefaults with
  | false => exact h
  | true => exact (ofSource_validated.1 h).1

end Token

namespace Pattern

variable {source : String}

theorem parse_lenient {validateDefaults : Bool} {p : Pattern}
    (h : parse source validateDefaults = .ok p) : parse source false = .ok p := by
  obtain ⟨htokens, bodies, hbodies, -⟩ := exists_bodies_of_parse h
  exact (parse_eq_ok (Token.ofSource_lenient htokens) hbodies).trans
    ((parse_eq_ok htokens hbodies).symm.trans h)

/-- Every source that has tokens is a pattern. -/
theorem parse_isOk_iff {validateDefaults : Bool} :
    (∃ p, parse source validateDefaults = .ok p) ↔
      ∃ tokens, Token.ofSource source validateDefaults = .ok tokens := by
  constructor
  · rintro ⟨p, hp⟩
    exact ⟨p.tokens, (exists_bodies_of_parse hp).1⟩
  · rintro ⟨tokens, h⟩
    obtain ⟨bodies, hbodies⟩ := exists_bodies (Token.admitted_of_ofSource h)
    exact ⟨_, parse_eq_ok h hbodies⟩

/-- **Without validation of defaults more is accepted, and nothing becomes different.** A source
whose tokens can be read with validation has the same tokens without it; it makes a pattern, and
without validation it makes the same one, with the same expression and the same score. A source
whose tokens can be read without validation has tokens with it, and makes a pattern with it, exactly
if each variable with a default and a constraint fits: the constraint by itself matches all of the
default. -/
theorem validation_refuses_unfit (source : String) :
    (∀ tokens, Token.ofSource source true = .ok tokens →
      Token.ofSource source false = .ok tokens ∧
        ∃ p, parse source true = .ok p ∧ parse source false = .ok p) ∧
    ∀ tokens, Token.ofSource source false = .ok tokens →
      ((∃ tokens', Token.ofSource source true = .ok tokens') ↔
        ∀ v, .var v ∈ tokens → v.Fits) ∧
      ((∃ p, parse source true = .ok p) ↔ ∀ v, .var v ∈ tokens → v.Fits) := by
  refine ⟨fun tokens h => ⟨(Token.ofSource_validated.1 h).1, ?_⟩, fun tokens h => ?_⟩
  · obtain ⟨p, hp⟩ := parse_isOk_iff.2 ⟨tokens, h⟩
    exact ⟨p, hp, parse_lenient hp⟩
  · have hfits : (∃ tokens', Token.ofSource source true = .ok tokens') ↔
        ∀ v, .var v ∈ tokens → v.Fits := by
      constructor
      · rintro ⟨tokens', h'⟩
        obtain ⟨hlenient, hfits⟩ := Token.ofSource_validated.1 h'
        obtain rfl := Except.ok.inj (h.symm.trans hlenient)
        exact hfits
      · exact fun hfits => ⟨tokens, Token.ofSource_validated.2 ⟨h, hfits⟩⟩
    exact ⟨hfits, parse_isOk_iff.trans hfits⟩

/-- Defaults that fit, and one that does not: it would take a dot that matches a line feed. -/
theorem validation_refuses_unfit_line :
    (∃ p, parse "\x7bx=7:[0-9],y=b:.\x7d" true = .ok p ∧
      parse "\x7bx=7:[0-9],y=b:.\x7d" false = .ok p) ∧
    ∃ tokens, Token.ofSource "\x7bx=7:[0-9],y=\n:.\x7d" false = .ok tokens ∧
      (¬ ∃ p, parse "\x7bx=7:[0-9],y=\n:.\x7d" true = .ok p) ∧
        ¬ ∀ v, .var v ∈ tokens → v.Fits := by
  have hread : (Token.ofSource "\x7bx=7:[0-9],y=b:.\x7d" true).toOption.isSome = true ∧
      (Token.ofSource "\x7bx=7:[0-9],y=\n:.\x7d" false).toOption.isSome = true ∧
      (Token.ofSource "\x7bx=7:[0-9],y=\n:.\x7d" true).toOption.isSome = false := by
    decide +kernel
  obtain ⟨hfit, hlenient, hrefused⟩ := hread
  obtain ⟨tokens, htokens⟩ := Option.isSome_iff_exists.1 hfit
  obtain ⟨-, p, hp⟩ := (validation_refuses_unfit _).1 tokens (toOption_eq_some.1 htokens)
  obtain ⟨tokens', htokens'⟩ := Option.isSome_iff_exists.1 hlenient
  have hnone : ¬ ∃ tokens, Token.ofSource "\x7bx=7:[0-9],y=\n:.\x7d" true = .ok tokens := by
    rintro ⟨tokens, h⟩
    rw [h] at hrefused
    cases hrefused
  obtain ⟨hiff, hpattern⟩ := (validation_refuses_unfit _).2 tokens' (toOption_eq_some.1 htokens')
  have hunfit := mt hiff.2 hnone
  exact ⟨⟨p, hp⟩, tokens', toOption_eq_some.1 htokens', mt hpattern.1 hunfit, hunfit⟩

end Pattern

end PathRouter
