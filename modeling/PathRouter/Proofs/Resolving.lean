import PathRouter.Proofs.Binding
import PathRouter.Proofs.Capturing
import PathRouter.Proofs.Cutting

set_option autoImplicit false

/-! # What resolving tells of a path

A pattern that resolves a path has cut the whole path into one piece for each of its tokens
(`Pattern.Cuts`), whatever the constraints of its variables look at. The values are bound to the
variables in the order of the tokens, the remainder last, and the pattern expands with them to the
path again (`Pattern.resolve_splits`). For that the variables have to be distinct, and none of them
may have been given its default in place of an empty piece.
-/

namespace PathRouter

open Regex

/-! ## Pieces of a path -/

/-- Words that the bodies of tokens may reach are taken by the tokens, as far as their constraints
are plain. -/
theorem Token.forall₂_takes {tokens : List Token} {bodies : List Regex}
    {pieces : List (List Char)}
    (h : List.Forall₂ (fun t b => StandsAlone t.fragment.toList b) tokens bodies)
    (hpieces : List.Forall₂ (fun b piece => piece ∈ b.reach) bodies pieces) :
    List.Forall₂ (fun t piece => t.IsPlain → t.Takes piece) tokens pieces := by
  induction h generalizing pieces with
  | nil =>
      cases hpieces
      exact .nil
  | cons hb _ ih =>
      cases hpieces with
      | cons hpiece hpieces =>
          refine .cons (fun hplain => ?_) (ih hpieces)
          -- a plain constraint makes a plain body, and of those it is told what they reach
          obtain ⟨hbplain, hwords⟩ := isPlain_and_mem_language_iff hplain hb
          exact (hwords _).1 (hpiece hbplain)

namespace Pattern

/-- The pieces that the groups of a pattern capture in a path. Every group takes part in the match;
the pieces make up the path, and each of them is what its token takes, if the constraint is plain.
So the piece of a literal is its text, and that of a variable without a constraint is not empty and
has no slash. -/
structure Cuts (p : Pattern) (path : String) (pieces : List String) : Prop where
  captured : p.program.captures? path.toList = some (pieces.map fun piece => some piece.toList)
  joined : String.join pieces = path
  taken : List.Forall₂ (fun t piece => t.IsPlain → t.Takes piece.toList) p.tokens pieces

/-- What a pattern captures in a path are pieces of the path. -/
theorem cuts_of_captures? {source : String} {validateDefaults : Bool} {p : Pattern}
    (hp : parse source validateDefaults = .ok p) {path : String} {captured : List String}
    (h : p.captures? path = some captured) : p.Cuts path captured := by
  obtain ⟨-, bodies, hbodies, hprogram⟩ := exists_bodies_of_parse hp
  obtain ⟨groups, hgroups, rfl⟩ := Option.map_eq_some_iff.1 h
  have hgroupless : ∀ b ∈ bodies, b.isGroupless = true :=
    forall_mem_bodies hbodies fun hb => hb.isGroupless
  rw [hprogram] at hgroups
  obtain ⟨pieces, rfl, hpath, hpieces⟩ := exists_pieces_of_captures? hgroupless hgroups
  have hcaptured : (pieces.map some).map (fun captured => String.ofList (captured.getD [])) =
      pieces.map String.ofList := by simp
  rw [hcaptured]
  refine ⟨?_, ?_, ?_⟩
  · rw [hprogram, hgroups]
    simp
  · rw [← String.toList_inj, String.toList_join, ← hpath]
    simp [List.flatMap_map]
  · rw [List.forall₂_map_right_iff]
    exact (Token.forall₂_takes hbodies hpieces).imp fun t piece htakes => by
      rwa [String.toList_ofList]

namespace Cuts

variable {p : Pattern} {path : String} {pieces : List String}

theorem length_eq (h : p.Cuts path pieces) : p.tokens.length = pieces.length := h.taken.length_eq

/-- Unless a variable has been given its default in place of an empty piece, tokens stand for what
they have captured. -/
theorem value_eq (h : p.Cuts path pieces)
    (hdefaults : ∀ v, (Token.var v, "") ∈ p.tokens.zip pieces → v.default? = none) {t : Token}
    {piece : String} (hmem : (t, piece) ∈ p.tokens.zip pieces) : t.value piece = piece := by
  cases t with
  | literal text =>
      have htakes : piece.toList = text.toList :=
        (List.forall₂_iff_zip.1 h.taken).2 hmem trivial
      exact (String.toList_inj.1 htakes).symm
  | var v =>
      rw [Token.value]
      split
      · next hempty =>
        -- without a default, a variable stands for the empty piece as well
        obtain rfl : piece = "" := by simpa using hempty
        rw [hdefaults v hmem]
        rfl
      · rfl
  | wildcard expression => rfl

/-- Distinct variables with their pieces expand to the path. -/
theorem expand_bound (h : p.Cuts path pieces)
    (hnames : (p.tokens.filterMap Token.boundName?).Nodup)
    (hdefaults : ∀ v, (Token.var v, "") ∈ p.tokens.zip pieces → v.default? = none) :
    p.template.expand (.ofList ((p.tokens.zip pieces).filterMap Token.binding?)) = path := by
  let value? := (Bindings.ofList ((p.tokens.zip pieces).filterMap Token.binding?)).get?
  have hpieces : p.tokens.map (·.expand value?) = pieces := by
    calc p.tokens.map (·.expand value?)
        = ((p.tokens.zip pieces).map Prod.fst).map (·.expand value?) := by
          rw [List.map_fst_zip h.length_eq.le]
      _ = (p.tokens.zip pieces).map Prod.snd := by
          rw [List.map_map]
          refine List.map_congr_left fun pair hmem => ?_
          exact (Token.expand_eq_value h.length_eq hnames hmem).trans (h.value_eq hdefaults hmem)
      _ = pieces := List.map_snd_zip h.length_eq.ge
  calc String.join (p.tokens.map (·.expand value?))
      = String.join pieces := by rw [hpieces]
    _ = path := h.joined

end Cuts

/-! ## Resolving -/

/-- **Resolving splits the whole path, and expanding undoes it.** A pattern of a source that
resolves a path has cut the path into pieces for its tokens. It binds the names of its variables, in
their order, and after them the name of the remainder, exactly if it ends in a wildcard. If the
variables are distinct and none of those that have a default has an empty piece, then the pattern
expands to the path with what it has bound. -/
theorem resolve_splits {source : String} {validateDefaults : Bool} {p : Pattern}
    (hp : parse source validateDefaults = .ok p) {path : String} {bound : Parameters}
    (h : p.resolve path = some bound) :
    ∃ pieces, p.Cuts path pieces ∧
      (bound.names = p.template.variableNames ++
        if Token.endInWildcard p.tokens then [remainderName] else []) ∧
      (remainderName ∈ bound.names ↔ Token.endInWildcard p.tokens = true) ∧
      ((p.tokens.filterMap Token.variableName?).Nodup →
        (∀ v, (Token.var v, "") ∈ p.tokens.zip pieces → v.default? = none) →
          p.template.expand bound = path) := by
  obtain ⟨htokens, -⟩ := exists_bodies_of_parse hp
  have hmatchable := Token.areMatchable_of_ofSource htokens
  have hremainder := Token.remainderName_not_mem_of_ofSource htokens
  obtain ⟨pieces, hcaptured, rfl⟩ := resolve_eq_some.1 h
  have hcuts : p.Cuts path pieces := cuts_of_captures? hp hcaptured
  have hnames : (Bindings.ofList ((p.tokens.zip pieces).filterMap Token.binding?)).names =
      p.template.variableNames ++
        if Token.endInWildcard p.tokens then [remainderName] else [] := by
    rw [Bindings.names_ofList, Token.map_fst_binding? hcuts.length_eq,
      Token.eraseDups_filterMap_boundName? hmatchable hremainder, Template.variableNames_eq]
    rfl
  refine ⟨pieces, hcuts, hnames, ?_, fun hdistinct hdefaults => ?_⟩
  · -- an asterisk is the name of no variable, so that it is bound by the wildcard only
    have hvariables : remainderName ∉ p.template.variableNames := by
      rw [Template.variableNames_eq, List.mem_eraseDups]
      exact hremainder
    rw [hnames, List.mem_append, or_iff_right hvariables]
    cases Token.endInWildcard p.tokens <;> simp
  · exact hcuts.expand_bound
      (Token.nodup_filterMap_boundName? hmatchable hremainder hdistinct) hdefaults

/-- A constraint that looks ahead and matches nothing, and a remainder. -/
theorem resolve_splits_lookahead :
    ∃ p bound, parse "/\x7ba:[a-z]*(?=[.])\x7d.\x7bb\x7d*" true = .ok p ∧
      p.resolve "/.c/d" = some bound ∧ bound.names = ["a", "b", remainderName] ∧
        p.template.expand bound = "/.c/d" := by
  let a : Variable := .spelled "a" none (some "[a-z]*(?=[.])")
  let b : Variable := .spelled "b" none none
  let tokens : List Token := [.literal "/", .var a, .literal ".", .var b, .wildcard wildcardText]
  have hresolved : (parse "/\x7ba:[a-z]*(?=[.])\x7d.\x7bb\x7d*" true).toOption.map
      (fun p => (p.tokens, (p.resolve "/.c/d").isSome)) = some (tokens, true) := by
    decide +kernel
  obtain ⟨p, hp, hpair⟩ := Outcome.toOption_map_eq_some.1 hresolved
  obtain ⟨htokens, hsome⟩ := Prod.mk.inj hpair
  obtain ⟨bound, hbound⟩ := Option.isSome_iff_exists.1 hsome
  obtain ⟨pieces, -, hnames, -, hexpand⟩ := resolve_splits hp hbound
  refine ⟨p, bound, hp, hbound, ?_, hexpand ?_ fun v hv => ?_⟩
  · rw [hnames, Template.variableNames_eq]
    show (p.tokens.filterMap _).eraseDups ++ _ = _
    rw [htokens]
    decide +kernel
  · rw [htokens]
    decide +kernel
  · have hmem := (List.of_mem_zip hv).1
    rw [htokens] at hmem
    simp only [tokens, List.mem_cons, List.not_mem_nil, Token.var.injEq, reduceCtorEq, false_or,
      or_false] at hmem
    rcases hmem with rfl | rfl <;> rfl

end Pattern

end PathRouter
