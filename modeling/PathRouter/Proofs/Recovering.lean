import PathRouter.Proofs.Lookup
import PathRouter.Proofs.Resolving

set_option autoImplicit false

/-! # What is expanded can be resolved

A pattern whose variables have no constraints and are kept apart by slashes (`Separated`) can be cut
in one way only, into pieces for its tokens (`Token.eq_of_takes`): a value has no slash, and the
next literal begins with one. So a path that the pattern expands to with values for all variables is
resolved to these values, whatever else is in them (`Pattern.resolve_expand`).
-/

namespace PathRouter

/-! ## Variables kept apart -/

/-- A variable without a constraint. -/
def Token.IsUnconstrained : Token → Prop
  | .var v => v.constraint? = none
  | _ => True

/-- After a variable comes a literal that begins with a slash. -/
def Token.Parts : Token → Token → Prop
  | .var _, t => ∃ text, t = .literal text ∧ text.toList.head? = some '/'
  | _, _ => True

/-- Variables that have no constraints and different names, and each of which is the last token or
followed by a literal that begins with a slash. -/
structure Separated (tokens : List Token) : Prop where
  unconstrained : ∀ t ∈ tokens, t.IsUnconstrained
  distinct : (tokens.filterMap Token.variableName?).Nodup
  apart : tokens.IsChain Token.Parts

/-- The value of a variable: the one that is given, and otherwise its default. -/
def Variable.valueIn (value? : String → Option String) (v : Variable) : String :=
  ((value? v.name).or v.default?).getD ""

/-- What a token binds if names have the given values: a variable its value, and a wildcard the
remainder, which is empty if none is given. -/
def Token.given (value? : String → Option String) : Token → Option (String × String)
  | .literal _ => none
  | .var v => some (v.name, v.valueIn value?)
  | .wildcard _ => some (remainderName, (value? remainderName).getD "")

/-- A value that can be told from what follows it: it is not empty and has no slash. -/
def IsSegment (value : String) : Prop := value ≠ "" ∧ '/' ∉ value.toList

namespace Token

theorem IsUnconstrained.isPlain {t : Token} (h : t.IsUnconstrained) : t.IsPlain := by
  cases t with
  | var v =>
      intro constraint hconstraint
      rw [IsUnconstrained] at h
      rw [h] at hconstraint
      cases hconstraint
  | _ => trivial

/-- A variable without a constraint takes what is not empty and has no slash. -/
theorem takes_var_iff {v : Variable} (h : (Token.var v).IsUnconstrained) {piece : List Char} :
    (Token.var v).Takes piece ↔ piece ≠ [] ∧ '/' ∉ piece := by
  have hnone : v.constraint? = none := h
  rw [Takes, hnone]

/-- With segments for its variables, a token takes what it expands to. -/
theorem takes_expand {t : Token} (h : t.IsUnconstrained) {value? : String → Option String}
    (hvalue : ∀ v, t = .var v → IsSegment (v.valueIn value?)) :
    t.Takes (t.expand value?).toList := by
  cases t with
  | literal text => exact rfl
  | wildcard expression => trivial
  | var v =>
      obtain ⟨hsome, hslash⟩ := hvalue v rfl
      have hnonempty : (v.valueIn value?).toList ≠ [] := by simpa using hsome
      exact (takes_var_iff h).2 ⟨hnonempty, hslash⟩

/-- A token that has captured what it expands to binds what is given. -/
theorem binding?_expand {t : Token} {value? : String → Option String}
    (hvalue : ∀ v, t = .var v → IsSegment (v.valueIn value?)) :
    binding? (t, t.expand value?) = t.given value? := by
  cases t with
  | literal text => rfl
  | wildcard expression => rfl
  | var v =>
      have hnonempty : ¬ (v.valueIn value?).isEmpty = true := by
        simpa using (hvalue v rfl).1
      show some (v.name, if (v.valueIn value?).isEmpty then _ else v.valueIn value?) = _
      rw [if_neg hnonempty]
      rfl

/-- What tokens take after a variable is nothing, or it begins with a slash. -/
theorem head?_flatten_of_parts {v : Variable} {tokens : List Token} {pieces : List (List Char)}
    (hapart : (Token.var v :: tokens).IsChain Parts) (h : List.Forall₂ Takes tokens pieces) :
    ∀ c ∈ pieces.flatten.head?, c = '/' := by
  cases h with
  | nil => simp
  | cons ht hrest =>
      obtain ⟨text, rfl, hslash⟩ := (List.isChain_cons_cons.1 hapart).1
      obtain rfl := ht
      rw [List.flatten_cons, List.head?_append, hslash, Option.some_or]
      rintro c ⟨⟩
      rfl

/-- The first piece of a path, and so the rest of it, can be told from the tokens: a literal is
known, the slash after a variable tells where its piece ends, and nothing follows a wildcard. -/
theorem eq_and_flatten_eq_of_takes {t : Token} {tokens : List Token} (ht : t.IsUnconstrained)
    (hapart : (t :: tokens).IsChain Parts) (hmatchable : Pattern.areMatchable (t :: tokens) = true)
    {piece piece' : List Char} {pieces pieces' : List (List Char)} (hpiece : t.Takes piece)
    (hpiece' : t.Takes piece') (hpieces : List.Forall₂ Takes tokens pieces)
    (hpieces' : List.Forall₂ Takes tokens pieces')
    (hsame : piece ++ pieces.flatten = piece' ++ pieces'.flatten) :
    piece = piece' ∧ pieces.flatten = pieces'.flatten := by
  cases t with
  | literal text =>
      obtain rfl := hpiece
      obtain rfl := hpiece'
      exact ⟨rfl, List.append_cancel_left hsame⟩
  | var v =>
      -- on both sides the piece is what stands before the first slash
      have hnoSlash : ∀ {word : List Char}, (var v).Takes word → ∀ c ∈ word, (c != '/') = true := by
        intro word hword c hc
        rw [bne_iff_ne]
        rintro rfl
        exact ((takes_var_iff ht).1 hword).2 hc
      have hslash : ∀ {words : List (List Char)}, List.Forall₂ Takes tokens words →
          ∀ c ∈ words.flatten.head?, (c != '/') = false := by
        intro words hwords c hc
        rw [head?_flatten_of_parts hapart hwords c hc]
        rfl
      exact VarSpec.eq_of_append_eq_append hsame (hnoSlash hpiece) (hnoSlash hpiece')
        (hslash hpieces) (hslash hpieces')
  | wildcard expression =>
      obtain rfl := Pattern.eq_nil_of_areMatchable hmatchable
      cases hpieces
      cases hpieces'
      exact ⟨List.append_cancel_right hsame, rfl⟩

/-- **There is one way only to cut a path into what tokens take.** -/
theorem eq_of_takes {tokens : List Token} (hunconstrained : ∀ t ∈ tokens, t.IsUnconstrained)
    (hapart : tokens.IsChain Parts) (hmatchable : Pattern.areMatchable tokens = true)
    {pieces pieces' : List (List Char)} (h : List.Forall₂ Takes tokens pieces)
    (h' : List.Forall₂ Takes tokens pieces') (hsame : pieces.flatten = pieces'.flatten) :
    pieces = pieces' := by
  induction tokens generalizing pieces pieces' with
  | nil =>
      cases h
      cases h'
      rfl
  | cons t tokens ih =>
      obtain ⟨ht, htokens⟩ := List.forall_mem_cons.1 hunconstrained
      obtain ⟨piece, rest, hpiece, hrest, rfl⟩ := List.forall₂_cons_left_iff.1 h
      obtain ⟨piece', rest', hpiece', hrest', rfl⟩ := List.forall₂_cons_left_iff.1 h'
      rw [List.flatten_cons, List.flatten_cons] at hsame
      obtain ⟨rfl, hflatten⟩ := eq_and_flatten_eq_of_takes ht hapart hmatchable hpiece hpiece' hrest
        hrest' hsame
      rw [ih htokens hapart.tail (Pattern.areMatchable_tail hmatchable) hrest hrest' hflatten]

end Token

namespace Pattern

variable {source : String} {validateDefaults : Bool} {p : Pattern} {value? : String → Option String}

/-- The texts of pieces make up the text that they are joined to. -/
theorem flatten_map_toList (pieces : List String) :
    (pieces.map String.toList).flatten = (String.join pieces).toList := by
  rw [String.toList_join]
  rfl

/-- Expanding a template cuts it into what its tokens take. -/
theorem takes_map_expand {tokens : List Token} (hseparated : Separated tokens)
    (hvalues : ∀ v, Token.var v ∈ tokens → IsSegment (v.valueIn value?)) :
    List.Forall₂ Token.Takes tokens ((tokens.map (·.expand value?)).map String.toList) := by
  rw [List.forall₂_map_right_iff, List.forall₂_map_right_iff, List.forall₂_same]
  intro t ht
  refine Token.takes_expand (hseparated.unconstrained t ht) ?_
  rintro v rfl
  exact hvalues v ht

/-- The pieces that are captured in an expansion are what the tokens have expanded to. -/
theorem Cuts.eq_map_expand {pieces : List String}
    (h : p.Cuts (p.template.expandWith value?) pieces) (hseparated : Separated p.tokens)
    (hmatchable : areMatchable p.tokens = true)
    (hvalues : ∀ v, Token.var v ∈ p.tokens → IsSegment (v.valueIn value?)) :
    pieces = p.tokens.map (·.expand value?) := by
  have hplain : ∀ t ∈ p.tokens, t.IsPlain := fun t ht => (hseparated.unconstrained t ht).isPlain
  have htaken : List.Forall₂ Token.Takes p.tokens (pieces.map String.toList) := by
    rw [List.forall₂_map_right_iff]
    exact ((List.forall₂_and_left _ _).2 ⟨hplain, h.taken⟩).imp fun t piece ht => ht.2 ht.1
  have hsame : (pieces.map String.toList).flatten =
      ((p.tokens.map (·.expand value?)).map String.toList).flatten := by
    rw [flatten_map_toList, flatten_map_toList, h.joined]
    rfl
  have hpieces := Token.eq_of_takes hseparated.unconstrained hseparated.apart hmatchable htaken
    (takes_map_expand hseparated hvalues) hsame
  exact List.map_injective_iff.2 (fun _ _ => String.toList_inj.1) hpieces

/-- What is bound by pieces that the tokens have expanded to is what is given. -/
theorem items_bound {tokens : List Token}
    (hnames : (tokens.filterMap Token.boundName?).Nodup)
    (hvalues : ∀ v, Token.var v ∈ tokens → IsSegment (v.valueIn value?)) :
    (Bindings.ofList ((tokens.zip (tokens.map (·.expand value?))).filterMap Token.binding?)).items =
      tokens.filterMap (Token.given value?) := by
  have hlength : tokens.length = (tokens.map (·.expand value?)).length := (List.length_map _).symm
  have hkeys := Token.map_fst_binding? hlength
  rw [Bindings.items_ofList (by rwa [hkeys]), ← List.map_prod_left_eq_zip, List.filterMap_map]
  refine List.filterMap_congr fun t ht => Token.binding?_expand ?_
  rintro v rfl
  exact hvalues v ht

/-- **What is expanded can be resolved.** A source whose variables have no constraints, have
different names and are kept apart by slashes is a pattern. If all its variables have values, given
or by default, that are not empty and have no slash, then the pattern matches the path that it
expands to; it resolves this path and binds every variable to its value and, if there is a wildcard,
the remainder to what is given for it, and nothing else. The values may be given by parameters
(`Template.expand`) or in any other way. -/
theorem resolve_expand {tokens : List Token}
    (h : Token.ofSource source validateDefaults = .ok tokens) (hseparated : Separated tokens)
    (hvalues : ∀ v, Token.var v ∈ tokens → IsSegment (v.valueIn value?)) :
    ∃ p, parse source validateDefaults = .ok p ∧
      p.isMatch (p.template.expandWith value?) = true ∧
        ∃ bound, p.resolve (p.template.expandWith value?) = some bound ∧
          bound.items = tokens.filterMap (Token.given value?) := by
  obtain ⟨bodies, hbodies⟩ := exists_bodies (Token.admitted_of_ofSource h)
  have hmatchable := Token.areMatchable_of_ofSource h
  let p : Pattern :=
    { template := { source, tokens }
      program := ⟨.ofList (groupsFrom 1 bodies), tokens.length⟩ }
  have hp : parse source validateDefaults = .ok p := parse_eq_ok h hbodies
  have hplain : ∀ t ∈ p.tokens, t.IsPlain := fun t ht => (hseparated.unconstrained t ht).isPlain
  have hmatch : p.isMatch (p.template.expandWith value?) = true :=
    (isMatch_iff_of_parse hp hplain _).2
      ⟨_, flatten_map_toList _, takes_map_expand hseparated hvalues⟩
  obtain ⟨bound, hbound⟩ := Option.isSome_iff_exists.1 ((p.isSome_resolve _).trans hmatch)
  -- whatever the groups have captured, there is only one way to cut the path
  refine ⟨p, hp, hmatch, bound, hbound, ?_⟩
  obtain ⟨pieces, hcaptured, rfl⟩ := resolve_eq_some.1 hbound
  obtain rfl := (cuts_of_captures? hp hcaptured).eq_map_expand hseparated hmatchable hvalues
  exact items_bound (Token.nodup_filterMap_boundName? hmatchable
    (Token.remainderName_not_mem_of_ofSource h) hseparated.distinct) hvalues

/-- A value that looks like the literals around it and ends with a line feed, a default, and a
remainder. -/
theorem resolve_expand_remainder :
    ∃ p bound, parse "/b{id}/b.{name=n}/*" true = .ok p ∧
      p.resolve "/bb.\n/b.n/x//y" = some bound ∧
        bound.items = [("id", "b.\n"), ("name", "n"), ("*", "x//y")] := by
  let id : Variable := .spelled "id" none none
  let name : Variable := .spelled "name" (some "n") none
  let tokens : List Token :=
    [.literal "/b", .var id, .literal "/b.", .var name, .literal "/", .wildcard wildcardText]
  let given : Parameters := .ofList [("id", "b.\n"), ("*", "x//y")]
  have h : Token.ofSource "/b{id}/b.{name=n}/*" true = .ok tokens := by
    refine Outcome.toOption_eq_some.1 ?_
    decide +kernel
  have hafter : ∀ v, (Token.var v).Parts (.literal "/b.") ∧ (Token.var v).Parts (.literal "/") :=
    fun v => ⟨⟨_, rfl, by decide⟩, ⟨_, rfl, by decide⟩⟩
  have hseparated : Separated tokens := by
    refine ⟨?_, by decide +kernel, ?_⟩
    · simp [tokens, id, name, Variable.spelled, Token.IsUnconstrained]
    · exact .cons_cons trivial (.cons_cons (hafter id).1 (.cons_cons trivial
        (.cons_cons (hafter name).2 (.cons_cons trivial (.singleton _)))))
  have hvalues : ∀ v, Token.var v ∈ tokens → IsSegment (v.valueIn given.get?) := by
    intro v hv
    simp only [tokens, List.mem_cons, List.not_mem_nil, Token.var.injEq, reduceCtorEq, false_or,
      or_false] at hv
    rcases hv with rfl | rfl
    · show id.valueIn given.get? ≠ "" ∧ '/' ∉ (id.valueIn given.get?).toList
      decide +kernel
    · show name.valueIn given.get? ≠ "" ∧ '/' ∉ (name.valueIn given.get?).toList
      decide +kernel
  obtain ⟨p, hp, -, bound, hbound, hitems⟩ := resolve_expand h hseparated hvalues
  have hsame : p.tokens = tokens := Except.ok.inj ((exists_bodies_of_parse hp).1.symm.trans h)
  have hpath : p.template.expandWith given.get? = "/bb.\n/b.n/x//y" := by
    show String.join (p.tokens.map _) = _
    rw [hsame]
    decide +kernel
  rw [hpath] at hbound
  refine ⟨p, bound, hp, hbound, ?_⟩
  rw [hitems]
  decide +kernel

end Pattern

end PathRouter
