import PathRouter.Failure
import PathRouter.Proofs.Spelling

set_option autoImplicit false

/-! # Wildcards that do not end a template

Whether a wildcard stands where it cannot be matched is decided twice: for a template as a whole, by
`Pattern.areMatchable`, and when its pattern is made, by `Pattern.firstUnmatchable`, which goes
through the tokens and adds up the lengths of their spellings. The two agree, and what is told of
the first such wildcard is found in the source at the place that is told
(`Pattern.unmatchable_of_ofTokens`).
-/

namespace PathRouter

namespace Pattern

/-- The wildcard `expression` stands before other tokens, and no wildcard stands before it. -/
structure FirstWildcard (tokens before : List Token) (expression : String) (after : List Token) :
    Prop where
  split : tokens = before ++ .wildcard expression :: after
  first : ∀ t ∈ before, t.kind ≠ .wildcard
  early : after ≠ []

variable {tokens before after : List Token} {expression : String}

/-! ## The two checks -/

/-- A template with a wildcard before other tokens is not matchable. -/
theorem areMatchable_of_early (hsplit : tokens = before ++ .wildcard expression :: after)
    (hearly : after ≠ []) : areMatchable tokens = false := by
  subst hsplit
  refine Bool.eq_false_iff.2 fun h => hearly ?_
  exact eq_nil_of_areMatchable (areMatchable_of_append h)

/-- A template that is not matchable has such a wildcard. -/
theorem exists_firstWildcard (h : areMatchable tokens = false) :
    ∃ before expression after, FirstWildcard tokens before expression after := by
  induction tokens with
  | nil => cases h
  | cons t rest ih =>
      cases rest with
      | nil =>
          have hlast : t.isMatchable true = true := by cases t <;> rfl
          cases hlast.symm.trans h
      | cons u rest =>
          by_cases ht : t.isMatchable false = true
          · have hrest : areMatchable (u :: rest) = false := by simpa [areMatchable, ht] using h
            obtain ⟨before, expression, after, hsplit, hfirst, hearly⟩ := ih hrest
            refine ⟨t :: before, expression, after, by rw [hsplit]; rfl, ?_, hearly⟩
            exact List.forall_mem_cons.2 ⟨Token.kind_ne_wildcard_of_isMatchable ht, hfirst⟩
          · obtain ⟨expression, rfl⟩ : ∃ expression, t = .wildcard expression := by
              cases t <;> simp [Token.isMatchable] at ht ⊢
            exact ⟨[], expression, u :: rest, rfl, List.forall_mem_nil _, List.cons_ne_nil _ _⟩

/-- The loop stops at the first such wildcard, where the tokens before it end. -/
theorem FirstWildcard.firstUnmatchable_eq (h : FirstWildcard tokens before expression after)
    (start : Nat) :
    firstUnmatchable start tokens =
      some (expression, start + (before.flatMap Token.chars).length) := by
  obtain ⟨rfl, hfirst, hearly⟩ := h
  induction before generalizing start with
  | nil =>
      have hnext : after.isEmpty = false := by simpa using hearly
      rw [List.nil_append, firstUnmatchable, hnext]
      rfl
  | cons t before ih =>
      obtain ⟨ht, hfirst⟩ := List.forall_mem_cons.1 hfirst
      have hmatchable (last : Bool) : t.isMatchable last = true := by
        cases t with
        | wildcard _ => exact absurd rfl ht
        | _ => rfl
      rw [List.cons_append, firstUnmatchable, if_pos (hmatchable _), ih _ hfirst,
        List.flatMap_cons, List.length_append, Nat.add_assoc]
      rfl

/-! ## Patterns of tokens -/

/-- No constraint is looked at before the wildcards are. -/
theorem FirstWildcard.ofTokens_eq (h : FirstWildcard tokens before expression after) :
    ofTokens tokens = .error (.unmatchable expression (before.flatMap Token.chars).length
      (String.join (tokens.map Token.expression))) := by
  have hstop : firstUnmatchable 0 (Template.ofTokens tokens).tokens =
      some (expression, (before.flatMap Token.chars).length) := by
    rw [← Nat.zero_add (before.flatMap Token.chars).length]
    exact h.firstUnmatchable_eq 0
  rw [ofTokens, ofTemplate, hstop]
  rfl

/-- What else a pattern of tokens is refused for is told in another way. -/
theorem name_report_of_areMatchable (h : areMatchable tokens = true) {e : PatternError}
    (he : ofTokens tokens = .error e) : e.report.name ≠ "InvalidPatternError" := by
  have hparse : ∃ cause, e = .parse cause := by
    have hgoes : firstUnmatchable 0 (Template.ofTokens tokens).tokens = none :=
      firstUnmatchable_eq_none_iff.2 h
    rw [ofTokens, ofTemplate, hgoes] at he
    dsimp only at he
    split at he
    · exact ⟨_, (Except.error.inj he).symm⟩
    · exact ⟨_, (Except.error.inj he).symm⟩
    · split at he
      · cases he
      · exact ⟨_, (Except.error.inj he).symm⟩
  obtain ⟨cause, rfl⟩ := hparse
  cases cause with
  | fault f => exact (by decide : Topic.template.name ≠ "InvalidPatternError")
  | excess limit =>
      have hname : excessName limit ≠ "InvalidPatternError" := by
        cases limit <;> simp [excessName]
      exact hname

/-- The spelling of a token stands in the source where the tokens before it end. -/
theorem extract_join (before : List Token) (t : Token) (after : List Token) :
    (String.join ((before ++ t :: after).map Token.expression)).toList.extract
        (String.join (before.map Token.expression)).length
        ((String.join (before.map Token.expression)).length + t.expression.length) =
      t.expression.toList := by
  rw [List.map_append, List.map_cons, String.join_append, String.join_cons, String.toList_append,
    String.toList_append, ← String.length_toList, ← String.length_toList,
    List.extract_eq_take_drop, List.drop_left, Nat.add_sub_cancel_left, List.take_left]

/-- **The static check and the making of a pattern agree on wildcards.** A pattern of tokens is
refused as invalid exactly if its template is not matchable, and that is so exactly if a wildcard
stands before other tokens. The first such wildcard is then named, whatever the constraints of the
variables are, with the source that the tokens spell; it stands in the source where the tokens
before it end, and what is found there is its spelling. -/
theorem unmatchable_of_ofTokens (tokens : List Token) :
    ((∃ e, ofTokens tokens = .error e ∧ e.report.name = "InvalidPatternError") ↔
      areMatchable (Template.ofTokens tokens).tokens = false) ∧
    (areMatchable (Template.ofTokens tokens).tokens = false ↔
      ∃ before expression after, tokens = before ++ .wildcard expression :: after ∧ after ≠ []) ∧
    ∀ before expression after, FirstWildcard tokens before expression after →
      ∃ (e : PatternError) (d : Diagnostic) (source : String) (start : Nat),
        ofTokens tokens = .error e ∧ e.report = .diagnostic d ∧
        d.topic = .unmatchable expression ∧ d.source = some source ∧
        source = String.join (tokens.map Token.expression) ∧
        d.span = some ⟨start, start + expression.length⟩ ∧
        start = (String.join (before.map Token.expression)).length ∧
        source.toList.extract start (start + expression.length) = expression.toList := by
  refine ⟨⟨?_, fun h => ?_⟩, ⟨fun h => ?_, ?_⟩, fun before expression after h => ?_⟩
  · rintro ⟨e, he, hname⟩
    refine Bool.eq_false_iff.2 fun h => ?_
    exact name_report_of_areMatchable h he hname
  · obtain ⟨before, expression, after, hfirst⟩ := exists_firstWildcard h
    exact ⟨_, hfirst.ofTokens_eq, rfl⟩
  · obtain ⟨before, expression, after, hfirst⟩ := exists_firstWildcard h
    exact ⟨before, expression, after, hfirst.split, hfirst.early⟩
  · rintro ⟨before, expression, after, hsplit, hearly⟩
    exact areMatchable_of_early hsplit hearly
  · have hstart : (before.flatMap Token.chars).length =
        (String.join (before.map Token.expression)).length := by
      rw [← String.length_toList, String.toList_join, List.flatMap_map]
      rfl
    refine ⟨_, _, _, _, h.ofTokens_eq, rfl, rfl, rfl, rfl, rfl, hstart, ?_⟩
    rw [hstart, h.split]
    exact extract_join before (.wildcard expression) after

/-- A wildcard with a spelling of its own before another one and a constraint that does not compile:
without the first wildcard, the constraint is what the tokens are refused for. -/
theorem unmatchable_of_ofTokens_constraint :
    let broken : Token := .var (.spelled "x" none (some "("))
    (∃ (e : PatternError) (d : Diagnostic) (start : Nat),
      ofTokens [.literal "/a", .wildcard "*.js", broken, .wildcard "*"] = .error e ∧
      e.report = .diagnostic d ∧ d.topic = .unmatchable "*.js" ∧
      d.source = some "/a*.js\x7bx:(\x7d*" ∧ d.span = some ⟨start, start + 4⟩ ∧ start = 2) ∧
    ∃ e, ofTokens [.literal "/a", broken, .wildcard "*"] = .error e ∧
      e.report.name = "TemplateSyntaxError" := by
  intro broken
  have hfirst : FirstWildcard [.literal "/a", .wildcard "*.js", broken, .wildcard "*"]
      [.literal "/a"] "*.js" [broken, .wildcard "*"] :=
    ⟨rfl, by decide, List.cons_ne_nil _ _⟩
  refine ⟨?_, ?_⟩
  · obtain ⟨e, d, source, start, he, hreport, htopic, hsource, rfl, hspan, hstart, -⟩ :=
      (unmatchable_of_ofTokens _).2.2 _ _ _ hfirst
    refine ⟨e, d, start, he, hreport, htopic, ?_, hspan, hstart.trans (by decide)⟩
    rw [hsource]
    decide
  · have hname : (match ofTokens [.literal "/a", broken, .wildcard "*"] with
        | .ok _ => none
        | .error e => some e.report.name) = some "TemplateSyntaxError" := by
      decide +kernel
    split at hname
    · cases hname
    · rename_i e he
      exact ⟨e, he, Option.some.inj hname⟩

end Pattern

end PathRouter
