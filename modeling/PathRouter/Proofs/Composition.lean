import PathRouter.Proofs.Reading.Standalone
import PathRouter.Proofs.Tokens

set_option autoImplicit false

/-! # The expression of a pattern

The expression of a pattern puts the fragments of its tokens in parentheses, one after the other.
The fragments of the tokens of a source all stand alone, so that the expression compiles; its groups
are the fragments, each as it compiles by itself (`Pattern.parse_of_tokens`).
-/

namespace PathRouter

open Outcome Regex Regex.Reader

theorem Token.toList_fragment_literal (text : String) :
    (Token.literal text).fragment.toList = Regex.literal text.toList :=
  String.toList_ofList

/-- The fragment of a token with a checked constraint stands alone. -/
theorem Token.Admitted.standsAlone {t : Token} (h : t.Admitted) :
    ∃ b, StandsAlone t.fragment.toList b := by
  cases t with
  | literal text =>
      rw [Token.toList_fragment_literal]
      exact ⟨_, standsAlone_literal text.toList⟩
  | wildcard expression => exact ⟨_, standsAlone_remainder⟩
  | var v =>
      rw [Token.fragment]
      cases hconstraint : v.constraint? with
      | none => exact ⟨_, standsAlone_segment⟩
      | some constraint =>
          obtain ⟨program, hcompiled, hgroups⟩ := h constraint hconstraint
          obtain ⟨b, hb, -⟩ := standsAlone_of_compileConstraint hcompiled hgroups
          exact ⟨b, hb⟩

/-- What holds of all texts that stand alone holds of the bodies of tokens. -/
theorem forall_mem_bodies {tokens : List Token} {bodies : List Regex} {P : Regex → Prop}
    (h : List.Forall₂ (fun t b => StandsAlone t.fragment.toList b) tokens bodies)
    (hP : ∀ {cs b}, StandsAlone cs b → P b) : ∀ b ∈ bodies, P b := by
  induction h with
  | nil => exact nofun
  | cons hb _ ih => exact List.forall_mem_cons.2 ⟨hP hb, ih⟩

/-- Capturing groups with the given bodies, numbered from `n` on. -/
def groupsFrom (n : Nat) (bodies : List Regex) : List Regex :=
  (bodies.zipIdx n).map fun (b, i) => .group i b

theorem exists_of_mem_groupsFrom {n : Nat} {bodies : List Regex} {r : Regex}
    (h : r ∈ groupsFrom n bodies) : ∃ i, ∃ b ∈ bodies, r = .group i b := by
  obtain ⟨⟨b, i⟩, hb, rfl⟩ := List.mem_map.1 h
  exact ⟨i, b, List.fst_mem_of_mem_zipIdx hb, rfl⟩

theorem check_groupsFrom {n : Nat} {bodies : List Regex}
    (h : ∀ b ∈ bodies, check false b = .ok ()) :
    check false (.ofList (groupsFrom n bodies)) = .ok () := by
  refine check_ofList fun r hr => ?_
  obtain ⟨i, b, hb, rfl⟩ := exists_of_mem_groupsFrom hr
  exact h b hb

/-- The expression of tokens begins with the fragment of the first one in parentheses. -/
theorem symbols_expressionOf_cons {t : Token} {tokens : List Token}
    (h : (symbols t.fragment.toList).2 = false) :
    symbols (Pattern.expressionOf (t :: tokens)) =
      ((Symbol.plain '(' :: (symbols t.fragment.toList).1 ++ [.plain ')']) ++
        (symbols (Pattern.expressionOf tokens)).1, (symbols (Pattern.expressionOf tokens)).2) := by
  have hexpression : Pattern.expressionOf (t :: tokens) =
      '(' :: t.fragment.toList ++ ')' :: Pattern.expressionOf tokens := by
    simp [Pattern.expressionOf]
  rw [hexpression, symbols_group h]
  simp

/-- Reading the expression of tokens whose fragments stand alone adds one capturing group for each
token. The induction is on the tokens; what has been read before does not matter. -/
theorem feedAll_expressionOf {tokens : List Token} {bodies : List Regex}
    (h : List.Forall₂ (fun t b => StandsAlone t.fragment.toList b) tokens bodies) {r : Reader}
    (hready : r.pending = .ready) (hglobals : r.globals = [])
    (hbehind : r.table.behindFrom = none) (hmodes : r.top.modes = Pattern.modes) :
    (symbols (Pattern.expressionOf tokens)).2 = false ∧
      ∃ s, feedAll false (symbols (Pattern.expressionOf tokens)).1 r = .ok s ∧
        s.pending = .ready ∧ s.globals = [] ∧ s.below = r.below ∧
        s.top = { r.top with
          items := ((groupsFrom r.table.next bodies).map Item.one).reverse ++ r.top.items } ∧
        s.table.next = r.table.next + tokens.length ∧ s.table.awaited = r.table.awaited := by
  induction h generalizing r with
  | nil => exact ⟨rfl, r, rfl, hready, hglobals, rfl, rfl, rfl, rfl⟩
  | @cons t b tokens bodies hb hrest ih =>
      obtain ⟨q, hq, hnext, hnone, rfl⟩ := hb.reads
      obtain ⟨hlone, -, -⟩ := read_eq_ok.1 hq
      -- the group of the first token, and after it the groups of the others
      rcases feedAll_group immaterial_eq rfl hq hnext hready hglobals hbehind hmodes.symm
        with ⟨b, s, hs, hafter, hbody, -⟩ | ⟨hset, -⟩
      · obtain rfl := hbody.eq
        have hfurther := ih (r := s) hafter.pending (hafter.globals.trans hglobals)
          (by rw [hafter.table]; exact hbehind) (by rw [hafter.top]; exact hmodes)
        obtain ⟨hlone', s', hs', hpending, hglobals', hbelow, htop, hnext', hawaited⟩ := hfurther
        rw [symbols_expressionOf_cons hlone]
        refine ⟨hlone', s', ?_, hpending, hglobals', hbelow.trans hafter.below, ?_, ?_, ?_⟩
        · rw [feedAll_append, hs]
          exact hs'
        · rw [htop, hafter.top, hafter.table]
          simp [groupsFrom, List.zipIdx_cons, Frame.add]
        · have hfirst : s.table.next = r.table.next + 1 := by rw [hafter.table]
          rw [hnext', hfirst, List.length_cons]
          omega
        · rw [hawaited, hafter.table]
      · exact absurd hnone hset

namespace Pattern

/-- The expression of tokens whose fragments stand alone compiles to their bodies in groups. -/
theorem compile_expressionOf {tokens : List Token} {bodies : List Regex}
    (h : List.Forall₂ (fun t b => StandsAlone t.fragment.toList b) tokens bodies) :
    Regex.compile false modes (expressionOf tokens) =
      .ok ⟨.ofList (groupsFrom 1 bodies), tokens.length⟩ := by
  obtain ⟨hlone, s, hs, hpending, hglobals, hbelow, htop, hnext, hawaited⟩ :=
    feedAll_expressionOf (r := start false modes) h rfl rfl rfl rfl
  have hchecked : ∀ b ∈ bodies, check false b = .ok () :=
    forall_mem_bodies h fun hb => hb.checked
  have hbody : s.top.body = .ofList (groupsFrom 1 bodies) := by
    rw [htop]
    show Regex.ofList (List.flatMap Item.elements (List.reverse (_ ++ []))) = _
    rw [List.append_nil, List.reverse_reverse, flatMap_elements_one]
    rfl
  have hfinish : s.finish = .ok s := by
    refine finish_eq_ok.2 ⟨?_, hbelow, ?_, ?_⟩
    · unfold settle
      rw [hpending]
    · unfold checkGlobals
      rw [hglobals]
      rfl
    · unfold GroupTable.checkAwaited
      rw [hawaited]
      rfl
  refine compile_eq_ok.2 ⟨s, read_eq_ok.2 ⟨hlone, s, hs, hfinish⟩, ?_, ?_⟩
  · rw [hglobals, hbody]
    exact check_groupsFrom hchecked
  · rw [hbody, hnext]
    simp [start]

/-- The fragments of the tokens of a source all stand alone. -/
theorem exists_bodies {tokens : List Token} (h : ∀ t ∈ tokens, t.Admitted) :
    ∃ bodies, List.Forall₂ (fun t b => StandsAlone t.fragment.toList b) tokens bodies := by
  induction tokens with
  | nil => exact ⟨[], .nil⟩
  | cons t tokens ih =>
      obtain ⟨ht, htokens⟩ := List.forall_mem_cons.1 h
      obtain ⟨b, hb⟩ := ht.standsAlone
      obtain ⟨bodies, hbodies⟩ := ih htokens
      exact ⟨b :: bodies, .cons hb hbodies⟩

/-- The pattern of a source that has tokens. -/
theorem parse_eq_ok {source : String} {validateDefaults : Bool} {tokens : List Token}
    {bodies : List Regex} (h : Token.ofSource source validateDefaults = .ok tokens)
    (hbodies : List.Forall₂ (fun t b => StandsAlone t.fragment.toList b) tokens bodies) :
    parse source validateDefaults =
      .ok { template := { source, tokens }
            program := ⟨.ofList (groupsFrom 1 bodies), tokens.length⟩ } := by
  have htemplate : Template.parse source validateDefaults = .ok { source, tokens } := by
    unfold Template.parse
    rw [h]
    rfl
  unfold parse
  rw [htemplate]
  exact ofTemplate_eq_ok.2
    ⟨Token.areMatchable_of_ofSource h, rfl, compile_expressionOf hbodies, rfl⟩

/-- The pattern of a source has the tokens of the source, and its program is one group for each of
them. -/
theorem exists_bodies_of_parse {source : String} {validateDefaults : Bool} {p : Pattern}
    (h : parse source validateDefaults = .ok p) :
    Token.ofSource source validateDefaults = .ok p.tokens ∧
      ∃ bodies, List.Forall₂ (fun t b => StandsAlone t.fragment.toList b) p.tokens bodies ∧
        p.program = ⟨.ofList (groupsFrom 1 bodies), bodies.length⟩ := by
  cases htokens : Token.ofSource source validateDefaults with
  | error e =>
      unfold parse Template.parse at h
      rw [htokens] at h
      cases h
  | ok tokens =>
      obtain ⟨bodies, hbodies⟩ := exists_bodies (Token.admitted_of_ofSource htokens)
      obtain rfl := Except.ok.inj (h.symm.trans (parse_eq_ok htokens hbodies))
      exact ⟨rfl, bodies, hbodies, by rw [hbodies.length_eq]⟩

/-- **What the tokenizer accepts compiles.** A source that has tokens is a pattern with these
tokens. The expression of the pattern compiles to one capturing group for each token, in their order
and without further groups, and the body of each group is what the fragment of its token compiles to
by itself. -/
theorem parse_of_tokens {source : String} {validateDefaults : Bool} {tokens : List Token}
    (h : Token.ofSource source validateDefaults = .ok tokens) :
    ∃ p bodies, parse source validateDefaults = .ok p ∧ p.tokens = tokens ∧
      Regex.compile false modes (expressionOf tokens) = .ok p.program ∧
      p.program.groups = tokens.length ∧
      List.Forall₂ (fun t b => Regex.compile false modes t.fragment.toList = .ok ⟨b, 0⟩)
        tokens bodies ∧
      p.program.regex = .ofList (groupsFrom 1 bodies) := by
  obtain ⟨bodies, hbodies⟩ := exists_bodies (Token.admitted_of_ofSource h)
  exact ⟨_, bodies, parse_eq_ok h hbodies, rfl, compile_expressionOf hbodies, rfl,
    hbodies.imp fun _ _ hb => hb.compile, rfl⟩

/-- A constraint with a top-level alternation, a class with a closing parenthesis and a comment. -/
theorem parse_of_tokens_alternation :
    ∃ p, parse "/{id:a|[)]|b(?#c)}*" true = .ok p ∧ p.program.groups = 3 := by
  have htokens : ((Token.ofSource "/{id:a|[)]|b(?#c)}*" true).toOption.map List.length) =
      some 3 := by decide +kernel
  cases h : Token.ofSource "/{id:a|[)]|b(?#c)}*" true with
  | error e =>
      rw [h] at htokens
      cases htokens
  | ok tokens =>
      rw [h] at htokens
      obtain ⟨p, -, hp, -, -, hgroups, -⟩ := parse_of_tokens h
      exact ⟨p, hp, hgroups.trans (Option.some.inj htokens)⟩

end Pattern

end PathRouter
