import PathRouter.Proofs.Capturing
import PathRouter.Proofs.Reading.Numbering

set_option autoImplicit false

/-! # The groups of a composed pattern

A pattern that is composed of tokens has as many capturing groups as tokens, numbered in their
order, whatever its constraints are. But these need not be the groups of the tokens: a constraint
may close the group of its token and open another one, and the next one turn its own into a group
that does not capture. Where the expression is one group after the other, each of them belongs to
its token, takes part in every match, and captures a piece of the path; so it is if every constraint
compiles by itself and captures nothing (`Pattern.captures_of_ofTokens`).
-/

namespace PathRouter

open Outcome Regex Regex.Reader

/-! ## Groups one after the other -/

/-- The expression is a sequence of `n` capturing groups, whatever is inside them. -/
def Regex.IsGroups (n : Nat) (r : Regex) : Prop :=
  ∃ groups : List (Nat × Regex), groups.length = n ∧
    r = .ofList (groups.map fun g => .group g.1 g.2)

theorem Regex.isGroups_groupsFrom (n : Nat) (bodies : List Regex) :
    (Regex.ofList (groupsFrom n bodies)).IsGroups bodies.length := by
  refine ⟨(bodies.zipIdx n).map Prod.swap, by simp, ?_⟩
  rw [groupsFrom, List.map_map]
  rfl

theorem length_le_length_indices (groups : List (Nat × Regex)) :
    groups.length ≤ (groups.flatMap fun g => (Regex.group g.1 g.2).indices).length := by
  induction groups with
  | nil => exact le_rfl
  | cons g rest ih =>
      rw [List.flatMap_cons, List.length_append, List.length_cons]
      show rest.length + 1 ≤ (g.1 :: g.2.indices).length + _
      rw [List.length_cons]
      omega

/-- If there are no more groups than those in the sequence, then these are numbered one after the
other, and there are none in their bodies. -/
theorem eq_groupsFrom {groups : List (Nat × Regex)} {n : Nat}
    (h : (groups.flatMap fun g => (Regex.group g.1 g.2).indices) = List.range' n groups.length) :
    (groups.map fun g => Regex.group g.1 g.2) = groupsFrom n (groups.map Prod.snd) ∧
      ∀ b ∈ groups.map Prod.snd, b.isGroupless = true := by
  induction groups generalizing n with
  | nil => exact ⟨rfl, nofun⟩
  | cons g rest ih =>
      obtain ⟨index, b⟩ := g
      rw [List.flatMap_cons, List.length_cons, List.range'_succ] at h
      obtain ⟨rfl, htail⟩ := List.cons.inj h
      replace htail : b.indices ++ (rest.flatMap fun g => (Regex.group g.1 g.2).indices) =
        List.range' (index + 1) rest.length := htail
      have hle := length_le_length_indices rest
      have hlength := congrArg List.length htail
      rw [List.length_append, List.length_range'] at hlength
      have hnone : b.indices = [] := List.length_eq_zero_iff.1 (by omega)
      rw [hnone, List.nil_append] at htail
      obtain ⟨hgroups, hbodies⟩ := ih htail
      refine ⟨?_, List.forall_mem_cons.2 ⟨(isGroupless_iff b).2 hnone, hbodies⟩⟩
      rw [List.map_cons, List.map_cons, hgroups]
      rfl

/-- So every group takes part in a match of a text, and the pieces that they capture make up the
text. -/
theorem Regex.IsGroups.exists_pieces {n : Nat} {r : Regex} (h : r.IsGroups n)
    (hindices : r.indices = List.range' 1 n) {text : List Char}
    (hmatch : (fullMatch? r text).isSome = true) :
    ∃ pieces : List (List Char), Program.captures? ⟨r, n⟩ text = some (pieces.map some) ∧
      pieces.length = n ∧ pieces.flatten = text := by
  obtain ⟨groups, rfl, rfl⟩ := h
  rw [indices_ofList, List.flatMap_map] at hindices
  obtain ⟨hgroups, hbodies⟩ := eq_groupsFrom hindices
  have hlength : groups.length = (groups.map Prod.snd).length := (List.length_map ..).symm
  rw [hgroups] at hmatch ⊢
  rw [hlength]
  generalize groups.map Prod.snd = bodies at hbodies hmatch ⊢
  obtain ⟨captured, hcaptured⟩ : ∃ captured, Program.captures? ⟨.ofList (groupsFrom 1 bodies),
      bodies.length⟩ text = some captured :=
    Option.isSome_iff_exists.1 (Option.isSome_map.trans hmatch)
  obtain ⟨pieces, rfl, htext, hreach⟩ := exists_pieces_of_captures? hbodies hcaptured
  exact ⟨pieces, hcaptured, hreach.length_eq.symm, htext⟩

/-! ## Constraints that compile by themselves -/

/-- The expression of a token compiles by itself and captures nothing. -/
def Token.Compiles (t : Token) : Prop :=
  ∃ b, Regex.compile false Pattern.modes t.fragment.toList = .ok ⟨b, 0⟩

theorem Token.compiles_of_constraint {t : Token}
    (h : ∀ v, t = .var v → ∀ constraint, v.constraint? = some constraint →
      ∃ b, Regex.compile false Pattern.modes constraint.toList = .ok ⟨b, 0⟩) : t.Compiles := by
  cases t with
  | literal text =>
      rw [Compiles, Token.toList_fragment_literal]
      exact ⟨_, (standsAlone_literal text.toList).compile⟩
  | wildcard expression => exact ⟨_, standsAlone_remainder.compile⟩
  | var v =>
      rw [Compiles, Token.fragment]
      cases hconstraint : v.constraint? with
      | none => exact ⟨_, standsAlone_segment.compile⟩
      | some constraint => exact h v rfl constraint hconstraint

/-- If the expressions of tokens compile by themselves, and can be read in groups one after the
other, then they stand alone: flags for the whole expression are refused in a group. The induction
is on the tokens; what has been read before does not matter. -/
theorem exists_bodies_of_feedAll {tokens : List Token} (h : ∀ t ∈ tokens, t.Compiles)
    {r s : Reader} (hready : r.pending = .ready) (hglobals : r.globals = [])
    (hbehind : r.table.behindFrom = none) (hmodes : r.top.modes = Pattern.modes)
    (hs : feedAll false (symbols (Pattern.expressionOf tokens)).1 r = .ok s) :
    ∃ bodies, List.Forall₂ (fun t b => StandsAlone t.fragment.toList b) tokens bodies := by
  induction tokens generalizing r with
  | nil => exact ⟨[], .nil⟩
  | cons t tokens ih =>
      obtain ⟨⟨b, hb⟩, htokens⟩ := List.forall_mem_cons.1 h
      obtain ⟨q, hq, hcheck, hprogram⟩ := compile_eq_ok.1 hb
      obtain ⟨rfl, hgroups⟩ := Program.mk.inj hprogram
      have hnext : q.table.next ≤ 1 := Nat.le_of_sub_eq_zero hgroups.symm
      obtain ⟨hlone, -, -⟩ := read_eq_ok.1 hq
      rw [symbols_expressionOf_cons hlone, feedAll_append] at hs
      rcases feedAll_group immaterial_eq rfl hq hnext hready hglobals hbehind hmodes.symm with
        ⟨b, s', hs', hafter, -, hnone⟩ | ⟨-, e, he⟩
      · rw [hs'] at hs
        have hfirst : StandsAlone t.fragment.toList q.top.body := by
          refine ⟨⟨q, hq, hnext, hnone, rfl⟩, ?_⟩
          rwa [hnone] at hcheck
        obtain ⟨bodies, hbodies⟩ := ih htokens hafter.pending (hafter.globals.trans hglobals)
          (by rw [hafter.table]; exact hbehind) (by rw [hafter.top]; exact hmodes) hs
        exact ⟨_ :: bodies, .cons hfirst hbodies⟩
      · rw [he] at hs
        cases hs

namespace Pattern

variable {tokens : List Token} {p : Pattern}

/-- The expressions of the tokens of a composed pattern stand alone if each compiles by itself. -/
theorem exists_bodies_of_ofTokens (h : ofTokens tokens = .ok p)
    (hcompiles : ∀ t ∈ tokens, t.Compiles) :
    ∃ bodies, List.Forall₂ (fun t b => StandsAlone t.fragment.toList b) tokens bodies := by
  obtain ⟨-, -, hcompile, -⟩ := ofTemplate_eq_ok.1 h
  obtain ⟨q, hq, -, -⟩ := compile_eq_ok.1 hcompile
  obtain ⟨-, s, hs, -⟩ := read_eq_ok.1 hq
  exact exists_bodies_of_feedAll (r := start false modes) hcompiles rfl rfl rfl rfl hs

/-- **What the groups of a composed pattern capture.** A pattern that is composed of tokens has one
capturing group for each of them in number: none of the groups is lost or doubled, and they are
numbered in their order. If the expression is that many groups one after the other, then in every
match of a path all of them take part, and the texts that they capture make up the path. This is so
if every constraint compiles by itself, in the modes of patterns, and captures nothing. -/
theorem captures_of_ofTokens (h : ofTokens tokens = .ok p) :
    p.program.groups = tokens.length ∧
      p.program.regex.indices = List.range' 1 tokens.length ∧
      (p.program.regex.IsGroups tokens.length → ∀ path, p.isMatch path = true →
        ∃ pieces : List (List Char), p.program.captures? path.toList = some (pieces.map some) ∧
          pieces.length = tokens.length ∧ pieces.flatten = path.toList) ∧
      ((∀ v, .var v ∈ tokens → ∀ constraint, v.constraint? = some constraint →
          ∃ b, Regex.compile false modes constraint.toList = .ok ⟨b, 0⟩) →
        p.program.regex.IsGroups tokens.length) := by
  obtain ⟨-, -, hcompile, hgroups⟩ := ofTemplate_eq_ok.1 h
  have hindices := indices_of_compile hcompile
  replace hgroups : p.program.groups = tokens.length := hgroups
  rw [hgroups] at hindices
  refine ⟨hgroups, hindices, fun hshape path hmatch => ?_, fun hconstraints => ?_⟩
  · have hprogram : p.program = ⟨p.program.regex, tokens.length⟩ := by rw [← hgroups]
    rw [hprogram]
    exact hshape.exists_pieces hindices hmatch
  · have hcompiles : ∀ t ∈ tokens, t.Compiles := fun t ht =>
      Token.compiles_of_constraint fun v hv => hconstraints v (hv ▸ ht)
    obtain ⟨bodies, hbodies⟩ := exists_bodies_of_ofTokens h hcompiles
    have hprogram := Except.ok.inj (hcompile.symm.trans (compile_expressionOf hbodies))
    rw [hprogram, hbodies.length_eq]
    exact isGroups_groupsFrom 1 bodies

/-- A constraint with a top-level alternation, and a remainder. -/
theorem captures_of_ofTokens_alternation :
    ∃ p, ∃ pieces : List (List Char),
      ofTokens [.var (.spelled "x" none (some "a|b")), .wildcard wildcardText] = .ok p ∧
        p.isMatch "b-c" = true ∧
        p.program.captures? "b-c".toList = some (pieces.map some) ∧ pieces.length = 2 ∧
        pieces.flatten = "b-c".toList := by
  let tokens : List Token := [.var (.spelled "x" none (some "a|b")), .wildcard wildcardText]
  obtain ⟨p, hp, hmatch⟩ := toOption_map_eq_some.1
    (by decide +kernel : (ofTokens tokens).toOption.map (·.isMatch "b-c") = some true)
  obtain ⟨⟨b, n⟩, hcompile, rfl⟩ := toOption_map_eq_some.1
    (by decide +kernel :
      (Regex.compile false modes "a|b".toList).toOption.map Program.groups = some 0)
  obtain ⟨-, -, hmatches, hcompiles⟩ := captures_of_ofTokens hp
  have hgroups : p.program.regex.IsGroups tokens.length := by
    refine hcompiles fun v hv constraint hconstraint => ?_
    obtain rfl : v = .spelled "x" none (some "a|b") := by simpa [tokens] using hv
    obtain rfl : "a|b" = constraint := Option.some.inj hconstraint
    exact ⟨b, hcompile⟩
  obtain ⟨pieces, hpieces, hlength, htext⟩ := hmatches hgroups "b-c" hmatch
  exact ⟨p, pieces, hp, hmatch, hpieces, hlength, htext⟩

/-- Constraints that close their group and open another one: the number of the groups is right, but
they are not those of the tokens. In the first pattern, which matches `abc`, the groups leave out
the `c`; in the second, which matches `a`, the second group takes no part in the match. -/
theorem exists_captures_apart :
    (∃ p, ofTokens [.var (.spelled "x" none (some "a)(b")),
        .var (.spelled "y" none (some "?:c"))] = .ok p ∧
      p.isMatch "abc" = true ∧ p.program.captures? "abc".toList = some [some ['a'], some ['b']]) ∧
    ∃ p, ofTokens [.var (.spelled "x" none (some "a)|(b")),
        .var (.spelled "y" none (some "?:c"))] = .ok p ∧
      p.isMatch "a" = true ∧ p.program.captures? "a".toList = some [some ['a'], none] := by
  constructor
  · obtain ⟨p, hp, hfacts⟩ := toOption_map_eq_some.1
      (by decide +kernel : ((ofTokens [.var (.spelled "x" none (some "a)(b")),
          .var (.spelled "y" none (some "?:c"))]).toOption.map
        fun p => (p.isMatch "abc", p.program.captures? "abc".toList)) =
          some (true, some [some ['a'], some ['b']]))
    exact ⟨p, hp, Prod.mk.inj hfacts⟩
  · obtain ⟨p, hp, hfacts⟩ := toOption_map_eq_some.1
      (by decide +kernel : ((ofTokens [.var (.spelled "x" none (some "a)|(b")),
          .var (.spelled "y" none (some "?:c"))]).toOption.map
        fun p => (p.isMatch "a", p.program.captures? "a".toList)) =
          some (true, some [some ['a'], none]))
    exact ⟨p, hp, Prod.mk.inj hfacts⟩

end Pattern

end PathRouter
