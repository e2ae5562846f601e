import PathRouter.Proofs.Composition
import PathRouter.Proofs.Language

set_option autoImplicit false

/-! # Cutting a path into pieces

A pattern matches a path exactly if the path can be cut into one piece for each token, in the order
of the tokens, such that each token takes its piece by itself (`Pattern.isMatch_iff_exists_pieces`).
The constraints of the tokens have to be plain; a constraint that looks around could see beyond its
piece.
-/

namespace PathRouter

open Regex

/-- The constraint of a token, if it has one, compiles to a plain expression. -/
def Token.IsPlain : Token → Prop
  | .var v => ∀ constraint, v.constraint? = some constraint →
      ∀ program, Regex.compile false Pattern.modes constraint.toList = .ok program →
        program.regex.isPlain = true
  | _ => True

/-- The token takes a piece of a path: a literal text takes itself, a variable takes what its
constraint matches or, without a constraint, anything that is not empty and has no slash, and a
wildcard takes anything at all. -/
def Token.Takes : Token → List Char → Prop
  | .literal text, piece => piece = text.toList
  | .wildcard _, _ => True
  | .var v, piece =>
    match v.constraint? with
    | none => piece ≠ [] ∧ '/' ∉ piece
    | some constraint => ∃ program,
        Regex.compile false Pattern.modes constraint.toList = .ok program ∧
          (Regex.fullMatch? program.regex piece).isSome = true

/-! ## The languages of fragments -/

theorem holds_code (x y : Char) : (CharTest.code x.toNat).holds Pattern.modes y = true ↔ y = x := by
  show (y.toNat == x.toNat) = true ↔ _
  rw [beq_iff_eq]
  exact ⟨Char.toNat_inj.1, congrArg Char.toNat⟩

theorem holds_notCode (x y : Char) :
    (CharTest.notCode x.toNat).holds Pattern.modes y = true ↔ y ≠ x := by
  show (!(CharTest.code x.toNat).holds Pattern.modes y) = true ↔ _
  rw [Bool.not_eq_true', ← Bool.not_eq_true, holds_code]

/-- All characters of a text are others than `x`. -/
theorem forall_holds_notCode_iff {x : Char} {cs : List Char} :
    (∀ y ∈ cs, (CharTest.notCode x.toNat).holds Pattern.modes y = true) ↔ x ∉ cs := by
  constructor
  · intro hall hx
    exact (holds_notCode x x).1 (hall x hx) rfl
  · rintro hx y hy
    refine (holds_notCode x y).2 ?_
    rintro rfl
    exact hx hy

/-- A literal text is the only word of its expression. -/
theorem mem_language_literal {cs w : List Char} :
    w ∈ (Regex.ofList (literalElements cs)).language ↔ w = cs := by
  induction cs generalizing w with
  | nil => exact Language.mem_one w
  | cons x rest ih =>
      have hcons : (Regex.ofList (literalElements (x :: rest))).language =
          (Regex.char Pattern.modes (.code x.toNat)).language *
            (Regex.ofList (literalElements rest)).language :=
        language_ofList_cons _ _
      rw [hcons, Language.mem_mul]
      constructor
      · rintro ⟨u, ⟨y, rfl, hy⟩, v, hv, rfl⟩
        rw [(holds_code x y).1 hy, ih.1 hv]
        rfl
      · rintro rfl
        exact ⟨[x], ⟨x, rfl, (holds_code x x).2 rfl⟩, rest, ih.2 rfl, rfl⟩

/-- The words of so many characters that all pass a test. -/
theorem mem_language_char_pow {modes : Modes} {t : CharTest} {n : Nat} {w : List Char} :
    w ∈ (Regex.char modes t).language ^ n ↔ w.length = n ∧ ∀ x ∈ w, t.holds modes x = true := by
  induction n generalizing w with
  | zero =>
      rw [pow_zero, Language.mem_one, List.length_eq_zero_iff]
      constructor
      · rintro rfl
        exact ⟨rfl, nofun⟩
      · exact And.left
  | succ n ih =>
      rw [pow_succ', Language.mem_mul]
      constructor
      · rintro ⟨u, ⟨x, rfl, hx⟩, v, hv, rfl⟩
        obtain ⟨hlength, hrest⟩ := ih.1 hv
        refine ⟨?_, List.forall_mem_cons.2 ⟨hx, hrest⟩⟩
        rw [List.singleton_append, List.length_cons, hlength]
      · rintro ⟨hlength, hall⟩
        cases w with
        | nil => cases hlength
        | cons x v =>
            obtain ⟨hx, hv⟩ := List.forall_mem_cons.1 hall
            exact ⟨[x], ⟨x, rfl, hx⟩, v, ih.2 ⟨Nat.succ.inj hlength, hv⟩, rfl⟩

/-- Any number of characters, at least so many, that all pass a test. -/
theorem mem_language_rep_char {modes : Modes} {t : CharTest} {greed : Greed} {least : Nat}
    {w : List Char} :
    w ∈ (Regex.rep greed least none (.char modes t)).language ↔
      least ≤ w.length ∧ ∀ x ∈ w, t.holds modes x = true := by
  show w ∈ (Regex.char modes t).language ^ least *
    further (Regex.char modes t).language least none ↔ _
  rw [Language.mem_mul]
  constructor
  · rintro ⟨u, hu, v, ⟨n, -, hv⟩, rfl⟩
    obtain ⟨hlength, hall⟩ := mem_language_char_pow.1 hu
    obtain ⟨-, hall'⟩ := mem_language_char_pow.1 hv
    refine ⟨?_, fun x hx => (List.mem_append.1 hx).elim (hall x) (hall' x)⟩
    rw [List.length_append]
    omega
  · rintro ⟨hlength, hall⟩
    refine ⟨w.take least,
      mem_language_char_pow.2 ⟨?_, fun x hx => hall x (List.mem_of_mem_take hx)⟩,
      w.drop least, ⟨w.length - least, nofun, mem_language_char_pow.2 ⟨?_, fun x hx =>
        hall x (List.mem_of_mem_drop hx)⟩⟩, List.take_append_drop least w⟩
    · rw [List.length_take]
      omega
    · rw [List.length_drop]

/-! ## Tokens -/

theorem StandsAlone.unique {cs : List Char} {b b' : Regex} (h : StandsAlone cs b)
    (h' : StandsAlone cs b') : b = b' := by
  have hsame : (⟨b, 0⟩ : Program) = ⟨b', 0⟩ := Except.ok.inj (h.compile.symm.trans h'.compile)
  exact (Program.mk.inj hsame).1

theorem Token.takes_constrained_iff {v : Variable} {constraint : String}
    (h : v.constraint? = some constraint) {piece : List Char} :
    (Token.var v).Takes piece ↔ ∃ program,
      Regex.compile false Pattern.modes constraint.toList = .ok program ∧
        (Regex.fullMatch? program.regex piece).isSome = true := by
  rw [Takes, h]

/-- What the fragment of a token compiles to is plain if the constraint is, and its words are what
the token takes. -/
theorem Token.isPlain_and_mem_language_iff {t : Token} (hplain : t.IsPlain) {b : Regex}
    (h : StandsAlone t.fragment.toList b) :
    b.isPlain = true ∧ ∀ piece, piece ∈ b.language ↔ t.Takes piece := by
  cases t with
  | literal text =>
      rw [Token.toList_fragment_literal] at h
      obtain rfl := h.unique (standsAlone_literal text.toList)
      refine ⟨isPlain_ofList fun r hr => ?_, fun piece => mem_language_literal⟩
      obtain ⟨x, -, rfl⟩ := List.mem_map.1 hr
      rfl
  | wildcard expression =>
      obtain rfl := h.unique standsAlone_remainder
      refine ⟨rfl, fun piece => ?_⟩
      rw [mem_language_rep_char]
      constructor
      · intro _
        trivial
      · intro _
        exact ⟨Nat.zero_le _, fun _ _ => rfl⟩
  | var v =>
      rw [Token.fragment] at h
      cases hconstraint : v.constraint? with
      | none =>
          rw [hconstraint] at h
          obtain rfl := h.unique standsAlone_segment
          refine ⟨rfl, fun piece => ?_⟩
          have htakes : (Token.var v).Takes piece ↔ piece ≠ [] ∧ '/' ∉ piece := by
            rw [Takes, hconstraint]
          rw [mem_language_rep_char, htakes, ← List.length_pos_iff]
          exact and_congr Iff.rfl forall_holds_notCode_iff
      | some constraint =>
          rw [hconstraint] at h
          have hb : b.isPlain = true := hplain constraint hconstraint _ h.compile
          refine ⟨hb, fun piece => ?_⟩
          rw [takes_constrained_iff hconstraint, ← isSome_fullMatch?_iff hb]
          constructor
          · intro hmatch
            exact ⟨_, h.compile, hmatch⟩
          · rintro ⟨program, hprogram, hmatch⟩
            obtain rfl := Except.ok.inj (h.compile.symm.trans hprogram)
            exact hmatch

/-! ## Patterns -/

/-- The words of groups are cut like the words of their bodies. -/
theorem forall₂_groupsFrom_iff {bodies : List Regex} {n : Nat} {pieces : List (List Char)} :
    List.Forall₂ (fun r piece => piece ∈ r.language) (groupsFrom n bodies) pieces ↔
      List.Forall₂ (fun b piece => piece ∈ b.language) bodies pieces := by
  induction bodies generalizing n pieces with
  | nil => exact Iff.rfl
  | cons b bodies ih =>
      have hcons : groupsFrom n (b :: bodies) = .group n b :: groupsFrom (n + 1) bodies := rfl
      rw [hcons]
      cases pieces with
      | nil => exact ⟨nofun, nofun⟩
      | cons piece pieces =>
          rw [List.forall₂_cons, List.forall₂_cons, ih]
          exact Iff.rfl

theorem isPlain_groupsFrom {bodies : List Regex} {n : Nat}
    (h : ∀ b ∈ bodies, b.isPlain = true) : (Regex.ofList (groupsFrom n bodies)).isPlain = true := by
  refine isPlain_ofList fun r hr => ?_
  obtain ⟨i, b, hb, rfl⟩ := exists_of_mem_groupsFrom hr
  exact h b hb

/-- The bodies that the fragments of tokens compile to are plain if the constraints are, and cutting
a text into words of the bodies is cutting it into what the tokens take. -/
theorem bodies_of_tokens {tokens : List Token} {bodies : List Regex}
    (h : List.Forall₂ (fun t b => StandsAlone t.fragment.toList b) tokens bodies)
    (hplain : ∀ t ∈ tokens, t.IsPlain) :
    (∀ b ∈ bodies, b.isPlain = true) ∧ ∀ pieces : List (List Char),
      List.Forall₂ (fun b piece => piece ∈ b.language) bodies pieces ↔
        List.Forall₂ Token.Takes tokens pieces := by
  induction h with
  | nil =>
      refine ⟨nofun, fun pieces => ?_⟩
      cases pieces with
      | nil => exact ⟨fun _ => .nil, fun _ => .nil⟩
      | cons piece pieces => exact ⟨nofun, nofun⟩
  | @cons t b tokens bodies hb hrest ih =>
      obtain ⟨ht, htokens⟩ := List.forall_mem_cons.1 hplain
      obtain ⟨hbplain, hblanguage⟩ := Token.isPlain_and_mem_language_iff ht hb
      obtain ⟨hbodies, hlanguages⟩ := ih htokens
      refine ⟨List.forall_mem_cons.2 ⟨hbplain, hbodies⟩, fun pieces => ?_⟩
      cases pieces with
      | nil => exact ⟨nofun, nofun⟩
      | cons piece pieces =>
          rw [List.forall₂_cons, List.forall₂_cons, hblanguage, hlanguages]

namespace Pattern

/-- The pattern of a source matches what its tokens take, piece by piece, if their constraints are
plain. -/
theorem isMatch_iff_of_parse {source : String} {validateDefaults : Bool} {p : Pattern}
    (hp : parse source validateDefaults = .ok p) (hplain : ∀ t ∈ p.tokens, t.IsPlain)
    (path : String) :
    p.isMatch path = true ↔ ∃ pieces : List (List Char), pieces.flatten = path.toList ∧
      List.Forall₂ Token.Takes p.tokens pieces := by
  obtain ⟨-, bodies, hbodies, hprogram⟩ := exists_bodies_of_parse hp
  obtain ⟨hplain, hlanguages⟩ := bodies_of_tokens hbodies hplain
  rw [isMatch, hprogram]
  calc (fullMatch? (.ofList (groupsFrom 1 bodies)) path.toList).isSome = true
      ↔ path.toList ∈ (Regex.ofList (groupsFrom 1 bodies)).language :=
        isSome_fullMatch?_iff (isPlain_groupsFrom hplain) path.toList
    _ ↔ ∃ pieces : List (List Char), pieces.flatten = path.toList ∧
          List.Forall₂ (fun r piece => piece ∈ r.language) (groupsFrom 1 bodies) pieces :=
        mem_language_ofList
    _ ↔ ∃ pieces : List (List Char), pieces.flatten = path.toList ∧
          List.Forall₂ Token.Takes p.tokens pieces :=
        exists_congr fun pieces =>
          and_congr Iff.rfl (forall₂_groupsFrom_iff.trans (hlanguages pieces))

/-- **A pattern matches what its tokens take, piece by piece.** A source that has tokens with plain
constraints is a pattern, and it matches exactly the paths that can be cut into one piece for each
token, in the order of the tokens, such that each token takes its piece. -/
theorem isMatch_iff_exists_pieces {source : String} {validateDefaults : Bool} {tokens : List Token}
    (h : Token.ofSource source validateDefaults = .ok tokens)
    (hplain : ∀ t ∈ tokens, t.IsPlain) :
    ∃ p, parse source validateDefaults = .ok p ∧ ∀ path : String,
      p.isMatch path = true ↔
        ∃ pieces : List (List Char), pieces.flatten = path.toList ∧
          List.Forall₂ Token.Takes tokens pieces := by
  obtain ⟨bodies, hbodies⟩ := exists_bodies (Token.admitted_of_ofSource h)
  have hp := parse_eq_ok h hbodies
  exact ⟨_, hp, isMatch_iff_of_parse hp hplain⟩

/-- A constraint with a top-level alternation, next to a variable without one: the path is cut after
`/`, `bb` and `x`. -/
theorem isMatch_iff_exists_pieces_adjacent :
    ∃ p, parse "/{id:a|b*?}{rest}*" true = .ok p ∧ p.isMatch "/bbx/y\n" = true := by
  let id : Variable := .spelled "id" none (some "a|b*?")
  let rest : Variable := .spelled "rest" none none
  let tokens : List Token := [.literal "/", .var id, .var rest, .wildcard wildcardText]
  have htokens : (Token.ofSource "/{id:a|b*?}{rest}*" true).toOption = some tokens := by
    decide +kernel
  have hcompiled : ((Regex.compile false modes "a|b*?".toList).toOption.map fun program =>
      (program.regex.isPlain, (Regex.fullMatch? program.regex ['b', 'b']).isSome)) =
      some (true, true) := by decide +kernel
  cases h : Token.ofSource "/{id:a|b*?}{rest}*" true with
  | error e =>
      rw [h] at htokens
      cases htokens
  | ok tokens' =>
      rw [h] at htokens
      obtain rfl : tokens' = tokens := Option.some.inj htokens
      cases hprogram : Regex.compile false modes "a|b*?".toList with
      | error e =>
          rw [hprogram] at hcompiled
          cases hcompiled
      | ok program =>
          rw [hprogram] at hcompiled
          obtain ⟨hisPlain, hmatch⟩ := Prod.mk.inj (Option.some.inj hcompiled)
          have hplain : ∀ t ∈ tokens, t.IsPlain := by
            intro t ht
            simp only [tokens, List.mem_cons, List.not_mem_nil, or_false] at ht
            rcases ht with rfl | rfl | rfl | rfl
            · trivial
            · rintro constraint hconstraint program' hprogram'
              obtain rfl := Option.some.inj hconstraint
              obtain rfl := Except.ok.inj (hprogram.symm.trans hprogram')
              exact hisPlain
            · rintro constraint hconstraint
              cases hconstraint
            · trivial
          obtain ⟨p, hp, hcut⟩ := isMatch_iff_exists_pieces h hplain
          have hfirst : (Token.literal "/").Takes ['/'] := by
            show ['/'] = "/".toList
            decide
          have hid : (Token.var id).Takes ['b', 'b'] := ⟨program, hprogram, hmatch⟩
          have hrest : (Token.var rest).Takes ['x'] := by
            show ['x'] ≠ [] ∧ '/' ∉ ['x']
            decide
          have htakes : List.Forall₂ Token.Takes tokens
              [['/'], ['b', 'b'], ['x'], ['/', 'y', '\n']] :=
            .cons hfirst (.cons hid (.cons hrest (.cons trivial .nil)))
          exact ⟨p, hp, (hcut _).2 ⟨_, by decide, htakes⟩⟩

end Pattern

end PathRouter
