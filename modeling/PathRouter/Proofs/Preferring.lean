import PathRouter.Proofs.Recovering

set_option autoImplicit false

/-! # Which of several ways a path is cut

Without constraints a path may still be cut into pieces in several ways: variables may stand next to
each other, and a literal may occur inside a value. Each token takes as much as it can, provided
that the tokens after it can take the rest (`Regex.Prefers`). So the pieces that are captured are
those whose lengths come last in the lexicographic order (`Regex.prefersCuts_groups`), and from them
the variables get their values (`Pattern.resolve_prefers`).
-/

namespace PathRouter

open Regex

namespace Regex

/-! ## Searches that try longer words first -/

/-- From a place on, the search tries the words of `L` that come next, the longer ones first. If it
succeeds, then the rest does so after one of them, and after none of the longer ones; if it fails,
then the rest fails after all of them. -/
structure Prefers (s : Rest → Option Cursor) (L : List Char → Prop) (c : Cursor) : Prop where
  of_eq_some : ∀ {k : Rest} {d : Cursor}, s k = some d → ∃ w rest, L w ∧ c.after = w ++ rest ∧
    k (c.past w rest c.trail) = some d ∧
    ∀ w' rest', L w' → c.after = w' ++ rest' → w.length < w'.length →
      k (c.past w' rest' c.trail) = none
  of_eq_none : ∀ {k : Rest}, s k = none → ∀ w rest, L w → c.after = w ++ rest →
    k (c.past w rest c.trail) = none

variable {s : Rest → Option Cursor} {L M : List Char → Prop} {c : Cursor}

theorem Prefers.congr (h : Prefers s L c) (hL : ∀ w, L w ↔ M w) : Prefers s M c where
  of_eq_some hs := by
    obtain ⟨w, rest, hw, hafter, hk, hlonger⟩ := h.of_eq_some hs
    exact ⟨w, rest, (hL w).1 hw, hafter, hk, fun w' rest' hw' => hlonger w' rest' ((hL w').2 hw')⟩
  of_eq_none hs w rest hw := h.of_eq_none hs w rest ((hL w).2 hw)

/-- To go on at once is to try the empty word alone. -/
theorem prefers_nil (c : Cursor) : Prefers (fun k => k c) (· = []) c where
  of_eq_some hs := by
    refine ⟨[], c.after, rfl, rfl, hs, ?_⟩
    rintro w' rest' rfl - hlength
    exact absurd hlength (Nat.lt_irrefl _)
  of_eq_none {k} hs w rest hw hafter := by
    obtain rfl := hw
    obtain rfl : c.after = rest := hafter
    exact hs

/-- The words of a language after one more character that passes a test. -/
def Then (passes : Char → Bool) (L : List Char → Prop) (word : List Char) : Prop :=
  ∃ x w, word = x :: w ∧ passes x = true ∧ L w

theorem then_forall_iff {passes : Char → Bool} {w : List Char} :
    Then passes (fun w => ∀ x ∈ w, passes x = true) w ↔ w ≠ [] ∧ ∀ x ∈ w, passes x = true := by
  cases w with
  | nil =>
      constructor
      · rintro ⟨x, w, h, -⟩
        cases h
      · rintro ⟨h, -⟩
        exact absurd rfl h
  | cons x w =>
      constructor
      · rintro ⟨y, w', h, hy, hw'⟩
        obtain ⟨rfl, rfl⟩ := List.cons.inj h
        exact ⟨nofun, List.forall_mem_cons.2 ⟨hy, hw'⟩⟩
      · rintro ⟨-, h⟩
        obtain ⟨hx, hw⟩ := List.forall_mem_cons.1 h
        exact ⟨x, w, rfl, hx, hw⟩

theorem Cursor.past_advance (c : Cursor) (x : Char) (w mid rest : List Char) (trail : List Mark) :
    (c.advance x mid).past w rest trail = c.past (x :: w) rest trail :=
  Cursor.past_past c [x] w mid rest c.trail trail

/-- One character, and then whatever is preferred after it. -/
theorem Prefers.char {modes : Modes} {t : CharTest} {s : Search} (c : Cursor)
    (h : ∀ x rest, c.after = x :: rest → t.holds modes x = true →
      Prefers (s (c.advance x rest)) L (c.advance x rest)) :
    Prefers (fun k => run (.char modes t) c fun d => s d k) (Then (t.holds modes) L) c where
  of_eq_some {k d} hs := by
    rw [run] at hs
    split at hs
    · cases hs
    · next x rest hafter =>
      split at hs
      · next hx =>
        obtain ⟨w, rest', hw, hrest, hk, hlonger⟩ := (h x rest hafter hx).of_eq_some hs
        obtain rfl : rest = w ++ rest' := hrest
        rw [Cursor.past_advance] at hk
        refine ⟨x :: w, rest', ⟨x, w, rfl, hx, hw⟩, hafter, hk, ?_⟩
        rintro word rest'' ⟨y, w', rfl, -, hw'⟩ hafter' hlength
        obtain ⟨rfl, hrest'⟩ := List.cons.inj (hafter.symm.trans hafter')
        have hlast := hlonger w' rest'' hw' hrest' (Nat.lt_of_succ_lt_succ hlength)
        rwa [Cursor.past_advance] at hlast
      · cases hs
  of_eq_none {k} hs word rest hword hafter := by
    obtain ⟨x, w, rfl, hx, hw⟩ := hword
    rw [run, hafter] at hs
    change (if t.holds modes x = true then s (c.advance x (w ++ rest)) k else none) = none at hs
    rw [if_pos hx] at hs
    have hlast := (h x _ hafter hx).of_eq_none hs w rest hw rfl
    rwa [Cursor.past_advance] at hlast

/-- After the words of a language, the empty word. -/
theorem Prefers.orNil (h : Prefers s L c) :
    Prefers (fun k => s k <|> k c) (fun w => L w ∨ w = []) c where
  of_eq_some {k d} hs := by
    cases hfirst : s k with
    | some e =>
        rw [hfirst] at hs
        obtain rfl := Option.some.inj hs
        obtain ⟨w, rest, hw, hafter, hk, hlonger⟩ := h.of_eq_some hfirst
        refine ⟨w, rest, .inl hw, hafter, hk, ?_⟩
        rintro w' rest' (hw' | rfl) hafter' hlength
        · exact hlonger w' rest' hw' hafter' hlength
        · cases hlength
    | none =>
        rw [hfirst] at hs
        refine ⟨[], c.after, .inr rfl, rfl, hs, ?_⟩
        rintro w' rest' (hw' | rfl) hafter' hlength
        · exact h.of_eq_none hfirst w' rest' hw' hafter'
        · cases hlength
  of_eq_none {k} hs w rest hw hafter := by
    cases hfirst : s k with
    | some e =>
        rw [hfirst] at hs
        cases hs
    | none =>
        rw [hfirst] at hs
        rcases hw with hw | rfl
        · exact h.of_eq_none hfirst w rest hw hafter
        · obtain rfl : c.after = rest := hafter
          exact hs

/-- A text, character by character, is tried alone. The induction is on the text. -/
theorem prefers_literal (cs : List Char) (c : Cursor) :
    Prefers (run (.ofList (literalElements cs)) c) (· = cs) c := by
  induction cs generalizing c with
  | nil => exact prefers_nil c
  | cons x cs ih =>
      have hcons : run (.ofList (literalElements (x :: cs))) c = fun k =>
          run (.char Pattern.modes (.code x.toNat)) c fun d =>
            run (.ofList (literalElements cs)) d k := by
        funext k
        exact run_ofList_cons ..
      rw [hcons]
      refine (Prefers.char c fun y rest _ _ => ih _).congr fun w => ?_
      constructor
      · rintro ⟨y, w, rfl, hy, rfl⟩
        rw [(holds_code x y).1 hy]
      · rintro rfl
        exact ⟨x, cs, rfl, (holds_code x x).2 rfl, rfl⟩

/-- Further characters that pass a test are tried, as many as there are first. The induction is on
the bound on their number, which is beyond what is left of the text. -/
theorem prefers_many {modes : Modes} {t : CharTest} {n : Nat} {last : Option Nat} {c : Cursor}
    (hn : c.after.length < n) (hlast : last ≠ some c.place) :
    Prefers (many (run (.char modes t)) n last c) (fun w => ∀ x ∈ w, t.holds modes x = true) c := by
  induction n generalizing last c with
  | zero => exact absurd hn (Nat.not_lt_zero _)
  | succ n ih =>
      have hmany : many (run (.char modes t)) (n + 1) last c = fun k =>
          (run (.char modes t) c fun d => many (run (.char modes t)) n (some c.place) d k) <|>
            k c := by
        funext k
        rw [many, if_neg hlast]
      have hmore : Prefers (fun k => run (.char modes t) c fun d =>
          many (run (.char modes t)) n (some c.place) d k)
          (Then (t.holds modes) fun w => ∀ x ∈ w, t.holds modes x = true) c := by
        refine Prefers.char c fun x rest hafter _ => ih ?_ ?_
        · rw [hafter, List.length_cons] at hn
          exact Nat.lt_of_succ_lt_succ hn
        · -- the place has moved on by one character
          show some c.place ≠ some (c.place + 1)
          simp
      rw [hmany]
      refine hmore.orNil.congr fun w => ?_
      rw [then_forall_iff]
      cases w <;> simp

/-- Characters that pass a test, any number of them. -/
theorem prefers_remainder (modes : Modes) (t : CharTest) (c : Cursor) :
    Prefers (run (.rep .greedy 0 none (.char modes t)) c)
      (fun w => ∀ x ∈ w, t.holds modes x = true) c :=
  prefers_many (Nat.lt_succ_self _) nofun

/-- Characters that pass a test, at least one of them. -/
theorem prefers_segment (modes : Modes) (t : CharTest) (c : Cursor) :
    Prefers (run (.rep .greedy 1 none (.char modes t)) c)
      (fun w => w ≠ [] ∧ ∀ x ∈ w, t.holds modes x = true) c :=
  (Prefers.char c fun _ _ _ _ => prefers_remainder modes t _).congr fun _ => then_forall_iff

end Regex

/-! ## Tokens -/

/-- The expression of a token without a constraint tries the longest piece first that the token
takes. -/
theorem Token.prefers {t : Token} (ht : t.IsUnconstrained) {b : Regex}
    (h : StandsAlone t.fragment.toList b) (c : Regex.Cursor) :
    Regex.Prefers (run b c) t.Takes c := by
  cases t with
  | literal text =>
      rw [Token.toList_fragment_literal] at h
      obtain rfl := h.unique (standsAlone_literal text.toList)
      exact prefers_literal text.toList c
  | wildcard expression =>
      obtain rfl := h.unique standsAlone_remainder
      refine (prefers_remainder Pattern.modes .any c).congr fun w => ?_
      exact iff_of_true (fun _ _ => rfl) trivial
  | var v =>
      have hnone : v.constraint? = none := ht
      rw [Token.fragment, hnone] at h
      obtain rfl := h.unique standsAlone_segment
      refine (prefers_segment Pattern.modes _ c).congr fun w => ?_
      rw [Token.takes_var_iff ht]
      exact and_congr Iff.rfl forall_holds_notCode_iff

/-! ## Groups one after the other -/

/-- The place after pieces that groups, numbered from `n` on, have taken up one after the other. -/
def Regex.Cursor.pastGroups (c : Cursor) (n : Nat) (pieces : List (List Char)) (rest : List Char) :
    Cursor :=
  c.past pieces.flatten rest (groupMarks n c.place pieces ++ c.trail)

theorem Regex.Cursor.pastGroups_cons (c : Cursor) (n : Nat) (w mid rest : List Char)
    (pieces : List (List Char)) :
    (c.past w mid (.closed n (c.place + w.length) :: .opened n c.place :: c.trail)).pastGroups
      (n + 1) pieces rest = c.pastGroups n (w :: pieces) rest := by
  rw [pastGroups, pastGroups, List.flatten_cons, ← past_past c w _ mid, groupMarks,
    List.append_assoc]
  rfl

/-- Pieces come before others if, where their lengths first differ, theirs is the smaller one. -/
def Precede (pieces' pieces : List (List Char)) : Prop :=
  List.Lex (· < ·) (pieces'.map List.length) (pieces.map List.length)

/-- From a place on, the search for groups tries all pieces that the tokens take one after the
other, the last ones first. If it succeeds, then the rest does so after such pieces, and other
pieces come before them unless the rest fails after those; if it fails, then the rest fails after
all such pieces. -/
structure PrefersCuts (tokens : List Token) (n : Nat) (s : Rest → Option Cursor) (c : Cursor) :
    Prop where
  of_eq_some : ∀ {k : Rest} {d : Cursor}, s k = some d → ∃ pieces rest,
    List.Forall₂ Token.Takes tokens pieces ∧ c.after = pieces.flatten ++ rest ∧
    k (c.pastGroups n pieces rest) = some d ∧
    ∀ pieces' rest', List.Forall₂ Token.Takes tokens pieces' → c.after = pieces'.flatten ++ rest' →
      k (c.pastGroups n pieces' rest') ≠ none → pieces' = pieces ∨ Precede pieces' pieces
  of_eq_none : ∀ {k : Rest}, s k = none → ∀ pieces rest,
    List.Forall₂ Token.Takes tokens pieces → c.after = pieces.flatten ++ rest →
      k (c.pastGroups n pieces rest) = none

/-- One group before others: its own piece decides before theirs do. -/
theorem PrefersCuts.cons {t : Token} {tokens : List Token} {n : Nat} {b r : Regex} {c : Cursor}
    (hb : ∀ c, Prefers (run b c) t.Takes c) (hr : ∀ c, PrefersCuts tokens (n + 1) (run r c) c) :
    PrefersCuts (t :: tokens) n (fun k => run (.group n b) c fun d => run r d k) c where
  of_eq_some {k d} hs := by
    obtain ⟨w, mid, hw, hafter, hrest, hlonger⟩ := (hb _).of_eq_some hs
    obtain ⟨pieces, rest, hpieces, hmid, hk, hothers⟩ := (hr _).of_eq_some hrest
    obtain rfl : mid = pieces.flatten ++ rest := hmid
    refine ⟨w :: pieces, rest, .cons hw hpieces, ?_, ?_, ?_⟩
    · rw [List.flatten_cons, List.append_assoc]
      exact hafter
    · rw [← Cursor.pastGroups_cons c n w (pieces.flatten ++ rest)]
      exact hk
    · intro pieces' rest' htakes hafter' hk'
      obtain ⟨w', others, hw', hothers', rfl⟩ := List.forall₂_cons_left_iff.1 htakes
      rw [List.flatten_cons, List.append_assoc] at hafter'
      rw [← Cursor.pastGroups_cons c n w' (others.flatten ++ rest')] at hk'
      rcases Nat.lt_trichotomy w'.length w.length with hlength | hlength | hlength
      · exact .inr (.rel hlength)
      · -- pieces of one length at one place are the same
        obtain ⟨rfl, hmid⟩ := List.append_inj (hafter'.symm.trans hafter) hlength
        rcases hothers others rest' hothers' hmid.symm (hmid ▸ hk') with rfl | hprecede
        · exact .inl rfl
        · exact .inr (.cons hprecede)
      · -- after a longer piece the rest of the groups would have failed
        have hnone := (hr _).of_eq_none (hlonger w' _ hw' hafter' hlength) others rest' hothers' rfl
        exact absurd hnone hk'
  of_eq_none {k} hs pieces rest htakes hafter := by
    obtain ⟨w, others, hw, hothers, rfl⟩ := List.forall₂_cons_left_iff.1 htakes
    rw [List.flatten_cons, List.append_assoc] at hafter
    have hfirst := (hb _).of_eq_none hs w _ hw hafter
    rw [← Cursor.pastGroups_cons c n w (others.flatten ++ rest)]
    exact (hr _).of_eq_none hfirst others rest hothers rfl

/-- **A sequence of groups prefers long pieces, the earlier ones before the later ones.** The
induction is on the groups. -/
theorem prefersCuts_groups {tokens : List Token} {bodies : List Regex}
    (h : List.Forall₂ (fun t b => StandsAlone t.fragment.toList b) tokens bodies)
    (hunconstrained : ∀ t ∈ tokens, t.IsUnconstrained) (n : Nat) (c : Cursor) :
    PrefersCuts tokens n (run (.ofList (groupsFrom n bodies)) c) c := by
  induction h generalizing n c with
  | nil =>
      refine ⟨fun {k d} hs => ⟨[], c.after, .nil, rfl, hs, ?_⟩, ?_⟩
      · rintro pieces' rest' htakes - -
        cases htakes
        exact .inl rfl
      · intro k hs pieces rest htakes hafter
        cases htakes
        obtain rfl : c.after = rest := hafter
        exact hs
  | @cons t b tokens bodies hb _ ih =>
      obtain ⟨ht, htokens⟩ := List.forall_mem_cons.1 hunconstrained
      have hcons : run (.ofList (groupsFrom n (b :: bodies))) c = fun k =>
          run (.group n b) c fun d => run (.ofList (groupsFrom (n + 1) bodies)) d k := by
        funext k
        exact run_ofList_cons ..
      rw [hcons]
      exact .cons (t.prefers ht hb) (ih htokens (n + 1))

namespace Pattern

variable {source : String} {validateDefaults : Bool} {p : Pattern} {path : String}

/-- The pieces that are captured make up the path, and any other pieces that do so come before
them. -/
theorem exists_preferred (hp : parse source validateDefaults = .ok p)
    (hunconstrained : ∀ t ∈ p.tokens, t.IsUnconstrained) (hmatch : p.isMatch path = true) :
    ∃ pieces : List (List Char), p.captures? path = some (pieces.map String.ofList) ∧
      List.Forall₂ Token.Takes p.tokens pieces ∧ pieces.flatten = path.toList ∧
      ∀ pieces', List.Forall₂ Token.Takes p.tokens pieces' → pieces'.flatten = path.toList →
        pieces' = pieces ∨ Precede pieces' pieces := by
  obtain ⟨-, bodies, hbodies, hprogram⟩ := exists_bodies_of_parse hp
  obtain ⟨d, hd⟩ := Option.isSome_iff_exists.1 hmatch
  rw [hprogram] at hd
  obtain ⟨pieces, rest, htakes, htext, hend, hothers⟩ :=
    (prefersCuts_groups hbodies hunconstrained 1 (.start path.toList)).of_eq_some hd
  obtain ⟨hrest, rfl⟩ := atEnd_eq_some.1 hend
  obtain rfl : rest = [] := hrest
  replace htext : path.toList = pieces.flatten := htext.trans (List.append_nil _)
  refine ⟨pieces, ?_, htakes, htext.symm, fun pieces' htakes' htext' => ?_⟩
  · have hlength : bodies.length = pieces.length :=
      hbodies.length_eq.symm.trans htakes.length_eq
    have hplace : (Cursor.start path.toList).pastGroups 1 pieces [] =
        Cursor.past (.start pieces.flatten) pieces.flatten [] (groupMarks 1 0 pieces) :=
      congrArg (Cursor.past (.start pieces.flatten) pieces.flatten []) (List.append_nil _)
    rw [captures?, hprogram, Program.captures?, hd, hplace, Option.map_some, Option.map_some,
      hlength, map_captured?_past, List.map_map]
    rfl
  · refine hothers pieces' [] htakes' ?_ ?_
    · rw [List.append_nil, htext']
      rfl
    · rw [atEnd_eq_some.2 ⟨rfl, rfl⟩]
      exact Option.some_ne_none _

/-- **Which of several ways a path is cut.** A pattern of a source without constraints that matches
a path has cut it into pieces that its tokens take, and of all ways to cut the path so, it is the
one whose sequence of lengths is the greatest in the lexicographic order. Of this cut, every
variable is bound to the piece of the last token of its name, in the order in which the names first
occur, and the name of the remainder to the piece of the wildcard, if there is one. -/
theorem resolve_prefers (hp : parse source validateDefaults = .ok p)
    (hunconstrained : ∀ t ∈ p.tokens, t.IsUnconstrained) (hmatch : p.isMatch path = true) :
    ∃ pieces bound, p.captures? path = some pieces ∧ p.resolve path = some bound ∧
      List.Forall₂ (fun t piece => t.Takes piece.toList) p.tokens pieces ∧
      String.join pieces = path ∧
      (∀ pieces', List.Forall₂ (fun t piece => t.Takes piece.toList) p.tokens pieces' →
        String.join pieces' = path → pieces' = pieces ∨
          List.Lex (· < ·) (pieces'.map String.length) (pieces.map String.length)) ∧
      (bound.names = p.template.variableNames ++
        if Token.endInWildcard p.tokens then [remainderName] else []) ∧
      (∀ before v after, p.tokens = before ++ .var v :: after →
        v.name ∉ after.filterMap Token.variableName? →
          ∃ piece, pieces[before.length]? = some piece ∧ bound.get? v.name = some piece) ∧
      ∀ before expression after, p.tokens = before ++ .wildcard expression :: after →
        ∃ piece, pieces[before.length]? = some piece ∧ bound.get? remainderName = some piece := by
  obtain ⟨words, hcaptured, htakes, htext, hothers⟩ := exists_preferred hp hunconstrained hmatch
  obtain ⟨htokens, -⟩ := exists_bodies_of_parse hp
  have hremainder := Token.remainderName_not_mem_of_ofSource htokens
  have hcuts := cuts_of_captures? hp hcaptured
  have hbound := resolve_eq_some.2 ⟨_, hcaptured, rfl⟩
  obtain ⟨-, -, hnames, -, -⟩ := resolve_splits hp hbound
  have htaken : List.Forall₂ (fun t piece => t.Takes piece.toList) p.tokens
      (words.map String.ofList) := by
    rw [List.forall₂_map_right_iff]
    exact htakes.imp fun t word h => by rwa [String.toList_ofList]
  have hvalue : ∀ t piece, (t, piece) ∈ p.tokens.zip (words.map String.ofList) →
      t.value piece = piece := by
    intro t piece hmem
    -- the pieces of variables are not empty, so that no default is put in
    refine hcuts.value_eq (fun v hv => ?_) hmem
    have hempty := (List.forall₂_iff_zip.1 htaken).2 hv
    exact absurd rfl ((Token.takes_var_iff (hunconstrained _ (List.of_mem_zip hv).1)).1 hempty).1
  refine ⟨_, _, hcaptured, hbound, htaken, hcuts.joined, fun pieces' htaken' hjoined => ?_, hnames,
    fun before v after hsplit hlast => ?_, fun before expression after hsplit => ?_⟩
  · have hlengths : (pieces'.map String.toList).map List.length = pieces'.map String.length := by
      simp [String.length_toList]
    have hlengths' : words.map List.length = (words.map String.ofList).map String.length := by simp
    rcases hothers (pieces'.map String.toList) (List.forall₂_map_right_iff.2 htaken')
      (by rw [flatten_map_toList, hjoined]) with rfl | hprecede
    · exact .inl (by simp)
    · rw [Precede, hlengths, hlengths'] at hprecede
      exact .inr hprecede
  · obtain ⟨piece, hpiece, hmem, hget⟩ :=
      Token.get?_bound_of_last_variable hcuts.length_eq hremainder hsplit hlast
    rw [hvalue _ _ hmem] at hget
    exact ⟨piece, hpiece, hget⟩
  · have hmatchable := Token.areMatchable_of_ofSource htokens
    rw [hsplit] at hmatchable
    obtain rfl := eq_nil_of_areMatchable (areMatchable_of_append hmatchable)
    obtain ⟨piece, hpiece, -, hget⟩ :=
      Token.get?_bound_of_last hcuts.length_eq hsplit rfl List.not_mem_nil
    exact ⟨piece, hpiece, hget⟩

/-- A literal that occurs inside a value as well, two variables next to each other, and a name that
comes twice. -/
theorem resolve_prefers_adjacent :
    ∃ p bound, parse "/{a}-{b}{a}*" true = .ok p ∧ p.resolve "/x-y-zw/q" = some bound ∧
      bound.names = ["a", "b", "*"] ∧ bound.get? "a" = some "w" ∧ bound.get? "b" = some "z" ∧
        bound.get? "*" = some "/q" := by
  let a : Variable := .spelled "a" none none
  let b : Variable := .spelled "b" none none
  let tokens : List Token :=
    [.literal "/", .var a, .literal "-", .var b, .var a, .wildcard wildcardText]
  have hparsed : (parse "/{a}-{b}{a}*" true).toOption.map
      (fun p => (p.tokens, p.isMatch "/x-y-zw/q", p.captures? "/x-y-zw/q")) =
        some (tokens, true, some ["/", "x-y", "-", "z", "w", "/q"]) := by
    decide +kernel
  obtain ⟨p, hp, hfacts⟩ := Outcome.toOption_map_eq_some.1 hparsed
  obtain ⟨htokens, hfacts⟩ := Prod.mk.inj hfacts
  obtain ⟨hmatch, hcaptured⟩ := Prod.mk.inj hfacts
  have hunconstrained : ∀ t ∈ p.tokens, t.IsUnconstrained := by
    rw [htokens]
    simp [tokens, a, b, Variable.spelled, Token.IsUnconstrained]
  obtain ⟨pieces, bound, hpieces, hbound, -, -, -, hnames, hvariables, hwildcards⟩ :=
    resolve_prefers hp hunconstrained hmatch
  obtain rfl := Option.some.inj (hcaptured.symm.trans hpieces)
  obtain ⟨_, hw, ha⟩ := hvariables [.literal "/", .var a, .literal "-", .var b] a
    [.wildcard wildcardText] htokens (by decide)
  obtain ⟨_, hz, hb⟩ := hvariables [.literal "/", .var a, .literal "-"] b
    [.var a, .wildcard wildcardText] htokens (by decide)
  obtain ⟨_, hq, hremainder⟩ := hwildcards
    [.literal "/", .var a, .literal "-", .var b, .var a] wildcardText [] htokens
  obtain rfl := Option.some.inj hw
  obtain rfl := Option.some.inj hz
  obtain rfl := Option.some.inj hq
  refine ⟨p, bound, hp, hbound, ?_, ha, hb, hremainder⟩
  rw [hnames, Template.variableNames_eq]
  show (p.tokens.filterMap _).eraseDups ++ _ = _
  rw [htokens]
  decide +kernel

end Pattern

end PathRouter
