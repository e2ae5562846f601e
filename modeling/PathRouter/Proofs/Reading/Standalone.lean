import PathRouter.Pattern
import PathRouter.Proofs.Reading.Embedding

set_option autoImplicit false

/-! # Texts that can stand in a pattern

A text *stands alone* with a body if, in the modes of patterns, it is read to that body without
capturing groups and without flags for the whole expression. Accepted constraints stand alone
(`standsAlone_of_compileConstraint`), and so does the expression of a literal text
(`standsAlone_literal`).
-/

namespace PathRouter

open Regex Regex.Reader

/-- By itself the text is read to the expression `b`, which has no capturing group, and sets no
flags for the whole expression. -/
structure StandsAlone (cs : List Char) (b : Regex) : Prop where
  reads : ∃ q, read false Pattern.modes cs = .ok q ∧ q.table.next ≤ 1 ∧ q.globals = [] ∧
    q.top.body = b
  checked : check false b = .ok ()

theorem StandsAlone.compile {cs : List Char} {b : Regex} (h : StandsAlone cs b) :
    Regex.compile false Pattern.modes cs = .ok ⟨b, 0⟩ := by
  obtain ⟨q, hq, hnext, hglobals, rfl⟩ := h.reads
  refine compile_eq_ok.2 ⟨q, hq, ?_, ?_⟩
  · rw [hglobals]
    exact h.checked
  · rw [Nat.sub_eq_zero_of_le hnext]

/-! ## Constraints -/

/-- The modes `m'` are the modes `m`, except that in `m'` a dot may match more characters. -/
structure Loosens (m m' : Modes) : Prop where
  eq : m' = { m with dotAll := m'.dotAll }
  dotAll : m.dotAll = true → m'.dotAll = true

theorem immaterial_eq : Immaterial Eq :=
  ⟨fun _ _ h => congrArg Modes.verbose h, fun _ _ on off h => congrArg (withFlags · on off) h⟩

theorem immaterial_loosens : Immaterial Loosens where
  verbose m m' h := by rw [h.eq]
  withFlags m m' on off h := by
    refine ⟨?_, fun hdot => ?_⟩
    · rw [h.eq]
      rfl
    · -- a flag that is set or unset is so in both modes
      obtain ⟨hset, hunset⟩ := Bool.and_eq_true_iff.1 hdot
      refine Bool.and_eq_true_iff.2 ⟨?_, hunset⟩
      rcases Bool.or_eq_true_iff.1 hset with hbefore | hon
      · exact Bool.or_eq_true_iff.2 (.inl (h.dotAll hbefore))
      · exact Bool.or_eq_true_iff.2 (.inr hon)

/-- The modes of patterns are looser than the default. -/
theorem loosens_modes : Loosens {} Pattern.modes := ⟨rfl, nofun⟩

/-- **A text that stands alone captures nothing**: there are no groups inside its body, and nothing
in it that would depend on any. -/
theorem StandsAlone.isSelfContained {cs : List Char} {b : Regex} (h : StandsAlone cs b) :
    b.isSelfContained = true := by
  obtain ⟨q, hq, hnext, hglobals, rfl⟩ := h.reads
  obtain ⟨q', -, -, htracks⟩ := exists_tracks immaterial_eq false hq hnext hglobals rfl
  exact htracks.nested.top.uniform.isSelfContained_body

theorem StandsAlone.isGroupless {cs : List Char} {b : Regex} (h : StandsAlone cs b) :
    b.isGroupless = true :=
  isGroupless_of_isSelfContained h.isSelfContained

/-- A text that can be read in a group after other text sets no flags for the whole expression. -/
theorem globals_eq_nil_of_embedded {cs : List Char} {q e : Reader}
    (hq : read false {} cs = .ok q) (hnext : q.table.next ≤ 1)
    (he : read true {} (VarSpec.embedded cs) = .ok e) : q.globals = [] := by
  obtain ⟨hlone, -, -⟩ := read_eq_ok.1 hq
  obtain ⟨-, p, hp, -⟩ := read_eq_ok.1 he
  have hsymbols : (symbols (VarSpec.embedded cs)).1 =
      .plain '_' :: (.plain '(' :: (symbols cs).1 ++ [.plain ')']) := by
    show (symbols ('_' :: ('(' :: cs ++ [')']))).1 = _
    rw [symbols_plain (by decide), symbols_group hlone]
    rfl
  let r : Reader := { start true {} with position := 1 }.addCode '_'.toNat
  have hfirst : (start true {}).feed (.plain '_') false = .ok r := rfl
  rw [hsymbols, feedAll, Bool.false_and, hfirst] at hp
  rcases feedAll_group (r := r) immaterial_eq rfl hq hnext rfl rfl rfl rfl with
    ⟨-, -, -, -, -, hglobals⟩ | ⟨-, e', he'⟩
  · exact hglobals
  · cases he'.symm.trans hp

/-- **An accepted constraint stands alone.** That it compiles in a group after other text shows that
it sets no flags for the whole expression. It has been checked without the mode in which it is
matched; there, dots may match more characters. -/
theorem standsAlone_of_compileConstraint {constraint : List Char} {program : Program}
    (h : VarSpec.compileConstraint constraint = .ok program) (hgroups : program.groups = 0) :
    ∃ b, StandsAlone constraint b ∧ program.regex.Alike Loosens b := by
  unfold VarSpec.compileConstraint at h
  cases hembedded : Regex.compile true {} (VarSpec.embedded constraint) with
  | error e =>
      rw [hembedded] at h
      cases h
  | ok whole =>
      rw [hembedded] at h
      cases halone : Regex.compile false {} constraint with
      | error e =>
          rw [halone] at h
          cases h
      | ok alone =>
          rw [halone] at h
          obtain rfl := Except.ok.inj h
          obtain ⟨q, hq, hcheck, rfl⟩ := compile_eq_ok.1 halone
          obtain ⟨e, he, -⟩ := compile_eq_ok.1 hembedded
          have hnext : q.table.next ≤ 1 := Nat.le_of_sub_eq_zero hgroups
          have hglobals := globals_eq_nil_of_embedded hq hnext he
          rw [hglobals] at hcheck
          obtain ⟨q', hq', hbody, hnext', hglobals'⟩ :=
            exists_read immaterial_loosens hq hnext hglobals loosens_modes
          refine ⟨q'.top.body, ⟨⟨q', hq', hnext'.le, hglobals', rfl⟩, ?_⟩, hbody⟩
          rw [← hbody.check_eq]
          exact hcheck

/-! ## Literal texts -/

/-- The symbol of a character in the expression of a literal text. -/
def literalSymbol (x : Char) : Symbol := ⟨isSpecial x, x⟩

theorem symbols_literal (cs : List Char) :
    symbols (literal cs) = (cs.map literalSymbol, false) := by
  induction cs with
  | nil => rfl
  | cons x rest ih =>
      have hcons : literal (x :: rest) =
          (if isSpecial x then ['\x5c', x] else [x]) ++ literal rest := rfl
      rw [hcons]
      by_cases hx : isSpecial x = true
      · rw [if_pos hx]
        show symbols ('\x5c' :: x :: literal rest) = _
        rw [symbols, ih, List.map_cons, literalSymbol, hx]
      · have hescape : x ≠ '\x5c' := by
          rintro rfl
          exact hx (by decide)
        rw [if_neg hx, List.singleton_append, symbols_plain hescape, ih, List.map_cons,
          literalSymbol, Bool.eq_false_iff.2 hx]
        rfl

/-- Characters with a meaning stand for themselves after a backslash. -/
theorem ofChar_of_isSpecial {x : Char} (hx : isSpecial x = true) :
    Escape.ofChar x = .code x.toNat := by
  have hall : ("()[]\x7b\x7d?*+-|^$\\.&~# \t\n\r\x0b\x0c".toList.all fun y =>
      decide (Escape.ofChar y = .code y.toNat)) = true := by decide
  exact of_decide_eq_true (List.all_eq_true.1 hall x (List.contains_iff_mem.1 hx))

theorem escaped_of_isSpecial (r : Reader) {x : Char} (hx : isSpecial x = true) :
    r.escaped x = .ok (r.addCode x.toNat) := by
  unfold escaped
  rw [ofChar_of_isSpecial hx]

theorem unescaped_of_not_isSpecial {r : Reader} (hverbose : r.top.modes.verbose = false) {x : Char}
    (hx : ¬ isSpecial x = true) : r.unescaped x = .ok (r.addCode x.toNat) := by
  unfold unescaped
  dsimp only
  split
  -- the characters with a meaning of their own
  iterate 9 exact absurd (by decide) hx
  rw [hverbose]
  rfl

/-- A character of a literal text is read as a test for that character. -/
theorem feed_literalSymbol {r : Reader} (hready : r.pending = .ready)
    (hverbose : r.top.modes.verbose = false) (x : Char) :
    ∃ position, r.feed (literalSymbol x) false =
      .ok ({ r with position }.addCode x.toNat) := by
  obtain ⟨strict, position, top, below, table, globals, pending⟩ := r
  obtain rfl := hready
  refine ⟨position + (literalSymbol x).width, ?_⟩
  by_cases hx : isSpecial x = true
  · have hsymbol : literalSymbol x = ⟨true, x⟩ := by rw [literalSymbol, hx]
    rw [hsymbol]
    exact escaped_of_isSpecial _ hx
  · have hsymbol : literalSymbol x = .plain x := by
      rw [literalSymbol, Bool.eq_false_iff.2 hx]
      rfl
    have his : ∀ y, isSpecial y = true → (Symbol.plain x).is y = false := by
      rintro y hy
      have hne : x ≠ y := by
        rintro rfl
        exact hx hy
      simpa [Symbol.is, Symbol.plain] using hne
    rw [hsymbol]
    show feedReady _ _ _ = _
    unfold feedReady
    dsimp only
    rw [his '|' (by decide), his ')' (by decide), if_neg Bool.false_ne_true,
      if_neg Bool.false_ne_true]
    exact unescaped_of_not_isSpecial
      (r := ⟨strict, position + 1, top, below, table, globals, .ready⟩) hverbose hx

/-- What a literal text is read to, character by character. -/
def literalElements (cs : List Char) : List Regex :=
  cs.map fun x => .char Pattern.modes (.code x.toNat)

theorem flatMap_elements_one (rs : List Regex) : (rs.map Item.one).flatMap Item.elements = rs := by
  rw [List.flatMap_map]
  exact List.flatMap_singleton' rs

/-- A literal text is read character by character. -/
theorem feedAll_literal {r : Reader} (hready : r.pending = .ready)
    (hmodes : r.top.modes = Pattern.modes) (cs : List Char) :
    ∃ position, feedAll false (cs.map literalSymbol) r =
      .ok { r with
        position
        top := { r.top with
          items := ((literalElements cs).map Item.one).reverse ++ r.top.items } } := by
  induction cs generalizing r with
  | nil => exact ⟨r.position, rfl⟩
  | cons x rest ih =>
      have hverbose : r.top.modes.verbose = false := by rw [hmodes]; rfl
      obtain ⟨position, hx⟩ := feed_literalSymbol hready hverbose x
      obtain ⟨position', hrest⟩ := ih (r := { r with position }.addCode x.toNat) hready hmodes
      refine ⟨position', ?_⟩
      rw [List.map_cons, feedAll, Bool.false_and, hx]
      show feedAll false _ _ = _
      rw [hrest]
      simp [literalElements, addCode, addTest, Reader.add, Frame.add, hmodes]

theorem check_ofList {rs : List Regex} (h : ∀ r ∈ rs, check false r = .ok ()) :
    check false (.ofList rs) = .ok () := by
  refine ofList_induction (P := fun r => check false r = .ok ()) rfl ?_ h
  intro r s hr hs
  show (check false r >>= fun _ => check false s) = _
  rw [hr]
  exact hs

/-- **The expression of a literal text stands alone.** -/
theorem standsAlone_literal (cs : List Char) :
    StandsAlone (literal cs) (.ofList (literalElements cs)) := by
  refine ⟨?_, check_ofList ?_⟩
  · obtain ⟨position, hread⟩ :=
      feedAll_literal (r := start false Pattern.modes) rfl rfl cs
    have hsymbols := symbols_literal cs
    refine ⟨_, read_eq_ok.2 ⟨by rw [hsymbols], _, by rw [hsymbols]; exact hread,
      finish_eq_ok.2 ⟨rfl, rfl, rfl, rfl⟩⟩, le_rfl, rfl, ?_⟩
    show Regex.ofList (List.flatMap Item.elements (List.reverse (_ ++ []))) = _
    rw [List.append_nil, List.reverse_reverse, flatMap_elements_one]
  · simp [literalElements, check]

/-! ## The expressions of other tokens -/

theorem standsAlone_segment : StandsAlone Token.segmentFragment.toList
    (.rep .greedy 1 none (.char Pattern.modes (.notCode '/'.toNat))) :=
  ⟨⟨_, rfl, by decide, rfl, rfl⟩, rfl⟩

theorem standsAlone_remainder : StandsAlone Token.remainderFragment.toList
    (.rep .greedy 0 none (.char Pattern.modes .any)) :=
  ⟨⟨_, rfl, by decide, rfl, rfl⟩, rfl⟩

end PathRouter
