import PathRouter.Proofs.Reading.Standalone

set_option autoImplicit false

/-! # Limits that a constraint can meet

An expression may be refused because it exceeds a limit of the engine, which is not a fault of its
spelling. Of these limits a constraint can meet one alone, an escape for a code point beyond 31 bits
(`codePoint_of_compileConstraint`): a repetition with bounds takes a closing brace, which no
constraint of a source has, and flags that set classes both to ASCII and to all scripts are refused
before they are compared, since a constraint is first read in the midst of an expression.
-/

namespace PathRouter.Regex

open Outcome Reader

/-! ## Steps that meet some limits only -/

/-- The limits that `x` may meet all satisfy `P`. -/
structure Within {β : Type} (P : Excess → Prop) (x : Except Error β) : Prop where
  of_excess : ∀ e, x = .error (.excess e) → P e

variable {P : Excess → Prop}

theorem within_ok {β : Type} (b : β) : Within P (.ok b) := ⟨fun _ h => nomatch h⟩

theorem within_misspelt {β : Type} (problem : Problem) (position : Nat) :
    Within P (misspelt problem position : Except Error β) :=
  ⟨fun _ h => nomatch h⟩

theorem within_fault {β : Type} (f : Fault) : Within P (.error (.fault f) : Except Error β) :=
  ⟨fun _ h => nomatch h⟩

/-- A step after another one. -/
theorem Within.bind {β γ : Type} {x : Except Error β} {g : β → Except Error γ} (h : Within P x)
    (hg : ∀ b, x = .ok b → Within P (g b)) : Within P (x >>= g) := by
  refine ⟨fun e he => ?_⟩
  rcases bind_eq_error.1 he with hx | ⟨b, hb, hrest⟩
  · exact h.of_excess e hx
  · exact (hg b hb).of_excess e hrest

theorem Within.map {β γ : Type} {x : Except Error β} (h : Within P x) (g : β → γ) :
    Within P (x.map g) := by
  refine ⟨fun e he => h.of_excess e ?_⟩
  cases x with
  | ok b => cases he
  | error e' => rw [Except.error.inj he]

/-! ## Escapes and classes -/

theorem Numeric.within_octalCode (digits : List Char) (start : Nat) :
    Within P (octalCode digits start) := by
  unfold octalCode
  dsimp only
  split
  · exact within_ok _
  · exact within_misspelt _ _

theorem Numeric.within_stop (n : Numeric) (start position : Nat) :
    Within P (n.stop start position) := by
  unfold stop
  split
  · exact within_misspelt _ _
  · exact within_octalCode _ _
  · exact within_misspelt _ _
  · exact within_misspelt _ _
  · exact within_misspelt _ _

/-- Only the escape of a code point may meet a limit. -/
theorem Numeric.within_push (hcode : P .codePoint) (n : Numeric) (s : Symbol)
    (start position : Nat) : Within P (n.push s start position) := by
  have hhex : ∀ letter digits, Within P (hexCode letter digits start) := by
    intro letter digits
    unfold hexCode
    dsimp only
    split
    · exact within_ok _
    · split
      · refine ⟨fun e he => ?_⟩
        cases he
        exact hcode
      · exact within_misspelt _ _
  unfold push
  cases n with
  | hex letter wanted digits =>
      dsimp only
      split
      · exact within_ok _
      · exact (hhex _ _).map _
  | octal digits =>
      dsimp only
      split
      · exact within_ok _
      · exact Within.map (within_octalCode _ _) _
  | unnamed => exact within_ok _
  | named name =>
      dsimp only
      split
      · split
        · exact within_misspelt _ _
        · split
          · exact within_ok _
          · exact within_misspelt _ _
      · exact within_ok _

namespace Bracket

theorem within_addRange (b : Bracket) (shown : List Char) (low : ClassItem)
    (shownHigh : List Char) (high : ClassItem) (position : Nat) :
    Within P (b.addRange shown low shownHigh high position) := by
  unfold addRange
  dsimp only
  split
  · split
    · exact within_misspelt _ _
    · exact within_ok _
  · exact within_misspelt _ _

theorem within_member (b : Bracket) (s : Symbol) (position : Nat) :
    Within P (b.member s position) := by
  unfold member
  split
  · exact within_ok _
  · split
    · split
      iterate 3 exact within_ok _
      exact within_misspelt _ _
    · exact within_ok _

theorem within_upper (b : Bracket) (shown : List Char) (low : ClassItem) (s : Symbol)
    (position : Nat) : Within P (b.upper shown low s position) := by
  unfold upper
  split
  · exact within_ok _
  · split
    · split
      · exact Within.map (within_addRange ..) _
      · exact Within.map (within_addRange ..) _
      · exact within_ok _
      · exact within_misspelt _ _
    · exact Within.map (within_addRange ..) _

theorem within_settle (b : Bracket) (position : Nat) : Within P (b.settle position) := by
  unfold settle
  split
  · exact Within.map (Numeric.within_stop ..) _
  · exact Within.bind (Numeric.within_stop ..) fun _ _ => within_addRange ..
  · exact within_ok _

theorem within_settleBefore (b : Bracket) (s : Symbol) (position : Nat) :
    Within P (b.settleBefore s position) := by
  unfold settleBefore
  split
  · exact within_ok _
  · exact within_settle ..

theorem within_push (hcode : P .codePoint) (b : Bracket) (s : Symbol) (position : Nat) :
    Within P (b.push s position) := by
  unfold push
  split
  · split
    · exact within_ok _
    · exact within_member ..
  · exact within_member ..
  · refine Within.bind (Numeric.within_push hcode ..) fun step _ => ?_
    split <;> exact within_ok _
  · split
    · exact within_ok _
    · exact within_member ..
  · exact within_upper ..
  · refine Within.bind (Numeric.within_push hcode ..) fun step _ => ?_
    split
    · exact within_ok _
    · exact Within.map (within_addRange ..) _

end Bracket

/-! ## Groups, references and flags -/

namespace Reader

variable {r q : Reader}

theorem within_consume (r : Reader) (s : Symbol) (cut : Bool) : Within P (r.consume s cut) := by
  unfold consume
  dsimp only
  split
  · exact within_misspelt _ _
  · exact within_ok _

theorem within_capture (r : Reader) (start : Nat) (name? : Option (List Char)) (position : Nat) :
    Within P (r.capture start name? position) := by
  apply Within.map
  unfold GroupTable.openGroup
  split
  · exact within_ok _
  · split
    · exact within_misspelt _ _
    · exact within_ok _

theorem within_quantify (r : Reader) (start least : Nat) (most : Option Nat) :
    Within P (r.quantify start least most) := by
  unfold quantify
  split
  · exact within_misspelt _ _
  · split
    · exact within_misspelt _ _
    · exact within_ok _

theorem within_checkBehind (t : GroupTable) (index position : Nat) :
    Within P (t.checkBehind index position) := by
  unfold GroupTable.checkBehind
  split
  · exact within_ok _
  · split
    · exact within_misspelt _ _
    · split
      · exact within_misspelt _ _
      · exact within_ok _

theorem within_refer (r : Reader) (start index : Nat) : Within P (r.refer start index) := by
  unfold refer
  split
  · split
    · exact within_misspelt _ _
    · exact Within.bind (within_checkBehind ..) fun _ _ => within_ok _
  · exact within_misspelt _ _

theorem within_referName (r : Reader) (name : List Char) : Within P (r.referName name) := by
  unfold referName
  dsimp only
  split
  · exact within_misspelt _ _
  · split
    · exact within_misspelt _ _
    · split
      · exact within_misspelt _ _
      · exact Within.bind (within_checkBehind ..) fun _ _ => within_ok _

theorem within_condition (r : Reader) (start : Nat) (name : List Char) :
    Within P (r.condition start name) := by
  unfold condition
  dsimp only
  split
  · split
    · exact within_misspelt _ _
    · exact Within.bind (within_checkBehind ..) fun _ _ => within_ok _
  · split
    · exact within_misspelt _ _
    · split
      · exact within_misspelt _ _
      · split
        · exact within_misspelt _ _
        · split
          · exact within_misspelt _ _
          · split
            · exact within_fault _
            · exact Within.bind (within_checkBehind ..) fun _ _ => within_ok _

theorem within_named (r : Reader) (start : Nat) (use : NameUse) (name : List Char) :
    Within P (r.named start use name) := by
  cases use with
  | define =>
      unfold named
      dsimp only
      split
      · exact within_misspelt _ _
      · exact within_capture ..
  | refer => exact within_referName ..
  | condition => exact within_condition ..

theorem within_flagOn (r : Reader) (start : Nat) (on : List Char) (c : Char) :
    Within P (r.flagOn start on c) := by
  unfold flagOn
  split
  · exact within_misspelt _ _
  · split
    · exact within_misspelt _ _
    · exact within_ok _

theorem within_flagOff (r : Reader) (start : Nat) (on off : List Char) (c : Char) :
    Within P (r.flagOff start on off c) := by
  unfold flagOff
  split
  · exact within_misspelt _ _
  · exact within_ok _

theorem within_afterFlags (r : Reader) (start : Nat) (on : List Char) (s : Symbol) :
    Within P (r.afterFlags start on s) := by
  unfold afterFlags setGlobals
  split
  · split
    · exact within_ok _
    · exact within_misspelt _ _
  · split
    · split
      · exact within_misspelt _ _
      · split <;> exact within_ok _
    · split
      · exact within_flagOn ..
      · exact within_misspelt _ _

theorem within_afterFlagsOff (r : Reader) (start : Nat) (on off : List Char) (s : Symbol) :
    Within P (r.afterFlagsOff start on off s) := by
  unfold afterFlagsOff
  split
  · split
    · exact within_misspelt _ _
    · split
      · exact within_misspelt _ _
      · exact within_ok _
  · split
    · exact within_flagOff ..
    · exact within_misspelt _ _

/-- Classes are set both to ASCII and to all scripts by flags for the whole expression only. -/
theorem within_checkGlobals (h : r.globals ≠ [] → P .alphabets) : Within P r.checkGlobals := by
  unfold checkGlobals
  split
  · next hboth =>
    refine ⟨fun e he => ?_⟩
    cases he
    apply h
    intro hnone
    rw [hnone] at hboth
    cases hboth
  · exact within_ok _

/-! ## One symbol -/

theorem within_afterMark (r : Reader) (start : Nat) (s : Symbol) :
    Within P (r.afterMark start s) := by
  unfold afterMark
  dsimp only
  split
  · exact within_misspelt _ _
  · split
    iterate 9 exact within_ok _
    split
    · exact within_flagOn ..
    · exact within_misspelt _ _

theorem within_escaped (r : Reader) (c : Char) : Within P (r.escaped c) := by
  unfold escaped
  dsimp only
  split
  iterate 5 exact within_ok _
  exact within_misspelt _ _

theorem within_unescaped (r : Reader) (c : Char) : Within P (r.unescaped c) := by
  unfold unescaped
  dsimp only
  split
  iterate 3 exact within_ok _
  iterate 3 exact within_quantify ..
  iterate 3 exact within_ok _
  split
  · exact within_ok _
  · split <;> exact within_ok _

theorem within_feedReady (h : r.globals ≠ [] → P .alphabets) (s : Symbol) (cut : Bool) :
    Within P (r.feedReady s cut) := by
  unfold feedReady
  dsimp only
  split
  · split
    · exact within_misspelt _ _
    · exact Within.map (within_consume ..) _
  · split
    · split
      · exact Within.bind (within_checkGlobals h) fun _ _ => within_misspelt _ _
      · exact Within.map (within_consume ..) _
    · refine Within.bind (within_consume ..) fun q _ => ?_
      split
      · exact within_escaped ..
      · exact within_unescaped ..

theorem within_feedBracket (hcode : P .codePoint) (r : Reader) (b : Bracket) (s : Symbol)
    (cut : Bool) : Within P (r.feedBracket b s cut) := by
  unfold feedBracket
  refine Within.bind (Bracket.within_settleBefore ..) fun b _ => ?_
  refine Within.bind (within_consume ..) fun q _ => ?_
  refine Within.bind (Bracket.within_push hcode ..) fun step _ => ?_
  split <;> exact within_ok _

theorem within_feedName (r : Reader) (start : Nat) (use : NameUse) (chars : List Char) (s : Symbol)
    (cut : Bool) : Within P (r.feedName start use chars s cut) := by
  unfold feedName
  refine Within.bind (within_consume ..) fun q _ => ?_
  split
  · split
    · exact within_misspelt _ _
    · exact within_named ..
  · exact within_ok _

theorem globals_capture {start position : Nat} {name? : Option (List Char)}
    (h : r.capture start name? position = .ok q) : q.globals = r.globals := by
  obtain ⟨table, -, rfl⟩ := map_eq_ok.1 h
  rfl

theorem globals_refer {start index : Nat} (h : r.refer start index = .ok q) :
    q.globals = r.globals := by
  unfold refer at h
  split at h
  · split at h
    · cases h
    · obtain ⟨-, -, h⟩ := bind_eq_ok.1 h
      obtain rfl := Except.ok.inj h
      rfl
  · cases h

theorem globals_literalBounds (r : Reader) (least : List Char) (most : Option (List Char)) :
    (r.literalBounds least most).globals = r.globals := by
  have hfold : ∀ (cs : List Char) (r : Reader),
      (cs.foldl (fun r c => r.addCode c.toNat) r).globals = r.globals := by
    intro cs
    induction cs with
    | nil => exact fun _ => rfl
    | cons c rest ih => exact fun r => ih (r.addCode c.toNat)
  exact hfold _ _

/-- **A symbol that is no closing brace meets two limits only**, and the second of them only if
flags for the whole expression have been set. -/
theorem within_feed (hcode : P .codePoint) (h : r.globals ≠ [] → P .alphabets) {s : Symbol}
    (hs : s.is '\x7d' = false) (cut : Bool) : Within P (r.feed s cut) := by
  have hready : ∀ q : Reader, q.globals = r.globals → Within P (q.feedReady s cut) := by
    intro q hq
    apply within_feedReady
    rwa [hq]
  unfold feed
  cases hpending : r.pending with
  | ready => exact within_feedReady h s cut
  | quantified =>
      dsimp only
      split
      · exact Within.map (within_consume ..) _
      · split
        · exact Within.map (within_consume ..) _
        · exact within_feedReady h s cut
  | lineComment => exact Within.map (within_consume ..) _
  | escape start n =>
      dsimp only
      split
      · refine Within.bind (within_consume ..) fun q _ => ?_
        refine Within.bind (Numeric.within_push hcode ..) fun step _ => ?_
        split <;> exact within_ok _
      · exact Within.bind (Numeric.within_stop ..) fun code _ => hready _ rfl
  | reference start first =>
      dsimp only
      split
      · refine Within.bind (within_consume ..) fun q _ => ?_
        split
        · exact within_ok _
        · exact within_refer ..
      · exact Within.bind (within_refer ..) fun q hq => hready q (globals_refer hq)
  | octalReference start first second =>
      dsimp only
      split
      · refine Within.bind (within_consume ..) fun q _ => ?_
        exact Within.bind (Numeric.within_octalCode ..) fun _ _ => within_ok _
      · exact Within.bind (within_refer ..) fun q hq => hready q (globals_refer hq)
  | bounds start least most =>
      dsimp only
      split
      · exact Within.map (within_consume ..) _
      · split
        · exact Within.map (within_consume ..) _
        · -- without a closing brace, what has begun is no repetition
          rw [hs, Bool.false_and, if_neg Bool.false_ne_true]
          exact hready _ (globals_literalBounds ..)
  | bracket b => exact within_feedBracket hcode ..
  | opening start =>
      dsimp only
      split
      · exact Within.map (within_consume ..) _
      · exact Within.bind (within_capture ..) fun q hq => hready q (globals_capture hq)
  | extension start => exact Within.bind (within_consume ..) fun _ _ => within_afterMark ..
  | namedExtension start =>
      refine Within.bind (within_consume ..) fun q _ => ?_
      split
      · exact within_ok _
      · split
        · exact within_ok _
        · exact within_misspelt _ _
  | behindExtension start =>
      refine Within.bind (within_consume ..) fun q _ => ?_
      split
      · exact within_ok _
      · split
        · exact within_ok _
        · exact within_misspelt _ _
  | comment start => exact Within.map (within_consume ..) _
  | name start use chars => exact within_feedName ..
  | flags start on => exact Within.bind (within_consume ..) fun _ _ => within_afterFlags ..
  | flagsOff start on off =>
      exact Within.bind (within_consume ..) fun _ _ => within_afterFlagsOff ..

/-! ## Symbols one after the other -/

/-- Reading `ss` from `r` on comes by a state in which flags for the whole expression are set. -/
def SetsGlobals (ss : List Symbol) (r : Reader) : Prop :=
  ∃ before after q, ss = before ++ after ∧ feedAll false before r = .ok q ∧ q.globals ≠ []

theorem setsGlobals_of_globals {ss : List Symbol} (h : r.globals ≠ []) : SetsGlobals ss r :=
  ⟨[], ss, r, rfl, rfl, h⟩

theorem SetsGlobals.cons {s : Symbol} {rest : List Symbol} (h : SetsGlobals rest q)
    (hq : r.feed s false = .ok q) : SetsGlobals (s :: rest) r := by
  obtain ⟨before, after, p, rfl, hp, hglobals⟩ := h
  refine ⟨s :: before, after, p, rfl, ?_, hglobals⟩
  rw [feedAll, Bool.false_and, hq]
  exact hp

/-- Neither does reading any number of such symbols meet other limits. -/
theorem setsGlobals_of_feedAll {lone : Bool} {ss : List Symbol} {e : Excess}
    (hss : ∀ s ∈ ss, s.is '\x7d' = false) (h : feedAll lone ss r = .error (.excess e)) :
    e = .codePoint ∨ e = .alphabets ∧ SetsGlobals ss r := by
  induction ss generalizing r with
  | nil => cases h
  | cons s rest ih =>
      obtain ⟨hs, hrest⟩ := List.forall_mem_cons.1 hss
      rcases bind_eq_error.1 h with hfeed | ⟨q, hq, h⟩
      · have hwithin : Within (fun e => e = .codePoint ∨ e = .alphabets ∧ SetsGlobals (s :: rest) r)
            (r.feed s (lone && rest.isEmpty)) :=
          within_feed (.inl rfl) (fun hglobals => .inr ⟨rfl, setsGlobals_of_globals hglobals⟩) hs _
        exact hwithin.of_excess e hfeed
      · -- no symbol is read that a lone backslash cuts short
        have hcut : (lone && rest.isEmpty) = false := by
          by_contra hcut
          obtain ⟨e', he'⟩ := feed_cut r s
          rw [Bool.eq_true_of_not_eq_false hcut, he'] at hq
          cases hq
        rw [hcut] at hq
        rcases ih hrest h with he | ⟨he, hset⟩
        · exact .inl he
        · exact .inr ⟨he, hset.cons hq⟩

theorem within_settle (r : Reader) : Within P r.settle := by
  unfold settle
  split
  iterate 3 exact within_ok _
  · exact Within.map (Numeric.within_stop ..) _
  · exact within_refer ..
  · exact within_refer ..
  · exact within_ok _
  · exact Within.bind (Bracket.within_settle ..) fun _ _ => within_misspelt _ _
  iterate 5 exact within_misspelt _ _
  · split <;> exact within_misspelt _ _
  iterate 2 exact within_misspelt _ _

theorem globals_settle (h : r.settle = .ok q) : q.globals = r.globals := by
  unfold settle at h
  cases hpending : r.pending with
  | ready | quantified | lineComment =>
      rw [hpending] at h
      obtain rfl := Except.ok.inj h
      rfl
  | escape start n =>
      rw [hpending] at h
      obtain ⟨code, -, rfl⟩ := map_eq_ok.1 h
      rfl
  | reference start first =>
      rw [hpending] at h
      exact globals_refer h
  | octalReference start first second =>
      rw [hpending] at h
      exact globals_refer h
  | bounds start least most =>
      rw [hpending] at h
      obtain rfl := Except.ok.inj h
      exact globals_literalBounds ..
  | bracket b =>
      rw [hpending] at h
      obtain ⟨-, -, h⟩ := bind_eq_ok.1 h
      cases h
  | name start use chars =>
      rw [hpending] at h
      dsimp only at h
      split at h <;> cases h
  | _ =>
      rw [hpending] at h
      cases h

/-- At the end of an expression, a limit is met only if flags for the whole expression are set. -/
theorem globals_of_finish {e : Excess} (h : r.finish = .error (.excess e)) :
    e = .alphabets ∧ r.globals ≠ [] := by
  rcases bind_eq_error.1 h with hsettle | ⟨q, hq, h⟩
  · exact (within_settle (P := fun _ => False) r).of_excess e hsettle |>.elim
  · cases hbelow : q.below with
    | cons outer further =>
        rw [hbelow] at h
        cases h
    | nil =>
        rw [hbelow] at h
        rw [← globals_settle hq]
        rcases bind_eq_error.1 h with hglobals | ⟨⟨⟩, -, h⟩
        · have hwithin : Within (fun e => e = .alphabets ∧ q.globals ≠ []) q.checkGlobals :=
            within_checkGlobals fun hset => ⟨rfl, hset⟩
          exact hwithin.of_excess e hglobals
        · rcases bind_eq_error.1 h with hawaited | ⟨⟨⟩, -, h⟩
          · unfold GroupTable.checkAwaited at hawaited
            split at hawaited <;> cases hawaited
          · cases h

end Reader

/-! ## A whole text -/

/-- The symbols of a text have characters of the text. -/
theorem char_mem_of_mem_symbols {cs : List Char} {s : Symbol} (h : s ∈ (symbols cs).1) :
    s.char ∈ cs := by
  fun_induction symbols cs with
  | case1 => cases h
  | case2 => cases h
  | case3 c cs ss lone hss ih =>
      rw [hss] at ih
      rcases List.mem_cons.1 h with rfl | h
      · simp
      · exact List.mem_cons_of_mem _ (List.mem_cons_of_mem _ (ih h))
  | case4 c cs hlone hescape ss lone hss ih =>
      rw [hss] at ih
      rcases List.mem_cons.1 h with rfl | h
      · exact List.mem_cons_self ..
      · exact List.mem_cons_of_mem _ (ih h)

/-- One more character makes one more symbol, whether or not a lone backslash stands before it. -/
theorem exists_symbols_concat {x : Char} (hx : x ≠ '\x5c') (cs : List Char) :
    ∃ last, symbols (cs ++ [x]) = ((symbols cs).1 ++ [last], false) := by
  fun_induction symbols cs with
  | case1 =>
      refine ⟨.plain x, ?_⟩
      rw [List.nil_append, symbols_plain hx]
      rfl
  | case2 => exact ⟨⟨true, x⟩, rfl⟩
  | case3 c cs ss lone hss ih =>
      obtain ⟨last, hlast⟩ := ih
      rw [hss] at hlast
      refine ⟨last, ?_⟩
      rw [List.cons_append, List.cons_append, symbols, hlast]
      rfl
  | case4 c cs hlone hescape ss lone hss ih =>
      obtain ⟨last, hlast⟩ := ih
      rw [hss] at hlast
      have hc : c ≠ '\x5c' := by
        rintro rfl
        cases cs with
        | nil => exact hlone rfl rfl
        | cons d cs => exact hescape d cs rfl rfl
      refine ⟨last, ?_⟩
      rw [List.cons_append, symbols_plain hc, hlast]
      rfl

variable {strict : Bool} {m : Modes}

/-- A text without closing braces meets two limits only, and the second of them only if it sets
flags for the whole expression. -/
theorem setsGlobals_of_read {cs : List Char} {e : Excess} (hcs : '\x7d' ∉ cs)
    (h : read strict m cs = .error (.excess e)) :
    e = .codePoint ∨ e = .alphabets ∧ SetsGlobals (symbols cs).1 (start strict m) := by
  have hplain : ∀ s ∈ (symbols cs).1, s.is '\x7d' = false := by
    intro s hs
    have hchar : s.char ≠ '\x7d' := fun hchar => hcs (hchar ▸ char_mem_of_mem_symbols hs)
    simp [Symbol.is, hchar]
  unfold read at h
  split at h
  · cases h
  · next ss lone hss hsymbols =>
    rw [hsymbols] at hplain ⊢
    rcases bind_eq_error.1 h with hfeed | ⟨p, hp, h⟩
    · exact setsGlobals_of_feedAll hplain hfeed
    · -- all of the text has been read
      obtain ⟨he, hglobals⟩ := globals_of_finish h
      refine .inr ⟨he, ss, [], p, (List.append_nil ss).symm, ?_, hglobals⟩
      cases lone with
      | false => exact hp
      | true =>
          have hsome : ss ≠ [] := fun hnil => hss hnil rfl
          obtain ⟨e', he'⟩ := feedAll_lone hsome (start strict m)
          rw [he'] at hp
          cases hp

/-- What has been read is checked without meeting limits. -/
theorem within_check {P : Excess → Prop} (plain : Bool) : ∀ r : Regex, Within P (check plain r)
  | .seq r s | .alt r s | .cond _ r s =>
      Within.bind (within_check plain r) fun _ _ => within_check plain s
  | .group _ r | .scoped r | .atomic r | .lookAhead _ r => within_check plain r
  | .rep greed least most r => by
      unfold check
      split
      · exact within_fault _
      · exact within_check plain r
  | .lookBehind negated w r => by
      unfold check
      split
      · exact within_fault _
      · split
        · exact within_fault _
        · exact within_check plain r
  | .empty | .char .. | .anchor .. | .backref .. => within_ok _

theorem read_of_compile_excess {cs : List Char} {e : Excess}
    (h : compile strict m cs = .error (.excess e)) : read strict m cs = .error (.excess e) := by
  rcases bind_eq_error.1 h with hread | ⟨q, -, h⟩
  · exact hread
  · rcases bind_eq_error.1 h with hcheck | ⟨_, -, h⟩
    · exact ((within_check (P := fun _ => False) _ _).of_excess e hcheck).elim
    · cases h

/-! ## Constraints -/

namespace Reader

variable {r : Reader}

/-- Where anything has been read, no more flags are set for the whole expression. -/
theorem not_setsGlobals_of_begun (hbegun : r.atStart = false) (hglobals : r.globals = [])
    (ss : List Symbol) : ¬ SetsGlobals ss r := by
  rintro ⟨before, after, q, -, hq, hset⟩
  obtain ⟨-, hsame⟩ := (leads_feedAll false before r q hq).grows.begun hbegun
  exact hset (hsame.trans hglobals)

theorem SetsGlobals.of_cons {s : Symbol} {rest : List Symbol} (h : SetsGlobals (s :: rest) r)
    (hglobals : r.globals = []) : ∃ q, r.feed s false = .ok q ∧ SetsGlobals rest q := by
  obtain ⟨before, after, p, hss, hp, hset⟩ := h
  cases before with
  | nil =>
      obtain rfl := Except.ok.inj hp
      exact absurd hglobals hset
  | cons x before =>
      obtain ⟨rfl, rfl⟩ := List.cons.inj hss
      obtain ⟨q, hq, hp⟩ := bind_eq_ok.1 hp
      exact ⟨q, hq, before, after, p, rfl, hp, hset⟩

end Reader

/-- The state after the text that stands before an embedded constraint. -/
def afterLead : Reader := { start true {} with position := 1 }.addCode '_'.toNat

theorem feed_lead : (start true {}).feed (.plain '_') false = .ok afterLead := rfl

/-- A constraint that sets flags for the whole expression cannot be embedded. -/
theorem read_embedded_of_setsGlobals {cs : List Char}
    (h : SetsGlobals (symbols cs).1 (start false {})) :
    ∃ e, read true {} (VarSpec.embedded cs) = .error e := by
  obtain ⟨before, after, q, hss, hq, hset⟩ := h
  obtain ⟨last, hlast⟩ := exists_symbols_concat (by decide : ')' ≠ '\x5c') cs
  have hsymbols : symbols (VarSpec.embedded cs) =
      (.plain '_' :: .plain '(' :: (before ++ (after ++ [last])), false) := by
    show symbols ('_' :: '(' :: (cs ++ [')'])) = _
    rw [symbols_plain (by decide), symbols_plain (by decide), hlast, hss, List.append_assoc]
  have hrefused : ∃ e, feedAll false before afterLead.inGroup = .error e :=
    (tracks_inGroup rfl rfl rfl).refused_of_globals immaterial_eq (List.cons_ne_nil _ _) hq hset
  obtain ⟨e, he⟩ := hrefused
  have hinside : feedAll false (.plain '(' :: (before ++ (after ++ [last]))) afterLead =
      .error e := by
    cases before with
    | nil => cases he
    | cons x before =>
        rw [List.cons_append, feedAll_open rfl (head_ne_question hq), ← List.cons_append,
          feedAll_append, he]
        rfl
  refine ⟨e, ?_⟩
  rw [read, hsymbols]
  show (feedAll false (.plain '_' :: _) (start true {}) >>= fun r => r.finish) = _
  rw [feedAll, Bool.false_and, feed_lead]
  show (feedAll false _ afterLead >>= fun r => r.finish) = _
  rw [hinside]
  rfl

/-- **The one limit that a constraint without closing braces can meet** is that of an escape for a
code point. -/
theorem codePoint_of_compileConstraint {cs shown : List Char} {e : Excess} (hcs : '\x7d' ∉ cs)
    (h : VarSpec.compileConstraint cs = .error (shown, .excess e)) : e = .codePoint := by
  unfold VarSpec.compileConstraint at h
  cases hembedded : Regex.compile true {} (VarSpec.embedded cs) with
  | error e' =>
      rw [hembedded] at h
      obtain ⟨-, rfl⟩ := Prod.mk.inj (Except.error.inj h)
      have hplain : '\x7d' ∉ VarSpec.embedded cs := by simpa [VarSpec.embedded] using hcs
      rcases setsGlobals_of_read hplain (read_of_compile_excess hembedded) with he | ⟨-, hset⟩
      · exact he
      · -- the text before it has been read by then
        have hlead : (symbols (VarSpec.embedded cs)).1 =
            .plain '_' :: (symbols ('(' :: cs ++ [')'])).1 := by
          show (symbols ('_' :: ('(' :: cs ++ [')']))).1 = _
          rw [symbols_plain (by decide)]
        rw [hlead] at hset
        obtain ⟨q, hq, hset⟩ := hset.of_cons rfl
        obtain rfl := Except.ok.inj (hq.symm.trans feed_lead)
        exact absurd hset (not_setsGlobals_of_begun rfl rfl _)
  | ok program =>
      rw [hembedded] at h
      cases halone : Regex.compile false {} cs with
      | ok p =>
          rw [halone] at h
          cases h
      | error e' =>
          rw [halone] at h
          obtain ⟨-, rfl⟩ := Prod.mk.inj (Except.error.inj h)
          rcases setsGlobals_of_read hcs (read_of_compile_excess halone) with he | ⟨-, hset⟩
          · exact he
          · obtain ⟨q, hq, -⟩ := compile_eq_ok.1 hembedded
            obtain ⟨e'', he''⟩ := read_embedded_of_setsGlobals hset
            rw [he''] at hq
            cases hq

end PathRouter.Regex
