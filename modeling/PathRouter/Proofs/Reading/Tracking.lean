import PathRouter.Proofs.Reading.Growth
import PathRouter.Proofs.Reading.Places
import PathRouter.Proofs.Reading.Trees

set_option autoImplicit false

/-! # The same text read twice

A text is read twice: by itself, and in the midst of another expression, inside groups that are open
already. The second reading *tracks* the first one (`Tracks`): the frames opened since the text
began are alike, the lexeme being read is the same, and neither reading has met a capturing group.
One symbol keeps it so (`Tracks.follows_feed`), and so does any number of them
(`Tracks.follows_feedAll`), unless the first reading meets a capturing group, a condition on one, or
flags for the whole expression.

The two readings may also begin in different modes, related by `R`, as long as the difference does
not matter to the reading (`Immaterial`).
-/

namespace PathRouter.Regex

open Outcome Reader

/-! ## The relation -/

/-- How modes may differ by `R` does not matter to the reading of an expression. -/
structure Immaterial (R : Modes → Modes → Prop) : Prop where
  verbose : ∀ m m', R m m' → m.verbose = m'.verbose
  withFlags : ∀ m m' on off, R m m' → R (withFlags m on off) (withFlags m' on off)

/-- Where a text stands in an expression: in a group of some kind, with other groups open around it
and a table of groups that are known already. By itself it is read in the modes `modes`. -/
structure Context where
  modes : Modes
  below : List Frame
  kind : GroupKind
  table : GroupTable
  noCondition : ∀ index, kind ≠ .condition index

variable {R : Modes → Modes → Prop} {c : Context}

/-- The frames opened since a text began, in the two readings of it, down to the frame in which the
text stands. -/
inductive Nested (R : Modes → Modes → Prop) (c : Context) :
    Frame → List Frame → Frame → List Frame → Prop where
  | base {g g' : Frame} (h : g.Alike R g') (hwhole : g.kind = .whole) (hmodes : g.modes = c.modes)
      (hkind : g'.kind = c.kind) : Nested R c g [] g' c.below
  | inner {g g' outer outer' : Frame} {below below' : List Frame} (h : g.Alike R g')
      (hkind : g.kind = g'.kind) (hinner : g.kind.isInner = true)
      (hplain : g.kind = .plain → g.modes = outer.modes ∧ g'.modes = outer'.modes)
      (hrest : Nested R c outer below outer' below') :
      Nested R c g (outer :: below) g' (outer' :: below')

/-- No group has been met. -/
structure GroupTable.Quiet (t : GroupTable) : Prop where
  next : t.next = 1
  closed : t.closed = []
  names : t.names = []
  awaited : t.awaited = []

namespace Reader

/-- A capturing group or a condition on one has been met, and before it no flags for the whole
expression. -/
structure Captures (r : Reader) : Prop where
  met : 1 < r.table.next ∨ ∃ a ∈ r.table.awaited, 1 ≤ a.1
  begun : r.atStart = false
  globals : r.globals = []

/-- A reading that is inside a lookbehind has the frame of it open. -/
def Behind (r : Reader) : Prop :=
  r.table.behindFrom ≠ none → ∃ g ∈ r.top :: r.below, ∃ negated, g.kind = .behind negated true

/-- The second reading `r'` is where the first one, `r`, is. -/
structure Tracks (R : Modes → Modes → Prop) (c : Context) (r r' : Reader) : Prop where
  nested : Nested R c r.top r.below r'.top r'.below
  quiet : r.table.Quiet
  behind : r.Behind
  table : r'.table =
    { c.table with behindFrom := r.table.behindFrom.map fun _ => c.table.next }
  globals : r.globals = []
  globals' : r'.globals = []
  pending : r.pending.Same r'.pending
  comment : r.pending = .lineComment → r.top.modes.verbose = true

/-- The second reading does not go on from where the first one is now: a capturing group or global
flags have been met. In the midst of an expression the latter are refused. -/
def Strays (c : Context) (q : Reader) (x' : Except Error Reader) : Prop :=
  q.Captures ∨ (q.globals ≠ [] ∧ (c.below ≠ [] → ∃ e, x' = .error e))

/-- If a step of the first reading succeeds, the second reading follows it, unless the first one has
strayed. -/
structure Follows (R : Modes → Modes → Prop) (c : Context) (x x' : Except Error Reader) : Prop where
  of_ok : ∀ q, x = .ok q → (∃ q', x' = .ok q' ∧ Tracks R c q q') ∨ Strays c q x'

variable {r r' q q' : Reader}

theorem Captures.of_grows (h : r.Captures) (hgrows : r.Grows q) : q.Captures := by
  obtain ⟨hbegun, hglobals⟩ := hgrows.begun h.begun
  refine ⟨?_, hbegun, hglobals.trans h.globals⟩
  rcases h.met with hnext | ⟨a, ha, hindex⟩
  · exact .inl (hnext.trans_le hgrows.next)
  · exact .inr ⟨a, hgrows.awaited ha, hindex⟩

theorem follows_ok (h : Tracks R c q q') : Follows R c (.ok q) (.ok q') := by
  refine ⟨fun p hp => ?_⟩
  obtain rfl := Except.ok.inj hp
  exact .inl ⟨q', rfl, h⟩

theorem follows_misspelt (problem : Problem) (position : Nat) (x' : Except Error Reader) :
    Follows R c (misspelt problem position) x' :=
  ⟨fun _ h => nomatch h⟩

theorem follows_error (e : Error) (x' : Except Error Reader) : Follows R c (.error e) x' :=
  ⟨fun _ h => nomatch h⟩

theorem follows_of_captures {x : Except Error Reader} (x' : Except Error Reader)
    (h : ∀ q, x = .ok q → q.Captures) : Follows R c x x' :=
  ⟨fun q hq => .inr (.inl (h q hq))⟩

/-- A step after another one. -/
theorem Follows.bind {x x' : Except Error Reader} {g g' : Reader → Except Error Reader}
    (h : Follows R c x x') (hleads : ∀ q : Reader, q.Leads (g q))
    (hg : ∀ q q', Tracks R c q q' → Follows R c (g q) (g' q')) :
    Follows R c (x >>= g) (x' >>= g') := by
  refine ⟨fun p hp => ?_⟩
  obtain ⟨q, hq, hp⟩ := Outcome.bind_eq_ok.1 hp
  have hgrows := (hleads q p hp).grows
  -- once strayed, the first reading stays astray, since the second step takes nothing back
  rcases h.of_ok q hq with ⟨q', rfl, hqq'⟩ | hcaptures | ⟨hglobals, hrefused⟩
  · exact (hg q q' hqq').of_ok p hp
  · exact .inr (.inl (hcaptures.of_grows hgrows))
  · refine .inr (.inr ⟨hgrows.globals hglobals, fun hbelow => ?_⟩)
    obtain ⟨e, rfl⟩ := hrefused hbelow
    exact ⟨e, rfl⟩

/-- A step after something that does not touch the state. -/
theorem follows_bind {β γ : Type} {S : β → γ → Prop} {x : Except Error β} {x' : Except Error γ}
    {g : β → Except Error Reader} {g' : γ → Except Error Reader} (h : Mirrors S x x')
    (hg : ∀ b b', S b b' → Follows R c (g b) (g' b')) : Follows R c (x >>= g) (x' >>= g') := by
  refine ⟨fun p hp => ?_⟩
  obtain ⟨b, hb, hp⟩ := Outcome.bind_eq_ok.1 hp
  obtain ⟨b', rfl, hbb'⟩ := h.of_ok b hb
  exact (hg b b' hbb').of_ok p hp

end Reader

/-! ## Frames -/

namespace Nested

variable {g g' h h' : Frame} {below below' : List Frame}

theorem top (hn : Nested R c g below g' below') : g.Alike R g' := by
  cases hn with
  | base h _ _ _ => exact h
  | inner h _ _ _ _ => exact h

/-- Frames like the innermost ones may take their place. -/
theorem replace (hn : Nested R c g below g' below') (hh : h.Alike R h') (hkind : h.kind = g.kind)
    (hkind' : h'.kind = g'.kind) (hmodes : h.modes = g.modes) (hmodes' : h'.modes = g'.modes) :
    Nested R c h below h' below' := by
  cases hn with
  | base _ hwhole hbase hsame =>
      exact .base hh (hkind.trans hwhole) (hmodes.trans hbase) (hkind'.trans hsame)
  | inner _ hsame hinner hplain hrest =>
      refine .inner hh ?_ ?_ ?_ hrest
      · rw [hkind, hkind', hsame]
      · rwa [hkind]
      · intro hk
        rw [hmodes, hmodes']
        exact hplain (hkind ▸ hk)

theorem below_ne_nil (hn : Nested R c g below g' below') (h : c.below ≠ []) : below' ≠ [] := by
  cases hn with
  | base _ _ _ _ => exact h
  | inner _ _ _ _ _ => exact List.cons_ne_nil _ _

/-- A frame opened since the text began has a frame around it in both readings. -/
theorem exists_outer {outer : Frame} (hn : Nested R c g (outer :: below) g' below') :
    ∃ outer' further', below' = outer' :: further' := by
  cases hn with
  | inner _ _ _ _ _ => exact ⟨_, _, rfl⟩

/-- The frame in which the text stands has the frames of the context around it. -/
theorem outermost (hn : Nested R c g [] g' below') :
    below' = c.below ∧ g.Alike R g' ∧ g.kind = .whole ∧ g.modes = c.modes ∧ g'.kind = c.kind := by
  cases hn with
  | base h hwhole hmodes hkind => exact ⟨rfl, h, hwhole, hmodes, hkind⟩

/-- The innermost frame of the second reading is no condition. -/
theorem noCondition (hn : Nested R c g below g' below') (index : Nat) :
    g'.kind ≠ .condition index := by
  cases hn with
  | base _ _ _ hbase => exact hbase ▸ c.noCondition index
  | inner _ hsame hinner _ _ =>
      intro hk
      rw [hsame, hk] at hinner
      cases hinner

end Nested

/-! ## Steps that always succeed -/

namespace Reader

variable {r r' q q' : Reader}

namespace Tracks

theorem await (h : Tracks R c r r') {p p' : Pending} (hp : p.Same p')
    (hcomment : p = .lineComment → r.top.modes.verbose = true) :
    Tracks R c (r.await p) (r'.await p') :=
  ⟨h.nested, h.quiet, h.behind, h.table, h.globals, h.globals', hp, hcomment⟩

theorem ready (h : Tracks R c r r') : Tracks R c (r.await .ready) (r'.await .ready) :=
  h.await .ready nofun

theorem move (h : Tracks R c r r') (position position' : Nat) :
    Tracks R c { r with position } { r' with position := position' } :=
  ⟨h.nested, h.quiet, h.behind, h.table, h.globals, h.globals', h.pending, h.comment⟩

/-- The innermost frames are replaced by frames like them. -/
theorem replace (h : Tracks R c r r') {g g' : Frame} (hg : g.Alike R g')
    (hkind : g.kind = r.top.kind) (hkind' : g'.kind = r'.top.kind)
    (hmodes : g.modes = r.top.modes) (hmodes' : g'.modes = r'.top.modes) :
    Tracks R c { r with top := g } { r' with top := g' } := by
  refine ⟨h.nested.replace hg hkind hkind' hmodes hmodes', h.quiet, fun hbehind => ?_, h.table,
    h.globals, h.globals', h.pending, fun hp => ?_⟩
  · obtain ⟨held, hheld, negated, hnegated⟩ := h.behind hbehind
    rcases List.mem_cons.1 hheld with rfl | hheld
    · exact ⟨g, List.mem_cons_self .., negated, hkind.trans hnegated⟩
    · exact ⟨held, List.mem_cons_of_mem _ hheld, negated, hnegated⟩
  · rw [hmodes]
    exact h.comment hp

theorem add (h : Tracks R c r r') {i i' : Item} (hi : i.Alike R i')
    (hmodes : ∀ x ∈ i.elements, x.Fits r.top.modes)
    (hmodes' : ∀ x ∈ i'.elements, x.Fits r'.top.modes) :
    Tracks R c (r.add i) (r'.add i') :=
  h.replace (h.nested.top.add hi hmodes hmodes') rfl rfl rfl rfl

theorem addTest (h : Tracks R c r r') (t : CharTest) :
    Tracks R c (r.addTest t) (r'.addTest t) :=
  h.add (.one (.char h.nested.top.modes t)) (List.forall_mem_singleton.2 ⟨rfl, rfl⟩)
    (List.forall_mem_singleton.2 ⟨rfl, rfl⟩)

theorem addCode (h : Tracks R c r r') (n : Nat) : Tracks R c (r.addCode n) (r'.addCode n) :=
  h.addTest _

theorem addAnchor (h : Tracks R c r r') (a : Anchor) :
    Tracks R c (r.add (.one (.anchor r.top.modes a))) (r'.add (.one (.anchor r'.top.modes a))) :=
  h.add (.one (.anchor h.nested.top.modes a)) (List.forall_mem_singleton.2 ⟨rfl, rfl⟩)
    (List.forall_mem_singleton.2 ⟨rfl, rfl⟩)

theorem bar (h : Tracks R c r r') :
    Tracks R c { r with top := r.top.bar } { r' with top := r'.top.bar } :=
  h.replace h.nested.top.bar rfl rfl rfl rfl

/-- A group that does not capture is opened. -/
theorem push (h : Tracks R c r r') {kind : GroupKind} (start start' : Nat) {modes modes' : Modes}
    (hinner : kind.isInner = true) (hmodes : R modes modes')
    (hplain : kind = .plain → modes = r.top.modes ∧ modes' = r'.top.modes) :
    Tracks R c (r.push kind start modes) (r'.push kind start' modes') := by
  refine ⟨.inner ⟨hmodes, .nil, .nil, ⟨nofun, nofun⟩, ⟨nofun, nofun⟩⟩ rfl hinner hplain h.nested,
    h.quiet, fun hbehind => ?_, h.table, h.globals, h.globals', .ready, nofun⟩
  obtain ⟨held, hheld, hnegated⟩ := h.behind hbehind
  exact ⟨held, List.mem_cons_of_mem _ hheld, hnegated⟩

/-- A group that does not capture is opened, in the modes around it. -/
theorem pushSame (h : Tracks R c r r') {kind : GroupKind} (start start' : Nat)
    (hinner : kind.isInner = true) :
    Tracks R c (r.push kind start r.top.modes) (r'.push kind start' r'.top.modes) :=
  h.push start start' hinner h.nested.top.modes fun _ => ⟨rfl, rfl⟩

theorem pushBehind (h : Tracks R c r r') (negated : Bool) (start start' : Nat) :
    Tracks R c (r.behind negated start) (r'.behind negated start') := by
  have hbehind : r'.table.behindFrom = r.table.behindFrom.map fun _ => c.table.next := by
    rw [h.table]
  unfold Reader.behind
  rw [hbehind]
  cases hfrom : r.table.behindFrom with
  | some first => exact h.pushSame start start' rfl
  | none =>
      -- the outermost lookbehind: from here on, groups may not be referred to
      have hnext : r'.table.next = c.table.next := by rw [h.table]
      have hpush : Tracks R c (r.push (.behind negated true) start r.top.modes) _ :=
        h.pushSame start start' rfl
      refine ⟨hpush.nested, ⟨h.quiet.next, h.quiet.closed, h.quiet.names, h.quiet.awaited⟩,
        fun _ => ⟨_, List.mem_cons_self .., negated, rfl⟩, ?_, h.globals, h.globals', .ready, nofun⟩
      show { r'.table with behindFrom := some r'.table.next } = _
      rw [hnext, h.table]
      rfl

/-- The innermost group that was opened since the text began is closed. -/
theorem close (h : Tracks R c r r') {outer outer' : Frame} {further further' : List Frame}
    (hbelow : r.below = outer :: further) (hbelow' : r'.below = outer' :: further') :
    Tracks R c (r.close outer further) (r'.close outer' further') := by
  have hnested := h.nested
  rw [hbelow, hbelow'] at hnested
  cases hnested with
  | inner htop hkind hinner hplain hrest =>
      have hadd : (outer.add r.top.close).Alike R (outer'.add r'.top.close) := by
        refine hrest.top.add (htop.close hkind hinner) ?_ ?_
        · exact htop.uniform.close hinner fun hk => (hplain hk).1
        · exact htop.uniform'.close (hkind ▸ hinner) fun hk => (hplain (hkind.trans hk)).2
      have hframes := hrest.replace hadd rfl rfl rfl rfl
      -- a lookbehind whose frame is not the one that is closed is still open
      have hbehind (hk : ∀ negated, r.top.kind ≠ .behind negated true) :
          r.table.behindFrom ≠ none →
            ∃ g ∈ outer.add r.top.close :: further, ∃ negated, g.kind = .behind negated true := by
        intro hfrom
        obtain ⟨held, hheld, negated, hnegated⟩ := h.behind hfrom
        rw [hbelow] at hheld
        rcases List.mem_cons.1 hheld with rfl | hheld
        · exact absurd hnegated (hk negated)
        · rcases List.mem_cons.1 hheld with rfl | hheld
          · exact ⟨_, List.mem_cons_self .., negated, hnegated⟩
          · exact ⟨held, List.mem_cons_of_mem _ hheld, negated, hnegated⟩
      unfold Reader.close
      rw [← hkind]
      cases hk : r.top.kind with
      | behind negated outermost =>
          -- the end of the outermost lookbehind is the end of all of them
          cases outermost with
          | false =>
              exact ⟨hframes, h.quiet, hbehind (by simp [hk]), h.table, h.globals, h.globals',
                .ready, nofun⟩
          | true =>
              refine ⟨hframes, ?_, fun hfrom => absurd rfl hfrom, ?_, h.globals, h.globals',
                .ready, nofun⟩
              · exact ⟨h.quiet.next, h.quiet.closed, h.quiet.names, h.quiet.awaited⟩
              · dsimp only
                rw [h.table]
                rfl
      -- the other kinds are not opened since the text began
      | whole => rw [hk] at hinner; cases hinner
      | capture index => rw [hk] at hinner; cases hinner
      | condition index => rw [hk] at hinner; cases hinner
      | _ =>
          exact ⟨hframes, h.quiet, hbehind (by simp [hk]), h.table, h.globals, h.globals', .ready,
            nofun⟩

theorem setGreed (h : Tracks R c r r') (greed : Greed) :
    Tracks R c (r.setGreed greed) (r'.setGreed greed) := by
  have htop := h.nested.top
  have hitems := htop.items
  unfold Reader.setGreed
  cases hi : r.top.items with
  | nil =>
      -- nothing has been repeated
      rw [hi, List.forall₂_nil_left_iff] at hitems
      rw [hitems]
      exact h.ready
  | cons i rest =>
      rw [hi, List.forall₂_cons_left_iff] at hitems
      obtain ⟨i', rest', hsame, -, hi'⟩ := hitems
      rw [hi']
      have hmodes := htop.uniform.items i (hi ▸ List.mem_cons_self ..)
      have hmodes' := htop.uniform'.items i' (hi' ▸ List.mem_cons_self ..)
      exact (h.replace (htop.replace hi hi' (hsame.withGreed greed) (Item.fits_withGreed hmodes)
        (Item.fits_withGreed hmodes')) rfl rfl rfl rfl).ready

theorem literalBounds (h : Tracks R c r r') (least : List Char) (most : Option (List Char)) :
    Tracks R c (r.literalBounds least most) (r'.literalBounds least most) := by
  have hfold : ∀ (cs : List Char) (r r' : Reader), Tracks R c r r' →
      Tracks R c (cs.foldl (fun r x => r.addCode x.toNat) r)
        (cs.foldl (fun r x => r.addCode x.toNat) r') := by
    intro cs
    induction cs with
    | nil => exact fun _ _ h => h
    | cons x rest ih => exact fun r r' h => ih _ _ (h.addCode _)
  exact hfold _ _ _ h.ready

end Tracks

/-! ## Steps that may fail -/

/-- Moving past a symbol, and a step after it. -/
theorem follows_consume_bind (r r' : Reader) (s : Symbol) (cut : Bool)
    {g g' : Reader → Except Error Reader}
    (hg : ∀ position position', Follows R c (g { r with position })
      (g' { r' with position := position' })) :
    Follows R c (r.consume s cut >>= g) (r'.consume s false >>= g') := by
  cases cut with
  | true => exact follows_misspelt _ _ _
  | false => exact hg _ _

theorem follows_consume_map (r r' : Reader) (s : Symbol) (cut : Bool) {g g' : Reader → Reader}
    (hg : ∀ position position', Tracks R c (g { r with position })
      (g' { r' with position := position' })) :
    Follows R c ((r.consume s cut).map g) ((r'.consume s false).map g') := by
  cases cut with
  | true => exact follows_misspelt _ _ _
  | false => exact follows_ok (hg _ _)

namespace Tracks

theorem follows_quantify (h : Tracks R c r r') (start start' least : Nat) (most : Option Nat) :
    Follows R c (r.quantify start least most) (r'.quantify start' least most) := by
  have htop := h.nested.top
  have hitems := htop.items
  unfold quantify
  cases hi : r.top.items with
  | nil => exact follows_misspelt _ _ _
  | cons i rest =>
      rw [hi, List.forall₂_cons_left_iff] at hitems
      obtain ⟨i', rest', hsame, -, hi'⟩ := hitems
      -- whether an item may be repeated does not depend on modes
      have hrefused : i.unrepeatable? = i'.unrepeatable? := hsame.unrepeatable?_eq
      rw [hi']
      dsimp only
      rw [← hrefused]
      split
      · exact follows_misspelt _ _ _
      · refine follows_ok ((h.replace (htop.replace hi hi'
          (.one (.rep .greedy least most hsame.body)) ?_ ?_) rfl rfl rfl rfl).await
          .quantified nofun)
        · have hbody :=
            Item.isSelfContained_body (htop.uniform.items i (hi ▸ List.mem_cons_self ..))
          exact List.forall_mem_singleton.2 ⟨trivial, hbody⟩
        · have hbody :=
            Item.isSelfContained_body (htop.uniform'.items i' (hi' ▸ List.mem_cons_self ..))
          exact List.forall_mem_singleton.2 ⟨trivial, hbody⟩

theorem follows_quantifyBounds (h : Tracks R c r r') (start start' : Nat) (least : List Char)
    (most : Option (List Char)) :
    Follows R c (r.quantifyBounds start least most) (r'.quantifyBounds start' least most) := by
  unfold quantifyBounds
  refine follows_bind (S := Eq) ⟨fun low hlow => ⟨low, hlow, rfl⟩⟩ ?_
  rintro low _ rfl
  dsimp only
  split
  · exact h.follows_quantify ..
  · refine follows_bind (S := Eq) ⟨fun high hhigh => ⟨high, hhigh, rfl⟩⟩ ?_
    rintro high _ rfl
    split
    · exact follows_misspelt _ _ _
    · exact h.follows_quantify ..

/-- There is no group to refer to. -/
theorem refer_refused (h : Tracks R c r r') (start index : Nat) :
    ∃ e, r.refer start index = .error e := by
  unfold refer
  rw [h.quiet.closed]
  split <;> exact ⟨_, rfl⟩

theorem follows_refer (h : Tracks R c r r') (start index : Nat) (x' : Except Error Reader) :
    Follows R c (r.refer start index) x' := by
  obtain ⟨e, he⟩ := h.refer_refused start index
  rw [he]
  exact follows_error e x'

theorem follows_capture (h : Tracks R c r r') (start position : Nat) (name? : Option (List Char))
    (x' : Except Error Reader) : Follows R c (r.capture start name? position) x' := by
  refine follows_of_captures x' fun q hq => ?_
  obtain ⟨table, hnext, -, rfl⟩ := exists_of_capture hq
  refine ⟨.inl ?_, rfl, h.globals⟩
  show 1 < table.next
  rw [hnext, h.quiet.next]
  exact Nat.lt_succ_self _

theorem follows_referName (h : Tracks R c r r') (name : List Char) (x' : Except Error Reader) :
    Follows R c (r.referName name) x' := by
  unfold referName
  rw [h.quiet.names]
  dsimp only
  split
  · exact follows_misspelt _ _ _
  · exact follows_misspelt _ _ _

theorem follows_condition (h : Tracks R c r r') (start : Nat) (name : List Char)
    (x' : Except Error Reader) : Follows R c (r.condition start name) x' := by
  unfold condition
  rw [h.quiet.names]
  dsimp only
  split
  · exact follows_misspelt _ _ _
  · split
    · exact follows_misspelt _ _ _
    · next n _ =>
      split
      · exact follows_misspelt _ _ _
      · split
        · exact follows_misspelt _ _ _
        · next hzero =>
          split
          · exact follows_misspelt _ _ _
          · split
            · exact follows_error _ _
            · -- the group is awaited from now on
              refine follows_of_captures x' fun q hq => ?_
              obtain ⟨-, -, hq⟩ := Outcome.bind_eq_ok.1 hq
              obtain rfl := Except.ok.inj hq
              obtain ⟨a, ha, hindex⟩ := GroupTable.exists_mem_await r.table n.toNat
                (r.position - (name.length + 1))
              exact ⟨.inr ⟨a, ha, hindex ▸ Nat.pos_of_ne_zero hzero⟩, rfl, h.globals⟩

theorem follows_named (h : Tracks R c r r') (start : Nat) (use : NameUse) (name : List Char)
    (x' : Except Error Reader) : Follows R c (r.named start use name) x' := by
  cases use with
  | define =>
      unfold named
      dsimp only
      split
      · exact follows_misspelt _ _ _
      · exact h.follows_capture ..
  | refer => exact h.follows_referName ..
  | condition => exact h.follows_condition ..

/-! ## Flags -/

theorem follows_flagOn (h : Tracks R c r r') (start start' : Nat) (on : List Char) (x : Char) :
    Follows R c (r.flagOn start on x) (r'.flagOn start' on x) := by
  unfold flagOn
  split
  · exact follows_misspelt _ _ _
  · split
    · exact follows_misspelt _ _ _
    · exact follows_ok (h.await (.flags start start' (List.cons_ne_nil x on)) nofun)

theorem follows_flagOff (h : Tracks R c r r') (start start' : Nat) (on off : List Char)
    (x : Char) : Follows R c (r.flagOff start on off x) (r'.flagOff start' on off x) := by
  unfold flagOff
  split
  · exact follows_misspelt _ _ _
  · exact follows_ok (h.await (.flagsOff start start' on (x :: off)) nofun)

/-- Flags for the whole expression lead astray. -/
theorem follows_setGlobals (h : Tracks R c r r') (start start' : Nat) {on : List Char}
    (hon : on ≠ []) : Follows R c (r.setGlobals start on) (r'.setGlobals start' on) := by
  refine ⟨fun q hq => .inr (.inr ⟨?_, fun hbelow => ?_⟩)⟩
  · unfold setGlobals at hq
    split at hq
    · obtain rfl := Except.ok.inj hq
      exact List.append_ne_nil_of_left_ne_nil hon _
    · cases hq
  · -- the second reading has a group open already
    have hstart : r'.atStart = false := by
      have hne := h.nested.below_ne_nil hbelow
      simp [atStart, hne]
    unfold setGlobals
    rw [hstart]
    exact ⟨_, rfl⟩

theorem follows_afterFlags (hR : Immaterial R) (h : Tracks R c r r') (start start' : Nat)
    {on : List Char} (hon : on ≠ []) (s : Symbol) :
    Follows R c (r.afterFlags start on s) (r'.afterFlags start' on s) := by
  unfold afterFlags
  split
  · exact h.follows_setGlobals start start' hon
  · split
    · split
      · exact follows_misspelt _ _ _
      · split
        · exact follows_ok (h.await (.flagsOff start start' on []) nofun)
        · exact follows_ok (h.push start start' rfl
            (hR.withFlags _ _ on [] h.nested.top.modes) nofun)
    · split
      · exact h.follows_flagOn ..
      · exact follows_misspelt _ _ _

theorem follows_afterFlagsOff (hR : Immaterial R) (h : Tracks R c r r') (start start' : Nat)
    (on off : List Char) (s : Symbol) :
    Follows R c (r.afterFlagsOff start on off s) (r'.afterFlagsOff start' on off s) := by
  unfold afterFlagsOff
  split
  · split
    · exact follows_misspelt _ _ _
    · split
      · exact follows_misspelt _ _ _
      · exact follows_ok (h.push start start' rfl
          (hR.withFlags _ _ on off h.nested.top.modes) nofun)
  · split
    · exact h.follows_flagOff ..
    · exact follows_misspelt _ _ _

/-! ## One symbol -/

theorem follows_afterMark (h : Tracks R c r r') (start start' : Nat) (s : Symbol) :
    Follows R c (r.afterMark start s) (r'.afterMark start' s) := by
  unfold afterMark
  dsimp only
  split
  · exact follows_misspelt _ _ _
  · split
    · exact follows_ok (h.await (.namedExtension start start') nofun)
    · exact follows_ok (h.pushSame start start' rfl)
    · exact follows_ok (h.await (.comment start start') nofun)
    · exact follows_ok (h.pushSame start start' rfl)
    · exact follows_ok (h.pushSame start start' rfl)
    · exact follows_ok (h.await (.behindExtension start start') nofun)
    · exact follows_ok (h.await (.name start start' .condition []) nofun)
    · exact follows_ok (h.pushSame start start' rfl)
    · exact follows_ok (h.await (.flagsOff start start' [] []) nofun)
    · split
      · exact h.follows_flagOn ..
      · exact follows_misspelt _ _ _

theorem follows_escaped (h : Tracks R c r r') (x : Char) :
    Follows R c (r.escaped x) (r'.escaped x) := by
  unfold escaped
  dsimp only
  split
  · exact follows_ok (h.addAnchor _)
  · exact follows_ok (h.addTest _)
  · exact follows_ok (h.addCode _)
  · exact follows_ok (h.await (.escape _ _ _) nofun)
  · exact follows_ok (h.await (.reference _ _ _) nofun)
  · exact follows_misspelt _ _ _

theorem follows_unescaped (hR : Immaterial R) (h : Tracks R c r r') (x : Char) :
    Follows R c (r.unescaped x) (r'.unescaped x) := by
  have hverbose : r.top.modes.verbose = r'.top.modes.verbose :=
    hR.verbose _ _ h.nested.top.modes
  unfold unescaped
  dsimp only
  split
  · exact follows_ok (h.await (.bracket ⟨rfl, rfl, .opened⟩) nofun)
  · exact follows_ok (h.await (.opening _ _) nofun)
  · exact follows_ok (h.await (.bounds _ _ _ _) nofun)
  · exact h.follows_quantify ..
  · exact h.follows_quantify ..
  · exact h.follows_quantify ..
  · exact follows_ok (h.addTest _)
  · exact follows_ok (h.addAnchor _)
  · exact follows_ok (h.addAnchor _)
  · rw [← hverbose]
    split
    · exact follows_ok h
    · split
      · next hcomment =>
        exact follows_ok (h.await .lineComment fun _ => (Bool.and_eq_true_iff.1 hcomment).1)
      · exact follows_ok (h.addCode _)

theorem follows_feedReady (hR : Immaterial R) (h : Tracks R c r r') (s : Symbol) (cut : Bool) :
    Follows R c (r.feedReady s cut) (r'.feedReady s false) := by
  have hready := h.ready
  unfold feedReady
  dsimp only
  split
  · -- a bar
    split
    · exact follows_misspelt _ _ _
    · split
      · next hkind _ => exact absurd hkind (h.nested.noCondition _)
      · exact follows_consume_map _ _ s cut fun _ _ => (hready.move ..).bar
  · split
    · -- a closing parenthesis: by itself, the text must not close what it has not opened
      split
      · refine ⟨fun q hq => ?_⟩
        obtain ⟨-, -, hq⟩ := Outcome.bind_eq_ok.1 hq
        cases hq
      · next outer further hbelow =>
        obtain ⟨outer', further', hbelow'⟩ := (hbelow ▸ h.nested).exists_outer
        split
        · next hnone => cases hbelow'.symm.trans hnone
        · next hbelow' =>
          exact follows_consume_map _ _ s cut fun _ _ => (hready.move ..).close hbelow hbelow'
    · refine follows_consume_bind _ _ s cut fun position position' => ?_
      split
      · exact (hready.move ..).follows_escaped _
      · exact (hready.move ..).follows_unescaped hR _

theorem follows_feedBracket (h : Tracks R c r r') {b b' : Bracket} (hb : b.Same b') (s : Symbol)
    (cut : Bool) : Follows R c (r.feedBracket b s cut) (r'.feedBracket b' s false) := by
  unfold feedBracket
  refine follows_bind (hb.mirrors_settleBefore ..) fun d d' hd => ?_
  refine follows_consume_bind r r' s cut fun position position' => ?_
  refine follows_bind (hd.mirrors_push ..) fun step step' hstep => ?_
  cases step with
  | inl e => cases step' with
      | inl e' => exact follows_ok ((h.move ..).await (.bracket hstep) nofun)
      | inr t' => cases hstep
  | inr t => cases step' with
      | inl e' => cases hstep
      | inr t' =>
          obtain rfl : t = t' := hstep
          exact follows_ok ((h.move ..).addTest t).ready

theorem follows_feedName (h : Tracks R c r r') (start start' : Nat) (use : NameUse)
    (chars : List Char) (s : Symbol) (cut : Bool) :
    Follows R c (r.feedName start use chars s cut) (r'.feedName start' use chars s false) := by
  unfold feedName
  refine follows_consume_bind r r' s cut fun position position' => ?_
  split
  · split
    · exact follows_misspelt _ _ _
    · exact (h.move position position').follows_named ..
  · exact follows_ok ((h.move ..).await (.name start start' use _) nofun)

/-- **One symbol read in both readings keeps the second one where the first one is.** A case for
every lexeme that may have begun; that the text ends in a lone backslash is refused at once. -/
theorem follows_feed (hR : Immaterial R) (h : Tracks R c r r') (s : Symbol) (cut : Bool) :
    Follows R c (r.feed s cut) (r'.feed s false) := by
  have hpending := h.pending
  have hcomment := h.comment
  unfold feed
  generalize r.pending = p at hpending hcomment ⊢
  generalize r'.pending = p' at hpending ⊢
  cases hpending with
  | ready => exact h.follows_feedReady hR s cut
  | quantified =>
      dsimp only
      split
      · exact follows_consume_map r r' s cut fun _ _ => (h.move ..).setGreed _
      · split
        · exact follows_consume_map r r' s cut fun _ _ => (h.move ..).setGreed _
        · exact h.follows_feedReady hR s cut
  | lineComment =>
      refine follows_consume_map r r' s cut fun _ _ => ?_
      split
      · exact (h.move ..).ready
      · exact h.move ..
  | escape start start' n =>
      dsimp only
      split
      · refine follows_consume_bind r r' s cut fun position position' => ?_
        refine follows_bind (n.mirrors_push ..) ?_
        rintro step _ rfl
        cases step with
        | inl n => exact follows_ok ((h.move ..).await (.escape start start' n) nofun)
        | inr code => exact follows_ok ((h.move ..).addCode code).ready
      · refine follows_bind (n.mirrors_stop ..) ?_
        rintro code _ rfl
        exact (h.addCode code).follows_feedReady hR s cut
  | reference start start' first =>
      dsimp only
      split
      · refine follows_consume_bind r r' s cut fun position position' => ?_
        split
        · exact follows_ok ((h.move ..).await (.octalReference start start' first s.char) nofun)
        · exact (h.move position position').follows_refer ..
      · -- the reference ends before the symbol, which is then read
        exact (h.follows_refer ..).bind (fun q => leads_feedReady q s cut)
          fun q q' hq => hq.follows_feedReady hR s cut
  | octalReference start start' first second =>
      dsimp only
      split
      · refine follows_consume_bind r r' s cut fun position position' => ?_
        refine follows_bind (Numeric.mirrors_octalCode ..) ?_
        rintro code _ rfl
        exact follows_ok ((h.move ..).addCode code).ready
      · exact (h.follows_refer ..).bind (fun q => leads_feedReady q s cut)
          fun q q' hq => hq.follows_feedReady hR s cut
  | bounds start start' least most =>
      dsimp only
      split
      · refine follows_consume_map r r' s cut fun position position' => ?_
        cases most with
        | none => exact (h.move ..).await (.bounds start start' _ none) nofun
        | some digits => exact (h.move ..).await (.bounds start start' least (some _)) nofun
      · split
        · exact follows_consume_map r r' s cut fun _ _ =>
            (h.move ..).await (.bounds start start' least (some [])) nofun
        · split
          · exact follows_consume_bind r r' s cut fun _ _ => (h.move ..).follows_quantifyBounds ..
          · -- no bounds after all, but a brace and digits
            exact (h.literalBounds least most).follows_feedReady hR s cut
  | bracket hb => exact h.follows_feedBracket hb s cut
  | opening start start' =>
      dsimp only
      split
      · exact follows_consume_map r r' s cut fun _ _ =>
          (h.move ..).await (.extension start start') nofun
      · -- a parenthesis without a question mark captures
        exact (h.follows_capture ..).bind (fun q => leads_feedReady q s cut)
          fun q q' hq => hq.follows_feedReady hR s cut
  | extension start start' =>
      exact follows_consume_bind r r' s cut fun _ _ => (h.move ..).follows_afterMark ..
  | namedExtension start start' =>
      refine follows_consume_bind r r' s cut fun position position' => ?_
      split
      · exact follows_ok ((h.move ..).await (.name start start' .define []) nofun)
      · split
        · exact follows_ok ((h.move ..).await (.name start start' .refer []) nofun)
        · exact follows_misspelt _ _ _
  | behindExtension start start' =>
      refine follows_consume_bind r r' s cut fun position position' => ?_
      split
      · exact follows_ok ((h.move ..).pushBehind false start start')
      · split
        · exact follows_ok ((h.move ..).pushBehind true start start')
        · exact follows_misspelt _ _ _
  | comment start start' =>
      refine follows_consume_map r r' s cut fun _ _ => ?_
      split
      · exact (h.move ..).ready
      · exact h.move ..
  | name start start' use chars => exact h.follows_feedName ..
  | flags start start' hon =>
      exact follows_consume_bind r r' s cut fun _ _ => (h.move ..).follows_afterFlags hR _ _ hon s
  | flagsOff start start' on off =>
      exact follows_consume_bind r r' s cut fun _ _ => (h.move ..).follows_afterFlagsOff hR ..

/-- **Reading a text keeps the second reading where the first one is.** -/
theorem follows_feedAll (hR : Immaterial R) (h : Tracks R c r r') (lone : Bool) (ss : List Symbol) :
    Follows R c (feedAll lone ss r) (feedAll false ss r') := by
  induction ss generalizing r r' with
  | nil => exact follows_ok h
  | cons s rest ih =>
      exact (h.follows_feed hR s _).bind (fun q => leads_feedAll lone rest q) fun q q' hq => ih hq

/-- Flags for the whole expression, wherever they are set in the text, are refused in the midst of
an expression. -/
theorem refused_of_globals (hR : Immaterial R) (h : Tracks R c r r') (hbelow : c.below ≠ [])
    {lone : Bool} {ss : List Symbol} (hq : feedAll lone ss r = .ok q) (hglobals : q.globals ≠ []) :
    ∃ e, feedAll false ss r' = .error e := by
  rcases (h.follows_feedAll hR lone ss).of_ok q hq with ⟨q', -, htracks⟩ | hcaptures | ⟨-, hrefused⟩
  · exact absurd htracks.globals hglobals
  · exact absurd hcaptures.globals hglobals
  · exact hrefused hbelow

/-- At the end of the text, what has begun ends in both readings. -/
theorem mirrors_settle (h : Tracks R c r r') : Mirrors (Tracks R c) r.settle r'.settle := by
  have hpending := h.pending
  unfold settle
  generalize r.pending = p at hpending ⊢
  generalize r'.pending = p' at hpending ⊢
  cases hpending with
  | ready => exact mirrors_ok h
  | quantified => exact mirrors_ok h
  | lineComment => exact mirrors_ok h
  | escape start start' n =>
      refine (n.mirrors_stop ..).map ?_
      rintro code _ rfl
      exact h.addCode code
  | reference start start' first =>
      obtain ⟨e, he⟩ := h.refer_refused start (referenceIndex [first])
      dsimp only
      rw [he]
      exact mirrors_error _ _
  | octalReference start start' first second =>
      obtain ⟨e, he⟩ := h.refer_refused start (referenceIndex [first, second])
      dsimp only
      rw [he]
      exact mirrors_error _ _
  | bounds start start' least most => exact mirrors_ok (h.literalBounds least most)
  | bracket hb => exact (hb.mirrors_settle ..).bind fun _ _ _ => mirrors_error _ _
  | name start start' use chars =>
      dsimp only
      split <;> exact mirrors_error _ _
  | _ => exact mirrors_error _ _

/-! ## The end of the text -/

/-- Once all groups of the text are closed, it is not inside a lookbehind. -/
theorem behindFrom_eq_none (h : Tracks R c r r') (hbelow : r.below = []) :
    r.table.behindFrom = none := by
  by_contra hfrom
  obtain ⟨g, hg, negated, hnegated⟩ := h.behind hfrom
  have hnested := h.nested
  rw [hbelow] at hg hnested
  obtain ⟨-, -, hwhole, -⟩ := hnested.outermost
  rw [List.mem_singleton.1 hg, hwhole] at hnegated
  cases hnegated

/-- A comment that goes on to the end of the text would have begun in verbose modes. -/
theorem pending_ne_lineComment (h : Tracks R c r r') (hsettle : r.settle = .ok q)
    (hbelow : q.below = []) (hverbose : c.modes.verbose = false) : r'.pending ≠ .lineComment := by
  intro hpending'
  have hpending := h.pending
  rw [hpending'] at hpending
  generalize hlast : r.pending = last at hpending
  cases hpending with
  | lineComment =>
      have hcomment := h.comment hlast
      have hnested := h.nested
      unfold settle at hsettle
      rw [hlast] at hsettle
      obtain rfl := Except.ok.inj hsettle
      rw [hbelow] at hnested
      obtain ⟨-, -, -, hmodes, -⟩ := hnested.outermost
      rw [hmodes, hverbose] at hcomment
      cases hcomment

end Tracks

end Reader

end PathRouter.Regex
