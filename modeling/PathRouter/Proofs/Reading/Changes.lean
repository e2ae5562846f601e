import PathRouter.Regex.Reader
import PathRouter.Outcome
import Mathlib.Tactic

set_option autoImplicit false

/-! # What reading a symbol can do

Whatever symbol is read in whatever state, the state changes in a few ways only (`Change`): an
element is added to the innermost group, a group is opened or closed, a branch is ended, the last
item is repeated, and so on. Reading any number of symbols is a chain of such changes
(`leads_feedAll`), so that what each of them keeps is kept by reading.
-/

namespace PathRouter.Regex

namespace Reader

/-- A change of the state of reading. -/
inductive Change : Reader → Reader → Prop where
  /-- Moving on in the text. -/
  | place (r : Reader) (position : Nat) : Change r { r with position }
  /-- Beginning a lexeme, going on with one or ending it. -/
  | await (r : Reader) (p : Pending) : Change r (r.await p)
  /-- Adding an element of one symbol. -/
  | add (r : Reader) {x : Regex} (h : x.isSimple = true) : Change r (r.add (.one x))
  /-- Opening a group that does not capture. -/
  | push (r : Reader) {kind : GroupKind} (start : Nat) (modes : Modes)
      (h : ∀ index, kind ≠ .capture index) : Change r (r.push kind start modes)
  /-- Opening a capturing group. -/
  | capture (r : Reader) (start : Nat) {table : GroupTable}
      (hnext : table.next = r.table.next + 1) (hawaited : table.awaited = r.table.awaited) :
      Change r ({ r with table }.push (.capture r.table.next) start r.top.modes)
  /-- Opening a lookbehind. -/
  | behind (r : Reader) (negated : Bool) (start : Nat) : Change r (r.behind negated start)
  /-- Closing the innermost group. -/
  | close (r : Reader) {outer : Frame} {further : List Frame} (h : r.below = outer :: further) :
      Change r (r.close outer further)
  /-- Ending a branch. A condition has two at most. -/
  | bar (r : Reader) (h : ∀ index, r.top.kind = .condition index → r.top.branches = []) :
      Change r { r with top := r.top.bar }
  /-- Repeating the last item. -/
  | quantify (r : Reader) (least : Nat) (most : Option Nat) {item : Item} {rest : List Item}
      (h : r.top.items = item :: rest) :
      Change r { r with
        top := { r.top with items := .one (.rep .greedy least most item.body) :: rest }
        pending := .quantified }
  /-- Changing the greed of a repetition. -/
  | setGreed (r : Reader) (greed : Greed) : Change r (r.setGreed greed)
  /-- Noting that a condition depends on a group. -/
  | awaitGroup (r : Reader) (index position : Nat) :
      Change r { r with table := r.table.await index position }
  /-- Setting flags for the whole expression. -/
  | setGlobals (r : Reader) (on : List Char) (h : r.atStart = true) :
      Change r { r with
        top := { r.top with modes := withFlags r.top.modes on [] }
        globals := on ++ r.globals
        pending := .ready }

/-- A chain of changes. -/
abbrev Changes : Reader → Reader → Prop := Relation.ReflTransGen Change

/-- A step that, if it succeeds, leads from `r` to another state by a chain of changes. -/
def Leads (r : Reader) (x : Except Error Reader) : Prop := ∀ q, x = .ok q → r.Changes q

variable {r q : Reader}

theorem Change.changes (h : r.Change q) : r.Changes q := .single h

theorem Changes.leads (h : r.Changes q) : r.Leads (.ok q) := by
  intro q' hq'
  obtain rfl := Except.ok.inj hq'
  exact h

theorem Change.leads (h : r.Change q) : r.Leads (.ok q) := h.changes.leads

theorem leads_misspelt (problem : Problem) (position : Nat) :
    r.Leads (misspelt problem position) :=
  fun _ h => nomatch h

theorem leads_error (e : Error) : r.Leads (.error e) := fun _ h => nomatch h

/-- A step after another one. -/
theorem Leads.bind {x : Except Error Reader} {g : Reader → Except Error Reader} (h : r.Leads x)
    (hg : ∀ q : Reader, q.Leads (g q)) : r.Leads (x >>= g) := by
  intro s hs
  obtain ⟨q, hq, hs⟩ := Outcome.bind_eq_ok.1 hs
  exact (h q hq).trans (hg q s hs)

/-- A step after something that does not touch the state. -/
theorem leads_bind {β : Type} (x : Except Error β) {g : β → Except Error Reader}
    (hg : ∀ b, r.Leads (g b)) : r.Leads (x >>= g) := by
  intro s hs
  obtain ⟨b, -, hs⟩ := Outcome.bind_eq_ok.1 hs
  exact hg b s hs

theorem Leads.map {x : Except Error Reader} {g : Reader → Reader} (h : r.Leads x)
    (hg : ∀ q : Reader, q.Changes (g q)) : r.Leads (x.map g) := by
  intro s hs
  obtain ⟨q, hq, rfl⟩ := Outcome.map_eq_ok.1 hs
  exact (h q hq).trans (hg q)

/-- A step after a chain of changes. -/
theorem Leads.after {x : Except Error Reader} (hx : q.Leads x) (h : r.Changes q) : r.Leads x :=
  fun s hs => h.trans (hx s hs)

/-! ## Single steps -/

/-- An element of one symbol ends the lexeme that it is spelt by. -/
theorem changes_add_await (r : Reader) {x : Regex} (h : x.isSimple = true) (p : Pending) :
    r.Changes ((r.add (.one x)).await p) :=
  (Change.add r h).changes.tail (.await _ p)

theorem consume_eq_ok {s : Symbol} {cut : Bool} :
    r.consume s cut = .ok q ↔ cut = false ∧ q = { r with position := r.position + s.width } := by
  unfold consume
  cases cut <;> simp [misspelt, eq_comm]

theorem leads_consume (r : Reader) (s : Symbol) (cut : Bool) : r.Leads (r.consume s cut) := by
  intro q hq
  obtain ⟨-, rfl⟩ := consume_eq_ok.1 hq
  exact (Change.place r _).changes

/-- Opening a capturing group counts it. -/
theorem exists_of_capture {start position : Nat} {name? : Option (List Char)}
    (h : r.capture start name? position = .ok q) :
    ∃ table : GroupTable, table.next = r.table.next + 1 ∧ table.awaited = r.table.awaited ∧
      q = { r with table }.push (.capture r.table.next) start r.top.modes := by
  obtain ⟨table, htable, rfl⟩ := Outcome.map_eq_ok.1 h
  refine ⟨table, ?_⟩
  unfold GroupTable.openGroup at htable
  split at htable
  · obtain rfl := Except.ok.inj htable
    exact ⟨rfl, rfl, rfl⟩
  · split at htable
    · cases htable
    · obtain rfl := Except.ok.inj htable
      exact ⟨rfl, rfl, rfl⟩

theorem leads_capture (r : Reader) (start : Nat) (name? : Option (List Char)) (position : Nat) :
    r.Leads (r.capture start name? position) := by
  intro q hq
  obtain ⟨table, hnext, hawaited, rfl⟩ := exists_of_capture hq
  exact (Change.capture r start hnext hawaited).changes

theorem leads_quantify (r : Reader) (start least : Nat) (most : Option Nat) :
    r.Leads (r.quantify start least most) := by
  unfold quantify
  split
  · exact leads_misspelt _ _
  · next item rest hitems =>
    split
    · exact leads_misspelt _ _
    · exact (Change.quantify r least most hitems).leads

theorem leads_quantifyBounds (r : Reader) (start : Nat) (least : List Char)
    (most : Option (List Char)) : r.Leads (r.quantifyBounds start least most) := by
  unfold quantifyBounds
  refine leads_bind _ fun low => ?_
  dsimp only
  split
  · exact leads_quantify r _ _ _
  · refine leads_bind _ fun high => ?_
    split
    · exact leads_misspelt _ _
    · exact leads_quantify r _ _ _

theorem changes_literalBounds (r : Reader) (least : List Char) (most : Option (List Char)) :
    r.Changes (r.literalBounds least most) := by
  have hfold : ∀ (cs : List Char) (r : Reader),
      r.Changes (cs.foldl (fun r c => r.addCode c.toNat) r) := by
    intro cs
    induction cs with
    | nil => exact fun r => .refl
    | cons c rest ih => exact fun r => (Change.add r rfl).changes.trans (ih _)
  exact (Change.await r _).changes.trans (hfold _ _)

theorem leads_refer (r : Reader) (start index : Nat) : r.Leads (r.refer start index) := by
  unfold refer
  split
  · split
    · exact leads_misspelt _ _
    · exact leads_bind _ fun _ => (changes_add_await r rfl _).leads
  · exact leads_misspelt _ _

theorem leads_referName (r : Reader) (name : List Char) : r.Leads (r.referName name) := by
  unfold referName
  dsimp only
  split
  · exact leads_misspelt _ _
  · split
    · exact leads_misspelt _ _
    · split
      · exact leads_misspelt _ _
      · exact leads_bind _ fun _ => (changes_add_await r rfl _).leads

theorem leads_condition (r : Reader) (start : Nat) (name : List Char) :
    r.Leads (r.condition start name) := by
  unfold condition
  dsimp only
  split
  · split
    · exact leads_misspelt _ _
    · exact leads_bind _ fun _ => Change.leads (.push r _ _ nofun)
  · split
    · exact leads_misspelt _ _
    · split
      · exact leads_misspelt _ _
      · split
        · exact leads_misspelt _ _
        · split
          · exact leads_misspelt _ _
          · split
            · exact leads_error _
            · -- a group that is still to come
              refine leads_bind _ fun _ => Changes.leads ?_
              exact (Change.awaitGroup r _ _).changes.tail (.push _ _ _ nofun)

theorem leads_named (r : Reader) (start : Nat) (use : NameUse) (name : List Char) :
    r.Leads (r.named start use name) := by
  cases use with
  | define =>
      unfold named
      dsimp only
      split
      · exact leads_misspelt _ _
      · exact leads_capture r _ _ _
  | refer => exact leads_referName r name
  | condition => exact leads_condition r start name

/-! ## Flags -/

theorem leads_flagOn (r : Reader) (start : Nat) (on : List Char) (c : Char) :
    r.Leads (r.flagOn start on c) := by
  unfold flagOn
  split
  · exact leads_misspelt _ _
  · split
    · exact leads_misspelt _ _
    · exact (Change.await r _).leads

theorem leads_flagOff (r : Reader) (start : Nat) (on off : List Char) (c : Char) :
    r.Leads (r.flagOff start on off c) := by
  unfold flagOff
  split
  · exact leads_misspelt _ _
  · exact (Change.await r _).leads

theorem leads_setGlobals (r : Reader) (start : Nat) (on : List Char) :
    r.Leads (r.setGlobals start on) := by
  unfold setGlobals
  split
  · next hstart => exact (Change.setGlobals r on hstart).leads
  · exact leads_misspelt _ _

theorem leads_afterFlags (r : Reader) (start : Nat) (on : List Char) (s : Symbol) :
    r.Leads (r.afterFlags start on s) := by
  unfold afterFlags
  split
  · exact leads_setGlobals r _ _
  · split
    · split
      · exact leads_misspelt _ _
      · split
        · exact (Change.await r _).leads
        · exact Change.leads (.push r _ _ nofun)
    · split
      · exact leads_flagOn r _ _ _
      · exact leads_misspelt _ _

theorem leads_afterFlagsOff (r : Reader) (start : Nat) (on off : List Char) (s : Symbol) :
    r.Leads (r.afterFlagsOff start on off s) := by
  unfold afterFlagsOff
  split
  · split
    · exact leads_misspelt _ _
    · split
      · exact leads_misspelt _ _
      · exact Change.leads (.push r _ _ nofun)
  · split
    · exact leads_flagOff r _ _ _ _
    · exact leads_misspelt _ _

/-! ## One symbol -/

theorem leads_afterMark (r : Reader) (start : Nat) (s : Symbol) :
    r.Leads (r.afterMark start s) := by
  unfold afterMark
  dsimp only
  split
  · exact leads_misspelt _ _
  · split
    -- the extensions with a symbol of their own, and then flags
    iterate 9 first | exact Change.leads (.push r _ _ nofun) | exact Change.leads (.await r _)
    split
    · exact leads_flagOn r _ _ _
    · exact leads_misspelt _ _

theorem leads_escaped (r : Reader) (c : Char) : r.Leads (r.escaped c) := by
  unfold escaped
  dsimp only
  split
  iterate 3 exact (Change.add r rfl).leads
  iterate 2 exact (Change.await r _).leads
  exact leads_misspelt _ _

theorem leads_unescaped (r : Reader) (c : Char) : r.Leads (r.unescaped c) := by
  unfold unescaped
  dsimp only
  split
  iterate 3 exact (Change.await r _).leads
  -- `*`, `+` and `?`
  iterate 3 exact leads_quantify r _ _ _
  iterate 3 exact (Change.add r rfl).leads
  split
  · exact Changes.leads .refl
  · split
    · exact (Change.await r _).leads
    · exact (Change.add r rfl).leads

theorem leads_feedReady (r : Reader) (s : Symbol) (cut : Bool) : r.Leads (r.feedReady s cut) := by
  refine Leads.after ?_ (Change.await r .ready).changes
  unfold feedReady
  dsimp only
  split
  · split
    · exact leads_misspelt _ _
    · next hbranches =>
      intro p hp
      obtain ⟨q, hq, rfl⟩ := Outcome.map_eq_ok.1 hp
      obtain ⟨-, rfl⟩ := consume_eq_ok.1 hq
      refine (Change.place _ _).changes.tail (.bar _ fun index hkind => ?_)
      by_contra hne
      obtain ⟨first, rest, hcons⟩ := List.exists_cons_of_ne_nil hne
      exact hbranches index first rest hkind hcons
  · split
    · split
      · exact leads_bind _ fun _ => leads_misspelt _ _
      · next outer further hbelow =>
        intro p hp
        obtain ⟨q, hq, rfl⟩ := Outcome.map_eq_ok.1 hp
        obtain ⟨-, rfl⟩ := consume_eq_ok.1 hq
        exact (Change.place _ _).changes.tail (.close _ hbelow)
    · refine (leads_consume _ s cut).bind fun q => ?_
      split
      · exact leads_escaped q _
      · exact leads_unescaped q _

theorem leads_feedBracket (r : Reader) (b : Bracket) (s : Symbol) (cut : Bool) :
    r.Leads (r.feedBracket b s cut) := by
  unfold feedBracket
  refine leads_bind _ fun b => (leads_consume r s cut).bind fun q => leads_bind _ fun step => ?_
  split
  · exact (Change.await q _).leads
  · exact (changes_add_await q rfl _).leads

theorem leads_feedName (r : Reader) (start : Nat) (use : NameUse) (chars : List Char) (s : Symbol)
    (cut : Bool) : r.Leads (r.feedName start use chars s cut) := by
  unfold feedName
  refine (leads_consume r s cut).bind fun q => ?_
  split
  · split
    · exact leads_misspelt _ _
    · exact leads_named q _ _ _
  · exact (Change.await q _).leads

/-- **Reading a symbol is a chain of changes.** -/
theorem leads_feed (r : Reader) (s : Symbol) (cut : Bool) : r.Leads (r.feed s cut) := by
  unfold feed
  cases hpending : r.pending with
  | ready => exact leads_feedReady r s cut
  | quantified =>
      dsimp only
      split
      · exact (leads_consume r s cut).map fun q => (Change.setGreed q _).changes
      · split
        · exact (leads_consume r s cut).map fun q => (Change.setGreed q _).changes
        · exact leads_feedReady r s cut
  | lineComment =>
      refine (leads_consume r s cut).map fun q => ?_
      split
      · exact (Change.await q _).changes
      · exact .refl
  | escape start n =>
      dsimp only
      split
      · refine (leads_consume r s cut).bind fun q => leads_bind _ fun step => ?_
        split
        · exact (Change.await q _).leads
        · exact (changes_add_await q rfl _).leads
      · refine leads_bind _ fun code => ?_
        exact (leads_feedReady _ s cut).after (Change.add r rfl).changes
  | reference start first =>
      dsimp only
      split
      · refine (leads_consume r s cut).bind fun q => ?_
        split
        · exact (Change.await q _).leads
        · exact leads_refer q _ _
      · exact (leads_refer r _ _).bind fun q => leads_feedReady q s cut
  | octalReference start first second =>
      dsimp only
      split
      · refine (leads_consume r s cut).bind fun q => leads_bind _ fun code => ?_
        exact (changes_add_await q rfl _).leads
      · exact (leads_refer r _ _).bind fun q => leads_feedReady q s cut
  | bounds start least most =>
      dsimp only
      split
      · refine (leads_consume r s cut).map fun q => ?_
        split <;> exact (Change.await q _).changes
      · split
        · exact (leads_consume r s cut).map fun q => (Change.await q _).changes
        · split
          · exact (leads_consume r s cut).bind fun q => leads_quantifyBounds q _ _ _
          · exact (leads_feedReady _ s cut).after (changes_literalBounds r _ _)
  | bracket b => exact leads_feedBracket r b s cut
  | opening start =>
      dsimp only
      split
      · exact (leads_consume r s cut).map fun q => (Change.await q _).changes
      · exact (leads_capture r _ _ _).bind fun q => leads_feedReady q s cut
  | extension start => exact (leads_consume r s cut).bind fun q => leads_afterMark q _ _
  | namedExtension start =>
      refine (leads_consume r s cut).bind fun q => ?_
      split
      · exact (Change.await q _).leads
      · split
        · exact (Change.await q _).leads
        · exact leads_misspelt _ _
  | behindExtension start =>
      refine (leads_consume r s cut).bind fun q => ?_
      split
      · exact (Change.behind q _ _).leads
      · split
        · exact (Change.behind q _ _).leads
        · exact leads_misspelt _ _
  | comment start =>
      refine (leads_consume r s cut).map fun q => ?_
      split
      · exact (Change.await q _).changes
      · exact .refl
  | name start use chars => exact leads_feedName r _ _ _ s cut
  | flags start on => exact (leads_consume r s cut).bind fun q => leads_afterFlags q _ _ _
  | flagsOff start on off =>
      exact (leads_consume r s cut).bind fun q => leads_afterFlagsOff q _ _ _ _

/-- So is reading any number of symbols. -/
theorem leads_feedAll (lone : Bool) (ss : List Symbol) (r : Reader) :
    r.Leads (feedAll lone ss r) := by
  induction ss generalizing r with
  | nil => exact Changes.leads .refl
  | cons s rest ih => exact (leads_feed r s _).bind fun q => ih q

/-- So is ending the lexeme that has begun. -/
theorem leads_settle (r : Reader) : r.Leads r.settle := by
  unfold settle
  cases hpending : r.pending with
  | escape start n =>
      intro q hq
      obtain ⟨code, -, rfl⟩ := Outcome.map_eq_ok.1 hq
      exact (Change.add r rfl).changes
  | reference start first => exact leads_refer r _ _
  | octalReference start first second => exact leads_refer r _ _
  | bounds start least most => exact (changes_literalBounds r _ _).leads
  | bracket b => exact leads_bind _ fun _ => leads_misspelt _ _
  | name start use chars =>
      dsimp only
      split <;> exact leads_misspelt _ _
  | ready => exact Changes.leads .refl
  | quantified => exact Changes.leads .refl
  | lineComment => exact Changes.leads .refl
  | _ => exact leads_misspelt _ _

end Reader

end PathRouter.Regex
