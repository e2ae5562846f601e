import PathRouter.Proofs.Reading.Tracking

set_option autoImplicit false

/-! # A text in parentheses

A text that is an expression by itself, without capturing groups, can be read in parentheses after
any other text: it becomes one capturing group, and the body of the group is what the text is by
itself (`feedAll_group`). Only flags for the whole expression are refused there.

It can also be read again in other modes (`exists_read`), with the same result up to the modes.
-/

namespace PathRouter.Regex

open Outcome Reader

variable {R : Modes → Modes → Prop} {m m' : Modes} {strict strict' : Bool}

/-! ## Symbols -/

theorem symbols_plain {x : Char} (h : x ≠ '\x5c') (cs : List Char) :
    symbols (x :: cs) = (.plain x :: (symbols cs).1, (symbols cs).2) := by
  rw [symbols]
  · exact fun hx => absurd hx h
  · exact fun _ _ hx => absurd hx h

/-- The symbols of a text after one that does not end in a lone backslash. -/
theorem symbols_append {cs : List Char} (h : (symbols cs).2 = false) (rest : List Char) :
    symbols (cs ++ rest) = ((symbols cs).1 ++ (symbols rest).1, (symbols rest).2) := by
  fun_induction symbols cs with
  | case1 => rfl
  | case2 => cases h
  | case3 c cs ss lone hss ih =>
      rw [hss] at ih
      simp only [List.cons_append, symbols, ih h]
  | case4 c cs hlone hescape ss lone hss ih =>
      rw [hss] at ih
      have hc : c ≠ '\x5c' := by
        rintro rfl
        cases cs with
        | nil => exact hlone rfl rfl
        | cons d cs => exact hescape d cs rfl rfl
      rw [List.cons_append, symbols_plain hc, ih h]
      rfl

/-! ## What a reading comes to -/

theorem GroupTable.checkAwaited_eq_ok {t : GroupTable} :
    t.checkAwaited = .ok () ↔ ∀ a ∈ t.awaited, a.1 < t.next := by
  unfold GroupTable.checkAwaited
  cases hfind : t.awaited.reverse.find? (t.next ≤ ·.1) with
  | none =>
      rw [List.find?_eq_none] at hfind
      refine ⟨fun _ a ha => ?_, fun _ => rfl⟩
      simpa using hfind a (List.mem_reverse.2 ha)
  | some a =>
      have hle : t.next ≤ a.1 := by simpa using List.find?_some hfind
      have ha := List.mem_reverse.1 (List.mem_of_find?_eq_some hfind)
      constructor
      · intro h
        cases h
      · intro h
        exact absurd (h a ha) (Nat.not_lt.2 hle)

namespace Reader

variable {p q : Reader}

/-- A reading ends well if the lexeme that has begun can end, all groups are closed, and flags and
conditions are in order. -/
theorem finish_eq_ok : p.finish = .ok q ↔
    p.settle = .ok q ∧ q.below = [] ∧ q.checkGlobals = .ok () ∧ q.table.checkAwaited = .ok () := by
  unfold finish
  rw [bind_eq_ok]
  constructor
  · rintro ⟨r, hr, h⟩
    cases hbelow : r.below with
    | cons outer further =>
        rw [hbelow] at h
        cases h
    | nil =>
        rw [hbelow] at h
        obtain ⟨⟨⟩, hglobals, h⟩ := bind_eq_ok.1 h
        obtain ⟨⟨⟩, hawaited, h⟩ := bind_eq_ok.1 h
        obtain rfl := Except.ok.inj h
        exact ⟨hr, hbelow, hglobals, hawaited⟩
  · rintro ⟨hr, hbelow, hglobals, hawaited⟩
    refine ⟨q, hr, ?_⟩
    rw [hbelow]
    exact bind_eq_ok.2 ⟨(), hglobals, bind_eq_ok.2 ⟨(), hawaited, rfl⟩⟩

/-- A reading without capturing groups has met none on the way. -/
theorem not_captures_of_finish (h : p.finish = .ok q) (hnext : q.table.next ≤ 1) :
    ¬ p.Captures := by
  obtain ⟨hsettle, -, -, hawaited⟩ := finish_eq_ok.1 h
  intro hcaptures
  rcases (hcaptures.of_grows (leads_settle p q hsettle).grows).met with hlt | ⟨a, ha, hindex⟩
  · omega
  · have := GroupTable.checkAwaited_eq_ok.1 hawaited a ha
    omega

end Reader

theorem read_eq_ok {cs : List Char} {q : Reader} : read strict m cs = .ok q ↔
    (symbols cs).2 = false ∧
      ∃ p, feedAll false (symbols cs).1 (start strict m) = .ok p ∧ p.finish = .ok q := by
  unfold read
  rcases hsymbols : symbols cs with ⟨ss, lone⟩
  cases lone with
  | false =>
      cases ss with
      | nil => simp [bind_eq_ok]
      | cons s rest => simp [bind_eq_ok]
  | true =>
      cases ss with
      | nil => simp [misspelt]
      | cons s rest =>
          obtain ⟨e, he⟩ := feedAll_lone (List.cons_ne_nil s rest) (start strict m)
          simp [he, bind, Except.bind]

/-- An expression compiles if it can be read, and no lookbehind in it has a width that is not fixed
or is too great. -/
theorem compile_eq_ok {cs : List Char} {program : Program} : compile strict m cs = .ok program ↔
    ∃ q, read strict m cs = .ok q ∧ check (q.globals.contains 't') q.top.body = .ok () ∧
      program = ⟨q.top.body, q.table.next - 1⟩ := by
  unfold compile
  rw [bind_eq_ok]
  refine exists_congr fun q => and_congr_right fun _ => ?_
  rw [bind_eq_ok]
  constructor
  · rintro ⟨⟨⟩, hcheck, h⟩
    exact ⟨hcheck, (Except.ok.inj h).symm⟩
  · rintro ⟨hcheck, rfl⟩
    exact ⟨(), hcheck, rfl⟩

/-! ## Opening and closing a group -/

namespace Reader

variable {p q r s : Reader}

/-- The state inside a capturing group that is opened where the state `r` is. -/
def inGroup (r : Reader) : Reader :=
  push { r with
      position := r.position + 1
      table := { r.table with next := r.table.next + 1 } }
    (.capture r.table.next) r.position r.top.modes

/-- The state `s` is where `r` was before a capturing group with the body `b` was read. -/
structure AfterGroup (r : Reader) (b : Regex) (s : Reader) : Prop where
  top : s.top = r.top.add (.one (.group r.table.next b))
  below : s.below = r.below
  table : s.table =
    { r.table with
      next := r.table.next + 1
      closed := (r.table.next, b.width) :: r.table.closed }
  globals : s.globals = r.globals
  pending : s.pending = .ready

/-- A parenthesis opens a capturing group unless a question mark follows. -/
theorem feedAll_open (hready : r.pending = .ready) {x : Symbol} (hx : x.is '?' = false)
    (rest : List Symbol) :
    feedAll false (.plain '(' :: x :: rest) r = feedAll false (x :: rest) r.inGroup := by
  have hopen : r.feed (.plain '(') false =
      .ok { r with position := r.position + 1, pending := .opening r.position } := by
    unfold feed
    rw [hready]
    rfl
  have hinside : ({ r with position := r.position + 1, pending := .opening r.position } :
      Reader).feed x false = r.inGroup.feed x false := by
    unfold feed
    dsimp only
    rw [hx]
    rfl
  rw [feedAll, Bool.false_and, hopen]
  show feedAll false (x :: rest) _ = _
  rw [feedAll, feedAll, Bool.false_and, hinside]

theorem feedReady_close {outer : Frame} {further : List Frame}
    (hbelow : q.below = outer :: further) :
    q.feedReady (.plain ')') false =
      .ok (({ q with position := q.position + 1 } : Reader).close outer further) := by
  obtain ⟨strict, position, top, below, table, globals, pending⟩ := q
  obtain rfl : below = outer :: further := hbelow
  unfold feedReady
  dsimp only
  rw [if_neg (by decide), if_pos (by decide)]
  rfl

/-- A parenthesis that closes a group first ends the lexeme that has begun, as the end of the
expression does. -/
theorem feed_close (hsettle : p.settle = .ok q) (hcomment : p.pending ≠ .lineComment)
    {outer : Frame} {further : List Frame} (hbelow : q.below = outer :: further) :
    p.feed (.plain ')') false =
      .ok (({ q with position := q.position + 1 } : Reader).close outer further) := by
  rw [← feedReady_close hbelow]
  unfold settle at hsettle
  unfold feed
  cases hpending : p.pending with
  | ready =>
      rw [hpending] at hsettle
      obtain rfl := Except.ok.inj hsettle
      rfl
  | quantified =>
      rw [hpending] at hsettle
      obtain rfl := Except.ok.inj hsettle
      rfl
  | escape start n =>
      rw [hpending] at hsettle
      obtain ⟨code, hstop, rfl⟩ := map_eq_ok.1 hsettle
      dsimp only
      cases n with
      | octal digits =>
          -- octal digits alone may end anywhere
          have htakes : (Numeric.octal digits).takes (.plain ')') = false := rfl
          rw [htakes, hstop]
          rfl
      | named name => cases name <;> cases hstop
      | _ => cases hstop
  | reference start first =>
      rw [hpending] at hsettle
      dsimp only at hsettle ⊢
      rw [if_neg (by decide), hsettle]
      rfl
  | octalReference start first second =>
      rw [hpending] at hsettle
      dsimp only at hsettle ⊢
      rw [if_neg (by decide), hsettle]
      rfl
  | bounds start least most =>
      rw [hpending] at hsettle
      obtain rfl := Except.ok.inj hsettle
      dsimp only
      rw [if_neg (by decide), if_neg, if_neg]
      · simp [Symbol.is, Symbol.plain]
      · simp [Symbol.is, Symbol.plain]
  | lineComment => exact absurd hpending hcomment
  | bracket b =>
      rw [hpending] at hsettle
      obtain ⟨-, -, hsettle⟩ := bind_eq_ok.1 hsettle
      cases hsettle
  | name start use chars =>
      rw [hpending] at hsettle
      dsimp only at hsettle
      split at hsettle <;> cases hsettle
  | _ =>
      rw [hpending] at hsettle
      cases hsettle

/-- Closing the group that was opened where `r` was. -/
theorem afterGroup_close (hkind : q.top.kind = .capture r.table.next)
    (htable : q.table = { r.table with next := r.table.next + 1 })
    (hglobals : q.globals = r.globals) : r.AfterGroup q.top.body (q.close r.top r.below) := by
  refine ⟨?_, rfl, ?_, hglobals, rfl⟩
  · show r.top.add q.top.close = _
    unfold Frame.close
    rw [hkind]
  · unfold close
    dsimp only
    rw [hkind, htable]
    rfl

end Reader

/-! ## The text as a group -/

/-- No expression begins with a question mark: there is nothing to repeat. -/
theorem head_ne_question {q : Reader} {lone : Bool} {x : Symbol} {rest : List Symbol}
    (h : feedAll lone (x :: rest) (start strict m) = .ok q) : x.is '?' = false := by
  rw [feedAll] at h
  obtain ⟨p, hp, -⟩ := bind_eq_ok.1 h
  by_contra hquestion
  obtain ⟨escaped, char⟩ := x
  have hquestion : escaped = false ∧ char = '?' := by simpa [Symbol.is] using hquestion
  obtain ⟨rfl, rfl⟩ := hquestion
  have hrefused : ∃ e, (start strict m).feed ⟨false, '?'⟩ (lone && rest.isEmpty) = .error e := by
    cases lone && rest.isEmpty <;> exact ⟨_, rfl⟩
  obtain ⟨e, he⟩ := hrefused
  rw [he] at hp
  cases hp

theorem symbols_group {cs : List Char} (h : (symbols cs).2 = false) (rest : List Char) :
    symbols ('(' :: cs ++ ')' :: rest) =
      (.plain '(' :: (symbols cs).1 ++ .plain ')' :: (symbols rest).1, (symbols rest).2) := by
  rw [List.cons_append, symbols_plain (by decide), symbols_append h, symbols_plain (by decide)]
  rfl

/-- The inside of a capturing group that is opened where the state `r` is. -/
def Context.inGroup (m : Modes) (r : Reader) : Context where
  modes := m
  below := r.top :: r.below
  kind := .capture r.table.next
  table := { r.table with next := r.table.next + 1 }
  noCondition := nofun

/-- A reading of a text by itself begins where one in a capturing group does. -/
theorem tracks_inGroup {r : Reader} (hglobals : r.globals = [])
    (hbehind : r.table.behindFrom = none) (hmodes : R m r.top.modes) :
    Tracks R (.inGroup m r) (start strict m) r.inGroup := by
  refine ⟨.base ⟨hmodes, .nil, .nil, ⟨nofun, nofun⟩, ⟨nofun, nofun⟩⟩ rfl rfl rfl,
    ⟨rfl, rfl, rfl, rfl⟩, fun hfrom => absurd rfl hfrom, ?_, rfl, hglobals, .ready, nofun⟩
  show { r.table with next := r.table.next + 1 } =
    { { r.table with next := r.table.next + 1 } with behindFrom := none }
  rw [← hbehind]

/-- **A text in parentheses is a capturing group around what the text is by itself**, whatever has
been read before it. Only flags for the whole expression, if it sets any, are refused there. -/
theorem feedAll_group (hR : Immaterial R) (hverbose : m.verbose = false) {cs : List Char}
    {q r : Reader} (hq : read strict m cs = .ok q) (hnext : q.table.next ≤ 1)
    (hready : r.pending = .ready)
    (hglobals : r.globals = []) (hbehind : r.table.behindFrom = none)
    (hmodes : R m r.top.modes) :
    (∃ b s, feedAll false (.plain '(' :: (symbols cs).1 ++ [.plain ')']) r = .ok s ∧
        r.AfterGroup b s ∧ q.top.body.Alike R b ∧ q.globals = []) ∨
      q.globals ≠ [] ∧
        ∃ e, feedAll false (.plain '(' :: (symbols cs).1 ++ [.plain ')']) r = .error e := by
  obtain ⟨-, p, hp, hfinish⟩ := read_eq_ok.1 hq
  obtain ⟨hsettle, hbelow, -, -⟩ := finish_eq_ok.1 hfinish
  -- the parentheses are read by themselves, what is between them along with the first reading
  have hopen : feedAll false (.plain '(' :: (symbols cs).1 ++ [.plain ')']) r =
      (feedAll false (symbols cs).1 r.inGroup).bind (feedAll false [.plain ')']) := by
    rw [← feedAll_append]
    cases hss : (symbols cs).1 with
    | nil => exact feedAll_open hready (by decide) []
    | cons x rest => exact feedAll_open hready (head_ne_question (hss ▸ hp)) (rest ++ [.plain ')'])
  have hstart : Tracks R (.inGroup m r) (start strict m) r.inGroup :=
    tracks_inGroup hglobals hbehind hmodes
  rw [hopen]
  rcases (hstart.follows_feedAll hR false _).of_ok p hp with
    ⟨p', hp', htracks⟩ | hcaptures | ⟨hset, hrefused⟩
  · obtain ⟨q', hsettle', hend⟩ := htracks.mirrors_settle.of_ok q hsettle
    have hnested := hend.nested
    rw [hbelow] at hnested
    obtain ⟨hbelow', halike, -, -, hkind⟩ := hnested.outermost
    have hcomment : p'.pending ≠ .lineComment :=
      htracks.pending_ne_lineComment hsettle hbelow hverbose
    have htable : q'.table = { r.table with next := r.table.next + 1 } := by
      rw [hend.table, hend.behindFrom_eq_none hbelow, Option.map_none, ← hbehind]
      rfl
    have hclose := feed_close hsettle' hcomment hbelow'
    refine .inl ⟨q'.top.body, _, ?_,
      afterGroup_close (q := { q' with position := q'.position + 1 }) hkind htable
        (hend.globals'.trans hglobals.symm), halike.body, hend.globals⟩
    rw [hp']
    show (p'.feed (.plain ')') false >>= fun s => .ok s) = _
    rw [hclose]
    rfl
  · exact absurd hcaptures (not_captures_of_finish hfinish hnext)
  · refine .inr ⟨(leads_settle p q hsettle).grows.globals hset, ?_⟩
    obtain ⟨e, he⟩ := hrefused (List.cons_ne_nil _ _)
    exact ⟨e, by rw [he]; rfl⟩

theorem GroupKind.whole_ne_condition (index : Nat) : GroupKind.whole ≠ .condition index := nofun

/-- A text by itself: no group around it is open, and no group is known. -/
def Context.bare (m : Modes) : Context where
  modes := m
  below := []
  kind := .whole
  table := {}
  noCondition := GroupKind.whole_ne_condition

/-- A text that sets no flags for the whole expression can be read again in other modes, and the
second reading ends where the first one does. -/
theorem exists_tracks (hR : Immaterial R) (strict' : Bool) {cs : List Char} {q : Reader}
    (hq : read strict m cs = .ok q) (hnext : q.table.next ≤ 1) (hglobals : q.globals = [])
    (hmodes : R m m') :
    ∃ q', read strict' m' cs = .ok q' ∧ q.below = [] ∧ Tracks R (.bare m) q q' := by
  obtain ⟨hlone, p, hp, hfinish⟩ := read_eq_ok.1 hq
  obtain ⟨hsettle, hbelow, -, -⟩ := finish_eq_ok.1 hfinish
  have hstart : Tracks R (.bare m) (start strict m) (start strict' m') :=
    ⟨.base ⟨hmodes, .nil, .nil, ⟨nofun, nofun⟩, ⟨nofun, nofun⟩⟩ rfl rfl rfl,
      ⟨rfl, rfl, rfl, rfl⟩, fun hfrom => absurd rfl hfrom, rfl, rfl, rfl, .ready, nofun⟩
  rcases (hstart.follows_feedAll hR false _).of_ok p hp with
    ⟨p', hp', htracks⟩ | hcaptures | ⟨hset, -⟩
  · obtain ⟨q', hsettle', hend⟩ := htracks.mirrors_settle.of_ok q hsettle
    have hnested := hend.nested
    rw [hbelow] at hnested
    obtain ⟨hbelow', -⟩ := hnested.outermost
    refine ⟨q', read_eq_ok.2 ⟨hlone, p', hp', finish_eq_ok.2 ⟨hsettle', hbelow', ?_, ?_⟩⟩,
      hbelow, hend⟩
    · unfold checkGlobals
      rw [hend.globals']
      rfl
    · rw [hend.table]
      rfl
  · exact absurd hcaptures (not_captures_of_finish hfinish hnext)
  · exact absurd hglobals ((leads_settle p q hsettle).grows.globals hset)

/-- **A text that sets no flags for the whole expression can be read again in other modes**, with
the same result up to the modes. -/
theorem exists_read (hR : Immaterial R) {cs : List Char} {q : Reader}
    (hq : read strict m cs = .ok q) (hnext : q.table.next ≤ 1) (hglobals : q.globals = [])
    (hmodes : R m m') :
    ∃ q', read strict' m' cs = .ok q' ∧ q.top.body.Alike R q'.top.body ∧
      q'.table.next = 1 ∧ q'.globals = [] := by
  obtain ⟨q', hq', -, hend⟩ := exists_tracks hR strict' hq hnext hglobals hmodes
  refine ⟨q', hq', hend.nested.top.body, ?_, hend.globals'⟩
  rw [hend.table]
  rfl

end PathRouter.Regex
