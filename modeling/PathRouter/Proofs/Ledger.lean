import PathRouter.Registry.Session
import Mathlib.Tactic

set_option autoImplicit false

/-! # Ledgers

A ledger tells in which transaction a route was registered and what became of every transaction. A
registry keeps none: it is written along the operations on it, from what they answer
(`Ledger.after`). A transaction is begun by the first of the routes that are registered one by one,
by a load, or by a block; it has a number of its own, and ends by an entry that it was published or
dropped.

Writing never takes anything back, and an operation leaves the entries of every transaction that is
open around it alone (`Ledger.grows_after`).
-/

namespace PathRouter

variable {α : Type}

/-- What has happened in a transaction. -/
inductive Entry (α : Type) where
  | registered (t : Nat) (r : Route α)
  /-- The transaction ended: a generation was made the live one. -/
  | published (t : Nat) (g : Generation α)
  /-- The transaction ended: its routes were lost. -/
  | dropped (t : Nat)

namespace Entry

/-- The transaction of an entry. -/
def transaction : Entry α → Nat
  | registered t _ | published t _ | dropped t => t

/-- The generation that was published. -/
def generation? : Entry α → Option (Generation α)
  | published _ g => some g
  | _ => none

end Entry

/-- The entries so far, the latest last. -/
structure Ledger (α : Type) where
  entries : List (Entry α) := []
  /-- The number of transactions that have begun. This is the number of the next one. -/
  begun : Nat := 0
  /-- The transaction of the routes that are registered one by one, while there is one. -/
  pending? : Option Nat := none

namespace Ledger

/-! ## Reading -/

/-- The entries of a transaction. -/
def entriesOf (L : Ledger α) (t : Nat) : List (Entry α) :=
  L.entries.filter (·.transaction == t)

/-- The generations that were published. -/
def publications (L : Ledger α) : List (Generation α) := L.entries.filterMap Entry.generation?

theorem mem_entriesOf {L : Ledger α} {e : Entry α} {t : Nat} :
    e ∈ L.entriesOf t ↔ e ∈ L.entries ∧ e.transaction = t := by
  simp [entriesOf]

theorem mem_publications {L : Ledger α} {g : Generation α} :
    g ∈ L.publications ↔ ∃ t, .published t g ∈ L.entries := by
  rw [publications, List.mem_filterMap]
  constructor
  · rintro ⟨e, he, hg⟩
    cases e with
    | published t g' =>
        obtain rfl := Option.some.inj hg
        exact ⟨t, he⟩
    | registered t r => cases hg
    | dropped t => cases hg
  · rintro ⟨t, ht⟩
    exact ⟨_, ht, rfl⟩

/-! ## Writing -/

/-- The ledger with one more entry. -/
def write (L : Ledger α) (e : Entry α) : Ledger α := { L with entries := L.entries ++ [e] }

/-- Begins a transaction, with number `L.begun`. -/
def start (L : Ledger α) : Ledger α := { L with begun := L.begun + 1 }

/-- The number of the transaction of the routes that are registered one by one, which may have to be
begun. -/
def current (L : Ledger α) : Nat := L.pending?.getD L.begun

/-- Takes the transaction of the routes that are registered one by one in hand, and begins it if
there is none: it is no longer pending, but can still be written to. -/
def take (L : Ledger α) : Ledger α :=
  match L.pending? with
  | some _ => { L with pending? := none }
  | none => L.start

/-- Lets a transaction be pending. -/
def keep (L : Ledger α) (t : Nat) : Ledger α := { L with pending? := some t }

/-- Writes down the registrations in a builder, one after the other, up to the first that fails. -/
def afterAll (L : Ledger α) (t : Nat) (b : Builder α) (cache : Cache) :
    List (Declaration α) → Ledger α
  | [] => L
  | d :: rest =>
    match b.register cache d with
    | (.error _, _) => L
    | (.ok (r, b), cache) => (L.write (.registered t r)).afterAll t b cache rest

/-- Writes down a load. -/
def afterLoad (L : Ledger α) (s : Session α) (drafts : List (Draft α)) : Ledger α :=
  match drafts.mapM Draft.declaration with
  | .error _ => L
  | .ok declarations =>
    let r := s.registry
    let L' := L.start.afterAll L.begun r.builder r.cache declarations
    match (r.load declarations).1 with
    | .ok g => L'.write (.published L.begun g)
    | .error _ => L'.write (.dropped L.begun)

/-- Writes down a registration in the builder of transaction `t`. -/
def afterRegisterIn (L : Ledger α) (s : Session α) (t : Nat) (b : Builder α) (d : Draft α) :
    Ledger α :=
  match (s.registerIn b d).1 with
  | .ok (r, _) => L.write (.registered t r)
  | .error _ => L

mutual

/-- Writes down an operation in a session. What takes place in a block is written down before its
end. -/
def after (L : Ledger α) (s : Session α) : RegistryOp α → Ledger α
  | .register d =>
    match d.declaration with
    | .error _ => L
    | .ok declaration =>
      match (s.registry.register declaration).1 with
      | .ok r => (L.take.write (.registered L.current r)).keep L.current
      | .error _ => L.take.write (.dropped L.current)
  | .commit => L.take.write (.published L.current s.registry.commit.1)
  | .rollback =>
    match s.registry.pending? with
    | some _ => L.take.write (.dropped L.current)
    | none => L
  | .load drafts => L.afterLoad s drafts
  | .ensureLoaded drafts =>
    match s.registry.generation? with
    | some _ => L
    | none => L.afterLoad s drafts
  | .loading steps =>
    let L' := L.start.afterSteps s L.begun s.registry.builder steps
    match s.performSteps s.registry.builder steps with
    | (_, none, b, s) => L'.write (.published L.begun (s.registry.publish b).1)
    | (_, some _, _, _) => L'.write (.dropped L.begun)
  | .clear | .ask _ | .describe | .keep _ | .askKept _ _ | .cache _ => L

/-- Writes down the steps of a block, up to the first failure that ends it. -/
def afterSteps (L : Ledger α) (s : Session α) (t : Nat) (b : Builder α) :
    List (BlockStep α) → Ledger α
  | [] => L
  | step :: rest =>
    match s.performStep b step with
    | (.error _, _, _) => L.afterStep s t b step
    | (.ok _, b', s') => (L.afterStep s t b step).afterSteps s' t b' rest

/-- Writes down a step of a block. -/
def afterStep (L : Ledger α) (s : Session α) (t : Nat) (b : Builder α) : BlockStep α → Ledger α
  | .register d | .attempt d => L.afterRegisterIn s t b d
  | .size | .raise _ => L
  | .op op => L.after s op

end

/-! ## Single entries -/

variable {L L' L'' : Ledger α}

theorem entriesOf_write_self (e : Entry α) :
    (L.write e).entriesOf e.transaction = L.entriesOf e.transaction ++ [e] := by
  simp [entriesOf, write]

theorem entriesOf_write_of_ne {e : Entry α} {t : Nat} (h : e.transaction ≠ t) :
    (L.write e).entriesOf t = L.entriesOf t := by
  simp [entriesOf, write, h]

theorem mem_entries_write {e e' : Entry α} :
    e' ∈ (L.write e).entries ↔ e' ∈ L.entries ∨ e' = e := by
  simp [write]

theorem publications_write (e : Entry α) :
    (L.write e).publications = L.publications ++ e.generation?.toList := by
  cases e <;> simp [publications, write, Entry.generation?]

@[simp] theorem pending?_take : L.take.pending? = none := by
  unfold take
  split
  · rfl
  · next h => exact h

@[simp] theorem entries_take : L.take.entries = L.entries := by
  unfold take
  split <;> rfl

@[simp] theorem entriesOf_take (t : Nat) : L.take.entriesOf t = L.entriesOf t := by
  rw [entriesOf, entries_take, entriesOf]

theorem begun_le_begun_take : L.begun ≤ L.take.begun := by
  unfold take
  split
  · exact le_rfl
  · exact Nat.le_succ _

/-! ## Growth -/

/-- A transaction stands apart if it has begun and is not that of the routes that are registered one
by one. So do the transactions of the blocks around an operation. -/
def Apart (L : Ledger α) (t : Nat) : Prop := t < L.begun ∧ L.pending? ≠ some t

/-- `L.Grows u L'`: the ledger `L'` is a later one than `L`, and of the transactions that stand
apart it has new entries for `u` only. -/
structure Grows (L : Ledger α) (u : Option Nat) (L' : Ledger α) : Prop where
  entries : L.entries <+: L'.entries
  apart : ∀ {t}, L.Apart t → L'.Apart t
  frame : ∀ {t}, L.Apart t → u ≠ some t → L'.entriesOf t = L.entriesOf t

namespace Grows

variable {u : Option Nat}

theorem refl : L.Grows u L := ⟨List.prefix_rfl, id, fun _ _ => rfl⟩

theorem trans (h : L.Grows u L') (h' : L'.Grows u L'') : L.Grows u L'' where
  entries := h.entries.trans h'.entries
  apart ht := h'.apart (h.apart ht)
  frame ht hu := (h'.frame (h.apart ht) hu).trans (h.frame ht hu)

/-- Fewer transactions may have new entries. -/
theorem mono {t : Nat} (h : L.Grows none L') : L.Grows (some t) L' :=
  ⟨h.entries, h.apart, fun ht _ => h.frame ht nofun⟩

/-- A transaction that did not stand apart before may have any entries. -/
theorem of_not_apart {t : Nat} (h : L.Grows (some t) L') (ht : ¬ L.Apart t) : L.Grows none L' := by
  refine ⟨h.entries, h.apart, fun {t'} ht' _ => h.frame ht' ?_⟩
  intro hsame
  obtain rfl := Option.some.inj hsame
  exact ht ht'

end Grows

theorem not_apart_begun : ¬ L.Apart L.begun := fun h => absurd h.1 (lt_irrefl _)

theorem not_apart_current : ¬ L.Apart L.current := by
  rintro ⟨hbegun, hpending⟩
  unfold current at *
  cases h : L.pending? with
  | some t => simp [h] at hpending
  | none => simp [h] at hbegun

theorem grows_write (e : Entry α) : L.Grows (some e.transaction) (L.write e) := by
  refine ⟨List.prefix_append _ _, id, fun {t} _ hne => entriesOf_write_of_ne fun h => hne ?_⟩
  rw [h]

theorem grows_start : L.Grows none L.start := by
  refine ⟨List.prefix_rfl, fun ht => ⟨Nat.lt_succ_of_lt ht.1, ht.2⟩, fun _ _ => rfl⟩

theorem grows_take : L.Grows none L.take := by
  refine ⟨by rw [entries_take], fun ht => ⟨?_, ?_⟩, fun {t} _ _ => entriesOf_take t⟩
  · exact ht.1.trans_le begun_le_begun_take
  · rw [pending?_take]
    nofun

/-- The transaction of the routes that are registered one by one is taken in hand to write to it. -/
theorem grows_take_write {e : Entry α} (h : e.transaction = L.current) :
    L.Grows none (L.take.write e) := by
  have hwrite : L.take.Grows (some L.current) (L.take.write e) := by
    rw [← h]
    exact grows_write e
  exact (grows_take.mono.trans hwrite).of_not_apart not_apart_current

theorem grows_afterAll (t : Nat) (b : Builder α) (cache : Cache) (ds : List (Declaration α)) :
    L.Grows (some t) (L.afterAll t b cache ds) := by
  induction ds generalizing L b cache with
  | nil => exact .refl
  | cons d rest ih =>
      unfold afterAll
      split
      · exact .refl
      · next r b' cache' _ => exact (grows_write (.registered t r)).trans (ih b' cache')

theorem grows_afterLoad (s : Session α) (drafts : List (Draft α)) :
    L.Grows none (L.afterLoad s drafts) := by
  unfold afterLoad
  split
  · exact .refl
  · next declarations _ =>
    have hall : L.Grows (some L.begun)
        (L.start.afterAll L.begun s.registry.builder s.registry.cache declarations) :=
      grows_start.mono.trans (grows_afterAll ..)
    dsimp only
    split
    · next g _ =>
      exact (hall.trans (grows_write (.published L.begun g))).of_not_apart not_apart_begun
    · exact (hall.trans (grows_write (.dropped L.begun))).of_not_apart not_apart_begun

theorem grows_afterRegisterIn (s : Session α) (t : Nat) (b : Builder α) (d : Draft α) :
    L.Grows (some t) (L.afterRegisterIn s t b d) := by
  unfold afterRegisterIn
  split
  · next r _ _ => exact grows_write (.registered t r)
  · exact .refl

mutual

/-- **An operation leaves the transactions that are open around it alone**, whatever takes place in
it. -/
theorem grows_after (L : Ledger α) (s : Session α) :
    ∀ op : RegistryOp α, L.Grows none (L.after s op)
  | .register d => by
      unfold after
      split
      · exact .refl
      · split
        · next r _ =>
          have h := grows_take_write (L := L) (e := .registered L.current r) rfl
          -- the transaction is pending again, and it did not stand apart before
          refine ⟨h.entries, fun {t} ht => ⟨(h.apart ht).1, ?_⟩, h.frame⟩
          intro hkept
          obtain rfl : L.current = t := Option.some.inj hkept
          exact not_apart_current ht
        · exact grows_take_write rfl
  | .commit => grows_take_write rfl
  | .rollback => by
      unfold after
      split
      · exact grows_take_write rfl
      · exact .refl
  | .load drafts => grows_afterLoad s drafts
  | .ensureLoaded drafts => by
      unfold after
      split
      · exact .refl
      · exact grows_afterLoad s drafts
  | .loading steps => by
      have hsteps := grows_start.mono.trans
        (grows_afterSteps L.start s L.begun s.registry.builder steps)
      unfold after
      dsimp only
      split
      · next b s' _ =>
        have hpublish := grows_write (L := L.start.afterSteps s L.begun s.registry.builder steps)
          (.published L.begun (s'.registry.publish b).1)
        exact (hsteps.trans hpublish).of_not_apart not_apart_begun
      · exact (hsteps.trans (grows_write (.dropped L.begun))).of_not_apart not_apart_begun
  | .clear | .ask _ | .describe | .keep _ | .askKept _ _ | .cache _ => .refl

/-- So do the steps of a block, but for the transaction of the block. -/
theorem grows_afterSteps (L : Ledger α) (s : Session α) (t : Nat) (b : Builder α) :
    ∀ steps : List (BlockStep α), L.Grows (some t) (L.afterSteps s t b steps)
  | [] => .refl
  | step :: rest => by
      have hstep := grows_afterStep L s t b step
      unfold afterSteps
      split
      · exact hstep
      · exact hstep.trans (grows_afterSteps _ _ t _ rest)

/-- So does one step of a block. -/
theorem grows_afterStep (L : Ledger α) (s : Session α) (t : Nat) (b : Builder α) :
    ∀ step : BlockStep α, L.Grows (some t) (L.afterStep s t b step)
  | .register d | .attempt d => grows_afterRegisterIn s t b d
  | .size | .raise _ => .refl
  | .op op => (grows_after L s op).mono

end

end Ledger

end PathRouter
