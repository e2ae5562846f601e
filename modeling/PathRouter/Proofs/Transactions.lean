import PathRouter.Proofs.Ledger

set_option autoImplicit false

/-! # Transactions

Routes come to be live in transactions: registrations one by one up to a commit, loads, and blocks.
`Ledger.Describes` says what the ledger of a registry tells of it: the live generation is the last
one that was published, and whatever was published has the routes registered in one transaction.
Every operation keeps it so, whatever takes place within it (`Ledger.describes_after`).

The transaction of a block is open while operations take place in the block, and they write to the
same ledger. What carries it through them is that it stands apart (`Ledger.Within`), so that they
leave its entries alone.
-/

namespace PathRouter

variable {α : Type}

namespace Ledger

/-! ## What a ledger tells of a registry -/

/-- `L.Holds l t b`: the routes registered in transaction `t` so far are those of the builder `b`,
and the transaction has not ended. -/
structure Holds (L : Ledger α) (l : Limits) (t : Nat) (b : Builder α) : Prop where
  begun : t < L.begun
  entries : L.entriesOf t = b.routes.map (.registered t)
  limit? : b.limit? = l.maxPatterns?
  fits : ∀ limit, l.maxPatterns? = some limit → b.size ≤ limit

/-- `L.Publishes t g`: the generation `g` has the routes registered in transaction `t`, each as
often as it was registered, and the transaction has ended by this publication and by nothing else.
-/
def Publishes (L : Ledger α) (t : Nat) (g : Generation α) : Prop :=
  ∃ routes : List (Route α),
    L.entriesOf t = routes.map (.registered t) ++ [.published t g] ∧ g.routes.Perm routes

/-- `L.Describes l r`: the ledger `L` is that of the registry `r`, which has limits `l`. -/
structure Describes (L : Ledger α) (l : Limits) (r : Registry α) : Prop where
  limits : r.limits = l
  /-- There is room for a route. -/
  limit : ∀ limit, l.maxPatterns? = some limit → 1 ≤ limit
  version : r.version = L.publications.length
  /-- The live generation is the last that was published. -/
  live : ∀ g, r.generation? = some g → g.version = r.version ∧ L.publications.getLast? = some g
  published : ∀ t g, .published t g ∈ L.entries → L.Publishes t g ∧
    ∀ limit, l.maxPatterns? = some limit → g.size ≤ limit
  numbered : ∀ e ∈ L.entries, e.transaction < L.begun
  pending : Option.Rel (L.Holds l) L.pending? r.pending?

/-- `L.Within l r t b`: the ledger `L` describes `r`, and transaction `t`, which is not that of the
pending routes, is open and has the builder `b`. -/
structure Within (L : Ledger α) (l : Limits) (r : Registry α) (t : Nat) (b : Builder α) : Prop where
  describes : L.Describes l r
  holds : L.Holds l t b
  apart : L.pending? ≠ some t

variable {L L' : Ledger α} {l : Limits} {r r' : Registry α} {t : Nat} {b b' : Builder α}

/-! ## Open transactions -/

namespace Holds

/-- An open transaction has not been published. -/
theorem not_published (h : L.Holds l t b) (g : Generation α) : .published t g ∉ L.entries := by
  intro hg
  have hmem : Entry.published t g ∈ L.entriesOf t := mem_entriesOf.2 ⟨hg, rfl⟩
  rw [h.entries] at hmem
  simp at hmem

theorem register {cache cache' : Cache} {d : Declaration α} {route : Route α}
    (h : L.Holds l t b) (hregister : b.register cache d = (.ok (route, b'), cache')) :
    (L.write (.registered t route)).Holds l t b' := by
  obtain ⟨-, -, -, hadd⟩ := Builder.register_eq_ok.1 hregister
  obtain ⟨hroom, -, rfl⟩ := Builder.add_eq_ok.1 hadd
  refine ⟨h.begun, ?_, h.limit?, ?_⟩
  · have hwrite := entriesOf_write_self (L := L) (.registered t route)
    rw [Entry.transaction, h.entries] at hwrite
    rw [hwrite, Builder.push_routes, List.map_append, List.map_singleton]
  · intro limit hlimit
    have hsize : b.size < limit := by
      simpa [Builder.hasRoom] using hroom limit (h.limit?.trans hlimit)
    rw [Builder.size, Builder.push_routes, List.length_append, List.length_singleton]
    rw [Builder.size] at hsize
    omega

end Holds

namespace Describes

theorem pending_cases (h : L.Describes l r) :
    (L.pending? = none ∧ r.pending? = none) ∨
      ∃ t b, L.pending? = some t ∧ r.pending? = some b ∧ L.Holds l t b := by
  have hpending := h.pending
  cases hL : L.pending? with
  | none =>
      rw [hL] at hpending
      cases hr : r.pending? with
      | none => exact .inl ⟨rfl, rfl⟩
      | some b =>
          rw [hr] at hpending
          cases hpending
  | some t =>
      rw [hL] at hpending
      cases hr : r.pending? with
      | none =>
          rw [hr] at hpending
          cases hpending
      | some b =>
          rw [hr] at hpending
          cases hpending with
          | some hholds => exact .inr ⟨t, b, rfl, rfl, hholds⟩

/-- The transaction of the pending routes is told by its number and its entries alone. -/
theorem pending_of_eq (h : L.Describes l r) (hbegun : L.begun ≤ L'.begun)
    (hpending : L'.pending? = L.pending?)
    (hentries : ∀ t, L.pending? = some t → L'.entriesOf t = L.entriesOf t) :
    Option.Rel (L'.Holds l) L'.pending? r.pending? := by
  rcases h.pending_cases with ⟨hL, hr⟩ | ⟨t, b, hL, hr, hholds⟩
  · rw [hpending, hL, hr]
    exact .none
  · rw [hpending, hL, hr]
    exact .some ⟨hholds.begun.trans_le hbegun, (hentries t hL).trans hholds.entries, hholds.limit?,
      hholds.fits⟩

/-- A ledger tells nothing of the cache and of the journal. -/
theorem of_eq (h : L.Describes l r) (hlimits : r'.limits = r.limits)
    (hversion : r'.version = r.version) (hlive : r'.generation? = r.generation?)
    (hpending : r'.pending? = r.pending?) : L.Describes l r' where
  limits := hlimits.trans h.limits
  limit := h.limit
  version := hversion.trans h.version
  live g hg := by
    rw [hversion]
    exact h.live g (hlive ▸ hg)
  published := h.published
  numbered := h.numbered
  pending := hpending ▸ h.pending

/-- The live generation may be dropped. -/
theorem clear (h : L.Describes l r) : L.Describes l r.clear where
  limits := h.limits
  limit := h.limit
  version := h.version
  live := nofun
  published := h.published
  numbered := h.numbered
  pending := h.pending

/-! ## Beginning a transaction -/

theorem entriesOf_begun (h : L.Describes l r) : L.entriesOf L.begun = [] := by
  rw [List.eq_nil_iff_forall_not_mem]
  intro e he
  obtain ⟨hmem, ht⟩ := mem_entriesOf.1 he
  have := h.numbered e hmem
  omega

theorem pending?_ne_begun (h : L.Describes l r) : L.pending? ≠ some L.begun := by
  intro hbegun
  rcases h.pending_cases with ⟨hL, -⟩ | ⟨t, b, hL, -, hholds⟩
  · rw [hL] at hbegun
    cases hbegun
  · obtain rfl : t = L.begun := Option.some.inj (hL.symm.trans hbegun)
    exact absurd hholds.begun (lt_irrefl _)

/-- A new transaction has no routes. -/
theorem start (h : L.Describes l r) : L.start.Within l r L.begun r.builder where
  describes :=
    { h with
      numbered := fun e he => Nat.lt_succ_of_lt (h.numbered e he)
      pending := h.pending_of_eq (Nat.le_succ _) rfl fun _ _ => rfl }
  holds := by
    refine ⟨Nat.lt_succ_self _, h.entriesOf_begun, ?_, fun limit hlimit => ?_⟩
    · rw [← h.limits]
      rfl
    · have := h.limit limit hlimit
      rw [Registry.builder, Builder.size, List.length_nil]
      omega
  apart := h.pending?_ne_begun

/-- The transaction that is taken in hand has the pending routes. -/
theorem take (h : L.Describes l r) :
    L.take.Within l { r with pending? := none } L.current (r.pending?.getD r.builder) := by
  -- either the transaction begins now, or it is pending
  rcases h.pending_cases with ⟨hL, hr⟩ | ⟨t, b, hL, hr, hholds⟩
  · have htake : L.take = L.start := by simp [Ledger.take, hL]
    have hcurrent : L.current = L.begun := by simp [current, hL]
    obtain ⟨hdescribes, hholds, hapart⟩ := h.start
    rw [htake, hcurrent, hr]
    exact ⟨hdescribes.of_eq rfl rfl rfl hr.symm, hholds, hapart⟩
  · have htake : L.take = { L with pending? := none } := by simp [Ledger.take, hL]
    have hcurrent : L.current = t := by simp [current, hL]
    rw [htake, hcurrent, hr]
    exact ⟨{ h with pending := .none }, { hholds with }, nofun⟩

end Describes

namespace Within

theorem of_eq (h : L.Within l r t b) (hlimits : r'.limits = r.limits)
    (hversion : r'.version = r.version) (hlive : r'.generation? = r.generation?)
    (hpending : r'.pending? = r.pending?) : L.Within l r' t b :=
  { h with describes := h.describes.of_eq hlimits hversion hlive hpending }

theorem of_cache (h : L.Within l r t b) (cache : Cache) : L.Within l { r with cache } t b :=
  h.of_eq rfl rfl rfl rfl

/-- The transaction may be that of the pending routes. -/
theorem keep (h : L.Within l r t b) : (L.keep t).Describes l { r with pending? := some b } :=
  { h.describes with pending := .some { h.holds with } }

/-! ## Entries of an open transaction -/

theorem numbered_write (h : L.Within l r t b) {e : Entry α} (he : e.transaction = t) :
    ∀ e' ∈ (L.write e).entries, e'.transaction < (L.write e).begun := by
  intro e' he'
  rcases mem_entries_write.1 he' with he' | rfl
  · exact h.describes.numbered e' he'
  · rw [he]
    exact h.holds.begun

theorem pending_write (h : L.Within l r t b) {e : Entry α} (he : e.transaction = t) :
    Option.Rel ((L.write e).Holds l) (L.write e).pending? r.pending? := by
  refine h.describes.pending_of_eq le_rfl rfl fun u hu => entriesOf_write_of_ne ?_
  rw [he]
  rintro rfl
  exact h.apart hu

/-- What was published before has no part in the transaction. -/
theorem published_write (h : L.Within l r t b) {e : Entry α} (he : e.transaction = t) {u : Nat}
    {g : Generation α} (hg : .published u g ∈ L.entries) : (L.write e).Publishes u g := by
  have hne : e.transaction ≠ u := by
    rw [he]
    rintro rfl
    exact h.holds.not_published g hg
  obtain ⟨routes, hentries, hperm⟩ := (h.describes.published u g hg).1
  exact ⟨routes, (entriesOf_write_of_ne hne).trans hentries, hperm⟩

/-- An entry that publishes nothing. -/
theorem write (h : L.Within l r t b) {e : Entry α} (he : e.transaction = t)
    (hquiet : e.generation? = none) : (L.write e).Describes l r := by
  have hpublications : (L.write e).publications = L.publications := by
    rw [publications_write, hquiet, Option.toList_none, List.append_nil]
  refine
    { h.describes with
      version := ?_, live := ?_, published := fun u g hg => ?_
      numbered := h.numbered_write he, pending := h.pending_write he }
  · rw [hpublications]
    exact h.describes.version
  · rw [hpublications]
    exact h.describes.live
  · rcases mem_entries_write.1 hg with hg | rfl
    · exact ⟨h.published_write he hg, (h.describes.published u g hg).2⟩
    · cases hquiet

/-- The transaction is dropped. -/
theorem drop (h : L.Within l r t b) : (L.write (.dropped t)).Describes l r := h.write rfl rfl

theorem entriesOf_drop (h : L.Within l r t b) :
    (L.write (.dropped t)).entriesOf t = b.routes.map (.registered t) ++ [.dropped t] := by
  rw [← h.holds.entries]
  exact entriesOf_write_self (.dropped t)

/-- The transaction has one more route. -/
theorem register {cache cache' : Cache} {d : Declaration α} {route : Route α}
    (h : L.Within l r t b) (hregister : b.register cache d = (.ok (route, b'), cache')) :
    (L.write (.registered t route)).Within l r t b' :=
  ⟨h.write rfl rfl, h.holds.register hregister, h.apart⟩

/-- **The transaction is published**: its routes are those of the live generation. -/
theorem publish (h : L.Within l r t b) :
    (L.write (.published t (r.publish b).1)).Describes l (r.publish b).2 := by
  have hpublications : (L.write (.published t (r.publish b).1)).publications =
      L.publications ++ [(r.publish b).1] := publications_write _
  have hroutes : (r.publish b).1.routes.Perm b.routes := Generation.perm_ofRoutes _ _
  refine
    { limits := h.describes.limits, limit := h.describes.limit
      version := ?_, live := fun g hg => ?_, published := fun u g hg => ?_
      numbered := h.numbered_write rfl, pending := h.pending_write rfl }
  · rw [hpublications, Registry.publish_version, h.describes.version, List.length_append]
    rfl
  · obtain rfl : (r.publish b).1 = g := Option.some.inj hg
    rw [hpublications, List.getLast?_concat]
    exact ⟨rfl, rfl⟩
  · rcases mem_entries_write.1 hg with hg | hg
    · exact ⟨h.published_write rfl hg, (h.describes.published u g hg).2⟩
    · obtain ⟨rfl, rfl⟩ := Entry.published.inj hg
      refine ⟨⟨b.routes, ?_, hroutes⟩, fun limit hlimit => ?_⟩
      · have hwrite := entriesOf_write_self (L := L) (.published u (r.publish b).1)
        rwa [Entry.transaction, h.holds.entries] at hwrite
      · rw [Generation.size, hroutes.length_eq]
        exact h.holds.fits limit hlimit

/-- The transaction stands apart from what is written between. -/
theorem of_grows (h : L.Within l r t b) (hgrows : L.Grows none L')
    (hdescribes : L'.Describes l r') : L'.Within l r' t b := by
  have hapart : L.Apart t := ⟨h.holds.begun, h.apart⟩
  have hapart' := hgrows.apart hapart
  exact ⟨hdescribes, ⟨hapart'.1, (hgrows.frame hapart nofun).trans h.holds.entries, h.holds.limit?,
    h.holds.fits⟩, hapart'.2⟩

/-- Declarations are registered one after the other. -/
theorem afterAll (h : L.Within l r t b) (cache : Cache) (index : Nat)
    (ds : List (Declaration α)) :
    ∃ b', (L.afterAll t b cache ds).Within l r t b' ∧
      ∀ all cache', b.registerAll cache index ds = (.ok all, cache') → all = b' := by
  induction ds generalizing L b cache index with
  | nil => exact ⟨b, h, fun all cache' hall => (Except.ok.inj (Prod.mk.inj hall).1).symm⟩
  | cons d rest ih =>
      rw [Ledger.afterAll, Builder.registerAll]
      rcases hd : b.register cache d with ⟨e | ⟨route, b₁⟩, cache₁⟩
      · exact ⟨b, h, fun all cache' hall => by cases hall⟩
      · exact ih (h.register hd) cache₁ (index + 1)

end Within

/-! ## Operations -/

theorem describes_afterLoad {s : Session α} (h : L.Describes l s.registry)
    (drafts : List (Draft α)) : (L.afterLoad s drafts).Describes l (s.load drafts).2.registry := by
  unfold afterLoad Session.load
  cases drafts.mapM Draft.declaration with
  | error e => exact h
  | ok declarations =>
      obtain ⟨b, hall, hb⟩ := h.start.afterAll s.registry.cache 0 declarations
      dsimp only
      unfold Registry.load
      rcases hrun : s.registry.builder.registerAll s.registry.cache 0 declarations with
        ⟨⟨index, d, e⟩ | b', cache⟩
      · exact hall.drop.of_eq rfl rfl rfl rfl
      · obtain rfl := hb b' cache hrun
        exact (hall.of_cache cache).publish

theorem Within.afterRegisterIn {s : Session α} (h : L.Within l s.registry t b) (d : Draft α) :
    (L.afterRegisterIn s t b d).Within l (s.registerIn b d).2.registry t
      (match (s.registerIn b d).1 with
        | .ok (_, b') => b'
        | .error _ => b) := by
  unfold Ledger.afterRegisterIn Session.registerIn
  cases d.declaration with
  | error e => exact h
  | ok declaration =>
      dsimp only
      rcases hd : b.register s.registry.cache declaration with ⟨e | ⟨route, b'⟩, cache⟩
      · exact h.of_eq rfl rfl rfl rfl
      · exact (h.register hd).of_eq rfl rfl rfl rfl

theorem describes_register (h : L.Describes l r) (d : Declaration α) :
    (match (r.register d).1 with
      | .ok route => (L.take.write (.registered L.current route)).keep L.current
      | .error _ => L.take.write (.dropped L.current)).Describes l (r.register d).2 := by
  unfold Registry.register
  rcases hd : (r.pending?.getD r.builder).register r.cache d with ⟨e | ⟨route, b⟩, cache⟩
  · exact h.take.drop.of_eq rfl rfl rfl rfl
  · exact (h.take.register hd).keep.of_eq rfl rfl rfl rfl

mutual

/-- **The ledger keeps on describing the registry**, whatever is done with it. -/
theorem describes_after {L : Ledger α} {s : Session α} (h : L.Describes l s.registry) :
    ∀ op : RegistryOp α, (L.after s op).Describes l (s.perform op).2.registry
  | .register d => by
      unfold after Session.perform
      cases d.declaration with
      | error e => exact h
      | ok declaration => exact describes_register h declaration
  | .commit => (h.take.publish).of_eq rfl rfl rfl rfl
  | .rollback => by
      unfold after Session.perform Registry.rollback
      cases hpending : s.registry.pending? with
      | some b => exact h.take.drop.of_eq rfl rfl rfl rfl
      | none => exact h
  | .clear => h.clear
  | .load drafts => describes_afterLoad h drafts
  | .ensureLoaded drafts => by
      unfold after Session.perform
      cases s.registry.generation? with
      | some g => exact h
      | none => exact describes_afterLoad h drafts
  | .loading steps => by
      have hsteps := within_afterSteps h.start steps
      unfold after Session.perform
      rcases hrun : s.performSteps s.registry.builder steps with ⟨answers, _ | e, b, s'⟩
      · rw [hrun] at hsteps
        exact hsteps.publish
      · rw [hrun] at hsteps
        exact hsteps.drop.of_eq rfl rfl rfl rfl
  | .ask _ | .askKept _ _ => h.of_eq rfl rfl rfl rfl
  | .describe | .keep _ => h
  | .cache op => by
      unfold after Session.perform
      dsimp only
      split <;> exact h.of_eq rfl rfl rfl rfl

/-- So it does within a block, whose transaction stays open. -/
theorem within_afterSteps {L : Ledger α} {s : Session α} {t : Nat} {b : Builder α}
    (h : L.Within l s.registry t b) :
    ∀ steps : List (BlockStep α), (L.afterSteps s t b steps).Within l
      (s.performSteps b steps).2.2.2.registry t (s.performSteps b steps).2.2.1
  | [] => h
  | step :: rest => by
      have hstep := within_afterStep h step
      unfold afterSteps Session.performSteps
      rcases hrun : s.performStep b step with ⟨e | answer, b', s'⟩
      · rw [hrun] at hstep
        exact hstep
      · rw [hrun] at hstep
        exact within_afterSteps hstep rest

/-- So it does after one step of a block. -/
theorem within_afterStep {L : Ledger α} {s : Session α} {t : Nat} {b : Builder α}
    (h : L.Within l s.registry t b) :
    ∀ step : BlockStep α, (L.afterStep s t b step).Within l
      (s.performStep b step).2.2.registry t (s.performStep b step).2.1
  | .register d => by
      have hregister := h.afterRegisterIn d
      unfold afterStep Session.performStep
      split <;> simp_all
  | .attempt d => by
      have hregister := h.afterRegisterIn d
      unfold afterStep Session.performStep
      split <;> simp_all
  | .size | .raise _ => h
  | .op op => h.of_grows (grows_after L s op) (describes_after h.describes op)

end

end Ledger

end PathRouter
