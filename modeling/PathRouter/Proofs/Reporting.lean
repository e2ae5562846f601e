import PathRouter.Proofs.Lookup
import PathRouter.Registry.Session

set_option autoImplicit false

/-! # Reports of ties

A session may report ties: whenever a path leads to a route, the other routes that would have done
as well. The scan for them begins after the route that is found and ends at the first one with
another score, yet none is missed: what comes before does not match, and what comes later scores
less (`Generation.contenders_eq_cons`). A session that reports ties differs from one that does not
by its reports and by nothing else (`Session.perform_quiet`).
-/

namespace PathRouter

open Text

variable {α : Type}

/-! ## The scan for ties -/

/-- A condition on the items of a list that, once it has failed, is not met again selects a prefix
of it. -/
theorem takeWhile_eq_filter {β : Type} {p : β → Bool} {items : List β}
    (h : items.Pairwise fun a b => p b = true → p a = true) :
    items.takeWhile p = items.filter p := by
  induction items with
  | nil => rfl
  | cons a rest ih =>
      obtain ⟨ha, hrest⟩ := List.pairwise_cons.1 h
      by_cases hp : p a = true
      · rw [List.takeWhile_cons_of_pos hp, List.filter_cons_of_pos hp, ih hrest]
      · have hnone : rest.filter p = [] :=
          List.filter_eq_nil_iff.2 fun b hb hpb => hp (ha b hb hpb)
        rw [List.takeWhile_cons_of_neg hp, List.filter_cons_of_neg hp, hnone]

theorem Route.score_le_of_le {a b : Route α} (h : a.le b = true) : b.score ≤ a.score := by
  rcases Route.outranks_of_le h with hless | ⟨hscore, -⟩
  · exact hless.le
  · exact hscore.le

namespace Generation

/-- In ranked routes the scan for ties misses none: no route before the first match matches, and
after a smaller score the score of the first match does not come again. -/
theorem filter_of_firstMatch {path : String} {routes : List (Route α)} {r : Route α}
    {parameters : Parameters} {rest : List (Route α)}
    (ranked : routes.Pairwise fun a b => a.le b = true)
    (h : firstMatch path routes = some (r, parameters, rest)) :
    routes.filter (fun x => x.pattern.isMatch path && x.score == r.score) =
      r :: (rest.takeWhile (·.score == r.score)).filter (·.pattern.isMatch path) := by
  obtain ⟨hresolve, passed, rfl, hpassed⟩ := firstMatch_eq_some h
  obtain ⟨-, hranked, -⟩ := List.pairwise_append.1 ranked
  obtain ⟨hafter, hrest⟩ := List.pairwise_cons.1 hranked
  have hnone : passed.filter (fun x => x.pattern.isMatch path && x.score == r.score) = [] :=
    List.filter_eq_nil_iff.2 fun p hp => by simp [hpassed p hp]
  have hmatch : r.pattern.isMatch path = true := by
    rw [← Pattern.isSome_resolve, hresolve]
    rfl
  have hprefix : rest.takeWhile (·.score == r.score) = rest.filter (·.score == r.score) := by
    refine takeWhile_eq_filter (hrest.imp_of_mem fun {a b} ha _ hab hb => ?_)
    have hle := Route.score_le_of_le hab
    have hwinner := Route.score_le_of_le (hafter a ha)
    rw [beq_iff_eq] at hb ⊢
    omega
  rw [List.filter_append, hnone, hprefix, List.filter_filter]
  simp [hmatch]

/-- The routes that answer for a path and a method in upper case and have a score, in the order of
their ranks. -/
def contenders (g : Generation α) (path method : String) (score : Nat) : List (Route α) :=
  g.routes.filter fun r => decide (r.Answers path method ∧ r.score = score)

theorem contenders_eq_filter (g : Generation α) (path method : String) (score : Nat) :
    g.contenders path method score =
      (g.candidates method).filter fun r => r.pattern.isMatch path && r.score == score := by
  rw [candidates_eq_filter, List.filter_filter]
  refine List.filter_congr fun r _ => ?_
  rw [Bool.eq_iff_iff, decide_eq_true_iff, Route.Answers]
  simp only [Bool.and_eq_true, List.contains_iff_mem, beq_iff_eq]
  tauto

/-- What is found is the first of the routes that answer with its score; its ties are the others. -/
theorem contenders_eq_cons {g : Generation α} {path method : String} {found : Resolution α}
    (h : g.find path method = some found) :
    g.contenders path (upper method) found.route.score =
      found.route :: g.ties path method := by
  obtain ⟨⟨r, parameters, rest⟩, hfirst, rfl⟩ := Option.map_eq_some_iff.1 h
  rw [contenders_eq_filter, filter_of_firstMatch (g.pairwise_candidates _) hfirst, ties, hfirst]

end Generation

/-! ## Registries without reports of ties -/

/-- What goes wrong in a load is reported as an error. -/
theorem Failure.level_of_mem_eventsAt {f : Failure} {index : Nat} {source : Option String}
    {e : Event} (h : e ∈ f.eventsAt index source) : e.level = .error := by
  unfold Failure.eventsAt at h
  split at h
  · obtain rfl := List.mem_singleton.1 h
    rfl
  · split at h
    · obtain rfl := List.mem_singleton.1 h
      rfl
    · cases h

namespace Registry

/-- The registry without the reports of ties in its journal. -/
def quiet (r : Registry α) : Registry α :=
  { r with journal := r.journal.filter fun e => decide (e.level ≠ .debug) }

variable {r : Registry α}

@[simp] theorem quiet_cache : r.quiet.cache = r.cache := rfl

@[simp] theorem quiet_generation? : r.quiet.generation? = r.generation? := rfl

@[simp] theorem quiet_pending? : r.quiet.pending? = r.pending? := rfl

@[simp] theorem quiet_builder : r.quiet.builder = r.builder := rfl

theorem quiet_record {e : Event} (h : e.level ≠ .debug) :
    (r.record e).quiet = r.quiet.record e := by
  simp [quiet, record, h]

theorem publish_quiet (b : Builder α) :
    r.quiet.publish b = ((r.publish b).1, (r.publish b).2.quiet) := by
  unfold publish
  rw [quiet_record (by simp [Event.level])]
  rfl

theorem commit_quiet : r.quiet.commit = (r.commit.1, r.commit.2.quiet) := by
  unfold commit
  rw [quiet_pending?, quiet_builder, publish_quiet]
  rfl

theorem register_quiet (d : Declaration α) :
    r.quiet.register d = ((r.register d).1, (r.register d).2.quiet) := by
  unfold register
  rw [quiet_pending?, quiet_builder, quiet_cache]
  split
  · rfl
  · rw [quiet_record (by simp [Event.level])]
    rfl

theorem rollback_quiet : r.quiet.rollback = r.rollback.quiet := by
  unfold rollback
  rw [quiet_pending?]
  split
  · rw [quiet_record (by simp [Event.level])]
    rfl
  · rfl

theorem clear_quiet : r.quiet.clear = r.clear.quiet := by
  unfold clear
  rw [quiet_record (by simp [Event.level])]
  rfl

theorem load_quiet (ds : List (Declaration α)) :
    r.quiet.load ds = ((r.load ds).1, (r.load ds).2.quiet) := by
  unfold load
  rw [quiet_builder, quiet_cache]
  split
  · next b cache _ =>
    have hpublish : ({ r with cache } : Registry α).quiet.publish b = _ := publish_quiet b
    exact congrArg (fun p => (Except.ok p.1, p.2)) hpublish
  · next index d e cache _ =>
    have hkept : (e.eventsAt index d.pattern.source?).filter
        (fun event => decide (event.level ≠ .debug)) = e.eventsAt index d.pattern.source? :=
      List.filter_eq_self.2 fun event hevent => by
        simp [Failure.level_of_mem_eventsAt hevent]
    simp only [quiet, List.filter_append, hkept]

end Registry

/-! ## Sessions that report no ties -/

namespace Session

/-- The session as it were if ties had never been reported in it. -/
def quiet (s : Session α) : Session α :=
  { s with registry := s.registry.quiet, reportsTies := false }

variable {s : Session α}

@[simp] theorem quiet_registry : s.quiet.registry = s.registry.quiet := rfl

@[simp] theorem quiet_on (r : Registry α) : (s.on r).quiet = s.quiet.on r.quiet := rfl

theorem level_of_mem_tieEvents {g? : Option (Generation α)} {q : Query} {e : Event}
    (h : e ∈ tieEvents g? q) : e.level = .debug := by
  unfold tieEvents at h
  split at h
  · split at h
    · cases h
    · split at h
      · cases h
      · obtain ⟨other, -, rfl⟩ := List.mem_map.1 h
        rfl
  · cases h

theorem ask_quiet (g? : Option (Generation α)) (q : Query) :
    s.quiet.ask g? q = ((s.ask g? q).1, (s.ask g? q).2.quiet) := by
  have hdropped : (if s.reportsTies then tieEvents g? q else []).filter
      (fun e => decide (e.level ≠ .debug)) = [] := by
    refine List.filter_eq_nil_iff.2 fun e he => ?_
    split at he
    · simp [level_of_mem_tieEvents he]
    · cases he
  simp only [ask, quiet_on, quiet_registry, Registry.quiet, List.filter_append, hdropped]
  rfl

theorem load_quiet (drafts : List (Draft α)) :
    s.quiet.load drafts = ((s.load drafts).1, (s.load drafts).2.quiet) := by
  unfold load
  split
  · rfl
  · rw [quiet_registry, Registry.load_quiet]
    rfl

theorem registerIn_quiet (b : Builder α) (d : Draft α) :
    s.quiet.registerIn b d = ((s.registerIn b d).1, (s.registerIn b d).2.quiet) := by
  unfold registerIn
  split
  · rfl
  · rfl

mutual

/-- An operation does the same in a session that reports ties as in one that does not, but for the
reports. -/
theorem perform_quiet (s : Session α) :
    ∀ op : RegistryOp α, s.quiet.perform op = ((s.perform op).1, (s.perform op).2.quiet)
  | .register d => by
      unfold perform
      split
      · rfl
      · rw [quiet_registry, Registry.register_quiet]
        rfl
  | .commit => by
      unfold perform
      rw [quiet_registry, Registry.commit_quiet]
      rfl
  | .rollback => by
      unfold perform
      rw [quiet_registry, Registry.rollback_quiet]
      rfl
  | .clear => by
      unfold perform
      rw [quiet_registry, Registry.clear_quiet]
      rfl
  | .load drafts => by
      unfold perform
      rw [load_quiet]
  | .ensureLoaded drafts => by
      unfold perform
      rw [quiet_registry, Registry.quiet_generation?]
      split
      · rfl
      · rw [load_quiet]
  | .loading steps => by
      unfold perform
      rw [quiet_registry, Registry.quiet_builder, performSteps_quiet]
      rcases s.performSteps s.registry.builder steps with ⟨answers, _ | e, b, s'⟩
      · dsimp only
        rw [quiet_registry, Registry.publish_quiet]
        rfl
      · dsimp only
        rw [quiet_on, Registry.quiet_record (by simp [Event.level])]
        rfl
  | .ask q => ask_quiet _ q
  | .describe => rfl
  | .keep _ => rfl
  | .askKept _ q => ask_quiet _ q
  | .cache op => by
      unfold perform
      dsimp only
      rw [quiet_registry, Registry.quiet_cache]
      split <;> rfl

/-- So do the steps of a block. -/
theorem performSteps_quiet (s : Session α) (b : Builder α) :
    ∀ steps : List (BlockStep α), s.quiet.performSteps b steps =
      ((s.performSteps b steps).1, (s.performSteps b steps).2.1, (s.performSteps b steps).2.2.1,
        (s.performSteps b steps).2.2.2.quiet)
  | [] => rfl
  | step :: rest => by
      unfold performSteps
      rw [performStep_quiet]
      rcases s.performStep b step with ⟨e | answer, b', s'⟩
      · rfl
      · dsimp only
        rw [performSteps_quiet]

/-- So does one step of a block. -/
theorem performStep_quiet (s : Session α) (b : Builder α) :
    ∀ step : BlockStep α, s.quiet.performStep b step =
      ((s.performStep b step).1, (s.performStep b step).2.1, (s.performStep b step).2.2.quiet)
  | .register d => by
      unfold performStep
      rw [registerIn_quiet]
      rcases s.registerIn b d with ⟨_ | _, _⟩ <;> rfl
  | .attempt d => by
      unfold performStep
      rw [registerIn_quiet]
      rcases s.registerIn b d with ⟨_ | _, _⟩ <;> rfl
  | .size => rfl
  | .raise _ => rfl
  | .op op => by
      unfold performStep
      rw [perform_quiet]

end

/-- The session after operations, one after the other. -/
def after (s : Session α) (ops : List (RegistryOp α)) : Session α :=
  ops.foldl (fun s op => (s.perform op).2) s

theorem after_quiet (ops : List (RegistryOp α)) : s.quiet.after ops = (s.after ops).quiet := by
  induction ops generalizing s with
  | nil => rfl
  | cons op rest ih =>
      calc s.quiet.after (op :: rest) = (s.quiet.perform op).2.after rest := rfl
        _ = (s.perform op).2.quiet.after rest := by rw [perform_quiet]
        _ = ((s.perform op).2.after rest).quiet := ih

/-- **Reports of ties are complete and do nothing else.** A session that asks any generation where a
path leads answers what the generation does. If a route is found and ties are reported, they are
those of the other routes of the method that match the path and have the same score: one report of
each, in the order of their ranks. If none is found, or ties are not reported, the session stays as
it is. And whatever operations come before, an operation answers the same, and changes the same,
whether ties are reported or not. -/
theorem reports_of_ties (s : Session α) (g : Generation α) (path method : String) :
    (s.ask (some g) (.find path method)).1 = .resolution (g.find path method) ∧
    (∀ found, g.find path method = some found →
      ∃ others, g.contenders path (upper method) found.route.score = found.route :: others ∧
        (s.reportsTies = true → (s.ask (some g) (.find path method)).2 =
          s.on { s.registry with
            journal := s.registry.journal ++ others.map fun other =>
              .tied (upper method) path found.route.source other.source found.route.score })) ∧
    (g.find path method = none → (s.ask (some g) (.find path method)).2 = s) ∧
    (s.reportsTies = false → (s.ask (some g) (.find path method)).2 = s) ∧
    ∀ ops op, (s.quiet.after ops).perform op =
      (((s.after ops).perform op).1, ((s.after ops).perform op).2.quiet) := by
  have hsilent (h : (if s.reportsTies then tieEvents (some g) (.find path method) else []) = []) :
      (s.ask (some g) (.find path method)).2 = s := by
    rw [ask]
    dsimp only
    rw [h, List.append_nil]
    rfl
  refine ⟨rfl, fun found hfound => ?_, fun hnone => hsilent ?_, fun hoff => hsilent ?_,
    fun ops op => ?_⟩
  · refine ⟨g.ties path method, Generation.contenders_eq_cons hfound, fun hon => ?_⟩
    have hmethod : found.method = upper method := (Generation.find_eq_some hfound).2.2.2.1
    rw [ask]
    dsimp only [tieEvents]
    rw [if_pos hon, hfound, ← hmethod]
  · simp [tieEvents, hnone]
  · rw [hoff]
    rfl
  · rw [after_quiet, perform_quiet]

/-- Of four routes, one with a higher score and one with the same score are passed over, and the two
others tie. -/
theorem reports_of_ties_passed :
    ∃ (s : Session Nat) (g : Generation Nat), s.reportsTies = true ∧
      g.routes.map (·.source) = ["/x/\x7bq\x7d", "/\x7baa:[0-9]+\x7d", "/\x7ba\x7d", "/\x7bb\x7d"] ∧
      (s.ask (some g) (.find "/x" "get")).2.registry.journal.map Event.text =
        s.registry.journal.map Event.text ++
          ["GET '/x' matches '/\x7ba\x7d' and '/\x7bb\x7d' with score 0; " ++
            "lexical order picks '/\x7ba\x7d'"] := by
  let declared : List (Declaration Nat) :=
    ["/x/\x7bq\x7d", "/\x7baa:[0-9]+\x7d", "/\x7ba\x7d", "/\x7bb\x7d"].map fun source =>
      ⟨.source (some source), .text "GET", 0⟩
  let s : Session Nat :=
    { registry := { limits := {}, cache := .ofOptions {} }, reportsTies := true }
  have hrun : ((({} : Builder Nat).registerAll (.ofOptions {}) 0 declared).1.toOption.map
      fun b => (decide (b.routes.Pairwise fun r q => r.le q = true), b.routes.map (·.source),
        decide (∀ r ∈ b.routes, r.Answers "/x" (upper "get") → r.score = 0),
        (b.routes.filter fun r => decide (r.Answers "/x" (upper "get") ∧ r.score = 0)).map
          (·.source))) =
      some (true, ["/x/\x7bq\x7d", "/\x7baa:[0-9]+\x7d", "/\x7ba\x7d", "/\x7bb\x7d"], true,
        ["/\x7ba\x7d", "/\x7bb\x7d"]) := by
    decide +kernel
  obtain ⟨b, -, hb⟩ := Option.map_eq_some_iff.1 hrun
  simp only [Prod.mk.injEq, decide_eq_true_iff] at hb
  obtain ⟨hranked, hroutes, hscores, hcontenders⟩ := hb
  let g : Generation Nat := ⟨1, b.routes, .ofRoutes b.routes, hranked, rfl⟩
  have hcontenders : (g.contenders "/x" (upper "get") 0).map (·.source) =
      ["/\x7ba\x7d", "/\x7bb\x7d"] := hcontenders
  cases hfound : g.find "/x" "get" with
  | none =>
      have hnone : g.contenders "/x" (upper "get") 0 = [] := by
        refine List.filter_eq_nil_iff.2 fun r hr hanswers => ?_
        exact Generation.find_eq_none_iff.1 hfound r hr (of_decide_eq_true hanswers).1
      rw [hnone] at hcontenders
      cases hcontenders
  | some found =>
      obtain ⟨hroute, hanswers, -⟩ := Generation.find_eq_some hfound
      have hscore : found.route.score = 0 := hscores _ hroute hanswers
      obtain ⟨others, hothers, hreports⟩ := (reports_of_ties s g "/x" "get").2.1 found hfound
      rw [hscore] at hothers
      rw [hothers, List.map_cons] at hcontenders
      obtain ⟨hsource, hrest⟩ := List.cons.inj hcontenders
      obtain ⟨other, rfl, hother⟩ := List.map_eq_singleton_iff.1 hrest
      refine ⟨s, g, rfl, hroutes, ?_⟩
      rw [hreports rfl, hsource, hscore]
      simp only [on, List.map_append, List.map_cons, List.map_nil, hother]
      decide +kernel

end Session

end PathRouter
