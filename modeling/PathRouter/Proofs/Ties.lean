import PathRouter.Proofs.Rearranging
import PathRouter.Proofs.Validating

set_option autoImplicit false

/-! # Ties

Two routes tie if they have a method in common and the same rank. Which of them is tried first is
then a matter of the order in which they were registered. Patterns that are read from sources never
bring this about, however strictly their defaults are checked; but a composed pattern may be spelt
like another one and be cut into other tokens, and then both can be registered for one method
(`Builder.ties_of_built`).
-/

namespace PathRouter

open Outcome Text

variable {α : Type}

/-! ## Patterns that are read -/

namespace Pattern

/-- A pattern is what its source reads as. -/
def IsRead (p : Pattern) : Prop := ∃ validateDefaults, parse p.source validateDefaults = .ok p

/-- Patterns that are read are determined by their sources. -/
theorem IsRead.eq_of_source_eq {p q : Pattern} (hp : p.IsRead) (hq : q.IsRead)
    (h : p.source = q.source) : p = q := by
  obtain ⟨_, hp⟩ := hp
  obtain ⟨_, hq⟩ := hq
  have hp' := parse_lenient hp
  rw [h, parse_lenient hq] at hp'
  exact (Except.ok.inj hp').symm

end Pattern

/-! ## Routes of one rank -/

namespace Route

/-- Two routes have a method in common and the same rank. -/
def Ties (r q : Route α) : Prop := (∃ m, m ∈ r.methods ∧ m ∈ q.methods) ∧ r.rank = q.rank

theorem Ties.symm {r q : Route α} (h : r.Ties q) : q.Ties r := by
  obtain ⟨⟨m, hr, hq⟩, hrank⟩ := h
  exact ⟨⟨m, hq, hr⟩, hrank.symm⟩

instance : Std.Symm fun r q : Route α => ¬ r.Ties q := ⟨fun _ _ h hties => h hties.symm⟩

theorem le_of_rank_eq {r q : Route α} (h : r.rank = q.rank) : r.le q = true := by
  rw [le, h]
  simpa using rankLe_total q.rank q.rank

/-- Routes that tie clash if their patterns are the same. -/
theorem Ties.clashes {r q : Route α} (h : r.Ties q)
    (hkeys : r.pattern.tokens.map Token.key = q.pattern.tokens.map Token.key) : r.Clashes q := by
  obtain ⟨⟨m, hr, hq⟩, hrank⟩ := h
  refine ⟨Pattern.same_iff.2 ?_, m, hq, hr⟩
  exact Prod.ext (congrArg Prod.fst hrank).symm hkeys.symm

end Route

namespace Builder

variable {limit? : Option Int} {routes : List (Route α)} {b : Builder α}

theorem Built.perm_build (h : Built limit? routes b) (version : Int) :
    (b.build version).routes.Perm routes := by
  rw [← h.routes_eq]
  exact Generation.perm_ofRoutes version b.routes

/-- No two registered routes clash. -/
theorem Built.apart (h : Built limit? routes b) : routes.Pairwise fun r q => ¬ q.Clashes r := by
  induction h with
  | empty => exact .nil
  | @register routes b b' _ _ _ r before registered ih =>
      obtain ⟨-, -, -, hadd⟩ := register_eq_ok.1 registered
      obtain ⟨-, hfree, -⟩ := add_eq_ok.1 hadd
      rw [before.routes_eq] at hfree
      refine List.pairwise_append.2 ⟨ih, List.pairwise_singleton .., fun held hheld q hq => ?_⟩
      obtain rfl := List.mem_singleton.1 hq
      exact hfree held hheld

end Builder

namespace Generation

variable {g g' : Generation α}

/-- Where no routes tie, the candidates of a method depend on which routes there are alone. -/
theorem candidates_eq_of_perm (h : g'.routes.Perm g.routes)
    (hties : g.routes.Pairwise fun r q => ¬ r.Ties q) (method : String) :
    g'.candidates method = g.candidates method := by
  have hperm : (g'.candidates method).Perm (g.candidates method) := by
    rw [candidates_eq_filter, candidates_eq_filter]
    exact h.filter _
  refine List.Perm.eq_of_pairwise ?_ (g'.pairwise_candidates method) (g.pairwise_candidates method)
    hperm
  intro r q hr hq hrq hqr
  obtain ⟨hr, hrm⟩ := mem_candidates.1 (hperm.mem_iff.1 hr)
  obtain ⟨hq, hqm⟩ := mem_candidates.1 hq
  by_contra hne
  exact hties.forall hr hq hne ⟨⟨method, hrm, hqm⟩, rankLe_antisymm hrq hqr⟩

theorem find_eq_of_perm (h : g'.routes.Perm g.routes)
    (hties : g.routes.Pairwise fun r q => ¬ r.Ties q) (path method : String) :
    g'.find path method = g.find path method := by
  rw [find, find, candidates_eq_of_perm h hties]

end Generation

namespace Builder

variable {limit? : Option Int} {routes : List (Route α)} {b : Builder α}

/-- A route of a pattern that is made can be registered if it clashes with no other one. -/
theorem Built.push (h : Built none routes b) {r : Route α} {methods : Value}
    (hmethods : Methods.normalize methods = .ok r.methods)
    (hfree : ∀ held ∈ routes, ¬ r.Clashes held) (hlimit : b.limit? = none) :
    Built none (routes ++ [r]) (b.push r) := by
  let cache : Cache := { Cache.ofOptions {} with issued := r.compiled.stamp }
  have hadd : b.add r = .ok (b.push r) := by
    refine add_eq_ok.2 ⟨?_, ?_, rfl⟩
    · rw [hlimit]
      exact nofun
    · rwa [h.routes_eq]
  have registered : b.register cache ⟨.made r.pattern, methods, r.payload⟩ =
      (.ok (r, b.push r), (cache.adopt r.pattern).2) :=
    register_eq_ok.2 ⟨hmethods, rfl, rfl, hadd⟩
  exact h.register registered

/-- Of two routes that tie and match a path, the one that was registered first is found. -/
theorem find_of_ties {r q : Route α} (hb : b.routes = [r, q]) (hties : r.Ties q)
    {path method : String} (hanswers : r.Answers path (upper method)) (version : Int) :
    ((b.build version).find path method).map (·.route) = some r := by
  have hroutes : (b.build version).routes = [r, q] := by
    show b.routes.mergeSort Route.le = [r, q]
    rw [hb]
    exact List.mergeSort_of_pairwise (List.pairwise_pair.2 (Route.le_of_rank_eq hties.2))
  obtain ⟨hmethod, hmatch⟩ := hanswers
  obtain ⟨parameters, hresolve⟩ := Option.isSome_iff_exists.1
    ((r.pattern.isSome_resolve path).trans hmatch)
  rw [Generation.find, Generation.candidates_eq_filter, hroutes,
    List.filter_cons_of_pos (by simpa using hmethod), Generation.firstMatch, hresolve]
  rfl

/-- Two routes that tie: both patterns are spelt `/a`, and one of them is cut into two literals.
They can be registered in either order. -/
theorem exists_cut :
    ∃ (r q : Route Nat) (b b' : Builder Nat), r.Ties q ∧ Built none [r, q] b ∧
      Built none [q, r] b' ∧ r.Answers "/a" (upper "GET") ∧ q.Answers "/a" (upper "GET") ∧
      r.payload ≠ q.payload := by
  obtain ⟨p, -, hp⟩ := toOption_map_eq_some.1
    (by decide +kernel : (Pattern.ofTokens [.literal "/a"]).toOption.map
      (fun p => (p.source, p.score, p.tokens, p.isMatch "/a")) =
        some ("/a", 1, [.literal "/a"], true))
  obtain ⟨q, -, hq⟩ := toOption_map_eq_some.1
    (by decide +kernel : (Pattern.ofTokens [.literal "/", .literal "a"]).toOption.map
      (fun p => (p.source, p.score, p.tokens, p.isMatch "/a")) =
        some ("/a", 1, [.literal "/", .literal "a"], true))
  simp only [Prod.mk.injEq] at hp hq
  obtain ⟨hpsource, hpscore, hptokens, hpmatch⟩ := hp
  obtain ⟨hqsource, hqscore, hqtokens, hqmatch⟩ := hq
  let route (compiled : Compiled) (payload : Nat) : Route Nat :=
    { compiled, methods := ["GET"], payload, ascending := List.pairwise_singleton .. }
  let whole := route ⟨p, 0⟩ 0
  let cut := route ⟨q, 1⟩ 1
  have hnormal : Methods.normalize (.text "GET") = .ok ["GET"] := by rfl
  have hapart : ¬ whole.Clashes cut := by
    rintro ⟨hsame, -⟩
    have hkeys : q.tokens.map Token.key = p.tokens.map Token.key :=
      congrArg Prod.snd (Pattern.same_iff.1 hsame)
    rw [hptokens, hqtokens] at hkeys
    exact absurd hkeys (by decide)
  have hties : whole.Ties cut := by
    refine ⟨⟨"GET", by simp [whole, cut, route]⟩, Prod.ext ?_ ?_⟩
    · exact hpsource.trans hqsource.symm
    · exact congrArg Int.ofNat (hpscore.trans hqscore.symm)
  have hempty : Built none ([] : List (Route Nat)) {} := .empty
  have hwhole := hempty.push (r := whole) hnormal (by simp) rfl
  have hcut := hempty.push (r := cut) hnormal (by simp) rfl
  have hb := hwhole.push (r := cut) hnormal (by simpa using fun h => hapart h.symm) rfl
  have hb' := hcut.push (r := whole) hnormal (by simpa using hapart) rfl
  have hupper : upper "GET" ∈ ["GET"] := by decide
  exact ⟨whole, cut, _, _, hties, hb, hb', ⟨hupper, hpmatch⟩, ⟨hupper, hqmatch⟩,
    by simp [whole, cut, route]⟩

/-- **Ties come from composed patterns alone.** Of the routes of a generation, however its patterns
were made, two tie only if their patterns, though spelt alike, are cut into different tokens; never
if both are what their sources read as. Of two that tie, the one that was registered first is tried
first. Where no routes tie, look-ups do not depend on the order of registration. -/
theorem ties_of_built (h : Built limit? routes b) (version : Int) :
    ((b.build version).routes.Pairwise fun r q => r.Ties q →
      r.pattern.tokens.map Token.key ≠ q.pattern.tokens.map Token.key ∧
        ¬ (r.pattern.IsRead ∧ q.pattern.IsRead)) ∧
    (∀ r q, [r, q].Sublist routes → r.rank = q.rank →
      [r, q].Sublist (b.build version).routes) ∧
    ((routes.Pairwise fun r q => ¬ r.Ties q) →
      ∀ (limit?' : Option Int) (routes' : List (Route α)) (b' : Builder α),
        Built limit?' routes' b' → routes'.Perm routes → ∀ version' path method,
          (b'.build version').find path method = (b.build version).find path method) := by
  have hperm := h.perm_build version
  refine ⟨?_, ?_, ?_⟩
  · have hapart : (b.build version).routes.Pairwise fun r q => ¬ q.Clashes r :=
      (hperm.pairwise_iff fun hrq hqr => hrq hqr.symm).2 h.apart
    refine hapart.imp fun {r q} hfree hties => ⟨fun hkeys => ?_, ?_⟩
    · exact hfree (hties.clashes hkeys).symm
    · rintro ⟨hr, hq⟩
      have hpattern : r.pattern = q.pattern := hr.eq_of_source_eq hq (congrArg Prod.fst hties.2)
      exact hfree (hties.clashes (by rw [hpattern])).symm
  · intro r q hrq hrank
    rw [← h.routes_eq] at hrq
    exact List.pair_sublist_mergeSort (fun a b c => rankLe_trans a.rank b.rank c.rank)
      (fun a b => rankLe_total a.rank b.rank) (Route.le_of_rank_eq hrank) hrq
  · intro hties limit?' routes' b' h' hroutes version' path method
    have hperm' : (b'.build version').routes.Perm (b.build version).routes :=
      ((h'.perm_build version').trans hroutes).trans hperm.symm
    refine Generation.find_eq_of_perm hperm' ?_ path method
    exact (hperm.pairwise_iff fun hrq hqr => hrq hqr.symm).2 hties

/-- Of two patterns spelt `/a`, one of which is cut into two literals, at least one is not what this
source reads as, and the one that was registered first is tried first. -/
theorem ties_of_built_cut :
    ∃ (r q : Route Nat) (b : Builder Nat), Built none [r, q] b ∧ r.Ties q ∧
      [r, q].Sublist (b.build 1).routes ∧ ¬ (r.pattern.IsRead ∧ q.pattern.IsRead) := by
  obtain ⟨r, q, b, b', hties, hb, -⟩ := exists_cut
  obtain ⟨htied, horder, -⟩ := ties_of_built hb 1
  have hsub := horder r q (List.Sublist.refl _) hties.2
  have hpair := List.pairwise_pair.1 (htied.sublist hsub)
  exact ⟨r, q, b, hb, hties, hsub, (hpair hties).2⟩

/-- So two routes of one method may have the same rank, and the order in which they were registered
decides which of them is found. -/
theorem exists_ties :
    ∃ (r q : Route Nat) (b b' : Builder Nat), Built none [r, q] b ∧ Built none [q, r] b' ∧
      r.Ties q ∧ ((b.build 1).find "/a" "GET").map (·.route) = some r ∧
      ((b'.build 1).find "/a" "GET").map (·.route) = some q ∧ r.payload ≠ q.payload := by
  obtain ⟨r, q, b, b', hties, hb, hb', hr, hq, hne⟩ := exists_cut
  exact ⟨r, q, b, b', hb, hb', hties, find_of_ties hb.routes_eq hties hr 1,
    find_of_ties hb'.routes_eq hties.symm hq 1, hne⟩

end Builder

end PathRouter
