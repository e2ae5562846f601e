import PathRouter.Proofs.Binding
import PathRouter.Proofs.Shadowing

set_option autoImplicit false

/-! # Hashes of parameters

Parameters are equal if they bind the same names to the same values, in whatever order; but a hash
is made of their pairs in order. So equal parameters have the same hash exactly if their names come
in the same order (`Parameters.hashWith_eq_iff_of_agrees`). This is so for parameters that are made
alike, by the same steps with the same names (`Parameters.MadeAlike`), as those are that one pattern
finds in two paths; it is not so for any two (`Parameters.exists_agrees_hashWith_ne`).
-/

namespace PathRouter

/-! ## Bindings that agree -/

namespace Bindings

variable {α : Type}

/-- The pairs of bindings are told by the names in their order and by the value of each. -/
theorem items_eq_filterMap (b : Bindings α) :
    b.items = b.names.filterMap fun name => (b.get? name).map (Prod.mk name) := by
  obtain ⟨items, hnodup⟩ := b
  show items = (items.map Prod.fst).filterMap fun name => (items.lookup name).map (Prod.mk name)
  induction items with
  | nil => rfl
  | cons item rest ih =>
      obtain ⟨name, value⟩ := item
      obtain ⟨hfirst, hrest⟩ := List.nodup_cons.1 hnodup
      rw [List.map_cons, List.filterMap_cons_some (by rw [List.lookup_cons_self]; rfl)]
      congr 1
      refine (ih hrest).trans (List.filterMap_congr fun other hother => ?_)
      -- the first name is none of the others
      have hne : (other == name) = false := beq_false_of_ne fun hsame => hfirst (hsame ▸ hother)
      rw [List.lookup_cons, hne]

theorem mem_items_iff {b : Bindings α} {name : String} {value : α} :
    (name, value) ∈ b.items ↔ b.get? name = some value := by
  rw [items_eq_filterMap, List.mem_filterMap]
  constructor
  · rintro ⟨other, -, h⟩
    obtain ⟨v, hv, hpair⟩ := Option.map_eq_some_iff.1 h
    obtain ⟨rfl, rfl⟩ := Prod.mk.inj hpair
    exact hv
  · intro h
    refine ⟨name, mem_names_iff.2 (by simp [h]), ?_⟩
    rw [h, Option.map_some]

theorem nodup_items (b : Bindings α) : b.items.Nodup := b.nodup.of_map _

/-- Maps with the same values of all names hold the same pairs, in some order. -/
theorem perm_items_iff {a b : Bindings α} :
    a.items.Perm b.items ↔ ∀ name, a.get? name = b.get? name := by
  constructor
  · intro h name
    refine Option.ext fun value => ?_
    rw [← mem_items_iff, ← mem_items_iff, h.mem_iff]
  · intro h
    refine (List.perm_ext_iff_of_nodup a.nodup_items b.nodup_items).2 fun ⟨name, value⟩ => ?_
    rw [mem_items_iff, mem_items_iff, h]

/-- **Maps agree exactly if they have the same value of every name.** -/
theorem agrees_iff [BEq α] [LawfulBEq α] {a b : Bindings α} :
    a.agrees b = true ↔ ∀ name, a.get? name = b.get? name := by
  have hsubset : a.agrees b = true ↔ a.items.length = b.items.length ∧ a.items ⊆ b.items := by
    rw [agrees, Bool.and_eq_true, List.all_eq_true, size, size, beq_iff_eq]
    refine and_congr_right fun _ => forall₂_congr fun ⟨name, value⟩ _ => ?_
    rw [mem_items_iff]
    dsimp only
    cases b.get? name with
    | none => simp
    | some other => rw [beq_iff_eq, Option.some_inj, eq_comm]
  rw [hsubset, ← perm_items_iff]
  constructor
  · -- no pair comes twice, so that with as many pairs on both sides one inclusion is enough
    rintro ⟨hlength, hmem⟩
    exact (a.nodup_items.subperm hmem).perm_of_length_le hlength.ge
  · intro h
    exact ⟨h.length_eq, h.subset⟩

/-- Of maps that agree, those whose names come in the same order are the same. -/
theorem same_iff_of_agrees [BEq α] [LawfulBEq α] {a b : Bindings α} (h : a.agrees b = true) :
    a.same b = true ↔ a.names = b.names := by
  rw [same, beq_iff_eq]
  constructor
  · intro hitems
    rw [names, names, hitems]
  · intro hnames
    rw [items_eq_filterMap, items_eq_filterMap b, hnames]
    simp only [agrees_iff.1 h]

end Bindings

/-! ## How parameters are made -/

namespace Pattern

/-- A pattern captures as many pieces in one path as in another. -/
theorem length_of_captures? {p : Pattern} {path : String} {captured : List String}
    (h : p.captures? path = some captured) : captured.length = p.program.groups := by
  obtain ⟨groups, hgroups, rfl⟩ := Option.map_eq_some_iff.1 h
  obtain ⟨c, -, rfl⟩ := Option.map_eq_some_iff.1 hgroups
  simp

/-- The names that a pattern binds, and their order, do not depend on the path. -/
theorem names_of_resolve {p : Pattern} {path : String} {bound : Parameters}
    (h : p.resolve path = some bound) :
    bound.names = ((p.tokens.take p.program.groups).filterMap Token.boundName?).eraseDups := by
  obtain ⟨captured, hcaptured, rfl⟩ := resolve_eq_some.1 h
  -- what one of the two lists has more than the other takes no part
  rw [Bindings.names_ofList, List.zip_eq_zip_take_min, Token.map_fst_binding? (by simp),
    length_of_captures? hcaptured, Nat.min_comm, ← List.take_eq_take_min]

end Pattern

namespace Parameters

/-- The hash of parameters: what a hash of lists makes of their pairs in order. -/
def hashWith (hash : List (String × String) → Int) (p : Parameters) : Int := hash p.items

/-- Parameters that are made by the same steps with the same names, but maybe with other values: of
pairs with the same names, by one pattern from two paths, or from others that are made alike by
binding the same names in addition or anew. -/
inductive MadeAlike : Parameters → Parameters → Prop
  | pairs {pairs pairs' : List (String × String)}
      (hnames : pairs.map Prod.fst = pairs'.map Prod.fst) :
      MadeAlike (.ofList pairs) (.ofList pairs')
  | resolved {pattern : Pattern} {path path' : String} {p q : Parameters}
      (hp : pattern.resolve path = some p) (hq : pattern.resolve path' = some q) : MadeAlike p q
  | more {p q : Parameters} {pairs pairs' : List (String × String)} (h : MadeAlike p q)
      (hnames : pairs.map Prod.fst = pairs'.map Prod.fst) :
      MadeAlike (p.insertAll pairs) (q.insertAll pairs')

/-- No step lets the order of the names depend on the values. -/
theorem MadeAlike.names_eq {p q : Parameters} (h : MadeAlike p q) : p.names = q.names := by
  induction h with
  | pairs hnames => rw [Bindings.names_ofList, Bindings.names_ofList, hnames]
  | resolved hp hq => rw [Pattern.names_of_resolve hp, Pattern.names_of_resolve hq]
  | more _ hnames ih => rw [Bindings.names_insertAll, Bindings.names_insertAll, ih, hnames]

/-- Parameters are the same exactly if no hash tells them apart. -/
theorem same_iff_hashWith {p q : Parameters} :
    p.same q = true ↔ ∀ hash, p.hashWith hash = q.hashWith hash := by
  rw [Bindings.same, beq_iff_eq]
  constructor
  · intro hitems hash
    rw [hashWith, hashWith, hitems]
  · intro h
    -- the hash that tells the pairs of the first from all others
    have hpicked := h fun items => if items = p.items then 1 else 0
    by_contra hne
    simp [hashWith, Ne.symm hne] at hpicked

/-- **Equal parameters have the same hash exactly if their names come in the same order.** They are
equal if they have the same value of every name. Whatever the hash of lists is, equal parameters
that are made alike have the same hash; and parameters that no hash tells apart are equal. -/
theorem hashWith_eq_iff_of_agrees (p q : Parameters) :
    (p.agrees q = true ↔ ∀ name, p.get? name = q.get? name) ∧
    (p.agrees q = true →
      ((∀ hash, p.hashWith hash = q.hashWith hash) ↔ p.names = q.names)) ∧
    (MadeAlike p q → p.agrees q = true → ∀ hash, p.hashWith hash = q.hashWith hash) ∧
    ((∀ hash, p.hashWith hash = q.hashWith hash) → p.agrees q = true) := by
  have hhash : p.agrees q = true →
      ((∀ hash, p.hashWith hash = q.hashWith hash) ↔ p.names = q.names) := by
    intro h
    rw [← same_iff_hashWith, Bindings.same_iff_of_agrees h]
  refine ⟨Bindings.agrees_iff, hhash, fun halike h => (hhash h).2 halike.names_eq, fun h => ?_⟩
  have hitems : p.items = q.items := by simpa [Bindings.same] using same_iff_hashWith.2 h
  rw [Bindings.agrees_iff, ← Bindings.perm_items_iff, hitems]

/-- A name that is bound twice, and one that is bound anew later. -/
theorem hashWith_eq_iff_of_agrees_anew :
    ∃ p q : Parameters, MadeAlike p q ∧ p.agrees q = true ∧
      ∀ hash, p.hashWith hash = q.hashWith hash := by
  have halike : MadeAlike ((Bindings.ofList [("a", "1"), ("b", "2"), ("a", "3")]).insertAll
      [("b", "4")]) ((Bindings.ofList [("a", "3"), ("b", "9"), ("a", "3")]).insertAll
        [("b", "4")]) :=
    .more (.pairs rfl) rfl
  have hagrees : ((Bindings.ofList [("a", "1"), ("b", "2"), ("a", "3")]).insertAll
      [("b", "4")]).agrees ((Bindings.ofList [("a", "3"), ("b", "9"), ("a", "3")]).insertAll
        [("b", "4")]) = true := by decide +kernel
  exact ⟨_, _, halike, hagrees, (hashWith_eq_iff_of_agrees _ _).2.2.1 halike hagrees⟩

/-- Two pairs in one order and in the other make equal parameters, but they need not have the same
hash, and never have it where different lists have different hashes. -/
theorem exists_agrees_hashWith_ne :
    ∃ p q : Parameters, p = .ofList [("a", "1"), ("b", "2")] ∧
      q = .ofList [("b", "2"), ("a", "1")] ∧ p.agrees q = true ∧
      (∃ hash, p.hashWith hash ≠ q.hashWith hash) ∧
      ∀ hash : List (String × String) → Int, hash.Injective →
        p.hashWith hash ≠ q.hashWith hash := by
  let p : Parameters := .ofList [("a", "1"), ("b", "2")]
  let q : Parameters := .ofList [("b", "2"), ("a", "1")]
  have hagrees : p.agrees q = true := by decide +kernel
  have hsame : p.same q ≠ true := by decide +kernel
  refine ⟨p, q, rfl, rfl, hagrees, not_forall.1 (mt same_iff_hashWith.2 hsame), ?_⟩
  intro hash hinjective h
  have hitems : p.items = q.items := hinjective h
  exact hsame (beq_iff_eq.2 hitems)

end Parameters

end PathRouter
