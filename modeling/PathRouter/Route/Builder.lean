import PathRouter.Cache
import PathRouter.Route.Generation

/-!
# Building a generation

A builder takes one route after the other. It refuses a route beyond its greatest number of routes,
and one whose pattern is taken already for one of its methods; a route that is refused leaves the
builder as it was. `add_eq_ok` and `register_eq_ok` say exactly when a route is taken, and
`registerAll_append` and `registerAll_eq_error` how far a list of declarations is taken.
-/

set_option autoImplicit false

namespace PathRouter

/-- Which methods are taken for which patterns. -/
abbrev Taken := List (Pattern × List String)

/-- The methods that are taken for a pattern. -/
def Taken.methodsOf : Taken → Pattern → List String
  | [], _ => []
  | (q, methods) :: rest, p => if q.same p then methods else Taken.methodsOf rest p

/-- Takes more methods for a pattern. -/
def Taken.add : Taken → Pattern → List String → Taken
  | [], p, methods => [(p, methods)]
  | (q, held) :: rest, p, methods =>
    if q.same p then (q, Methods.union methods held) :: rest
    else (q, held) :: Taken.add rest p methods

/-- Taking methods for a pattern takes them for all patterns that are the same, and for no other. -/
theorem Taken.mem_methodsOf_add {taken : Taken} {p q : Pattern} {methods : List String}
    {m : String} :
    m ∈ (taken.add p methods).methodsOf q ↔
      m ∈ taken.methodsOf q ∨ (p.same q = true ∧ m ∈ methods) := by
  induction taken with
  | nil => by_cases h : p.same q = true <;> simp [add, methodsOf, h]
  | cons entry rest ih =>
      obtain ⟨held, names⟩ := entry
      by_cases hp : held.same p = true
      · have hq : held.same q = p.same q := by
          rw [Bool.eq_iff_iff, Pattern.same_iff, Pattern.same_iff, Pattern.same_iff.1 hp]
        by_cases h : p.same q = true
        · simp [add, methodsOf, hp, hq, h, or_comm]
        · simp [add, methodsOf, hp, hq, h]
      · by_cases hq : held.same q = true
        · have hpq : ¬ p.same q = true := by
            rw [Pattern.same_iff] at *
            exact fun e => hp (hq.trans e.symm)
          simp [add, methodsOf, hp, hq, hpq]
        · simpa [add, methodsOf, hp, hq] using ih

/-- The routes of a generation to come. The methods that are taken are those of the routes. -/
structure Builder (α : Type) where
  /-- The greatest number of routes, if there is one. -/
  limit? : Option Int := none
  /-- The routes, in the order in which they were added. -/
  routes : List (Route α) := []
  taken : Taken := []
  tracked : ∀ p m, m ∈ taken.methodsOf p ↔
    ∃ r ∈ routes, r.pattern.same p = true ∧ m ∈ r.methods := by simp [Taken.methodsOf]

/-- The compiled form of the pattern of a declaration. -/
def Cache.compileRef (c : Cache) : PatternRef → Except Failure Compiled × Cache
  | .source source? => c.compile source?
  | .made p =>
    let (compiled, c) := c.adopt p
    (.ok compiled, c)

namespace Builder

variable {α : Type}

/-- The number of routes. -/
def size (b : Builder α) : Nat := b.routes.length

/-- Whether there is room for one more route under a limit. -/
def hasRoom (b : Builder α) (limit : Int) : Bool := b.size < limit

/-- The builder after a route has been added. -/
def push (b : Builder α) (r : Route α) : Builder α where
  limit? := b.limit?
  routes := b.routes ++ [r]
  taken := b.taken.add r.pattern r.methods
  tracked p m := by simp [Taken.mem_methodsOf_add, b.tracked, or_and_right, exists_or]

@[simp] theorem push_routes (b : Builder α) (r : Route α) :
    (b.push r).routes = b.routes ++ [r] := rfl

@[simp] theorem push_limit? (b : Builder α) (r : Route α) : (b.push r).limit? = b.limit? := rfl

/-- The methods of a route for which its pattern is taken already. -/
def overlap (b : Builder α) (r : Route α) : List String :=
  Methods.inter (b.taken.methodsOf r.pattern) r.methods

/-- Adds a route unless its pattern is taken for one of its methods. -/
def take (b : Builder α) (r : Route α) : Except Failure (Builder α) :=
  if (b.overlap r).isEmpty then .ok (b.push r) else .error (.ambiguous r.source (b.overlap r))

/-- Adds a route. -/
def add (b : Builder α) (r : Route α) : Except Failure (Builder α) :=
  match b.limit? with
  | some limit => if b.hasRoom limit then b.take r else .error (.capped limit r.source none)
  | none => b.take r

/-- Adds the route of a declaration. Its methods are read first, then its pattern is compiled. -/
def register (b : Builder α) (cache : Cache) (d : Declaration α) :
    Except Failure (Route α × Builder α) × Cache :=
  match h : Methods.normalize d.methods with
  | .error e => (.error e, cache)
  | .ok methods =>
    match cache.compileRef d.pattern with
    | (.error e, cache) => (.error e, cache)
    | (.ok compiled, cache) =>
      let route : Route α :=
        { compiled, methods, payload := d.payload, ascending := Methods.ascending_of_normalize h }
      ((b.add route).map fun b => (route, b), cache)

/-! ## What a registration does -/

/-- No method of a route is taken for its pattern exactly if the route clashes with no other one. -/
theorem overlap_eq_nil_iff {b : Builder α} {r : Route α} :
    b.overlap r = [] ↔ ∀ held ∈ b.routes, ¬ r.Clashes held := by
  rw [overlap, List.eq_nil_iff_forall_not_mem]
  constructor
  · rintro h held hheld ⟨hsame, m, hm, hr⟩
    exact h m (Methods.mem_inter.2 ⟨(b.tracked _ _).2 ⟨held, hheld, hsame, hm⟩, hr⟩)
  · intro h m hm
    obtain ⟨htaken, hr⟩ := Methods.mem_inter.1 hm
    obtain ⟨held, hheld, hsame, hm⟩ := (b.tracked _ _).1 htaken
    exact h held hheld ⟨hsame, m, hm, hr⟩

theorem take_eq_ok {b b' : Builder α} {r : Route α} :
    b.take r = .ok b' ↔ b.overlap r = [] ∧ b' = b.push r := by
  unfold take
  by_cases h : b.overlap r = []
  · simp [h, eq_comm]
  · simp [h]

/-- A route is added exactly if there is room for it and it clashes with no other one. -/
theorem add_eq_ok {b b' : Builder α} {r : Route α} :
    b.add r = .ok b' ↔
      (∀ limit, b.limit? = some limit → b.hasRoom limit = true) ∧
        (∀ held ∈ b.routes, ¬ r.Clashes held) ∧ b' = b.push r := by
  rw [← overlap_eq_nil_iff]
  unfold add
  cases b.limit? with
  | none => simp [take_eq_ok]
  | some limit =>
      by_cases h : b.hasRoom limit = true
      · simp [h, take_eq_ok]
      · simp [h]

/-- A registration succeeds exactly if the methods are good, the pattern compiles, and the route of
the two can be added. -/
theorem register_eq_ok {b b' : Builder α} {cache cache' : Cache} {d : Declaration α}
    {r : Route α} :
    b.register cache d = (.ok (r, b'), cache') ↔
      Methods.normalize d.methods = .ok r.methods ∧
        cache.compileRef d.pattern = (.ok r.compiled, cache') ∧ r.payload = d.payload ∧
        b.add r = .ok b' := by
  unfold register
  split
  · next h => simp [h]
  · next methods h =>
    split
    · next hc => simp [hc]
    · next compiled cache₁ hc =>
      dsimp only
      rw [hc, Prod.mk.injEq, Outcome.map_eq_ok]
      constructor
      · rintro ⟨⟨added, hadded, hpair⟩, rfl⟩
        obtain ⟨rfl, rfl⟩ := Prod.mk.inj hpair
        exact ⟨h, rfl, rfl, hadded⟩
      · obtain ⟨rcompiled, rmethods, rpayload, rascending⟩ := r
        rintro ⟨hmethods, hcompiled, hpayload, hadded⟩
        obtain rfl := Except.ok.inj (h.symm.trans hmethods)
        obtain ⟨hok, rfl⟩ := Prod.mk.inj hcompiled
        obtain rfl := Except.ok.inj hok
        obtain rfl := hpayload
        exact ⟨⟨b', hadded, rfl⟩, rfl⟩

/-- A route that cannot be added clashes with another one, or there is no room for it. -/
theorem add_eq_error {b : Builder α} {r : Route α} {e : Failure} (h : b.add r = .error e) :
    (∃ source methods, e = .ambiguous source methods) ∨
      ∃ limit source, e = .capped limit source none := by
  have htake : b.take r = .error e → ∃ source methods, e = .ambiguous source methods := by
    intro h
    unfold take at h
    split at h
    · cases h
    · exact ⟨_, _, (Except.error.inj h).symm⟩
  unfold add at h
  split at h
  · split at h
    · exact .inl (htake h)
    · exact .inr ⟨_, _, (Except.error.inj h).symm⟩
  · exact .inl (htake h)

/-- A registration fails for its methods, for its pattern, or because the route cannot be added. -/
theorem register_eq_error {b : Builder α} {cache : Cache} {d : Declaration α} {e : Failure}
    (h : (b.register cache d).1 = .error e) :
    Methods.normalize d.methods = .error e ∨ (cache.compileRef d.pattern).1 = .error e ∨
      ∃ r, b.add r = .error e := by
  unfold register at h
  split at h
  · next hmethods =>
    cases h
    exact .inl hmethods
  · split at h
    · next hcompile =>
      cases h
      rw [hcompile]
      exact .inr (.inl rfl)
    · exact .inr (.inr ⟨_, Outcome.map_eq_error.1 h⟩)

/-- Adds the routes of declarations up to the first that is refused, which is told with its number;
the first of the list is number `index`. -/
def registerAll (b : Builder α) (cache : Cache) (index : Nat) :
    List (Declaration α) → Except (Nat × Declaration α × Failure) (Builder α) × Cache
  | [] => (.ok b, cache)
  | d :: rest =>
    match b.register cache d with
    | (.error e, cache) => (.error (index, d, e), cache)
    | (.ok (_, b), cache) => b.registerAll cache (index + 1) rest

/-- Declarations are registered one after the other: first some of them, then the others. -/
theorem registerAll_append (b : Builder α) (cache : Cache) (index : Nat)
    (ds es : List (Declaration α)) :
    b.registerAll cache index (ds ++ es) =
      match b.registerAll cache index ds with
      | (.ok b', cache') => b'.registerAll cache' (index + ds.length) es
      | (.error e, cache') => (.error e, cache') := by
  induction ds generalizing b cache index with
  | nil => rfl
  | cons d rest ih =>
      rw [List.cons_append, registerAll, registerAll]
      rcases b.register cache d with ⟨e | ⟨r, b'⟩, cache'⟩
      · rfl
      · have hindex : index + (d :: rest).length = index + 1 + rest.length := by
          rw [List.length_cons]
          omega
        rw [hindex]
        exact ih b' cache' (index + 1)

/-- The declaration that is told as refused is the first that is: those before it are registered. -/
theorem registerAll_eq_error {b : Builder α} {cache cache' : Cache} {index i : Nat}
    {ds : List (Declaration α)} {d : Declaration α} {e : Failure}
    (h : b.registerAll cache index ds = (.error (i, d, e), cache')) :
    ∃ before after b₁ cache₁, ds = before ++ d :: after ∧ i = index + before.length ∧
      b.registerAll cache index before = (.ok b₁, cache₁) ∧
      b₁.register cache₁ d = (.error e, cache') := by
  induction ds generalizing b cache index with
  | nil => cases h
  | cons first rest ih =>
      rw [registerAll] at h
      rcases hfirst : b.register cache first with ⟨e' | ⟨r, b'⟩, cache₁⟩
      · rw [hfirst] at h
        cases h
        exact ⟨[], rest, b, cache, rfl, rfl, rfl, hfirst⟩
      · rw [hfirst] at h
        obtain ⟨before, after, b₂, cache₂, rfl, rfl, hbefore, hd⟩ := ih h
        refine ⟨first :: before, after, b₂, cache₂, rfl, ?_, ?_, hd⟩
        · rw [List.length_cons]
          omega
        · rw [registerAll, hfirst]
          exact hbefore

/-- The generation of the routes. -/
def build (b : Builder α) (version : Int) : Generation α := .ofRoutes version b.routes

end Builder

end PathRouter
