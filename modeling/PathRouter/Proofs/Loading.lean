import PathRouter.Proofs.Soundness

set_option autoImplicit false

/-! # Loads are all or nothing

`Limits.Accepts` says of a list of declarations, without registering any of them, that they can be
registered together. A load succeeds for exactly these lists; it then makes one route of every
declaration, and otherwise leaves all that can be looked up as it was and tells the first
declaration at which the list ceases to be acceptable (`load_all_or_nothing`).

The registry may be in any state in which its cache has been filled by compiling alone: it has to be
sound.
-/

namespace PathRouter

open Text

variable {α : Type}

/-! ## The methods of a declaration -/

namespace Methods

/-- The names that a value lists; a value that is no list and no text lists none. -/
def named (v : Value) : List Value := (listed v).toOption.getD []

/-- A value lists at least one name, and no blank one. -/
def AllNamed (v : Value) : Prop :=
  named v ≠ [] ∧ ∀ name ∈ named v, ∃ s, name = .text s ∧ trim s ≠ ""

theorem nameOf_eq_ok {v : Value} {m : String} :
    nameOf v = .ok m ↔ ∃ s, v = .text s ∧ trim s ≠ "" ∧ m = upper (trim s) := by
  cases v with
  | text s =>
      by_cases h : trim s = ""
      · simp [nameOf, h]
      · simp only [nameOf, String.isEmpty_iff, h, if_false, Except.ok.injEq, Value.text.injEq]
        constructor
        · rintro rfl
          exact ⟨s, rfl, h, rfl⟩
        · rintro ⟨t, rfl, -, rfl⟩
          rfl
  | _ => simp [nameOf]

/-- The methods of a value are read exactly if they are all named. -/
theorem normalize_isOk_iff {v : Value} : (∃ ms, normalize v = .ok ms) ↔ AllNamed v := by
  have hread : (∃ names, (named v).mapM nameOf = .ok names) ↔
      ∀ name ∈ named v, ∃ s, name = .text s ∧ trim s ≠ "" := by
    simp [Outcome.mapM_isOk_iff, nameOf_eq_ok]
  rw [AllNamed, ← hread]
  constructor
  · rintro ⟨ms, h⟩
    obtain ⟨items, hitems, h⟩ := Outcome.bind_eq_ok.1 h
    obtain ⟨names, hnames, h⟩ := Outcome.bind_eq_ok.1 h
    have hnamed : named v = items := by simp [named, hitems, Except.toOption]
    rw [hnamed]
    refine ⟨?_, names, hnames⟩
    rintro rfl
    obtain rfl := Except.ok.inj hnames
    cases h
  · rintro ⟨hsome, names, hnames⟩
    cases hitems : listed v with
    | error e => simp [named, hitems, Except.toOption] at hsome
    | ok items =>
        have hnamed : named v = items := by simp [named, hitems, Except.toOption]
        rw [hnamed] at hsome hnames
        refine ⟨ofList names, Outcome.bind_eq_ok.2 ⟨items, hitems, ?_⟩⟩
        refine Outcome.bind_eq_ok.2 ⟨names, hnames, if_neg ?_⟩
        cases items with
        | nil => exact absurd rfl hsome
        | cons item rest =>
            obtain ⟨name, others, -, -, rfl⟩ := Outcome.mapM_cons_eq_ok.1 hnames
            simp

/-- Methods that are not read cannot be listed, or one of them is no name, or there are none. -/
theorem normalize_eq_error {v : Value} {e : Failure} (h : normalize v = .error e) :
    listed v = .error e ∨ (∃ name, e = .invalidMethod name) ∨ e = .noMethod := by
  rcases Outcome.bind_eq_error.1 h with hlisted | ⟨items, -, h⟩
  · exact .inl hlisted
  · rcases Outcome.bind_eq_error.1 h with hmap | ⟨ms, -, h⟩
    · obtain ⟨name, -, hname⟩ := Outcome.mapM_eq_error hmap
      unfold nameOf at hname
      split at hname
      · split at hname
        · exact .inr (.inl ⟨_, (Except.error.inj hname).symm⟩)
        · cases hname
      · exact .inr (.inl ⟨_, (Except.error.inj hname).symm⟩)
    · split at h
      · exact .inr (.inr (Except.error.inj h).symm)
      · cases h

/-- The methods of a value are the names that it lists, without blanks around them and in upper
case. -/
theorem mem_of_normalize {v : Value} {ms : List String} (h : normalize v = .ok ms) {m : String} :
    m ∈ ms ↔ ∃ s, .text s ∈ named v ∧ m = upper (trim s) := by
  have hall := (normalize_isOk_iff.1 ⟨ms, h⟩).2
  obtain ⟨items, hitems, h⟩ := Outcome.bind_eq_ok.1 h
  obtain ⟨names, hnames, h⟩ := Outcome.bind_eq_ok.1 h
  have hnamed : named v = items := by simp [named, hitems, Except.toOption]
  -- that there is a name at all has been checked last
  split at h
  · cases h
  · obtain rfl := Except.ok.inj h
    rw [mem_ofList, Outcome.mem_of_mapM_eq_ok hnames, ← hnamed]
    constructor
    · rintro ⟨name, hname, hm⟩
      obtain ⟨s, rfl, -, rfl⟩ := nameOf_eq_ok.1 hm
      exact ⟨s, hname, rfl⟩
    · rintro ⟨s, hs, rfl⟩
      obtain ⟨t, ht, hblank⟩ := hall _ hs
      obtain rfl := Value.text.inj ht
      exact ⟨_, hs, nameOf_eq_ok.2 ⟨s, rfl, hblank, rfl⟩⟩

end Methods

/-! ## What declarations say -/

/-- The route of a declaration: its pattern, its methods and its payload. -/
structure Declaration.Makes (validateDefaults : Bool) (d : Declaration α) (r : Route α) : Prop where
  pattern : d.pattern.pattern validateDefaults = .ok r.pattern
  methods : ∀ m, m ∈ r.methods ↔ ∃ s, .text s ∈ Methods.named d.methods ∧ m = upper (trim s)
  payload : r.payload = d.payload

/-- Two declarations have equal patterns and a common method, without blanks around it and in upper
case. -/
def Declaration.Clashes (validateDefaults : Bool) (d e : Declaration α) : Prop :=
  ∃ p q, d.pattern.pattern validateDefaults = .ok p ∧ e.pattern.pattern validateDefaults = .ok q ∧
    p.same q = true ∧ ∃ s t, .text s ∈ Methods.named d.methods ∧
      .text t ∈ Methods.named e.methods ∧ upper (trim s) = upper (trim t)

/-- Declarations that can be registered together: each has methods, all of them named, and a pattern
that compiles; there are not too many of them; and no two of them clash. -/
structure Limits.Accepts (l : Limits) (ds : List (Declaration α)) : Prop where
  named : ∀ d ∈ ds, Methods.AllNamed d.methods
  compiles : ∀ d ∈ ds, ∃ p, d.pattern.pattern l.validateDefaults = .ok p
  fits : ∀ limit, l.maxPatterns? = some limit → ds.length ≤ limit
  apart : ds.Pairwise fun d e => ¬ d.Clashes l.validateDefaults e

/-- Routes clash if their declarations do. -/
theorem Declaration.Makes.clashes_iff {validateDefaults : Bool} {d e : Declaration α}
    {r q : Route α} (hd : d.Makes validateDefaults r) (he : e.Makes validateDefaults q) :
    q.Clashes r ↔ d.Clashes validateDefaults e := by
  constructor
  · rintro ⟨hsame, m, hr, hq⟩
    obtain ⟨s, hs, rfl⟩ := (hd.methods m).1 hr
    obtain ⟨t, ht, hst⟩ := (he.methods _).1 hq
    exact ⟨_, _, hd.pattern, he.pattern, hsame, s, t, hs, ht, hst⟩
  · rintro ⟨p₁, p₂, hp₁, hp₂, hsame, s, t, hs, ht, hst⟩
    obtain rfl := Except.ok.inj (hd.pattern.symm.trans hp₁)
    obtain rfl := Except.ok.inj (he.pattern.symm.trans hp₂)
    exact ⟨hsame, upper (trim s), (hd.methods _).2 ⟨s, hs, rfl⟩, (he.methods _).2 ⟨t, ht, hst⟩⟩

namespace Limits

/-- One more declaration is acceptable after others if it is good by itself, has room, and clashes
with none of them. -/
theorem accepts_concat {l : Limits} {ds : List (Declaration α)} {d : Declaration α} :
    l.Accepts (ds ++ [d]) ↔
      l.Accepts ds ∧ Methods.AllNamed d.methods ∧
        (∃ p, d.pattern.pattern l.validateDefaults = .ok p) ∧
        (∀ limit, l.maxPatterns? = some limit → ds.length < limit) ∧
        ∀ e ∈ ds, ¬ e.Clashes l.validateDefaults d := by
  constructor
  · rintro ⟨hnamed, hcompiles, hfits, hapart⟩
    obtain ⟨hds, -, hd⟩ := List.pairwise_append.1 hapart
    have hroom : ∀ limit, l.maxPatterns? = some limit → (ds.length : Int) < limit := by
      intro limit hlimit
      have := hfits limit hlimit
      simp only [List.length_append, List.length_singleton] at this
      omega
    refine ⟨⟨?_, ?_, ?_, hds⟩, hnamed d (by simp), hcompiles d (by simp), hroom, ?_⟩
    · exact fun e he => hnamed e (List.mem_append_left _ he)
    · exact fun e he => hcompiles e (List.mem_append_left _ he)
    · intro limit hlimit
      have := hroom limit hlimit
      omega
    · exact fun e he => hd e he d (by simp)
  · rintro ⟨⟨hnamed, hcompiles, hfits, hapart⟩, hd, hp, hroom, hclash⟩
    refine ⟨?_, ?_, ?_, ?_⟩
    · intro e he
      rcases List.mem_append.1 he with he | he
      · exact hnamed e he
      · rwa [List.mem_singleton.1 he]
    · intro e he
      rcases List.mem_append.1 he with he | he
      · exact hcompiles e he
      · rwa [List.mem_singleton.1 he]
    · intro limit hlimit
      have := hroom limit hlimit
      simp only [List.length_append, List.length_singleton]
      omega
    · refine List.pairwise_append.2 ⟨hapart, List.pairwise_singleton _ _, ?_⟩
      intro e he f hf
      rw [List.mem_singleton.1 hf]
      exact hclash e he

/-- The first declarations of an acceptable list are acceptable. -/
theorem Accepts.take {l : Limits} {ds : List (Declaration α)} (h : l.Accepts ds) (n : Nat) :
    l.Accepts (ds.take n) := by
  refine ⟨fun d hd => h.named d (List.mem_of_mem_take hd),
    fun d hd => h.compiles d (List.mem_of_mem_take hd), ?_,
    h.apart.sublist (List.take_sublist n ds)⟩
  intro limit hlimit
  have hfits := h.fits limit hlimit
  have hlength := List.length_take_le' n ds
  omega

end Limits

/-! ## One registration -/

/-- What stands on the left of a pairing has a partner on the right. -/
theorem exists_right_of_forall₂ {β γ : Type} {R : β → γ → Prop} {bs : List β} {cs : List γ}
    (h : List.Forall₂ R bs cs) {b : β} (hb : b ∈ bs) : ∃ c ∈ cs, R b c := by
  induction h with
  | nil => cases hb
  | @cons b' c' _ _ hfirst _ ih =>
      rcases List.mem_cons.1 hb with rfl | hb
      · exact ⟨c', List.mem_cons_self .., hfirst⟩
      · obtain ⟨c, hc, hbc⟩ := ih hb
        exact ⟨c, List.mem_cons_of_mem _ hc, hbc⟩

namespace Builder

/-- A registration that succeeds adds the route that the declaration makes. -/
theorem makes_of_register {b b' : Builder α} {c c' : Cache} {d : Declaration α} {r : Route α}
    (hc : c.Faithful) (h : b.register c d = (.ok (r, b'), c')) :
    d.Makes c.options.validateDefaults r := by
  obtain ⟨hmethods, hcompiled, hpayload, -⟩ := register_eq_ok.1 h
  obtain ⟨-, -, hpattern⟩ := hc.compileRef d.pattern
  rw [hcompiled] at hpattern
  exact ⟨hpattern.symm, fun m => Methods.mem_of_normalize hmethods, hpayload⟩

/-- A registration succeeds exactly if the declaration is good by itself, has room, and clashes with
none of those that made the routes of the builder. -/
theorem register_isOk_iff {b : Builder α} {c : Cache} (hc : c.Faithful)
    {ds : List (Declaration α)} {d : Declaration α}
    (hds : List.Forall₂ (Declaration.Makes c.options.validateDefaults) ds b.routes) :
    (∃ r b', (b.register c d).1 = .ok (r, b')) ↔
      Methods.AllNamed d.methods ∧
        (∃ p, d.pattern.pattern c.options.validateDefaults = .ok p) ∧
        (∀ limit, b.limit? = some limit → ds.length < limit) ∧
        ∀ e ∈ ds, ¬ e.Clashes c.options.validateDefaults d := by
  have hsize : b.size = ds.length := hds.length_eq.symm
  obtain ⟨-, -, hcompile⟩ := hc.compileRef d.pattern
  constructor
  · rintro ⟨r, b', h⟩
    have hreg : b.register c d = (.ok (r, b'), (b.register c d).2) := Prod.ext h rfl
    have hmakes := makes_of_register hc hreg
    obtain ⟨hmethods, -, -, hadd⟩ := register_eq_ok.1 hreg
    obtain ⟨hroom, hclash, -⟩ := add_eq_ok.1 hadd
    refine ⟨Methods.normalize_isOk_iff.1 ⟨_, hmethods⟩, ⟨_, hmakes.pattern⟩, ?_, ?_⟩
    · intro limit hlimit
      have := hroom limit hlimit
      rwa [hasRoom, decide_eq_true_eq, hsize] at this
    · intro e he
      obtain ⟨held, hheld, heheld⟩ := exists_right_of_forall₂ hds he
      exact fun hed => hclash held hheld ((heheld.clashes_iff hmakes).2 hed)
  · rintro ⟨hnamed, ⟨p, hp⟩, hroom, hclash⟩
    obtain ⟨methods, hmethods⟩ := Methods.normalize_isOk_iff.2 hnamed
    rw [hp] at hcompile
    obtain ⟨compiled, hcompiled, hpattern⟩ := Outcome.map_eq_ok.1 hcompile
    let r : Route α :=
      { compiled, methods, payload := d.payload
        ascending := Methods.ascending_of_normalize hmethods }
    have hregister : ∀ b', b.add r = .ok b' → (b.register c d).1 = .ok (r, b') := fun b' hadd =>
      congrArg Prod.fst (register_eq_ok.2 ⟨hmethods, Prod.ext hcompiled rfl, rfl, hadd⟩)
    have hmakes : d.Makes c.options.validateDefaults r :=
      ⟨by rw [hp, ← hpattern]; rfl, fun m => Methods.mem_of_normalize hmethods, rfl⟩
    refine ⟨r, b.push r, hregister _ (add_eq_ok.2 ⟨?_, ?_, rfl⟩)⟩
    · intro limit hlimit
      rw [hasRoom, decide_eq_true_eq, hsize]
      exact hroom limit hlimit
    · intro held hheld hheldr
      obtain ⟨e, he, heheld⟩ := exists_right_of_forall₂ hds.flip hheld
      exact hclash e he ((heheld.clashes_iff hmakes).1 hheldr)

/-! ## Registering a list -/

/-- **Registering a list of declarations succeeds exactly if they are acceptable**, and then makes
one route of each. The induction goes along the list from its front, one more declaration at the end
each time: what is known of the routes so far is that they are made of the declarations so far. -/
theorem registerAll_spec {l : Limits} (hlimit : ∀ limit, l.maxPatterns? = some limit → 1 ≤ limit)
    {c : Cache} (hc : c.Faithful) (hoptions : c.options.validateDefaults = l.validateDefaults)
    (ds : List (Declaration α)) :
    ∃ result c', ({ limit? := l.maxPatterns? } : Builder α).registerAll c 0 ds = (result, c') ∧
      c'.Faithful ∧ c'.options = c.options ∧
      match result with
      | .ok b => l.Accepts ds ∧ b.limit? = l.maxPatterns? ∧
          List.Forall₂ (Declaration.Makes l.validateDefaults) ds b.routes
      | .error _ => ¬ l.Accepts ds := by
  induction ds using List.reverseRecOn with
  | nil =>
      refine ⟨_, _, rfl, hc, rfl, ⟨?_, ?_, ?_, ?_⟩, rfl, .nil⟩
      · simp
      · simp
      · intro limit hl
        have := hlimit limit hl
        simp only [List.length_nil]
        omega
      · exact List.Pairwise.nil
  | append_singleton ds d ih =>
      obtain ⟨result, c₁, hrun, hfaithful, hsame, hresult⟩ := ih
      rw [registerAll_append, hrun, Limits.accepts_concat]
      cases result with
      | error e => exact ⟨_, _, rfl, hfaithful, hsame, fun h => hresult h.1⟩
      | ok b =>
          obtain ⟨haccepts, hb, hmakes⟩ := hresult
          have hvalidate : c₁.options.validateDefaults = l.validateDefaults := by
            rw [hsame, hoptions]
          obtain ⟨hfaithful₂, hsame₂⟩ := faithful_register (b := b) hfaithful d
          have hiff := register_isOk_iff hfaithful (d := d) (by rwa [hvalidate])
          rw [hvalidate, hb] at hiff
          simp only [registerAll]
          rcases hd : b.register c₁ d with ⟨e | ⟨r, b'⟩, c₂⟩
          · rw [hd] at hfaithful₂ hsame₂ hiff
            refine ⟨_, _, rfl, hfaithful₂, hsame₂.trans hsame, ?_⟩
            rintro ⟨-, hgood⟩
            obtain ⟨r, b', h⟩ := hiff.2 hgood
            cases h
          · have hmade := makes_of_register hfaithful hd
            obtain ⟨-, -, -, hadd⟩ := register_eq_ok.1 hd
            obtain ⟨-, -, rfl⟩ := add_eq_ok.1 hadd
            rw [hd] at hfaithful₂ hsame₂ hiff
            refine ⟨_, _, rfl, hfaithful₂, hsame₂.trans hsame, ⟨haccepts, ?_⟩, hb, ?_⟩
            · exact hiff.1 ⟨r, _, rfl⟩
            · rw [push_routes]
              rw [hvalidate] at hmade
              exact List.rel_append hmakes (.cons hmade .nil)

/-! ## Failures of a registration -/

/-- A registration never fails as a load does. -/
theorem register_ne_declaration {b : Builder α} {c : Cache} {d : Declaration α} {e : Failure}
    (h : (b.register c d).1 = .error e) (index : Nat) (source : Option String)
    (cause : Failure) : e ≠ .declaration index source cause := by
  rintro rfl
  rcases register_eq_error h with hmethods | hpattern | ⟨r, hadd⟩
  · rcases Methods.normalize_eq_error hmethods with hlisted | ⟨name, hname⟩ | hnone
    · unfold Methods.listed at hlisted
      split at hlisted <;> cases hlisted
    · cases hname
    · cases hnone
  · obtain ⟨source?, validateDefaults, -, hparse⟩ := Cache.compileRef_eq_error hpattern
    rcases Pattern.parse?_eq_error hparse with ⟨-, verb, hverb⟩ | ⟨s, e', -, -, he⟩
    · cases hverb
    · cases he
  · rcases add_eq_error hadd with ⟨s, methods, hambiguous⟩ | ⟨limit, s, hcapped⟩
    · cases hambiguous
    · cases hcapped

end Builder

/-- What a load makes of the failure of a registration tells the number of the declaration, if it is
reported as the failure of a load at all. -/
theorem Failure.index_of_report_atDeclaration {e : Failure} {index : Nat} {source : Option String}
    (he : ∀ index source cause, e ≠ .declaration index source cause) {message : String}
    {index? : Option Int} {pattern : Option String} {details : List (String × Value)}
    {cause : Option Report}
    (h : (e.atDeclaration index source).report = .load message index? pattern details cause) :
    index? = some (index : Int) := by
  cases e with
  | declaration i s c => exact absurd rfl (he i s c)
  | capped limit source' i =>
      cases h
      rfl
  | pattern e =>
      unfold atDeclaration at h
      dsimp only at h
      split at h
      · cases h
        rfl
      · rcases e with (e | e) | _ <;> cases h
  | config e => cases e <;> cases h
  | _ =>
      cases h
      try rfl

/-! ## Loads -/

namespace Registry

/-- A load of some declarations succeeds. -/
def Loads (r : Registry α) (ds : List (Declaration α)) : Prop := ∃ g, (r.load ds).1 = .ok g

theorem loads_iff {r : Registry α} (hr : r.Sound) (ds : List (Declaration α)) :
    r.Loads ds ↔ r.limits.Accepts ds := by
  obtain ⟨result, c, hrun, -, -, hresult⟩ :=
    Builder.registerAll_spec hr.limit hr.faithful hr.validates ds
  unfold Loads load builder
  rw [hrun]
  cases result with
  | error e =>
      constructor
      · rintro ⟨g, hg⟩
        cases hg
      · intro h
        exact absurd h hresult
  | ok b => exact ⟨fun _ => hresult.1, fun _ => ⟨_, rfl⟩⟩

/-- A load that succeeds makes the live generation, one route of every declaration. -/
theorem load_eq_ok {r : Registry α} (hr : r.Sound) {ds : List (Declaration α)} {g : Generation α}
    (h : (r.load ds).1 = .ok g) :
    (r.load ds).2.generation? = some g ∧ (r.load ds).2.version = r.version + 1 ∧
      g.version = r.version + 1 ∧
      ∃ routes, g.routes.Perm routes ∧
        List.Forall₂ (Declaration.Makes r.limits.validateDefaults) ds routes := by
  obtain ⟨result, c, hrun, -, -, hresult⟩ :=
    Builder.registerAll_spec hr.limit hr.faithful hr.validates ds
  unfold load builder at h ⊢
  rw [hrun] at h ⊢
  cases result with
  | error e => cases h
  | ok b =>
      obtain rfl := Except.ok.inj h
      exact ⟨rfl, rfl, rfl, b.routes, Generation.perm_ofRoutes _ _, hresult.2.2⟩

/-- A load that fails leaves the live generation, the version and the pending routes as they are. -/
theorem load_eq_error {r : Registry α} {ds : List (Declaration α)} {e : Failure}
    (h : (r.load ds).1 = .error e) :
    (r.load ds).2.generation? = r.generation? ∧ (r.load ds).2.version = r.version ∧
      (r.load ds).2.pending? = r.pending? := by
  unfold load at h ⊢
  split at h
  · cases h
  · exact ⟨rfl, rfl, rfl⟩

/-- The number that a failed load tells is that of the first declaration that cannot be registered
together with those before it. -/
theorem isLeast_of_load {r : Registry α} (hr : r.Sound) {ds : List (Declaration α)} {e : Failure}
    (h : (r.load ds).1 = .error e) {message : String} {index? : Option Int}
    {pattern : Option String} {details : List (String × Value)} {cause : Option Report}
    (hreport : e.report = .load message index? pattern details cause) :
    ∃ i : Nat, index? = some (i : Int) ∧
      IsLeast {i | r.Loads (ds.take i) ∧ ¬ r.Loads (ds.take (i + 1))} i := by
  rcases hrun : r.builder.registerAll r.cache 0 ds with ⟨⟨index, d, cause'⟩ | b, c⟩
  · have he : e = cause'.atDeclaration index d.pattern.source? := by
      unfold load at h
      rw [hrun] at h
      exact (Except.error.inj h).symm
    -- the declarations before the one that failed have all been registered
    obtain ⟨before, after, b₁, c₁, rfl, hindex, hbefore, hd⟩ := Builder.registerAll_eq_error hrun
    obtain rfl : index = before.length := by omega
    have htake : (before ++ d :: after).take before.length = before := by simp
    have htake' : (before ++ d :: after).take (before.length + 1) = before ++ [d] := by
      simp [List.take_append]
    refine ⟨before.length, ?_, ⟨?_, ?_⟩, ?_⟩
    · rw [he] at hreport
      exact Failure.index_of_report_atDeclaration
        (Builder.register_ne_declaration (congrArg Prod.fst hd)) hreport
    · rw [htake]
      unfold Loads load
      rw [hbefore]
      exact ⟨_, rfl⟩
    · rw [htake']
      unfold Loads load
      rw [Builder.registerAll_append, hbefore]
      simp only [Builder.registerAll, hd]
      rintro ⟨g, hg⟩
      cases hg
    · -- a shorter list would be acceptable, being the beginning of one that is
      rintro j ⟨-, hj⟩
      by_contra hlt
      have hle : j + 1 ≤ before.length := by omega
      have haccepts : r.limits.Accepts before := by
        rw [← loads_iff hr]
        unfold Loads load
        rw [hbefore]
        exact ⟨_, rfl⟩
      have hprefix : (before ++ d :: after).take (j + 1) = before.take (j + 1) :=
        List.take_append_of_le_length hle
      rw [loads_iff hr, hprefix] at hj
      exact hj (haccepts.take (j + 1))
  · unfold load at h
    rw [hrun] at h
    cases h

/-- **A load is all or nothing and decides exactly.** It succeeds exactly for acceptable
declarations. If it does, the live generation is a new one with one route of every declaration; if
it does not, the live generation, the version and the pending routes are as before, and the number
that the failure tells is the least `i` such that the first `i` declarations can be loaded and the
first `i + 1` cannot. -/
theorem load_all_or_nothing {r : Registry α} (hr : r.Sound) (ds : List (Declaration α)) :
    (r.Loads ds ↔ r.limits.Accepts ds) ∧
      (∀ g, (r.load ds).1 = .ok g →
        (r.load ds).2.generation? = some g ∧ (r.load ds).2.version = r.version + 1 ∧
          g.version = r.version + 1 ∧
          ∃ routes, g.routes.Perm routes ∧
            List.Forall₂ (Declaration.Makes r.limits.validateDefaults) ds routes) ∧
      (∀ e, (r.load ds).1 = .error e →
        (r.load ds).2.generation? = r.generation? ∧ (r.load ds).2.version = r.version ∧
          (r.load ds).2.pending? = r.pending? ∧
          ∀ message index? pattern details cause,
            e.report = .load message index? pattern details cause →
            ∃ i : Nat, index? = some (i : Int) ∧
              IsLeast {i | r.Loads (ds.take i) ∧ ¬ r.Loads (ds.take (i + 1))} i) := by
  refine ⟨loads_iff hr ds, fun g hg => load_eq_ok hr hg, ?_⟩
  intro e he
  obtain ⟨hgeneration, hversion, hpending⟩ := load_eq_error he
  exact ⟨hgeneration, hversion, hpending, fun _ _ _ _ _ hreport => isLeast_of_load hr he hreport⟩

/-- A load of two routes of one pattern with a common method fails at the second. -/
theorem load_all_or_nothing_clash :
    ∃ (r : Registry Nat) (ds : List (Declaration Nat)) (e : Failure), r.Sound ∧
      (r.load ds).1 = .error e ∧ ¬ r.limits.Accepts ds ∧ (r.load ds).2.pending? = r.pending? ∧
      IsLeast {i | r.Loads (ds.take i) ∧ ¬ r.Loads (ds.take (i + 1))} 1 := by
  let limits : Limits := { maxPatterns? := some 2 }
  let r : Registry Nat := { limits, cache := .ofOptions limits.cacheOptions, pending? := some {} }
  let ds : List (Declaration Nat) :=
    [⟨.source (some "/{a}"), .text "get", 0⟩, ⟨.source (some "/{a}"), .text " GET ", 1⟩]
  have hr : r.Sound := by
    refine ⟨?_, rfl, Cache.faithful_ofOptions _⟩
    intro limit hlimit
    obtain rfl : 2 = limit := Option.some.inj hlimit
    decide
  have hrun : (match (r.load ds).1 with
      | .ok _ => none
      | .error e => match e.report with
        | .load _ index? _ _ _ => index?
        | _ => none) = some 1 := by decide +kernel
  obtain ⟨hiff, -, hfailed⟩ := load_all_or_nothing hr ds
  cases hload : (r.load ds).1 with
  | ok g =>
      rw [hload] at hrun
      cases hrun
  | error e =>
      rw [hload] at hrun
      obtain ⟨-, -, hpending, hindex⟩ := hfailed e hload
      refine ⟨r, ds, e, hr, hload, ?_, hpending, ?_⟩
      · rw [← hiff]
        rintro ⟨g, hg⟩
        rw [hload] at hg
        cases hg
      · dsimp only at hrun
        split at hrun
        · next message index? pattern details cause hreport =>
          obtain ⟨i, hi, hleast⟩ := hindex _ _ _ _ _ hreport
          rw [hi] at hrun
          obtain rfl : i = 1 := by simpa using hrun
          exact hleast
        · cases hrun

end Registry

end PathRouter
