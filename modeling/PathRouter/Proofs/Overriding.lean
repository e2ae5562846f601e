import PathRouter.Proofs.Doubles
import PathRouter.Proofs.Shadowing

set_option autoImplicit false

/-! # Overriding settings

Reading settings and overriding them are the same: each setting gets the entry of its name, in its
own kind, or keeps what it was, and the outcome is checked as a whole (`ofBindings_eq_ok_iff`,
`withOverrides_eq_ok_iff`). A value that has been read is of the kind of its setting and is read
again as itself (`Setting.Holds`, `Setting.coerce_of_holds`). So settings that have been read may be
overridden by reading their values together with the overrides (`overrides_agree`).
-/

namespace PathRouter

open Outcome

namespace Value

/-- What a value from outside stands for: a text stands for what it spells. -/
def spelt : Value → Value
  | .text t => .ofText t
  | v => v

theorem isNull_iff {v : Value} : v.isNull = true ↔ v = .null := by
  cases v <;> simp [isNull]

end Value

/-- Of two maps put together the second hides the first. -/
theorem Bindings.get?_insertAll_items {α : Type} (a b : Bindings α) (name : String) :
    (a.insertAll b.items).get? name = (b.get? name).or (a.get? name) := by
  rw [get?_insertAll, lookup_reverse_items]

/-! ## Single settings -/

namespace Setting

/-- The values that are of the kind of a setting. -/
def Holds : Setting → Value → Prop
  | .cacheSize, v => ∃ n, v = .int n
  | .cacheTtl, v => v = .null ∨ ∃ x, v = .float x
  | .validateDefaults, v => ∃ b, v = .bool b
  | .maxPatterns, v => v = .null ∨ ∃ n, v = .int n

theorem coerce_eq (s : Setting) (v : Value) : s.coerce v = s.convert v.spelt := by
  cases v <;> rfl

/-- A value of the kind of a setting stays as it is. -/
theorem coerce_of_holds {s : Setting} {v : Value} (h : s.Holds v) : s.coerce v = .ok v := by
  cases s with
  | cacheSize =>
      obtain ⟨n, rfl⟩ := h
      rfl
  | cacheTtl =>
      obtain rfl | ⟨x, rfl⟩ := h
      · rfl
      · rfl
  | validateDefaults =>
      obtain ⟨b, rfl⟩ := h
      rfl
  | maxPatterns =>
      obtain rfl | ⟨n, rfl⟩ := h
      · rfl
      · rfl

/-- A number is refused as an integer, or is one that can be written out if the number can. -/
theorem asInteger_cases (s : Setting) (v : Value) :
    (∃ n, s.asInteger v = .ok (.int n) ∧ (v.isWritable = true → (Value.int n).isWritable = true)) ∨
      ∃ f, s.asInteger v = refuse f ∧ f.isWritable = v.isWritable := by
  cases v with
  | int n => exact .inl ⟨n, rfl, id⟩
  | float x =>
      rw [asInteger]
      cases hx : Decimal.toInt? x with
      | none => exact .inr ⟨_, rfl, rfl⟩
      | some n =>
          refine .inl ⟨n, rfl, fun _ => ?_⟩
          rw [Value.isWritable, decide_eq_true_iff]
          exact Decimal.toInt?_lt hx
  | _ => exact .inr ⟨_, rfl, rfl⟩

/-- A number is a duration, or an integer that is too large for one; anything else is refused. -/
theorem asDuration_cases (s : Setting) (v : Value) :
    (∃ x, s.asDuration v = .ok (.float x)) ∨
      (∃ f, s.asDuration v = refuse f ∧ f.isWritable = v.isWritable) ∨
      ∃ n, v = .int n ∧ Decimal.ofInt? n = none ∧ s.asDuration v = .error .tooLarge := by
  cases v with
  | int n =>
      rw [asDuration]
      cases hn : Decimal.ofInt? n with
      | none => exact .inr (.inr ⟨n, rfl, hn, rfl⟩)
      | some x => exact .inl ⟨x, rfl⟩
  | float x => exact .inl ⟨x, rfl⟩
  | _ => exact .inr (.inl ⟨_, rfl, rfl⟩)

theorem asTruth_cases (s : Setting) (v : Value) :
    (∃ b, s.asTruth v = .ok (.bool b)) ∨
      ∃ f, s.asTruth v = refuse f ∧ f.isWritable = v.isWritable := by
  rw [asTruth]
  cases v.truth? with
  | none => exact .inr ⟨_, rfl, rfl⟩
  | some b => exact .inl ⟨b, rfl⟩

/-- **How bringing a value into the kind of a setting ends**: with a value of that kind, which can
be written out if the first one can; with a fault that can be worded if the value can be written
out; or, for a duration, with an integer that is too large for a double. -/
theorem convert_cases (s : Setting) (v : Value) :
    (∃ w, s.convert v = .ok w ∧ s.Holds w ∧ (v.isWritable = true → w.isWritable = true)) ∨
      (∃ f, s.convert v = refuse f ∧ f.isWritable = v.isWritable) ∨
      s = .cacheTtl ∧ ∃ n, v = .int n ∧ Decimal.ofInt? n = none ∧
        s.convert v = .error .tooLarge := by
  unfold convert
  by_cases hnull : v.isNull = true
  · obtain rfl := Value.isNull_iff.1 hnull
    cases s with
    | cacheTtl | maxPatterns => exact .inl ⟨.null, rfl, .inl rfl, id⟩
    | cacheSize | validateDefaults => exact .inr (.inl ⟨_, rfl, rfl⟩)
  rw [if_neg hnull]
  cases s with
  | cacheSize =>
      obtain ⟨n, h, hwritable⟩ | ⟨f, h, hwritable⟩ := asInteger_cases .cacheSize v
      · exact .inl ⟨_, h, ⟨n, rfl⟩, hwritable⟩
      · exact .inr (.inl ⟨f, h, hwritable⟩)
  | cacheTtl =>
      obtain ⟨x, h⟩ | ⟨f, h, hwritable⟩ | ⟨n, hv, hlarge, h⟩ := asDuration_cases .cacheTtl v
      · exact .inl ⟨_, h, .inr ⟨x, rfl⟩, fun _ => rfl⟩
      · exact .inr (.inl ⟨f, h, hwritable⟩)
      · exact .inr (.inr ⟨rfl, n, hv, hlarge, h⟩)
  | validateDefaults =>
      obtain ⟨b, h⟩ | ⟨f, h, hwritable⟩ := asTruth_cases .validateDefaults v
      · exact .inl ⟨_, h, ⟨b, rfl⟩, fun _ => rfl⟩
      · exact .inr (.inl ⟨f, h, hwritable⟩)
  | maxPatterns =>
      obtain ⟨n, h, hwritable⟩ | ⟨f, h, hwritable⟩ := asInteger_cases .maxPatterns v
      · exact .inl ⟨_, h, .inr ⟨n, rfl⟩, hwritable⟩
      · exact .inr (.inl ⟨f, h, hwritable⟩)

theorem holds_of_coerce {s : Setting} {v w : Value} (h : s.coerce v = .ok w) : s.Holds w := by
  rw [coerce_eq] at h
  obtain ⟨w', hw, hholds, -⟩ | ⟨f, hf, -⟩ | ⟨-, -, -, -, hlarge⟩ := convert_cases s v.spelt
  · rw [hw] at h
    exact Except.ok.inj h ▸ hholds
  · rw [hf] at h
    cases h
  · rw [hlarge] at h
    cases h

theorem ofName?_name (s : Setting) : ofName? s.name = some s := by
  cases s <;> decide

theorem name_injective {s t : Setting} (h : s.name = t.name) : s = t := by
  have hs := ofName?_name s
  rw [h, ofName?_name] at hs
  exact (Option.some.inj hs).symm

theorem name_of_ofName? {name : String} {s : Setting} (h : ofName? name = some s) :
    s.name = name := by
  simpa using List.find?_some h

end Setting

namespace Settings

theorem ext_get {c c' : Settings} (h : ∀ s, c.get s = c'.get s) : c = c' := by
  obtain ⟨size, ttl, validates, most⟩ := c
  obtain ⟨size', ttl', validates', most'⟩ := c'
  obtain rfl : size = size' := h .cacheSize
  obtain rfl : ttl = ttl' := h .cacheTtl
  obtain rfl : validates = validates' := h .validateDefaults
  obtain rfl : most = most' := h .maxPatterns
  rfl

theorem set_get (c : Settings) (s : Setting) : c.set s (c.get s) = c := by
  cases s <;> rfl

/-! ## Settings from bindings -/

/-- A setting is read if there is something that it takes. -/
theorem take_of_takes {data : Bindings Value} {c : Settings} {s : Setting} {v : Value}
    (h : Takes (data.get? s.name) s (c.get s) v) : take data c s = .ok (c.set s v) := by
  rw [take]
  cases hentry : data.get? s.name with
  | none =>
      rw [hentry] at h
      obtain rfl : v = c.get s := h
      rw [set_get]
  | some entry =>
      rw [hentry] at h
      exact bind_eq_ok.2 ⟨v, h, rfl⟩

theorem foldlM_take_of_takes {data : Bindings Value} {settings : List Setting}
    (hnodup : settings.Nodup) {c c' : Settings}
    (htakes : ∀ s ∈ settings, Takes (data.get? s.name) s (c.get s) (c'.get s))
    (hother : ∀ s, s ∉ settings → c'.get s = c.get s) : settings.foldlM (take data) c = .ok c' := by
  induction settings generalizing c with
  | nil =>
      obtain rfl : c' = c := ext_get fun s => hother s List.not_mem_nil
      rfl
  | cons s rest ih =>
      obtain ⟨hs, hrest⟩ := List.nodup_cons.1 hnodup
      have hfirst := take_of_takes (htakes s (List.mem_cons_self ..))
      refine bind_eq_ok.2 ⟨_, hfirst, ih hrest (fun t ht => ?_) fun t ht => ?_⟩
      · have hne : t ≠ s := fun h => hs (h ▸ ht)
        rw [get_set, if_neg hne]
        exact htakes t (List.mem_cons_of_mem _ ht)
      · rw [get_set]
        split
        · next h => rw [h]
        · next h => exact hother t fun hmem => (List.mem_cons.1 hmem).elim h ht

/-- All names in `data` are names of settings. -/
def Known (data : Bindings Value) : Prop :=
  ∀ name, data.get? name ≠ none → Setting.ofName? name ≠ none

/-- What settings become: each of those of `c` takes the entry of its name or stays, and the outcome
passes the check. -/
structure Becomes (data : Bindings Value) (c c' : Settings) : Prop where
  known : Known data
  takes : ∀ s, Takes (data.get? s.name) s (c.get s) (c'.get s)
  checked : c'.check = .ok c'

theorem known_iff {data : Bindings Value} :
    (data.names.filter fun name => (Setting.ofName? name).isNone).isEmpty = true ↔ Known data := by
  simp only [List.isEmpty_iff, List.filter_eq_nil_iff, Bindings.mem_names_iff, Known,
    Option.isNone_iff_eq_none, ne_eq]

theorem ofBindings_of_known {data : Bindings Value} (h : Known data) :
    ofBindings data = Setting.all.foldlM (take data) {} >>= check := by
  unfold ofBindings
  dsimp only
  rw [if_pos (known_iff.2 h)]

/-- **Settings are read from bindings as the defaults become.** -/
theorem ofBindings_eq_ok_iff {data : Bindings Value} {c : Settings} :
    ofBindings data = .ok c ↔ Becomes data {} c := by
  constructor
  · intro h
    have htakes := takes_of_ofBindings h
    unfold ofBindings at h
    dsimp only at h
    split at h
    · next hunknown =>
      obtain ⟨taken, -, hcheck⟩ := bind_eq_ok.1 h
      obtain rfl := check_eq_ok hcheck
      exact ⟨known_iff.1 hunknown, htakes, hcheck⟩
    · cases h
  · rintro ⟨hknown, htakes, hcheck⟩
    have hfold : Setting.all.foldlM (take data) {} = .ok c :=
      foldlM_take_of_takes (by decide) (fun s _ => htakes s)
        fun s hs => absurd (by cases s <;> decide) hs
    rw [ofBindings_of_known hknown]
    exact bind_eq_ok.2 ⟨c, hfold, hcheck⟩

/-! ## Settings with overrides -/

/-- Changes the setting of a name to a value from outside. -/
def override (c : Settings) (entry : String × Value) : Except ConfigError Settings := do
  let s ← Setting.named entry.1
  return c.set s (← s.coerce entry.2)

theorem withOverrides_eq (c : Settings) (o : Bindings Value) :
    c.withOverrides o = o.items.foldlM override c >>= check := rfl

theorem override_eq_ok {c c' : Settings} {name : String} {v : Value} :
    override c (name, v) = .ok c' ↔
      ∃ s w, Setting.ofName? name = some s ∧ s.coerce v = .ok w ∧ c' = c.set s w := by
  rw [override, bind_eq_ok]
  constructor
  · rintro ⟨s, hs, h⟩
    obtain ⟨w, hw, h⟩ := bind_eq_ok.1 h
    rw [Setting.named] at hs
    split at hs
    · next hname =>
      obtain rfl := Except.ok.inj hs
      exact ⟨_, w, hname, hw, (Except.ok.inj h).symm⟩
    · cases hs
  · rintro ⟨s, w, hs, hw, rfl⟩
    refine ⟨s, ?_, bind_eq_ok.2 ⟨w, hw, rfl⟩⟩
    rw [Setting.named, hs]

/-- With one more entry in front, the setting of that entry takes it and the others take what the
rest holds for them. -/
theorem takes_cons_iff {s : Setting} {v : Value} {rest : List (String × Value)}
    (hrest : rest.lookup s.name = none) {c c' : Settings} :
    (∀ t : Setting, Takes (((s.name, v) :: rest).lookup t.name) t (c.get t) (c'.get t)) ↔
      ∃ w, s.coerce v = .ok w ∧
        ∀ t : Setting, Takes (rest.lookup t.name) t ((c.set s w).get t) (c'.get t) := by
  have hself : ((s.name, v) :: rest).lookup s.name = some v := by simp
  have hother (t : Setting) (h : t ≠ s) :
      ((s.name, v) :: rest).lookup t.name = rest.lookup t.name := by
    have hname : (t.name == s.name) = false := by
      rw [beq_eq_false_iff_ne]
      exact fun hname => h (Setting.name_injective hname)
    rw [List.lookup_cons, hname]
  constructor
  · intro htakes
    have hs := htakes s
    rw [hself] at hs
    refine ⟨c'.get s, hs, fun t => ?_⟩
    by_cases h : t = s
    · subst h
      rw [hrest, get_set, if_pos rfl]
      rfl
    · rw [get_set, if_neg h, ← hother t h]
      exact htakes t
  · rintro ⟨w, hw, htakes⟩ t
    by_cases h : t = s
    · subst h
      have ht := htakes t
      rw [hrest, get_set, if_pos rfl] at ht
      obtain rfl : c'.get t = w := ht
      rw [hself]
      exact hw
    · have ht := htakes t
      rw [get_set, if_neg h, ← hother t h] at ht
      exact ht

theorem foldlM_override_iff {items : List (String × Value)} (hnodup : (items.map Prod.fst).Nodup)
    {c c' : Settings} :
    items.foldlM override c = .ok c' ↔
      (∀ entry ∈ items, Setting.ofName? entry.1 ≠ none) ∧
        ∀ s, Takes (items.lookup s.name) s (c.get s) (c'.get s) := by
  induction items generalizing c with
  | nil =>
      constructor
      · intro h
        obtain rfl := Except.ok.inj h
        exact ⟨nofun, fun _ => rfl⟩
      · rintro ⟨-, htakes⟩
        obtain rfl : c' = c := ext_get htakes
        rfl
  | cons entry rest ih =>
      obtain ⟨name, v⟩ := entry
      obtain ⟨hname, hrest⟩ := List.nodup_cons.1 hnodup
      -- the names are distinct, so that nothing further on overrides the first entry
      have hgone : rest.lookup name = none := by
        refine List.lookup_eq_none_iff.2 fun other hother => ?_
        rw [bne_iff_ne]
        exact fun h => hname (List.mem_map.2 ⟨other, hother, h.symm⟩)
      rw [List.foldlM_cons, bind_eq_ok, List.forall_mem_cons]
      constructor
      · rintro ⟨middle, hfirst, hothers⟩
        obtain ⟨s, w, hs, hw, rfl⟩ := override_eq_ok.1 hfirst
        obtain ⟨hknown, htakes⟩ := (ih hrest).1 hothers
        refine ⟨⟨by simp [hs], hknown⟩, ?_⟩
        obtain rfl := Setting.name_of_ofName? hs
        exact (takes_cons_iff hgone).2 ⟨w, hw, htakes⟩
      · rintro ⟨⟨hs, hknown⟩, htakes⟩
        obtain ⟨s, hs⟩ := Option.ne_none_iff_exists'.1 hs
        obtain rfl := Setting.name_of_ofName? hs
        obtain ⟨w, hw, htakes⟩ := (takes_cons_iff hgone).1 htakes
        exact ⟨c.set s w, override_eq_ok.2 ⟨s, w, hs, hw, rfl⟩, (ih hrest).2 ⟨hknown, htakes⟩⟩

/-- **Settings with overrides are what they become with them.** -/
theorem withOverrides_eq_ok_iff {c c' : Settings} {o : Bindings Value} :
    c.withOverrides o = .ok c' ↔ Becomes o c c' := by
  have hknown : (∀ entry ∈ o.items, Setting.ofName? entry.1 ≠ none) ↔ Known o := by
    simp only [Known, ← Bindings.mem_names_iff, Bindings.names, List.forall_mem_map]
  rw [withOverrides_eq, bind_eq_ok]
  constructor
  · rintro ⟨changed, hfold, hcheck⟩
    obtain rfl := check_eq_ok hcheck
    obtain ⟨hnames, htakes⟩ := (foldlM_override_iff o.nodup).1 hfold
    exact ⟨hknown.1 hnames, htakes, hcheck⟩
  · rintro ⟨hnames, htakes, hcheck⟩
    exact ⟨c', (foldlM_override_iff o.nodup).2 ⟨hknown.2 hnames, htakes⟩, hcheck⟩

/-! ## Settings that have been read -/

/-- Settings that are read from bindings or from layers. -/
def IsRead (c : Settings) : Prop :=
  (∃ data, ofBindings data = .ok c) ∨ ∃ l : Layers, l.load = .ok c

/-- Settings that come about from some that satisfy `start`, by overrides. -/
inductive Overridden (start : Settings → Prop) : Settings → Prop
  | start {c : Settings} (h : start c) : Overridden start c
  | override {c c' : Settings} {o : Bindings Value} (hc : Overridden start c)
      (h : c.withOverrides o = .ok c') : Overridden start c'

/-- A setting is of its kind after taking an entry if it is of its kind before. -/
theorem Takes.holds {told? : Option Value} {s : Setting} {old v : Value} (h : Takes told? s old v)
    (hold : s.Holds old) : s.Holds v := by
  cases told? with
  | none =>
      obtain rfl : v = old := h
      exact hold
  | some entry => exact Setting.holds_of_coerce h

theorem Becomes.holds {data : Bindings Value} {c c' : Settings} (h : Becomes data c c')
    (hc : ∀ s : Setting, s.Holds (c.get s)) (s : Setting) : s.Holds (c'.get s) :=
  (h.takes s).holds (hc s)

theorem becomes_of_isRead {c : Settings} (h : IsRead c) : ∃ data, Becomes data {} c := by
  obtain ⟨data, h⟩ | ⟨l, h⟩ := h
  · exact ⟨data, ofBindings_eq_ok_iff.1 h⟩
  · exact ⟨l.merge, ofBindings_eq_ok_iff.1 h⟩

theorem holds_default (s : Setting) : s.Holds (({} : Settings).get s) := by
  cases s with
  | cacheSize => exact ⟨1000, rfl⟩
  | cacheTtl => exact .inl rfl
  | validateDefaults => exact ⟨true, rfl⟩
  | maxPatterns => exact .inl rfl

/-- **Each setting that has been read is of its kind**, also after overrides. -/
theorem Overridden.holds {c : Settings} (h : Overridden IsRead c) (s : Setting) :
    s.Holds (c.get s) := by
  induction h generalizing s with
  | start h =>
      obtain ⟨data, h⟩ := becomes_of_isRead h
      exact h.holds holds_default s
  | override _ h ih => exact (withOverrides_eq_ok_iff.1 h).holds ih s

/-- Settings pass the check again that they passed when they came about. -/
theorem Overridden.check {start : Settings → Prop} (hstart : ∀ c, start c → c.check = .ok c)
    {c : Settings} (h : Overridden start c) : c.check = .ok c := by
  cases h with
  | start h => exact hstart c h
  | override _ h => exact (withOverrides_eq_ok_iff.1 h).checked

theorem check_of_isRead {c : Settings} (h : IsRead c) : c.check = .ok c := by
  obtain ⟨data, h⟩ := becomes_of_isRead h
  exact h.checked

/-- The values of settings are bound to the names of settings, and nothing else is. -/
theorem get?_toBindings (c : Settings) (name : String) :
    c.toBindings.get? name = (Setting.ofName? name).map c.get := by
  have hempty : (Bindings.empty : Bindings Value).get? name = none := rfl
  rw [toBindings, Bindings.ofList, Bindings.get?_insertAll, hempty, Option.or_none]
  cases hname : Setting.ofName? name with
  | none =>
      refine List.lookup_eq_none_iff.2 fun pair hpair => ?_
      obtain ⟨s, -, rfl⟩ := List.mem_map.1 (List.mem_reverse.1 hpair)
      rw [bne_iff_ne]
      rintro rfl
      rw [Setting.ofName?_name] at hname
      cases hname
  | some s =>
      obtain rfl := Setting.name_of_ofName? hname
      cases s <;> rfl

/-- Values that are of their kinds take part in a reading as they are. -/
theorem becomes_toBindings_iff {c c' : Settings} (hc : ∀ s : Setting, s.Holds (c.get s))
    {o : Bindings Value} : Becomes (c.toBindings.insertAll o.items) {} c' ↔ Becomes o c c' := by
  have hget (name : String) : (c.toBindings.insertAll o.items).get? name =
      (o.get? name).or ((Setting.ofName? name).map c.get) := by
    rw [Bindings.get?_insertAll_items, get?_toBindings]
  have hknown : Known (c.toBindings.insertAll o.items) ↔ Known o := by
    refine forall_congr' fun name => ?_
    rw [hget]
    cases o.get? name <;> simp
  have htakes (s : Setting) : Takes ((c.toBindings.insertAll o.items).get? s.name) s
      (({} : Settings).get s) (c'.get s) ↔ Takes (o.get? s.name) s (c.get s) (c'.get s) := by
    rw [hget, Setting.ofName?_name]
    cases o.get? s.name with
    | none =>
        -- the entry is the value of the setting itself, which is taken as it is
        show s.coerce (c.get s) = .ok (c'.get s) ↔ c'.get s = c.get s
        rw [Setting.coerce_of_holds (hc s), Except.ok.injEq, eq_comm]
    | some entry => exact Iff.rfl
  constructor
  · rintro ⟨hnames, htaken, hcheck⟩
    exact ⟨hknown.1 hnames, fun s => (htakes s).1 (htaken s), hcheck⟩
  · rintro ⟨hnames, htaken, hcheck⟩
    exact ⟨hknown.2 hnames, fun s => (htakes s).2 (htaken s), hcheck⟩

/-- Overrides one after the other are the overrides with the later ones in place of the earlier. -/
theorem Becomes.trans {a b : Bindings Value} {c c₁ c₂ : Settings} (h₁ : Becomes a c c₁)
    (h₂ : Becomes b c₁ c₂) : Becomes (a.insertAll b.items) c c₂ := by
  refine ⟨fun name hname => ?_, fun s => ?_, h₂.checked⟩
  · rw [Bindings.get?_insertAll_items] at hname
    cases hb : b.get? name with
    | some entry => exact h₂.known name (by simp [hb])
    | none =>
        rw [hb] at hname
        exact h₁.known name hname
  · have ha := h₁.takes s
    have hb := h₂.takes s
    rw [Bindings.get?_insertAll_items]
    cases hentry : b.get? s.name with
    | some entry =>
        rw [hentry] at hb
        exact hb
    | none =>
        rw [hentry] at hb
        have hsame : c₂.get s = c₁.get s := hb
        rw [hsame]
        exact ha

/-- **Overriding agrees with reading.** For settings that have been read, and overridden any number
of times since:

* overriding them succeeds exactly if reading their values together with the overrides does, and
  the outcome is the same;
* reading their values gives them back;
* overriding twice in a row is overriding once, with the later overrides in place of the earlier. -/
theorem overrides_agree {c : Settings} (h : Overridden IsRead c) :
    (∀ o c', c.withOverrides o = .ok c' ↔ ofBindings (c.toBindings.insertAll o.items) = .ok c') ∧
    ofBindings c.toBindings = .ok c ∧
    ∀ a b c₁ c₂, c.withOverrides a = .ok c₁ → c₁.withOverrides b = .ok c₂ →
      c.withOverrides (a.insertAll b.items) = .ok c₂ := by
  have hholds := h.holds
  have hagree (o : Bindings Value) (c' : Settings) :
      c.withOverrides o = .ok c' ↔ ofBindings (c.toBindings.insertAll o.items) = .ok c' := by
    rw [withOverrides_eq_ok_iff, ofBindings_eq_ok_iff, becomes_toBindings_iff hholds]
  refine ⟨hagree, ?_, fun a b c₁ c₂ h₁ h₂ => ?_⟩
  · -- the overrides that override nothing
    refine (hagree .empty c).1 (withOverrides_eq_ok_iff.2 ⟨nofun, fun _ => rfl, ?_⟩)
    exact h.check fun c hc => check_of_isRead hc
  · rw [withOverrides_eq_ok_iff] at *
    exact h₁.trans h₂

/-- Settings that are read from a text, overridden twice, the second time with another duration. -/
theorem overrides_agree_twice :
    ∃ data a b : Bindings Value, ∃ c c₁ c₂, data.get? "cache_size" = some (.text " 1_0 ") ∧
      a.get? "cache_ttl" = some (.text "nan") ∧ b.get? "cache_ttl" = some (.text "2.5") ∧
      ofBindings data = .ok c ∧ c.withOverrides a = .ok c₁ ∧ c₁.withOverrides b = .ok c₂ ∧
      c.withOverrides (a.insertAll b.items) = .ok c₂ ∧
      ofBindings (c.toBindings.insertAll (a.insertAll b.items).items) = .ok c₂ ∧
      ofBindings c.toBindings = .ok c := by
  let data : Bindings Value := .ofList [("cache_size", .text " 1_0 ")]
  let a : Bindings Value := .ofList [("cache_ttl", .text "nan"), ("max_patterns", .float 7)]
  let b : Bindings Value := .ofList [("cache_ttl", .text "2.5")]
  have hruns : (ofBindings data >>= fun c =>
      c.withOverrides a >>= (·.withOverrides b)).toOption.isSome = true := by
    decide +kernel
  obtain ⟨c₂, hc₂⟩ := Option.isSome_iff_exists.1 hruns
  obtain ⟨c, hc, h⟩ := bind_eq_ok.1 (toOption_eq_some.1 hc₂)
  obtain ⟨c₁, h₁, h₂⟩ := bind_eq_ok.1 h
  obtain ⟨hagree, hsame, htwice⟩ := overrides_agree (.start (.inl ⟨data, hc⟩))
  have honce := htwice a b c₁ c₂ h₁ h₂
  exact ⟨data, a, b, c, c₁, c₂, rfl, rfl, rfl, hc, h₁, h₂, honce,
    (hagree _ c₂).1 honce, hsame⟩

end Settings

end PathRouter
