import Mathlib.Data.List.Nodup
import Mathlib.Data.List.Perm.Basic
import PathRouter.Config.Layers
import PathRouter.Outcome

set_option autoImplicit false

/-! # Layers hide each other

A layer of settings says something about a name or nothing (`Layers.levels`); what the layers say
together is what the highest of them says that mentions the name at all (`Layers.told?`). Settings
are made from that and from nothing else (`Layers.load_shadows`): what lies below may be any text,
and a text that spells nothing hides it all the same. A mentioned name that is no setting is always
an error.

* `Settings.ofBindings_congr`: settings depend on the values of names, not on their order.
* `Layers.get?_merge`: the merged bindings hold for each name what the layers say together.
-/

namespace PathRouter

/-! ## Bindings as functions -/

namespace Bindings

variable {α : Type}

theorem mem_names_iff {b : Bindings α} {name : String} : name ∈ b.names ↔ b.get? name ≠ none := by
  rw [names, get?, Ne, List.lookup_eq_none_iff, List.mem_map]
  push Not
  refine exists_congr fun pair => and_congr_right fun _ => ?_
  by_cases h : pair.1 = name
  · simp [h]
  · simp [h, Ne.symm h]

/-- Bindings that say the same of every name have the same names. -/
theorem names_perm {a b : Bindings α} (h : ∀ name, a.get? name = b.get? name) :
    a.names.Perm b.names := by
  refine (List.perm_ext_iff_of_nodup a.nodup b.nodup).2 fun name => ?_
  show name ∈ a.names ↔ name ∈ b.names
  rw [mem_names_iff, mem_names_iff, h]

/-- Each name of a map is bound once, so that it does not matter from which end it is looked up. -/
theorem lookup_reverse_items (b : Bindings α) (name : String) :
    b.items.reverse.lookup name = b.get? name := by
  obtain ⟨items, hnodup⟩ := b
  show items.reverse.lookup name = items.lookup name
  induction items with
  | nil => rfl
  | cons pair rest ih =>
      obtain ⟨n, v⟩ := pair
      obtain ⟨hfirst, hrest⟩ := List.nodup_cons.1 hnodup
      rw [List.reverse_cons, List.lookup_append, ih hrest, List.lookup_cons]
      by_cases h : name = n
      · subst h
        have hnone : rest.lookup name = none := by
          refine List.lookup_eq_none_iff.2 fun pair hpair => ?_
          rw [bne_iff_ne]
          exact fun h => hfirst (List.mem_map.2 ⟨pair, hpair, h.symm⟩)
        simp [hnone]
      · have hb : (name == n) = false := by simpa using h
        simp [List.lookup_cons, hb]

end Bindings

/-! ## Settings from bindings -/

namespace Settings

theorem get_set (c : Settings) (s t : Setting) (v : Value) :
    (c.set s v).get t = if t = s then v else c.get t := by
  cases s <;> cases t <;> rfl

/-- Settings depend on the values of names alone. -/
theorem ofBindings_congr {a b : Bindings Value} (h : ∀ name, a.get? name = b.get? name) :
    ofBindings a = ofBindings b := by
  have hunknown := (Bindings.names_perm h).filter fun name => (Setting.ofName? name).isNone
  have htake : take a = take b := by
    funext c s
    rw [take, take, h]
  simp only [ofBindings, htake, hunknown.isEmpty_eq, Text.sortTexts_eq_of_perm hunknown]

/-- A name that is no setting is refused, together with all others. -/
theorem ofBindings_of_unknown {data : Bindings Value} {name : String}
    (hname : data.get? name ≠ none) (hunknown : Setting.ofName? name = none) :
    ∃ names, (∀ n, n ∈ names ↔ data.get? n ≠ none ∧ Setting.ofName? n = none) ∧
      ofBindings data = .error (.fault (.unknownNames names)) := by
  have hmem : ∀ n, n ∈ data.names.filter (fun n => (Setting.ofName? n).isNone) ↔
      data.get? n ≠ none ∧ Setting.ofName? n = none := by
    intro n
    rw [List.mem_filter, Bindings.mem_names_iff, Option.isNone_iff_eq_none]
  refine ⟨_, fun n => ?_, if_neg ?_⟩
  · rw [Text.sortTexts, List.mem_mergeSort, hmem]
  · rw [List.isEmpty_iff]
    exact List.ne_nil_of_mem ((hmem name).2 ⟨hname, hunknown⟩)

/-- The value `v` is what a setting gets that is `old` so far: the entry of its name, in the kind of
the setting, or what it is so far if there is no entry. -/
def Takes (told? : Option Value) (s : Setting) (old v : Value) : Prop :=
  match told? with
  | none => v = old
  | some entry => s.coerce entry = .ok v

theorem take_eq_ok {data : Bindings Value} {c c' : Settings} {s : Setting} :
    take data c s = .ok c' → Takes (data.get? s.name) s (c.get s) (c'.get s) ∧
      ∀ t, t ≠ s → c'.get t = c.get t := by
  intro h
  rw [take] at h
  cases hentry : data.get? s.name with
  | none =>
      rw [hentry] at h
      obtain rfl := Except.ok.inj h
      exact ⟨rfl, fun _ _ => rfl⟩
  | some entry =>
      rw [hentry] at h
      obtain ⟨v, hv, h⟩ := Outcome.bind_eq_ok.1 h
      obtain rfl := Except.ok.inj h
      refine ⟨?_, fun t ht => by rw [get_set, if_neg ht]⟩
      rw [get_set, if_pos rfl]
      exact hv

theorem foldlM_take_eq_ok {data : Bindings Value} {settings : List Setting}
    (hnodup : settings.Nodup) {c c' : Settings} (h : settings.foldlM (take data) c = .ok c') :
    (∀ s ∈ settings, Takes (data.get? s.name) s (c.get s) (c'.get s)) ∧
      ∀ t, t ∉ settings → c'.get t = c.get t := by
  induction settings generalizing c with
  | nil =>
      obtain rfl := Except.ok.inj h
      exact ⟨fun _ hs => absurd hs List.not_mem_nil, fun _ _ => rfl⟩
  | cons s rest ih =>
      obtain ⟨hs, hrest⟩ := List.nodup_cons.1 hnodup
      rw [List.foldlM_cons] at h
      obtain ⟨middle, htake, h⟩ := Outcome.bind_eq_ok.1 h
      obtain ⟨htakes, hother⟩ := take_eq_ok htake
      obtain ⟨hmem, hnotMem⟩ := ih hrest h
      constructor
      · intro t ht
        rcases List.mem_cons.1 ht with rfl | ht
        · rwa [hnotMem t hs]
        · have hne : t ≠ s := fun hts => hs (hts ▸ ht)
          have htaken := hmem t ht
          rwa [hother t hne] at htaken
      · intro t ht
        rw [List.mem_cons, not_or] at ht
        rw [hnotMem t ht.2, hother t ht.1]

/-- A check changes nothing. -/
theorem check_eq_ok {c c' : Settings} (h : c.check = .ok c') : c' = c := by
  rw [check] at h
  obtain ⟨-, -, h⟩ := Outcome.bind_eq_ok.1 h
  dsimp only at h
  split at h
  · obtain ⟨-, -, h⟩ := Outcome.bind_eq_ok.1 h
    split at h
    · obtain ⟨-, -, h⟩ := Outcome.bind_eq_ok.1 h
      exact (Except.ok.inj h).symm
    · exact (Except.ok.inj h).symm
  · split at h
    · obtain ⟨-, -, h⟩ := Outcome.bind_eq_ok.1 h
      exact (Except.ok.inj h).symm
    · exact (Except.ok.inj h).symm

/-- Where settings come about, each of them is the entry of its name, or else its default. -/
theorem takes_of_ofBindings {data : Bindings Value} {c : Settings} (h : ofBindings data = .ok c)
    (s : Setting) : Takes (data.get? s.name) s (({} : Settings).get s) (c.get s) := by
  unfold ofBindings at h
  dsimp only at h
  split at h
  · obtain ⟨taken, htaken, hcheck⟩ := Outcome.bind_eq_ok.1 h
    obtain rfl := check_eq_ok hcheck
    exact (foldlM_take_eq_ok (by decide) htaken).1 s (by cases s <;> decide)
  · cases h

end Settings

/-! ## What the layers say -/

namespace Value

/-- A text spells nothing if it is blank or a word for nothing. -/
theorem ofText_eq_null_iff {text : String} :
    ofText text = .null ↔ Text.lower (Text.trim text) ∈ ["none", "null", ""] := by
  constructor
  · intro h
    unfold ofText at h
    dsimp only at h
    split at h
    · cases h
    · split at h
      · cases h
      · split at h
        · next hword => exact List.contains_iff_mem.1 hword
        · split at h
          · cases h
          · split at h <;> cases h
  · intro h
    simp only [List.mem_cons, List.not_mem_nil, or_false] at h
    rcases h with h | h | h
    · rw [ofText, h]
      rfl
    · rw [ofText, h]
      rfl
    · rw [ofText, h]
      rfl

end Value

namespace Layers

/-- What variables say about a setting: the last one that stands for it and has a value. -/
def said (lead : String) (known : Bindings (Option String)) (name : String) : Option Value :=
  known.items.reverse.findSome? fun (variableName, text?) =>
    if settingName? lead variableName = some name then text?.map .ofText else none

/-- What each layer says, from the highest to the lowest. -/
def levels (l : Layers) : List (String → Option Value) :=
  [l.overrides.get?,
    said l.lead (l.environment?.getD l.process),
    said l.lead (l.file?.getD .empty)]

/-- What the layers say together: the entry of the highest one that mentions the name. -/
def told? (l : Layers) (name : String) : Option Value := l.levels.findSome? fun level => level name

/-- Whether two stacks of layers say the same of a name down to the highest layer that mentions
it. What is below may differ. -/
def Agree (name : String) : List (String → Option Value) → List (String → Option Value) → Prop
  | [], [] => True
  | level :: below, level' :: below' =>
    level name = level' name ∧ (level name = none → Agree name below below')
  | _, _ => False

theorem Agree.findSome?_eq {name : String} {levels levels' : List (String → Option Value)}
    (h : Agree name levels levels') :
    levels.findSome? (fun level => level name) = levels'.findSome? fun level => level name := by
  induction levels generalizing levels' with
  | nil =>
      cases levels' with
      | nil => rfl
      | cons level' below' => exact h.elim
  | cons level below ih =>
      cases levels' with
      | nil => exact h.elim
      | cons level' below' =>
          obtain ⟨hlevel, hbelow⟩ := h
          rw [List.findSome?_cons, List.findSome?_cons, ← hlevel]
          cases hsaid : level name with
          | none => exact ih (hbelow hsaid)
          | some entry => rfl

theorem lookup_extract (lead : String) (known : Bindings (Option String)) (name : String) :
    (extract lead known).reverse.lookup name = said lead known name := by
  rw [extract, said, ← List.filterMap_reverse]
  induction known.items.reverse with
  | nil => rfl
  | cons pair rest ih =>
      obtain ⟨variableName, text?⟩ := pair
      rw [List.findSome?_cons, List.filterMap_cons]
      cases hsetting : settingName? lead variableName with
      | none => simpa [hsetting] using ih
      | some setting =>
          cases text? with
          | none => simpa [hsetting] using ih
          | some text =>
              by_cases h : name = setting
              · simp [hsetting, h]
              · have hb : (name == setting) = false := by simpa using h
                simpa [hsetting, List.lookup_cons, hb, Ne.symm h] using ih

/-- The merged bindings hold for each name what the layers say together. -/
theorem get?_merge (l : Layers) (name : String) : l.merge.get? name = l.told? name := by
  have hempty : (Bindings.empty : Bindings Value).get? name = none := rfl
  have hbelow (level : String → Option Value) (below : List (String → Option Value)) :
      (level :: below).findSome? (fun level => level name) =
        (level name).or (below.findSome? fun level => level name) := by
    rw [List.findSome?_cons]
    cases level name <;> rfl
  rw [merge, Bindings.get?_insertAll, Bindings.get?_insertAll, Bindings.get?_insertAll, hempty,
    Bindings.lookup_reverse_items, lookup_extract, lookup_extract, told?, levels, hbelow, hbelow,
    hbelow, List.findSome?_nil]

/-- What variables say if one of them has a value. -/
theorem said_of_one_value {lead variableName text setting : String}
    {known : Bindings (Option String)} {rest : List (String × Option String)}
    (hitems : known.items = (variableName, some text) :: rest)
    (hrest : ∀ item ∈ rest, item.2 = none)
    (hsetting : settingName? lead variableName = some setting) (name : String) :
    said lead known name = if setting = name then some (.ofText text) else none := by
  rw [said, hitems, List.reverse_cons, List.findSome?_append, List.findSome?_eq_none_iff.2]
  · simp [hsetting]
  · intro item hitem
    simp [hrest item (List.mem_reverse.1 hitem)]

/-- **Layers hide each other completely.** Of each name the layers hold the entry of the highest one
that mentions it, and settings come about from any bindings that hold just these entries. So

* a setting is the entry of its name, in the kind of the setting, or its default if no layer
  mentions it;
* layers that agree, for each name, down to the highest one that mentions it, have the same outcome,
  whatever lies below;
* an entry hides the lower layers even if it spells nothing, which is then what the setting gets;
* if some layer mentions a name that is no setting, all such names are refused. -/
theorem load_shadows (l : Layers) :
    (∀ data : Bindings Value, (∀ name, data.get? name = l.told? name) →
      l.load = Settings.ofBindings data) ∧
    (∀ name, l.merge.get? name = l.told? name) ∧
    (∀ c, l.load = .ok c → ∀ s,
      Settings.Takes (l.told? s.name) s (({} : Settings).get s) (c.get s)) ∧
    (∀ l' : Layers, (∀ name, Agree name l.levels l'.levels) → l'.load = l.load) ∧
    (∀ above level below name entry, l.levels = above ++ level :: below →
      (∀ higher ∈ above, higher name = none) → level name = some entry →
      l.told? name = some entry) ∧
    (∀ text, Text.lower (Text.trim text) ∈ ["none", "null", ""] →
      Value.ofText text = .null ∧ ∀ s : Setting, s.coerce (.text text) = s.coerce .null) ∧
    ∀ level ∈ l.levels, ∀ name, level name ≠ none → Setting.ofName? name = none →
      ∃ names, (∀ n, n ∈ names ↔ l.told? n ≠ none ∧ Setting.ofName? n = none) ∧ name ∈ names ∧
        l.load = .error (.fault (.unknownNames names)) := by
  have hload (data : Bindings Value) (hdata : ∀ name, data.get? name = l.told? name) :
      l.load = Settings.ofBindings data :=
    Settings.ofBindings_congr fun name => (l.get?_merge name).trans (hdata name).symm
  refine ⟨hload, l.get?_merge, fun c hc s => ?_, fun l' hagree => ?_, ?_, ?_, ?_⟩
  · rw [← l.get?_merge]
    exact Settings.takes_of_ofBindings hc s
  · refine Settings.ofBindings_congr fun name => ?_
    rw [get?_merge, get?_merge]
    exact (hagree name).findSome?_eq.symm
  · intro above level below name entry hlevels habove hlevel
    rw [told?, hlevels, List.findSome?_append, List.findSome?_eq_none_iff.2 habove,
      List.findSome?_cons, hlevel]
    rfl
  · intro text htext
    have hnull := Value.ofText_eq_null_iff.2 htext
    refine ⟨hnull, fun s => ?_⟩
    rw [Setting.coerce, hnull]
    rfl
  · intro level hlevel name hname hunknown
    have hentry : l.merge.get? name ≠ none := by
      rw [get?_merge, told?, Ne, List.findSome?_eq_none_iff]
      exact fun hnone => hname (hnone level hlevel)
    obtain ⟨names, hnames, hrefused⟩ := Settings.ofBindings_of_unknown hentry hunknown
    refine ⟨names, fun n => ?_, (hnames name).2 ⟨hentry, hunknown⟩, hrefused⟩
    rw [hnames, get?_merge]

/-- A blank text hides one that is no number, as if that were not there; and a name that is no
setting is refused though it stands in the lowest layer, unless it has no value there. -/
theorem load_shadows_blank :
    ∃ l l' unknown : Layers,
      l.file? = some (.ofList [("URIROUTE_CACHE_TTL", some "soon"), ("URIROUTE_TTL", none)]) ∧
      l'.file? = none ∧ l.load = l'.load ∧ (∃ c, l.load = .ok c ∧ c.cacheTtl = .null) ∧
      unknown.file? = some (.ofList [("URIROUTE_TTL", some "1")]) ∧
      ∃ names, "ttl" ∈ names ∧ unknown.load = .error (.fault (.unknownNames names)) := by
  let environment : Bindings (Option String) := .ofList [("URIROUTE_CACHE_TTL", some " ")]
  let file : Bindings (Option String) :=
    .ofList [("URIROUTE_CACHE_TTL", some "soon"), ("URIROUTE_TTL", none)]
  let other : Bindings (Option String) := .ofList [("URIROUTE_TTL", some "1")]
  let l : Layers := { file? := some file, environment? := some environment }
  let l' : Layers := { environment? := some environment }
  let unknown : Layers := { file? := some other }
  have henvironment : ∀ name, said "URIROUTE_" environment name =
      if "cache_ttl" = name then some (.ofText " ") else none :=
    said_of_one_value rfl nofun (by decide +kernel)
  have hsilent : ∀ item ∈ [("URIROUTE_TTL", (none : Option String))], item.2 = none := by simp
  have hfile : ∀ name, said "URIROUTE_" file name =
      if "cache_ttl" = name then some (.ofText "soon") else none :=
    said_of_one_value rfl hsilent (by decide +kernel)
  have hunknown : ∀ name, said "URIROUTE_" other name =
      if "ttl" = name then some (.ofText "1") else none :=
    said_of_one_value rfl nofun (by decide +kernel)
  obtain ⟨-, -, htakes, hagree, hhigher, -, -⟩ := load_shadows l
  obtain ⟨-, -, -, -, -, -, hrefuses⟩ := load_shadows unknown
  have hsame : l'.load = l.load := by
    refine hagree l' fun name => ⟨rfl, fun _ => ⟨rfl, fun hnone => ⟨?_, fun _ => trivial⟩⟩⟩
    -- the file speaks of nothing that the environment does not speak of
    have hother : "cache_ttl" ≠ name := by
      rintro rfl
      cases hnone.symm.trans ((henvironment "cache_ttl").trans (if_pos rfl))
    exact (hfile name).trans (if_neg hother)
  have hvalue : ∃ c, l.load = .ok c ∧ c.cacheTtl = .null := by
    have hload : l'.load.toOption.isSome = true := by decide +kernel
    rw [hsame] at hload
    cases hc : l.load with
    | error e =>
        rw [hc] at hload
        cases hload
    | ok c =>
        have htold : l.told? "cache_ttl" = some (.ofText " ") :=
          hhigher [l.overrides.get?] _ _ "cache_ttl" _ rfl (List.forall_mem_singleton.2 rfl)
            ((henvironment "cache_ttl").trans (if_pos rfl))
        have htaken : Settings.Takes (l.told? "cache_ttl") .cacheTtl .null c.cacheTtl :=
          htakes c hc .cacheTtl
        rw [htold, Value.ofText_eq_null_iff.2 (by decide +kernel)] at htaken
        exact ⟨c, rfl, (Except.ok.inj htaken).symm⟩
  have hlowest : said "URIROUTE_" other "ttl" ≠ none := by
    rw [hunknown, if_pos rfl]
    exact Option.some_ne_none _
  obtain ⟨names, -, hmem, hrefused⟩ := hrefuses _
    (List.mem_cons_of_mem _ (List.mem_cons_of_mem _ (List.mem_singleton_self _))) "ttl" hlowest
    (by decide)
  exact ⟨l, l', unknown, rfl, rfl, hsame.symm, hvalue, rfl, names, hmem, hrefused⟩

end Layers

end PathRouter
