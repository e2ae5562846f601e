import PathRouter.Proofs.Ranges

set_option autoImplicit false

/-! # What settings are refused for

Settings that do not come about from bindings have a name that is no setting, an entry that cannot
be brought into the kind of its setting, or a value out of its range (`Settings.ofBindings_cases`).
Each of these is a fault, apart from two things that the faults do not foresee: a duration that is
an integer from `Decimal.overflow` on is too large for a double, and a fault cannot be worded if it
shows a value with an integer of too many digits. Nothing else can go wrong
(`Settings.faults_reported`); in particular all values can be compared with their bounds by the time
when they are checked.
-/

namespace PathRouter

open Outcome Text

namespace Value

/-- What a text spells can be written out. -/
theorem isWritable_ofText (t : String) : (ofText t).isWritable = true := by
  unfold ofText
  dsimp only
  split
  · rfl
  · split
    · rfl
    · split
      · rfl
      · split
        · next n hn =>
          rw [isWritable, decide_eq_true_iff]
          exact Decimal.integer?_lt hn
        · split <;> rfl

theorem isWritable_of_spelt {v : Value} (h : v.spelt.isWritable = false) :
    v.isWritable = false := by
  cases v with
  | text t => exact absurd h (by simp [spelt, isWritable_ofText])
  | _ => exact h

end Value

namespace Setting

/-- A fault that cannot be worded shows a value that cannot be written out. -/
theorem refuse_cases {α : Type} (f : ConfigFault) :
    (refuse f : Except ConfigError α) = .error (.fault f) ∨
      f.isWritable = false ∧ (refuse f : Except ConfigError α) = .error .unwritable := by
  rw [refuse]
  cases h : f.isWritable with
  | true => exact .inl rfl
  | false => exact .inr ⟨rfl, rfl⟩

/-- **Why an entry is refused**: for a fault, for one that cannot be worded as the entry cannot be
written out, or because it is an integer that is too large for a duration. -/
theorem coerce_error_cases {s : Setting} {v : Value} {e : ConfigError} (h : s.coerce v = .error e) :
    (∃ f, e = .fault f) ∨ (e = .unwritable ∧ v.isWritable = false) ∨
      e = .tooLarge ∧ s = .cacheTtl ∧ ∃ n, v.spelt = .int n ∧ Decimal.overflow ≤ n.natAbs := by
  rw [coerce_eq] at h
  obtain ⟨w, hw, -⟩ | ⟨f, hf, hwritable⟩ | ⟨hs, n, hv, hlarge, hn⟩ := convert_cases s v.spelt
  · cases hw.symm.trans h
  · obtain hfault | ⟨hunwritable, hfault⟩ := refuse_cases (α := Value) f
    · cases (hf.trans hfault).symm.trans h
      exact .inl ⟨f, rfl⟩
    · cases (hf.trans hfault).symm.trans h
      exact .inr (.inl ⟨rfl, Value.isWritable_of_spelt (hwritable ▸ hunwritable)⟩)
  · cases hn.symm.trans h
    exact .inr (.inr ⟨rfl, hs, n, hv, Decimal.ofInt?_eq_none_iff.1 hlarge⟩)

/-- A duration that is too large an integer is refused as that. -/
theorem coerce_eq_tooLarge {v : Value} {n : Int} (hv : v.spelt = .int n)
    (hn : Decimal.overflow ≤ n.natAbs) : Setting.cacheTtl.coerce v = .error .tooLarge := by
  rw [coerce_eq, hv]
  show asDuration .cacheTtl (.int n) = _
  rw [asDuration, Decimal.ofInt?_eq_none_iff.2 hn]

/-- A value that comes out of an entry can be written out if the entry can. -/
theorem isWritable_of_coerce {s : Setting} {v w : Value} (h : s.coerce v = .ok w)
    (hw : w.isWritable = false) : v.isWritable = false := by
  rw [coerce_eq] at h
  obtain ⟨w', hw', -, hwritable⟩ | ⟨f, hf, -⟩ | ⟨-, n, -, -, hn⟩ := convert_cases s v.spelt
  · cases hw'.symm.trans h
    refine Value.isWritable_of_spelt (Bool.eq_false_iff.2 fun hv => ?_)
    exact absurd (hwritable hv) (by simp [hw])
  · cases hf.symm.trans h
  · cases hn.symm.trans h

end Setting

namespace Settings

/-! ## Where reading stops -/

/-- Whether a setting can take its entry, if there is one. -/
def CanTake (data : Bindings Value) (s : Setting) : Prop :=
  ∀ v, data.get? s.name = some v → ∃ w, s.coerce v = .ok w

theorem take_eq_error_iff {data : Bindings Value} {c : Settings} {s : Setting} {e : ConfigError} :
    take data c s = .error e ↔ ∃ v, data.get? s.name = some v ∧ s.coerce v = .error e := by
  rw [take]
  cases data.get? s.name with
  | none => simp
  | some v =>
      simp only [Option.some_inj, exists_eq_left']
      rw [bind_eq_error]
      constructor
      · rintro (h | ⟨w, -, h⟩)
        · exact h
        · cases h
      · exact .inl

theorem exists_take_eq_ok {data : Bindings Value} {c : Settings} {s : Setting} :
    (∃ c', take data c s = .ok c') ↔ CanTake data s := by
  constructor
  · rintro ⟨c', h⟩ v hv
    have htakes := (take_eq_ok h).1
    rw [hv] at htakes
    exact ⟨_, htakes⟩
  · intro h
    cases htake : take data c s with
    | ok c' => exact ⟨c', rfl⟩
    | error e =>
        obtain ⟨v, hv, he⟩ := take_eq_error_iff.1 htake
        obtain ⟨w, hw⟩ := h v hv
        cases hw.symm.trans he

/-- **Reading stops at the first setting that cannot take its entry.** -/
theorem foldlM_take_eq_error_iff {data : Bindings Value} {settings : List Setting} {c : Settings}
    {e : ConfigError} :
    settings.foldlM (take data) c = .error e ↔
      ∃ before s after v, settings = before ++ s :: after ∧ (∀ t ∈ before, CanTake data t) ∧
        data.get? s.name = some v ∧ s.coerce v = .error e := by
  induction settings generalizing c with
  | nil =>
      refine iff_of_false nofun ?_
      rintro ⟨before, s, after, v, h, -⟩
      exact absurd h (by simp)
  | cons first rest ih =>
      rw [List.foldlM_cons, bind_eq_error]
      constructor
      · rintro (h | ⟨c', hfirst, h⟩)
        · obtain ⟨v, hv, he⟩ := take_eq_error_iff.1 h
          exact ⟨[], first, rest, v, rfl, nofun, hv, he⟩
        · obtain ⟨before, s, after, v, rfl, hbefore, hv, he⟩ := ih.1 h
          refine ⟨first :: before, s, after, v, rfl, ?_, hv, he⟩
          exact List.forall_mem_cons.2 ⟨exists_take_eq_ok.1 ⟨c', hfirst⟩, hbefore⟩
      · rintro ⟨before, s, after, v, h, hbefore, hv, he⟩
        cases before with
        | nil =>
            obtain ⟨rfl, rfl⟩ := List.cons.inj h
            exact .inl (take_eq_error_iff.2 ⟨v, hv, he⟩)
        | cons t before =>
            obtain ⟨rfl, rfl⟩ := List.cons.inj h
            obtain ⟨hfirst, hbefore⟩ := List.forall_mem_cons.1 hbefore
            obtain ⟨c', hc'⟩ := exists_take_eq_ok.2 hfirst
            exact .inr ⟨c', hc', ih.2 ⟨before, s, after, v, rfl, hbefore, hv, he⟩⟩

/-- **How reading ends**: at names that are no settings; at the first setting that cannot take its
entry; or with the check of settings that have all taken theirs. -/
theorem ofBindings_cases (data : Bindings Value) :
    (¬ Known data ∧ ∃ names, ofBindings data = .error (.fault (.unknownNames names))) ∨
      Known data ∧
        ((∃ before s after v e, Setting.all = before ++ s :: after ∧
            (∀ t ∈ before, CanTake data t) ∧ data.get? s.name = some v ∧ s.coerce v = .error e ∧
            ofBindings data = .error e) ∨
          ∃ c : Settings,
            (∀ s : Setting, Takes (data.get? s.name) s (({} : Settings).get s) (c.get s)) ∧
            ofBindings data = c.check) := by
  by_cases hknown : Known data
  · refine .inr ⟨hknown, ?_⟩
    rw [ofBindings_of_known hknown]
    cases htaken : Setting.all.foldlM (take data) {} with
    | error e =>
        obtain ⟨before, s, after, v, hall, hbefore, hv, he⟩ := foldlM_take_eq_error_iff.1 htaken
        exact .inl ⟨before, s, after, v, e, hall, hbefore, hv, he, rfl⟩
    | ok c =>
        refine .inr ⟨c, fun s => ?_, rfl⟩
        exact (foldlM_take_eq_ok (by decide) htaken).1 s (by cases s <;> decide)
  · refine .inl ⟨hknown, sortTexts (data.names.filter fun n => (Setting.ofName? n).isNone), ?_⟩
    unfold ofBindings
    dsimp only
    rw [if_neg (mt known_iff.1 hknown)]
    rfl

/-! ## What comes out -/

/-- What may come out where settings are read, `told?` being the entries and `given?` those that are
no texts: settings; a fault; and two errors that are no faults, for a duration that is too large an
integer, and for an entry that its setting has no use for and that cannot be written out. -/
inductive Reported (told? given? : String → Option Value) : Except ConfigError Settings → Prop
  | ok (c : Settings) : Reported told? given? (.ok c)
  | fault (f : ConfigFault) : Reported told? given? (.error (.fault f))
  | tooLarge {v : Value} {n : Int} (hv : told? Setting.cacheTtl.name = some v)
      (hn : v.spelt = .int n) (hlarge : Decimal.overflow ≤ n.natAbs) :
      Reported told? given? (.error .tooLarge)
  | unwritable {s : Setting} {v : Value} (hv : given? s.name = some v)
      (hwritable : v.isWritable = false) (huseless : ∀ w, s.coerce v = .ok w → ¬ s.Allows w) :
      Reported told? given? (.error .unwritable)

variable {told? given? : String → Option Value}

theorem isWritable_default (s : Setting) : (({} : Settings).get s).isWritable = true := by
  cases s <;> decide +kernel

/-- A setting that cannot be written out has taken an entry that cannot. -/
theorem Takes.exists_unwritable {held? : Option Value} {s : Setting} {v : Value}
    (h : Takes held? s (({} : Settings).get s) v) (hv : v.isWritable = false) :
    ∃ entry, held? = some entry ∧ s.coerce entry = .ok v ∧ entry.isWritable = false := by
  cases held? with
  | none =>
      obtain rfl : v = ({} : Settings).get s := h
      cases (isWritable_default s).symm.trans hv
  | some entry => exact ⟨entry, rfl, h, Setting.isWritable_of_coerce h hv⟩

theorem Rejects.ne_tooLarge {s : Setting} {v : Value} {e : ConfigError} (h : Rejects s v e) :
    e ≠ .tooLarge := by
  cases h with
  | outOfRange bound h => split <;> nofun
  | incomparable operator h => nofun

/-- What the check says of a setting that has taken its entry. -/
theorem Reported.of_rejects {s : Setting} {v : Value} {e : ConfigError}
    (htakes : Takes (told? s.name) s (({} : Settings).get s) v)
    (hgiven : ∀ name v, told? name = some v → v.isWritable = false → given? name = some v)
    (h : Rejects s v e) : Reported told? given? (.error e) := by
  cases h with
  | incomparable operator h =>
      exact absurd h (Setting.outside?_ne_none (htakes.holds (holds_default s)))
  | outOfRange bound h =>
      cases hwritable : v.isWritable with
      | true => exact .fault _
      | false =>
          obtain ⟨entry, hentry, hv, hunwritable⟩ := htakes.exists_unwritable hwritable
          -- what the setting has taken from the entry is out of its range
          refine .unwritable (hgiven _ _ hentry hunwritable) hunwritable fun w hw hallowed => ?_
          obtain rfl := Except.ok.inj (hv.symm.trans hw)
          cases h.symm.trans (Setting.outside?_eq_some_false_iff.2 (.inl hallowed))

theorem reported_ofBindings {data : Bindings Value}
    (hgiven : ∀ name v, data.get? name = some v → v.isWritable = false → given? name = some v) :
    Reported data.get? given? (ofBindings data) := by
  obtain ⟨-, names, h⟩ | ⟨-, ⟨before, s, after, v, e, -, -, hv, he, h⟩ | ⟨c, htakes, h⟩⟩ :=
    ofBindings_cases data
  · rw [h]
    exact .fault _
  · rw [h]
    obtain ⟨f, rfl⟩ | ⟨rfl, hwritable⟩ | ⟨rfl, rfl, n, hn, hlarge⟩ := Setting.coerce_error_cases he
    · exact .fault f
    · exact .unwritable (hgiven _ _ hv hwritable) hwritable fun w hw => nomatch hw.symm.trans he
    · exact .tooLarge hv hn hlarge
  · rw [h]
    obtain ⟨h, -⟩ | ⟨s, e, he, h⟩ := check_cases c
    · rw [h]
      exact .ok c
    · rw [h]
      exact .of_rejects (htakes s) hgiven he

/-- The size is the one setting that is read before the duration. -/
theorem eq_of_all_eq {before after : List Setting}
    (h : Setting.all = before ++ Setting.cacheTtl :: after) : before = [.cacheSize] := by
  match before with
  | [] | [_, _] | [_, _, _] | _ :: _ :: _ :: _ :: _ => simp [Setting.all] at h
  | [s] =>
      obtain ⟨rfl, -⟩ := List.cons.inj h
      rfl

theorem ofBindings_eq_tooLarge_iff {data : Bindings Value} :
    ofBindings data = .error .tooLarge ↔
      Known data ∧ CanTake data .cacheSize ∧
        ∃ v n, data.get? Setting.cacheTtl.name = some v ∧ v.spelt = .int n ∧
          Decimal.overflow ≤ n.natAbs := by
  constructor
  · intro h
    obtain ⟨-, names, h'⟩ |
      ⟨hknown, ⟨before, s, after, v, e, hall, hbefore, hv, he, h'⟩ | ⟨c, -, h'⟩⟩ :=
      ofBindings_cases data
    · cases h'.symm.trans h
    · cases h'.symm.trans h
      obtain ⟨f, hf⟩ | ⟨hf, -⟩ | ⟨-, rfl, n, hn, hlarge⟩ := Setting.coerce_error_cases he
      · cases hf
      · cases hf
      · obtain rfl := eq_of_all_eq hall
        exact ⟨hknown, hbefore _ (List.mem_singleton_self _), v, n, hv, hn, hlarge⟩
    · rw [h'] at h
      obtain ⟨hok, -⟩ | ⟨s, e, he, herror⟩ := check_cases c
      · cases hok.symm.trans h
      · cases herror.symm.trans h
        exact absurd rfl he.ne_tooLarge
  · rintro ⟨hknown, hsize, v, n, hv, hn, hlarge⟩
    rw [ofBindings_of_known hknown, bind_eq_error, foldlM_take_eq_error_iff]
    exact .inl ⟨[.cacheSize], .cacheTtl, _, v, rfl, List.forall_mem_singleton.2 hsize, hv,
      Setting.coerce_eq_tooLarge hn hlarge⟩

end Settings

namespace Layers

/-- What variables say can be written out. -/
theorem isWritable_of_said {lead : String} {known : Bindings (Option String)} {name : String}
    {v : Value} (h : said lead known name = some v) : v.isWritable = true := by
  rw [said] at h
  obtain ⟨pair, -, hv⟩ := List.exists_of_findSome?_eq_some h
  dsimp only at hv
  split at hv
  · obtain ⟨text, -, rfl⟩ := Option.map_eq_some_iff.1 hv
    exact Value.isWritable_ofText text
  · cases hv

/-- An entry that cannot be written out is an override. -/
theorem get?_overrides_of_told? {l : Layers} {name : String} {v : Value}
    (h : l.told? name = some v) (hv : v.isWritable = false) : l.overrides.get? name = some v := by
  obtain ⟨level, hlevel, hsaid⟩ := List.exists_of_findSome?_eq_some h
  rw [levels, List.mem_cons, List.mem_cons, List.mem_singleton] at hlevel
  obtain rfl | rfl | rfl := hlevel
  · exact hsaid
  · exact absurd (isWritable_of_said hsaid) (by simp [hv])
  · exact absurd (isWritable_of_said hsaid) (by simp [hv])

end Layers

namespace Settings

/-- **Whatever is wrong with settings is reported as a fault, with two exceptions.** Where settings
are read from bindings or from layers, whatever these hold, settings come out, or a fault; or the
duration is an integer that is too large for a double; or an entry that its setting has no use for
cannot be written out, which among layers is an override. The first exception is met exactly if all
names are known, the size can be read and the duration is an integer from `Decimal.overflow` on. -/
theorem faults_reported (data : Bindings Value) (l : Layers) :
    Reported data.get? data.get? (ofBindings data) ∧
    (ofBindings data = .error .tooLarge ↔ Known data ∧ CanTake data .cacheSize ∧
      ∃ v n, data.get? Setting.cacheTtl.name = some v ∧ v.spelt = .int n ∧
        Decimal.overflow ≤ n.natAbs) ∧
    Reported l.told? l.overrides.get? l.load := by
  refine ⟨reported_ofBindings fun _ _ h _ => h, ofBindings_eq_tooLarge_iff, ?_⟩
  have htold : l.merge.get? = l.told? := funext l.get?_merge
  rw [← htold]
  refine reported_ofBindings fun name v h hv => ?_
  rw [l.get?_merge] at h
  exact Layers.get?_overrides_of_told? h hv

/-- An integer of 310 digits is too large for a duration, and a negative size of too many digits is
refused for a fault that cannot be worded. -/
theorem exists_unforeseen :
    ofBindings (.ofList [("cache_ttl", .int (10 ^ 309))]) = .error .tooLarge ∧
      ofBindings (.ofList [("cache_size", .int (-Decimal.leastUnwritable))]) =
        .error .unwritable := by
  have htooLarge (x : Except ConfigError Settings)
      (h : (match x with | .error .tooLarge => true | _ => false) = true) :
      x = .error .tooLarge := by
    split at h
    · rfl
    · cases h
  have hunwritable (x : Except ConfigError Settings)
      (h : (match x with | .error .unwritable => true | _ => false) = true) :
      x = .error .unwritable := by
    split at h
    · rfl
    · cases h
  exact ⟨htooLarge _ (by decide +kernel), hunwritable _ (by decide +kernel)⟩

end Settings

end PathRouter
