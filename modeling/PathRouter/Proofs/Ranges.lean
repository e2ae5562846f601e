import PathRouter.Proofs.Overriding

set_option autoImplicit false

/-! # Settings in their ranges

However settings come about, they are checked in the end. The check refuses a number that is less
than a bound, or not greater than it. So it accepts a number exactly if it is in the range of its
setting (`Setting.Allows`) or is NaN, which is neither less than anything nor greater
(`Settings.check_eq_ok_iff`). NaN is no integer, so that of the settings that are read only the
duration can be NaN (`Settings.allowed_or_nan`).
-/

namespace PathRouter

open Outcome

namespace Value

/-- The numbers from a bound on. -/
def AtLeast (bound : Int) : Value → Prop
  | .int n => bound ≤ n
  | .bool b => bound ≤ ofBool b
  | .float x => Float.ofInt bound ≤ x
  | _ => False

/-- The numbers above a bound. -/
def Above (bound : Int) : Value → Prop
  | .int n => bound < n
  | .bool b => bound < ofBool b
  | .float x => Float.ofInt bound < x
  | _ => False

/-- The values that are NaN. -/
def IsNaN : Value → Prop
  | .float x => x.isNaN = true
  | _ => False

variable {v : Value} {bound : Int}

theorem below?_eq_some_false_iff (hbound : (Float.ofInt bound).isNaN = false) :
    v.below? bound = some false ↔ v.AtLeast bound ∨ v.IsNaN := by
  cases v with
  | int n | bool b => simp [below?, AtLeast, IsNaN]
  | float x =>
      simp only [below?, AtLeast, IsNaN, Option.some_inj, decide_eq_false_iff_not,
        Decimal.not_lt_iff, hbound, Bool.false_eq_true, or_false]
  | _ => simp [below?, AtLeast, IsNaN]

theorem atMost?_eq_some_false_iff (hbound : (Float.ofInt bound).isNaN = false) :
    v.atMost? bound = some false ↔ v.Above bound ∨ v.IsNaN := by
  cases v with
  | int n | bool b => simp [atMost?, Above, IsNaN]
  | float x =>
      simp only [atMost?, Above, IsNaN, Option.some_inj, decide_eq_false_iff_not,
        Decimal.not_le_iff, hbound, Bool.false_eq_true, or_false]
  | _ => simp [atMost?, Above, IsNaN]

/-- NaN reaches no bound. -/
theorem IsNaN.not_atLeast (h : v.IsNaN) : ¬ v.AtLeast bound := by
  cases v with
  | float x => exact Decimal.not_le_iff.2 (.inr (.inr h))
  | _ => exact h.elim

theorem IsNaN.not_above (h : v.IsNaN) : ¬ v.Above bound := by
  cases v with
  | float x => exact Decimal.not_lt_iff.2 (.inr (.inr h))
  | _ => exact h.elim

end Value

namespace Setting

/-- The values in the range of a setting. -/
def Allows : Setting → Value → Prop
  | .cacheSize, v => v.AtLeast 0
  | .cacheTtl, v => v = .null ∨ v.Above 0
  | .validateDefaults, _ => True
  | .maxPatterns, v => v = .null ∨ v.AtLeast 1

/-- Whether a value is out of the range of a setting, unless the two cannot be compared. -/
def outside? : Setting → Value → Option Bool
  | .cacheSize, v => v.below? 0
  | .cacheTtl, v => if v.isNull then some false else v.atMost? 0
  | .validateDefaults, _ => some false
  | .maxPatterns, v => if v.isNull then some false else v.below? 1

/-- A value that may be missing is missing, or else as it must be. -/
theorem missing_or_iff {v : Value} {outside? : Option Bool} {InRange : Prop}
    (h : outside? = some false ↔ InRange ∨ v.IsNaN) :
    (if v.isNull then some false else outside?) = some false ↔
      (v = .null ∨ InRange) ∨ v.IsNaN := by
  by_cases hnull : v.isNull = true
  · exact iff_of_true (if_pos hnull) (.inl (.inl (Value.isNull_iff.1 hnull)))
  · rw [if_neg hnull, h, ← Value.isNull_iff, or_iff_right hnull]

/-- **A value is not found out of range exactly if it is in the range or is NaN.** -/
theorem outside?_eq_some_false_iff {s : Setting} {v : Value} :
    s.outside? v = some false ↔ s.Allows v ∨ v.IsNaN := by
  have hzero : (Float.ofInt 0).isNaN = false := by decide +kernel
  have hone : (Float.ofInt 1).isNaN = false := by decide +kernel
  cases s with
  | cacheSize => exact Value.below?_eq_some_false_iff hzero
  | cacheTtl => exact missing_or_iff (Value.atMost?_eq_some_false_iff hzero)
  | validateDefaults => exact iff_of_true rfl (.inl trivial)
  | maxPatterns => exact missing_or_iff (Value.below?_eq_some_false_iff hone)

/-- Values of the kind of a setting can be compared with its bound. -/
theorem outside?_ne_none {s : Setting} {v : Value} (h : s.Holds v) : s.outside? v ≠ none := by
  cases s with
  | cacheSize =>
      obtain ⟨n, rfl⟩ := h
      simp [outside?, Value.below?]
  | cacheTtl => obtain rfl | ⟨x, rfl⟩ := h <;> simp [outside?, Value.isNull, Value.atMost?]
  | validateDefaults => simp [outside?]
  | maxPatterns => obtain rfl | ⟨n, rfl⟩ := h <;> simp [outside?, Value.isNull, Value.below?]

/-- NaN is no integer and no truth value. -/
theorem eq_cacheTtl_of_isNaN {s : Setting} {v : Value} (h : s.Holds v) (hnan : v.IsNaN) :
    s = .cacheTtl := by
  cases s with
  | cacheSize =>
      obtain ⟨n, rfl⟩ := h
      exact hnan.elim
  | cacheTtl => rfl
  | validateDefaults =>
      obtain ⟨b, rfl⟩ := h
      exact hnan.elim
  | maxPatterns => obtain rfl | ⟨n, rfl⟩ := h <;> exact hnan.elim

end Setting

namespace Settings

/-! ## The check -/

/-- What the check says of a value that is out of the range of a setting, or of one that has no
place among numbers. -/
inductive Rejects (s : Setting) (v : Value) : ConfigError → Prop
  | outOfRange (bound : String) (h : s.outside? v = some true) :
      Rejects s v (if v.isWritable then .fault (.outOfRange s.name bound v) else .unwritable)
  | incomparable (operator : String) (h : s.outside? v = none) :
      Rejects s v (.incomparable operator v.kindName)

/-- How the check of one setting ends. -/
theorem checkRange_cases (s : Setting) (v : Value) (bound operator : String) :
    s.outside? v = some false ∧ checkRange s v bound operator (s.outside? v) = .ok () ∨
      ∃ e, Rejects s v e ∧ checkRange s v bound operator (s.outside? v) = .error e := by
  cases h : s.outside? v with
  | none => exact .inr ⟨_, .incomparable operator h, rfl⟩
  | some outside =>
      cases outside with
      | false => exact .inl ⟨rfl, rfl⟩
      | true => exact .inr ⟨_, .outOfRange bound h, rfl⟩

/-- The check goes through the settings that have bounds. -/
theorem check_eq (c : Settings) : c.check = do
    checkRange .cacheSize c.cacheSize ">= 0" "<" (Setting.cacheSize.outside? c.cacheSize)
    checkRange .cacheTtl c.cacheTtl "> 0" "<=" (Setting.cacheTtl.outside? c.cacheTtl)
    checkRange .maxPatterns c.maxPatterns ">= 1" "<" (Setting.maxPatterns.outside? c.maxPatterns)
    return c := by
  obtain ⟨size, ttl, validates, most⟩ := c
  unfold check
  dsimp only [Setting.outside?]
  -- a missing value is passed over there and found in its range here
  cases hsize : checkRange .cacheSize size ">= 0" "<" (size.below? 0) with
  | error e => rfl
  | ok u => cases ttl <;> cases most <;> rfl

/-- **How the check ends**: with the settings as they are if it finds none of them out of range, or
else with what it says of one of them. -/
theorem check_cases (c : Settings) :
    c.check = .ok c ∧ (∀ s : Setting, s.outside? (c.get s) = some false) ∨
      ∃ s e, Rejects s (c.get s) e ∧ c.check = .error e := by
  rw [check_eq]
  obtain ⟨hsize, h⟩ | ⟨e, he, h⟩ := checkRange_cases .cacheSize c.cacheSize ">= 0" "<"
  · rw [h]
    obtain ⟨httl, h⟩ | ⟨e, he, h⟩ := checkRange_cases .cacheTtl c.cacheTtl "> 0" "<="
    · rw [h]
      obtain ⟨hmost, h⟩ | ⟨e, he, h⟩ := checkRange_cases .maxPatterns c.maxPatterns ">= 1" "<"
      · rw [h]
        refine .inl ⟨rfl, fun s => ?_⟩
        cases s with
        | cacheSize => exact hsize
        | cacheTtl => exact httl
        | validateDefaults => rfl
        | maxPatterns => exact hmost
      · rw [h]
        exact .inr ⟨.maxPatterns, e, he, rfl⟩
    · rw [h]
      exact .inr ⟨.cacheTtl, e, he, rfl⟩
  · rw [h]
    exact .inr ⟨.cacheSize, e, he, rfl⟩

theorem Rejects.ne_some_false {s : Setting} {v : Value} {e : ConfigError} (h : Rejects s v e) :
    s.outside? v ≠ some false := by
  cases h with
  | outOfRange bound h | incomparable operator h => simp [h]

/-- **Settings pass the check exactly if each of them is in its range or is NaN.** -/
theorem check_eq_ok_iff {c : Settings} :
    c.check = .ok c ↔ ∀ s : Setting, s.Allows (c.get s) ∨ (c.get s).IsNaN := by
  simp only [← Setting.outside?_eq_some_false_iff]
  obtain ⟨h, hinside⟩ | ⟨s, e, he, h⟩ := check_cases c
  · exact iff_of_true h hinside
  · rw [h]
    exact iff_of_false nofun fun hinside => he.ne_some_false (hinside s)

/-- NaN passes the check in place of any setting. -/
theorem check_set_of_isNaN {c : Settings} (hc : c.check = .ok c) {s : Setting} {v : Value}
    (h : v.IsNaN) : (c.set s v).check = .ok (c.set s v) := by
  refine check_eq_ok_iff.2 fun t => ?_
  rw [get_set]
  split
  · exact .inr h
  · exact check_eq_ok_iff.1 hc t

/-! ## All ways to come about -/

/-- Settings with values that are taken as they are. -/
def IsGiven (c : Settings) : Prop := ∃ values, ofValues values = .ok c

theorem check_of_isGiven {c : Settings} (h : IsGiven c) : c.check = .ok c := by
  obtain ⟨values, h⟩ := h
  obtain ⟨taken, -, hcheck⟩ := bind_eq_ok.1 h
  obtain rfl := check_eq_ok hcheck
  exact hcheck

theorem Overridden.mono {start start' : Settings → Prop} (hstart : ∀ c, start c → start' c)
    {c : Settings} (h : Overridden start c) : Overridden start' c := by
  induction h with
  | start h => exact .start (hstart _ h)
  | override _ h ih => exact .override ih h

/-- **Settings are in their ranges, apart from NaN.** However settings come about, from values that
are taken as they are or are read, and overridden any number of times since, each of them is in its
range or is NaN. If the values have been read, then the duration alone can be NaN. -/
theorem allowed_or_nan {c : Settings} (h : Overridden (fun c => IsGiven c ∨ IsRead c) c) :
    (∀ s : Setting, s.Allows (c.get s) ∨ (c.get s).IsNaN) ∧
      (Overridden IsRead c → ∀ s : Setting, s ≠ .cacheTtl → s.Allows (c.get s)) := by
  have hcheck : c.check = .ok c := h.check fun c hc => hc.elim check_of_isGiven check_of_isRead
  have hrange := check_eq_ok_iff.1 hcheck
  refine ⟨hrange, fun hread s hs => (hrange s).resolve_right fun hnan => hs ?_⟩
  exact Setting.eq_cacheTtl_of_isNaN (hread.holds s) hnan

/-- A size and a duration that are read from texts of the environment, with a bound on the routes as
an override. -/
theorem allowed_or_nan_layers :
    let l : Layers :=
      { environment? := some (.ofList
          [("URIROUTE_CACHE_SIZE", some " 1_0 "), ("URIROUTE_CACHE_TTL", some "NaN")]) }
    let o : Bindings Value := .ofList [("max_patterns", .float 7)]
    ∃ c c', l.load = .ok c ∧ c.withOverrides o = .ok c' ∧
      (∀ s : Setting, s.Allows (c'.get s) ∨ (c'.get s).IsNaN) ∧
      ∀ s : Setting, s ≠ .cacheTtl → s.Allows (c'.get s) := by
  intro l o
  have hruns : (l.load >>= (·.withOverrides o)).toOption.isSome = true := by decide +kernel
  obtain ⟨c', hc'⟩ := Option.isSome_iff_exists.1 hruns
  obtain ⟨c, hc, h⟩ := bind_eq_ok.1 (toOption_eq_some.1 hc')
  have hread : Overridden IsRead c' := .override (.start (.inr ⟨l, hc⟩)) h
  obtain ⟨hrange, hkinds⟩ := allowed_or_nan (hread.mono fun _ => .inr)
  exact ⟨c, c', hc, h, hrange, hkinds hread⟩

/-- NaN is accepted as a duration when it is read, and as a size when it is taken as it is. -/
theorem exists_nan_accepted :
    let nan := Float.ofBits 0x7ff8000000000000
    (∃ c, ofBindings (.ofList [("cache_ttl", .float nan)]) = .ok c ∧
        ¬ Setting.cacheTtl.Allows (c.get .cacheTtl)) ∧
      ∃ c, ofValues (.ofList [("cache_size", .float nan)]) = .ok c ∧
        ¬ Setting.cacheSize.Allows (c.get .cacheSize) := by
  intro nan
  have hnan : (Value.float nan).IsNaN := by
    show nan.isNaN = true
    decide +kernel
  have hdefaults : check {} = .ok {} := rfl
  refine ⟨⟨({} : Settings).set .cacheTtl (.float nan), ?_, ?_⟩,
    ({} : Settings).set .cacheSize (.float nan), ?_, hnan.not_atLeast⟩
  · show check (({} : Settings).set .cacheTtl (.float nan)) = _
    exact check_set_of_isNaN hdefaults hnan
  · rintro (h | h)
    · cases h
    · exact hnan.not_above h
  · show check (({} : Settings).set .cacheSize (.float nan)) = _
    exact check_set_of_isNaN hdefaults hnan

end Settings

end PathRouter
