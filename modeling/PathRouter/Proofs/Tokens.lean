import PathRouter.Pattern
import PathRouter.Outcome
import Mathlib.Tactic

set_option autoImplicit false

/-! # What tokens of a source are like

The variables of a source have been read from specs, so that what holds of specs holds of them
(`Token.forall_mem_of_ofSource`): their constraints have been checked
(`Token.admitted_of_ofSource`). A wildcard is the last token, if there is one at all
(`Token.areMatchable_of_ofSource`), as it must be in a template that is a pattern
(`Pattern.ofTemplate_eq_ok`).
-/

namespace PathRouter

open Outcome

/-! ## Checked constraints -/

/-- The constraint compiles, in both forms in which it is checked, and captures nothing. -/
def VarSpec.Admits (constraint : List Char) : Prop :=
  ∃ program, compileConstraint constraint = .ok program ∧ program.groups = 0

/-- The constraint of a token, if it has one, has been checked. -/
def Token.Admitted : Token → Prop
  | .var v => ∀ constraint, v.constraint? = some constraint → VarSpec.Admits constraint.toList
  | _ => True

namespace VarSpec

variable {ctx : SpecContext}

theorem compileConstraint_of_checkConstraint {constraint : List Char} {start stop : Int}
    {program : Regex.Program} (h : checkConstraint ctx constraint start stop = .ok program) :
    compileConstraint constraint = .ok program ∧ program.groups = 0 := by
  unfold checkConstraint at h
  dsimp only at h
  split at h
  · cases h
  · split at h
    · cases h
    · cases h
    · next compiled hcompiled =>
      split at h
      · cases h
      · next hgroups =>
        obtain rfl := Except.ok.inj h
        exact ⟨hcompiled, not_not.1 hgroups⟩

theorem admits_of_parse {text : List Char} {start stop : Int} {s : VarSpec}
    (h : parse ctx text start stop = .ok s) {constraint : String}
    (hs : s.constraint? = some constraint) : Admits constraint.toList := by
  unfold parse at h
  split at h
  · cases h
  · generalize divide text = parts at h
    obtain ⟨name, default?, constraint?⟩ := parts
    dsimp only at h
    split at h
    · cases h
    · split at h
      · cases h
      · cases constraint? with
        | none =>
            obtain rfl := Except.ok.inj h
            cases hs
        | some cs =>
            -- the constraint is checked before the default is matched with it
            obtain ⟨program, hchecked, h⟩ := bind_eq_ok.1 h
            have hsame : s.constraint? = some (String.ofList cs) := by
              cases default? with
              | none =>
                  obtain rfl := Except.ok.inj h
                  rfl
              | some d =>
                  dsimp only at h
                  split at h
                  · cases h
                  · obtain rfl := Except.ok.inj h
                    rfl
            obtain rfl := Option.some.inj (hs.symm.trans hsame)
            rw [String.toList_ofList]
            exact ⟨program, compileConstraint_of_checkConstraint hchecked⟩

/-- The specs of an expansion have all been read, each from a text of its own. -/
theorem exists_of_parsePieces {pieces : List (List Char)} {start : Int} {specs : List VarSpec}
    (h : parsePieces ctx start pieces = .ok specs) :
    ∀ s ∈ specs, ∃ text first last, parse ctx text first last = .ok s := by
  induction pieces generalizing start specs with
  | nil =>
      obtain rfl := Except.ok.inj h
      exact nofun
  | cons piece rest ih =>
      unfold parsePieces at h
      obtain ⟨first, hfirst, h⟩ := bind_eq_ok.1 h
      obtain ⟨others, hothers, h⟩ := bind_eq_ok.1 h
      obtain rfl := Except.ok.inj h
      exact List.forall_mem_cons.2 ⟨⟨_, _, _, hfirst⟩, ih hothers⟩

end VarSpec

/-! ## What holds of all tokens -/

/-- The variable that a spec gives, with a spelling. -/
def VarSpec.variable (s : VarSpec) (expression : String) : Variable :=
  { name := s.name, default? := s.default?, constraint? := s.constraint?, expression }

namespace Token

variable {P : Token → Prop}

theorem forall_mem_ofSpecs (hliteral : ∀ text, P (.literal text)) {lead : String}
    {specs : List (VarSpec × List Char)}
    (hvar : ∀ s ∈ specs, ∀ expression, P (.var (s.1.variable expression))) :
    ∀ t ∈ ofSpecs lead specs, P t := by
  induction specs generalizing lead with
  | nil => exact fun _ ht => nomatch ht
  | cons first rest ih =>
      obtain ⟨s, piece⟩ := first
      obtain ⟨hs, hrest⟩ := List.forall_mem_cons.1 hvar
      cases rest with
      | nil => exact List.forall_mem_cons.2 ⟨hs _, fun _ ht => nomatch ht⟩
      | cons second rest =>
          exact List.forall_mem_cons.2 ⟨hs _, List.forall_mem_cons.2 ⟨hliteral _, ih hrest⟩⟩

theorem ofText_eq_ok {source : String} {start : Nat} {cs : List Char} {t : Token}
    (h : ofText source start cs = .ok t) : t = .literal (String.ofList cs) := by
  unfold ofText at h
  split at h
  · cases h
  · exact (Except.ok.inj h).symm

/-- The tokens of the text that ends a source: a literal, a wildcard, or both. -/
theorem ofLastText_eq_ok {source : String} {start : Nat} {cs : List Char} {tokens : List Token}
    (h : ofLastText source start cs = .ok tokens) :
    tokens = [.literal (String.ofList cs)] ∨ tokens = [.wildcard wildcardText] ∨
      tokens = [.literal (String.ofList cs.dropLast), .wildcard wildcardText] := by
  unfold ofLastText at h
  split at h
  · split at h
    · exact .inr (.inl (Except.ok.inj h).symm)
    · obtain ⟨t, ht, rfl⟩ := map_eq_ok.1 h
      rw [ofText_eq_ok ht]
      exact .inr (.inr rfl)
  · obtain ⟨t, ht, rfl⟩ := map_eq_ok.1 h
    rw [ofText_eq_ok ht]
    exact .inl rfl

/-- A segment that does not end a source has literals and variables only. -/
theorem forall_mem_of_ofSegment {validateDefaults : Bool} (hliteral : ∀ text, P (.literal text))
    (hvar : ∀ {ctx text first last s}, ctx.validateDefaults = validateDefaults →
      VarSpec.parse ctx text first last = .ok s → ∀ expression, P (.var (s.variable expression)))
    {source : String} {start : Nat} {segment : Segment} {tokens : List Token}
    (h : ofSegment source validateDefaults start segment = .ok tokens) : ∀ t ∈ tokens, P t := by
  cases segment with
  | text cs =>
      obtain ⟨t, ht, rfl⟩ := map_eq_ok.1 h
      rw [ofText_eq_ok ht]
      exact List.forall_mem_singleton.2 (hliteral _)
  | expansion body =>
      obtain ⟨specs, hspecs, rfl⟩ := map_eq_ok.1 h
      refine forall_mem_ofSpecs hliteral fun s hs expression => ?_
      obtain ⟨text, first, last, hparse⟩ :=
        VarSpec.exists_of_parsePieces hspecs s.1 (List.of_mem_zip hs).1
      exact hvar rfl hparse expression

theorem isMatchable_of_ofSegment {source : String} {validateDefaults : Bool} {start : Nat}
    {segment : Segment} {tokens : List Token}
    (h : ofSegment source validateDefaults start segment = .ok tokens) :
    ∀ t ∈ tokens, t.isMatchable false = true :=
  forall_mem_of_ofSegment (fun _ => rfl) (fun _ _ _ => rfl) h

/-- **What holds of literals, of the wildcard, and of variables that have been read from a spec
holds of all tokens of a source.** -/
theorem forall_mem_of_ofSource {validateDefaults : Bool} (hliteral : ∀ text, P (.literal text))
    (hwildcard : P (.wildcard wildcardText))
    (hvar : ∀ {ctx text first last s}, ctx.validateDefaults = validateDefaults →
      VarSpec.parse ctx text first last = .ok s → ∀ expression, P (.var (s.variable expression)))
    {source : String} {tokens : List Token} (h : ofSource source validateDefaults = .ok tokens) :
    ∀ t ∈ tokens, P t := by
  unfold ofSource at h
  generalize Segment.ofSource source.toList = segments at h
  generalize 0 = start at h
  fun_induction ofSegments source validateDefaults start segments generalizing tokens with
  | case1 =>
      obtain rfl := Except.ok.inj h
      exact nofun
  | case2 start cs =>
      rcases ofLastText_eq_ok h with rfl | rfl | rfl
      · exact List.forall_mem_singleton.2 (hliteral _)
      · exact List.forall_mem_singleton.2 hwildcard
      · exact List.forall_mem_cons.2 ⟨hliteral _, List.forall_mem_singleton.2 hwildcard⟩
  | case3 start segment rest _ ih =>
      obtain ⟨first, hfirst, h⟩ := bind_eq_ok.1 h
      obtain ⟨further, hfurther, h⟩ := bind_eq_ok.1 h
      obtain rfl := Except.ok.inj h
      have hsegment := forall_mem_of_ofSegment hliteral hvar hfirst
      exact List.forall_mem_append.2 ⟨hsegment, ih hfurther⟩

/-- **Constraints in the tokens of a source have been checked.** -/
theorem admitted_of_ofSource {source : String} {validateDefaults : Bool} {tokens : List Token}
    (h : ofSource source validateDefaults = .ok tokens) : ∀ t ∈ tokens, t.Admitted :=
  forall_mem_of_ofSource (fun _ => trivial) trivial
    (fun _ hparse _ _ hconstraint => VarSpec.admits_of_parse hparse hconstraint) h

end Token

/-! ## Wildcards -/

namespace Pattern

/-- All tokens are matchable exactly if there is no first one that is not. -/
theorem firstUnmatchable_eq_none_iff {start : Nat} {tokens : List Token} :
    firstUnmatchable start tokens = none ↔ areMatchable tokens = true := by
  induction tokens generalizing start with
  | nil => simp [firstUnmatchable, areMatchable]
  | cons t rest ih =>
      rw [firstUnmatchable]
      cases rest with
      | nil => by_cases h : t.isMatchable true = true <;> simp [areMatchable, firstUnmatchable, h]
      | cons s rest =>
          by_cases h : t.isMatchable false = true
          · simp [areMatchable, h, ih]
          · simp [areMatchable, h]

/-- Nothing follows a wildcard. -/
theorem eq_nil_of_areMatchable {expression : String} {rest : List Token}
    (h : areMatchable (.wildcard expression :: rest) = true) : rest = [] := by
  cases rest with
  | nil => rfl
  | cons u rest => cases (Bool.and_eq_true_iff.1 h).1

theorem areMatchable_tail {t : Token} {rest : List Token}
    (h : areMatchable (t :: rest) = true) : areMatchable rest = true := by
  cases rest with
  | nil => rfl
  | cons u rest => exact (Bool.and_eq_true_iff.1 h).2

theorem areMatchable_of_append {before after : List Token}
    (h : areMatchable (before ++ after) = true) : areMatchable after = true := by
  induction before with
  | nil => exact h
  | cons t before ih => exact ih (areMatchable_tail h)

/-- Tokens that are matchable anywhere may stand before others. -/
theorem areMatchable_append {first rest : List Token}
    (hfirst : ∀ t ∈ first, t.isMatchable false = true) (hrest : areMatchable rest = true) :
    areMatchable (first ++ rest) = true := by
  have hanywhere : ∀ t : Token, t.isMatchable false = true → t.isMatchable true = true := by
    intro t _
    cases t <;> rfl
  induction first with
  | nil => exact hrest
  | cons t first ih =>
      obtain ⟨ht, hfirst⟩ := List.forall_mem_cons.1 hfirst
      have hih := ih hfirst
      rw [List.cons_append]
      cases hrest' : first ++ rest with
      | nil => exact hanywhere t ht
      | cons s others =>
          rw [hrest'] at hih
          rw [areMatchable, ht, hih]
          · rfl
          · simp

end Pattern

namespace Token

/-- **A wildcard can only be the last token of a source.** -/
theorem areMatchable_of_ofSource {source : String} {validateDefaults : Bool}
    {tokens : List Token} (h : ofSource source validateDefaults = .ok tokens) :
    Pattern.areMatchable tokens = true := by
  unfold ofSource at h
  generalize Segment.ofSource source.toList = segments at h
  generalize 0 = start at h
  -- only the last segment may bring a wildcard
  fun_induction ofSegments source validateDefaults start segments generalizing tokens with
  | case1 =>
      obtain rfl := Except.ok.inj h
      rfl
  | case2 start cs => rcases ofLastText_eq_ok h with rfl | rfl | rfl <;> rfl
  | case3 start segment rest _ ih =>
      obtain ⟨first, hfirst, h⟩ := bind_eq_ok.1 h
      obtain ⟨further, hfurther, h⟩ := bind_eq_ok.1 h
      obtain rfl := Except.ok.inj h
      exact Pattern.areMatchable_append (isMatchable_of_ofSegment hfirst) (ih hfurther)

end Token

/-! ## Templates that are patterns -/

namespace Pattern

/-- **What it takes to be a pattern.** A template is one if a wildcard only stands at its end and
its expression compiles to as many groups as it has tokens. -/
theorem ofTemplate_eq_ok {t : Template} {p : Pattern} :
    ofTemplate t = .ok p ↔ areMatchable t.tokens = true ∧ p.template = t ∧
      Regex.compile false modes (expressionOf t.tokens) = .ok p.program ∧
      p.program.groups = t.tokens.length := by
  have hstart : firstUnmatchable 0 t.tokens = none ↔ areMatchable t.tokens = true :=
    firstUnmatchable_eq_none_iff
  rw [← hstart]
  constructor
  · intro h
    unfold ofTemplate at h
    split at h
    · cases h
    · next hmatchable =>
      dsimp only at h
      split at h
      · cases h
      · cases h
      · next program hcompiles =>
        split at h
        · next hgroups =>
          obtain rfl := Except.ok.inj h
          exact ⟨hmatchable, rfl, hcompiles, hgroups⟩
        · cases h
  · obtain ⟨template, program⟩ := p
    rintro ⟨hmatchable, rfl, hcompiles, hgroups⟩
    unfold ofTemplate
    rw [hmatchable]
    dsimp only at hcompiles ⊢
    rw [hcompiles]
    exact if_pos hgroups

theorem template_of_ofTemplate {t : Template} {p : Pattern} (h : ofTemplate t = .ok p) :
    p.template = t :=
  (ofTemplate_eq_ok.1 h).2.1

end Pattern

end PathRouter
