import PathRouter.Proofs.Tokens
import Mathlib.Data.List.TakeWhile

set_option autoImplicit false

/-! # The grammar of templates

Which texts are specs of variables (`VarSpec.IsSpec`) and which sources are templates
(`Template.Grammatical`) is said here without a reader. The readers accept exactly these:
`VarSpec.parse_eq_ok` says what is read from a spec, and `Token.ofSource_isOk_iff_grammatical` that
a source has tokens exactly if it is grammatical. Text outside expansions is never a reason to
refuse a source.
-/

namespace PathRouter

open Outcome

namespace VarSpec

/-! ## Names -/

/-- A letter of the alphabet `A-Za-z`. -/
def IsLetter (c : Char) : Prop := ('A' ≤ c ∧ c ≤ 'Z') ∨ ('a' ≤ c ∧ c ≤ 'z')

/-- The texts that match `[A-Za-z_][A-Za-z0-9_.-]*`. -/
def IsName : List Char → Prop
  | [] => False
  | c :: rest => (IsLetter c ∨ c = '_') ∧
      ∀ d ∈ rest, IsLetter d ∨ ('0' ≤ d ∧ d ≤ '9') ∨ d = '_' ∨ d = '.' ∨ d = '-'

theorem isAlpha_iff (c : Char) : c.isAlpha = true ↔ IsLetter c := by
  have hupper : c.isUpper = true ↔ 'A' ≤ c ∧ c ≤ 'Z' := decide_eq_true_iff
  have hlower : c.isLower = true ↔ 'a' ≤ c ∧ c ≤ 'z' :=
    Bool.and_eq_true_iff.trans (and_congr decide_eq_true_iff decide_eq_true_iff)
  rw [IsLetter, ← hupper, ← hlower]
  exact Bool.or_eq_true_iff

theorem isDigit_iff (c : Char) : c.isDigit = true ↔ '0' ≤ c ∧ c ≤ '9' := by
  simp only [Char.isDigit, Bool.and_eq_true, decide_eq_true_eq, Char.le_def]

theorem isName_iff {cs : List Char} : isName cs = true ↔ IsName cs := by
  cases cs with
  | nil => simp [isName, IsName]
  | cons c rest =>
      simp only [isName, isNameStart, isNameContinue, IsName, Char.isAlphanum, Bool.and_eq_true,
        Bool.or_eq_true, beq_iff_eq, List.all_eq_true, isAlpha_iff, isDigit_iff, or_assoc]

/-- A name has none of the separators of a spec. -/
theorem IsName.not_separator {cs : List Char} (h : IsName cs) : ∀ c ∈ cs, c ≠ '=' ∧ c ≠ ':' := by
  have hletter : ¬ IsLetter '=' ∧ ¬ IsLetter ':' := by
    constructor <;> · unfold IsLetter; decide
  cases cs with
  | nil => exact nofun
  | cons first rest =>
      obtain ⟨hfirst, hrest⟩ := h
      intro c hc
      rcases List.mem_cons.1 hc with rfl | hc
      · constructor
        · rintro rfl
          exact hfirst.elim hletter.1 (by decide)
        · rintro rfl
          exact hfirst.elim hletter.2 (by decide)
      · constructor
        · rintro rfl
          exact (hrest _ hc).elim hletter.1 (by decide)
        · rintro rfl
          exact (hrest _ hc).elim hletter.2 (by decide)

/-! ## The forms of a spec -/

/-- A spec as it is spelt: `name`, `name=default`, `name=default:constraint` or
`name:constraint`. -/
def spelling (name : List Char) (default? constraint? : Option (List Char)) : List Char :=
  name ++ (default?.map ('=' :: ·)).getD [] ++ (constraint?.map (':' :: ·)).getD []

/-- A text is cut in front of the first character that fails a test. -/
theorem takeWhile_dropWhile_iff {p : Char → Bool} {cs before after : List Char} :
    (cs.takeWhile p = before ∧ cs.dropWhile p = after) ↔
      cs = before ++ after ∧ (∀ c ∈ before, p c = true) ∧ ∀ c ∈ after.head?, p c = false := by
  constructor
  · rintro ⟨rfl, rfl⟩
    refine ⟨List.takeWhile_append_dropWhile.symm, fun c hc => List.mem_takeWhile_imp hc, ?_⟩
    intro c hc
    have hnot := List.head?_dropWhile_not p cs
    rw [Option.mem_def.1 hc] at hnot
    simpa using hnot
  · rintro ⟨rfl, hbefore, hafter⟩
    have hstop : after.takeWhile p = [] ∧ after.dropWhile p = after := by
      cases after with
      | nil => exact ⟨rfl, rfl⟩
      | cons c rest => simp [hafter c rfl]
    rw [List.takeWhile_append_of_pos hbefore, List.dropWhile_append_of_pos hbefore, hstop.1,
      hstop.2, List.append_nil]
    exact ⟨rfl, rfl⟩

/-- So there is one place only to cut it there. -/
theorem eq_of_append_eq_append {p : Char → Bool} {before before' after after' : List Char}
    (h : before ++ after = before' ++ after') (hbefore : ∀ c ∈ before, p c = true)
    (hbefore' : ∀ c ∈ before', p c = true) (hafter : ∀ c ∈ after.head?, p c = false)
    (hafter' : ∀ c ∈ after'.head?, p c = false) : before = before' ∧ after = after' := by
  obtain ⟨htake, hdrop⟩ := takeWhile_dropWhile_iff.2 ⟨rfl, hbefore, hafter⟩
  obtain ⟨htake', hdrop'⟩ := takeWhile_dropWhile_iff.2 ⟨h, hbefore', hafter'⟩
  exact ⟨htake.symm.trans htake', hdrop.symm.trans hdrop'⟩

/-- A spec that is spelt out is divided into what it was spelt from. -/
theorem divide_spelling {name : List Char} {default? constraint? : Option (List Char)}
    (hname : ∀ c ∈ name, c ≠ '=' ∧ c ≠ ':')
    (hdefault : ∀ default, default? = some default → ':' ∉ default) :
    divide (spelling name default? constraint?) = (name, default?, constraint?) := by
  have hpass : ∀ c ∈ name, (c != '=' && c != ':') = true := by simpa using hname
  have hcut : ∀ tail : List Char, (∀ c ∈ tail.head?, (c != '=' && c != ':') = false) →
      (name ++ tail).takeWhile (fun c => c != '=' && c != ':') = name ∧
        (name ++ tail).dropWhile (fun c => c != '=' && c != ':') = tail :=
    fun tail htail => takeWhile_dropWhile_iff.2 ⟨rfl, hpass, htail⟩
  cases default? with
  | none =>
      cases constraint? with
      | none =>
          obtain ⟨htake, hdrop⟩ := hcut [] nofun
          simp only [List.append_nil] at htake hdrop
          simp [divide, spelling, htake, hdrop]
      | some constraint =>
          obtain ⟨htake, hdrop⟩ := hcut (':' :: constraint) (by simp)
          simp [divide, spelling, htake, hdrop]
  | some default =>
      have hcolon : ∀ c ∈ default, (c != ':') = true := by
        intro c hc
        rw [bne_iff_ne]
        rintro rfl
        exact hdefault default rfl hc
      cases constraint? with
      | none =>
          obtain ⟨htake, hdrop⟩ := hcut ('=' :: default) (by simp)
          obtain ⟨htake', hdrop'⟩ := takeWhile_dropWhile_iff.2
            ⟨(List.append_nil default).symm, hcolon, nofun⟩
          simp [divide, spelling, htake, hdrop, htake', hdrop']
      | some constraint =>
          obtain ⟨htake, hdrop⟩ := hcut ('=' :: (default ++ ':' :: constraint)) (by simp)
          obtain ⟨htake', hdrop'⟩ := takeWhile_dropWhile_iff.2
            (⟨rfl, hcolon, by simp⟩ : default ++ ':' :: constraint = _ ∧ _ ∧ _)
          simp [divide, spelling, htake, hdrop, htake', hdrop']

/-- Every text is spelt from a name, a default and a constraint. -/
theorem exists_spelling (text : List Char) :
    ∃ name default? constraint?, text = spelling name default? constraint? ∧
      (∀ c ∈ name, c ≠ '=' ∧ c ≠ ':') ∧ ∀ default, default? = some default → ':' ∉ default := by
  obtain ⟨htext, hpass, hstop⟩ := takeWhile_dropWhile_iff.1
    (⟨rfl, rfl⟩ : text.takeWhile (fun c => c != '=' && c != ':') = _ ∧ _)
  generalize text.takeWhile (fun c => c != '=' && c != ':') = name at htext hpass
  generalize text.dropWhile (fun c => c != '=' && c != ':') = tail at htext hstop
  have hname : ∀ c ∈ name, c ≠ '=' ∧ c ≠ ':' := by simpa using hpass
  subst htext
  cases tail with
  | nil => exact ⟨name, none, none, by simp [spelling], hname, nofun⟩
  | cons c rest =>
      have hc : c = '=' ∨ c = ':' := by
        rw [or_iff_not_imp_left]
        simpa using hstop c rfl
      rcases hc with rfl | rfl
      · -- a default, which ends at the next `:`
        obtain ⟨hrest, hcolon, hnext⟩ := takeWhile_dropWhile_iff.1
          (⟨rfl, rfl⟩ : rest.takeWhile (· != ':') = _ ∧ _)
        generalize rest.takeWhile (· != ':') = default at hrest hcolon
        generalize rest.dropWhile (· != ':') = remainder at hrest hnext
        have hdefault : ∀ d, some default = some d → ':' ∉ d := by
          rintro d hd
          obtain rfl := Option.some.inj hd
          intro hmem
          simpa using hcolon ':' hmem
        subst hrest
        cases remainder with
        | nil => exact ⟨name, some default, none, by simp [spelling], hname, hdefault⟩
        | cons c constraint =>
            obtain rfl : c = ':' := by simpa using hnext c rfl
            exact ⟨name, some default, some constraint, by simp [spelling], hname, hdefault⟩
      · exact ⟨name, none, some rest, by simp [spelling], hname, nofun⟩

/-- **A spec is divided as it is spelt**: the name ends at the first `=` or `:`, and a default at
the first `:` after it. -/
theorem divide_eq_iff {text name : List Char} {default? constraint? : Option (List Char)} :
    divide text = (name, default?, constraint?) ↔
      text = spelling name default? constraint? ∧ (∀ c ∈ name, c ≠ '=' ∧ c ≠ ':') ∧
        ∀ default, default? = some default → ':' ∉ default := by
  constructor
  · intro h
    obtain ⟨name', default', constraint', rfl, hname, hdefault⟩ := exists_spelling text
    rw [divide_spelling hname hdefault] at h
    obtain ⟨rfl, rfl, rfl⟩ : name' = name ∧ default' = default? ∧ constraint' = constraint? := by
      simpa using h
    exact ⟨rfl, hname, hdefault⟩
  · rintro ⟨rfl, hname, hdefault⟩
    exact divide_spelling hname hdefault

/-! ## Specs -/

/-- What a constraint has to be: it is not empty; it compiles in a group after other text, where
nothing deprecated is let through; it compiles by itself and captures nothing; and it matches all of
the default if there is one and defaults are validated. -/
structure Constrains (validateDefaults : Bool) (default? : Option (List Char))
    (constraint : List Char) : Prop where
  nonempty : constraint ≠ []
  embeds : ∃ program, Regex.compile true {} ('_' :: '(' :: constraint ++ [')']) = .ok program
  standsAlone : ∃ program, Regex.compile false {} constraint = .ok program ∧ program.groups = 0 ∧
    (validateDefaults = true → ∀ default, default? = some default →
      (Regex.fullMatch? program.regex default).isSome = true)

/-- A text is the spec of a name, a default and a constraint. -/
structure Specifies (validateDefaults : Bool) (text name : List Char)
    (default? constraint? : Option (List Char)) : Prop where
  spelt : text = spelling name default? constraint?
  named : IsName name
  default : ∀ default, default? = some default → ':' ∉ default
  constraint : ∀ constraint, constraint? = some constraint →
    Constrains validateDefaults default? constraint

/-- A text is a spec. -/
def IsSpec (validateDefaults : Bool) (text : List Char) : Prop :=
  ∃ name default? constraint?, Specifies validateDefaults text name default? constraint?

variable {ctx : SpecContext}

theorem checkConstraint_eq_ok {constraint : List Char} {start stop : Int}
    {program : Regex.Program} :
    checkConstraint ctx constraint start stop = .ok program ↔
      constraint ≠ [] ∧
        (∃ p, Regex.compile true {} ('_' :: '(' :: constraint ++ [')']) = .ok p) ∧
        Regex.compile false {} constraint = .ok program ∧ program.groups = 0 := by
  unfold checkConstraint compileConstraint
  show (if _ then _ else _) = _ ↔ constraint ≠ [] ∧
    (∃ p, Regex.compile true {} (embedded constraint) = .ok p) ∧ _
  by_cases hempty : constraint = []
  · simp [hempty, refuse]
  · cases hembedded : Regex.compile true {} (embedded constraint) with
    | error e => cases e <;> simp [hempty, refuse]
    | ok p =>
        cases halone : Regex.compile false {} constraint with
        | error e => cases e <;> simp [hempty, refuse]
        | ok q =>
            by_cases hgroups : q.groups = 0
            · simp only [List.isEmpty_iff, hempty, if_false, hgroups, ne_eq, not_true_eq_false,
                not_false_eq_true, Except.ok.injEq, true_and]
              constructor
              · rintro rfl
                exact ⟨⟨p, rfl⟩, rfl, hgroups⟩
              · rintro ⟨-, rfl, -⟩
                rfl
            · simp only [List.isEmpty_iff, hempty, if_false, hgroups, ne_eq, not_false_eq_true,
                if_true, refuse, reduceCtorEq, Except.ok.injEq, true_and, false_iff]
              rintro ⟨-, rfl, hzero⟩
              exact hgroups hzero

/-- A constraint is checked by itself first, and then on the default. -/
theorem constrains_iff {default? : Option (List Char)} {constraint : List Char} {start stop : Int} :
    Constrains ctx.validateDefaults default? constraint ↔
      ∃ program, checkConstraint ctx constraint start stop = .ok program ∧
        ∀ default, default? = some default →
          (ctx.validateDefaults && !satisfies program default) = false := by
  have hfits : ∀ program default, (ctx.validateDefaults && !satisfies program default) = false ↔
      (ctx.validateDefaults = true → satisfies program default = true) := by
    intro program default
    cases ctx.validateDefaults <;> simp
  simp only [hfits]
  constructor
  · rintro ⟨hsome, hembeds, program, halone, hgroups, hfit⟩
    exact ⟨program, checkConstraint_eq_ok.2 ⟨hsome, hembeds, halone, hgroups⟩,
      fun default hd hvalidates => hfit hvalidates default hd⟩
  · rintro ⟨program, hchecked, hfit⟩
    obtain ⟨hsome, hembeds, halone, hgroups⟩ := checkConstraint_eq_ok.1 hchecked
    exact ⟨hsome, hembeds, program, halone, hgroups,
      fun hvalidates default hd => hfit default hd hvalidates⟩

/-- **What is read from a spec is what it specifies.** -/
theorem parse_eq_ok {text : List Char} {start stop : Int} {s : VarSpec} :
    parse ctx text start stop = .ok s ↔
      ∃ name default? constraint?, Specifies ctx.validateDefaults text name default? constraint? ∧
        s = { name := String.ofList name
              default? := default?.map String.ofList
              constraint? := constraint?.map String.ofList
              start, stop } := by
  constructor
  · intro h
    unfold parse at h
    split at h
    · cases h
    · rcases hdivide : divide text with ⟨name, default?, constraint?⟩
      rw [hdivide] at h
      dsimp only at h
      obtain ⟨hspelt, -, hdefault⟩ := divide_eq_iff.1 hdivide
      split at h
      · cases h
      · split at h
        · cases h
        · next hname =>
          have hname : IsName name := isName_iff.1 (by simpa using hname)
          cases constraint? with
          | none =>
              obtain rfl := Except.ok.inj h
              exact ⟨name, default?, none, ⟨hspelt, hname, hdefault, nofun⟩, rfl⟩
          | some constraint =>
              obtain ⟨program, hchecked, h⟩ := bind_eq_ok.1 h
              suffices hfit : (∀ default, default? = some default →
                  (ctx.validateDefaults && !satisfies program default) = false) ∧
                  s = { name := String.ofList name
                        default? := default?.map String.ofList
                        constraint? := some (String.ofList constraint)
                        start, stop } by
                refine ⟨name, default?, some constraint, ⟨hspelt, hname, hdefault, ?_⟩, hfit.2⟩
                intro c hc
                obtain rfl := Option.some.inj hc
                exact constrains_iff.2 ⟨program, hchecked, hfit.1⟩
              cases default? with
              | none => exact ⟨nofun, (Except.ok.inj h).symm⟩
              | some default =>
                  dsimp only at h
                  split at h
                  · cases h
                  · next hfit =>
                    refine ⟨fun d hd => ?_, (Except.ok.inj h).symm⟩
                    rw [← Option.some.inj hd]
                    exact Bool.eq_false_iff.2 hfit
  · rintro ⟨name, default?, constraint?, ⟨rfl, hname, hdefault, hconstraint⟩, rfl⟩
    have hnamed : name ≠ [] := by
      rintro rfl
      exact hname
    have htext : (spelling name default? constraint?).isEmpty = false := by
      simp [spelling, hnamed]
    unfold parse
    rw [htext, divide_spelling hname.not_separator hdefault]
    simp only [Bool.false_eq_true, if_false, List.isEmpty_iff, hnamed, isName_iff.2 hname,
      Bool.not_true]
    cases constraint? with
    | none => rfl
    | some constraint =>
        obtain ⟨program, hchecked, hfit⟩ := constrains_iff.1 (hconstraint constraint rfl)
        refine bind_eq_ok.2 ⟨program, hchecked, ?_⟩
        cases default? with
        | none => rfl
        | some default =>
            dsimp only
            rw [hfit default rfl]
            rfl

/-- A spec can be read exactly if it is one. -/
theorem parse_isOk_iff (ctx : SpecContext) (text : List Char) (start stop : Int) :
    (∃ s, parse ctx text start stop = .ok s) ↔ IsSpec ctx.validateDefaults text := by
  constructor
  · rintro ⟨s, h⟩
    obtain ⟨name, default?, constraint?, hspecifies, -⟩ := parse_eq_ok.1 h
    exact ⟨name, default?, constraint?, hspecifies⟩
  · rintro ⟨name, default?, constraint?, hspecifies⟩
    exact ⟨_, parse_eq_ok.2 ⟨name, default?, constraint?, hspecifies, rfl⟩⟩

theorem parsePieces_cons_eq_ok {piece : List Char} {rest : List (List Char)} {start : Int}
    {specs : List VarSpec} :
    parsePieces ctx start (piece :: rest) = .ok specs ↔
      ∃ s others, parse ctx piece start (start + piece.length) = .ok s ∧
        parsePieces ctx (start + piece.length + 1) rest = .ok others ∧ specs = s :: others := by
  rw [parsePieces]
  constructor
  · intro h
    obtain ⟨s, hs, h⟩ := bind_eq_ok.1 h
    obtain ⟨others, hothers, h⟩ := bind_eq_ok.1 h
    exact ⟨s, others, hs, hothers, (Except.ok.inj h).symm⟩
  · rintro ⟨s, others, hs, hothers, rfl⟩
    exact bind_eq_ok.2 ⟨s, hs, bind_eq_ok.2 ⟨others, hothers, rfl⟩⟩

/-- Specs can be read one after the other exactly if each of them is one. -/
theorem parsePieces_isOk_iff (ctx : SpecContext) (start : Int) (pieces : List (List Char)) :
    (∃ specs, parsePieces ctx start pieces = .ok specs) ↔
      ∀ piece ∈ pieces, IsSpec ctx.validateDefaults piece := by
  induction pieces generalizing start with
  | nil => simp [parsePieces]
  | cons piece rest ih =>
      rw [List.forall_mem_cons, ← parse_isOk_iff ctx piece start (start + piece.length),
        ← ih (start + piece.length + 1)]
      simp only [parsePieces_cons_eq_ok]
      constructor
      · rintro ⟨_, s, others, hs, hothers, -⟩
        exact ⟨⟨s, hs⟩, others, hothers⟩
      · rintro ⟨⟨s, hs⟩, others, hothers⟩
        exact ⟨_, s, others, hs, hothers, rfl⟩

end VarSpec

/-! ## Sources -/

namespace Template

/-- A brace, opening or closing. -/
def isBrace (c : Char) : Bool := c == '\x7b' || c == '\x7d'

/-- A source is grammatical: the next brace after an opening one is a closing one, and what stands
between the two is a list of specs, separated by commas. -/
structure Grammatical (validateDefaults : Bool) (cs : List Char) : Prop where
  closed : ∀ before after, cs = before ++ '\x7b' :: after → after.find? isBrace = some '\x7d'
  specs : ∀ before body after, cs = before ++ '\x7b' :: (body ++ '\x7d' :: after) →
    (∀ c ∈ body, isBrace c = false) →
      ∀ piece ∈ splitAt ',' body, VarSpec.IsSpec validateDefaults piece

variable {validateDefaults : Bool}

theorem grammatical_nil : Grammatical validateDefaults [] := ⟨by simp, by simp⟩

/-- A source with one more character in front of it. Only an opening brace makes a difference. -/
theorem grammatical_cons {c : Char} {cs : List Char} :
    Grammatical validateDefaults (c :: cs) ↔
      Grammatical validateDefaults cs ∧
        (c = '\x7b' → cs.find? isBrace = some '\x7d' ∧
          ∀ body after, cs = body ++ '\x7d' :: after → (∀ d ∈ body, isBrace d = false) →
            ∀ piece ∈ splitAt ',' body, VarSpec.IsSpec validateDefaults piece) := by
  constructor
  · rintro ⟨hclosed, hspecs⟩
    refine ⟨⟨?_, ?_⟩, ?_⟩
    · rintro before after rfl
      exact hclosed (c :: before) after rfl
    · rintro before body after rfl
      exact hspecs (c :: before) body after rfl
    · rintro rfl
      exact ⟨hclosed [] cs rfl, fun body after h => hspecs [] body after (congrArg _ h)⟩
  · rintro ⟨⟨hclosed, hspecs⟩, hfirst⟩
    refine ⟨?_, ?_⟩
    · rintro (_ | ⟨b, before⟩) after h
      · obtain ⟨rfl, rfl⟩ := List.cons.inj h
        exact (hfirst rfl).1
      · exact hclosed before after (List.cons.inj h).2
    · rintro (_ | ⟨b, before⟩) body after h
      · obtain ⟨rfl, rfl⟩ := List.cons.inj h
        exact (hfirst rfl).2 body after rfl
      · exact hspecs before body after (List.cons.inj h).2

/-- Text without an opening brace may stand anywhere before an expansion. -/
theorem grammatical_append {text cs : List Char} (h : '\x7b' ∉ text) :
    Grammatical validateDefaults (text ++ cs) ↔ Grammatical validateDefaults cs := by
  induction text with
  | nil => rfl
  | cons c rest ih =>
      obtain ⟨hc, hrest⟩ := List.ne_and_not_mem_of_not_mem_cons h
      rw [List.cons_append, grammatical_cons, ih hrest]
      exact and_iff_left fun hopen => absurd hopen.symm hc

/-- The next brace after text without one is the next brace of what follows. -/
theorem find?_isBrace_append {body cs : List Char} (h : ∀ c ∈ body, isBrace c = false) :
    (body ++ cs).find? isBrace = cs.find? isBrace := by
  have hnone : body.find? isBrace = none := by simpa [List.find?_eq_none] using h
  rw [List.find?_append, hnone, Option.none_or]

/-- The body of an expansion is all that stands before the first brace after it has been opened. -/
theorem eq_of_append_close {body body' after after' : List Char}
    (h : body ++ '\x7d' :: after = body' ++ '\x7d' :: after')
    (hbody : ∀ c ∈ body, isBrace c = false) (hbody' : ∀ c ∈ body', isBrace c = false) :
    body = body' := by
  have hclose : ∀ {rest : List Char}, ∀ c ∈ ('\x7d' :: rest).head?, (!isBrace c) = false := by
    intro rest c hc
    obtain rfl := Option.some.inj hc
    rfl
  exact (VarSpec.eq_of_append_eq_append h (by simpa using hbody) (by simpa using hbody') hclose
    hclose).1

/-- An expansion has to consist of specs, and what follows it is another source. -/
theorem grammatical_expansion {body cs : List Char} (h : ∀ c ∈ body, isBrace c = false) :
    Grammatical validateDefaults ('\x7b' :: (body ++ '\x7d' :: cs)) ↔
      (∀ piece ∈ splitAt ',' body, VarSpec.IsSpec validateDefaults piece) ∧
        Grammatical validateDefaults cs := by
  have hclosed : '\x7b' ∉ body ++ ['\x7d'] := by
    intro hmem
    rcases List.mem_append.1 hmem with hmem | hmem
    · exact absurd (h _ hmem) (by decide)
    · exact absurd hmem (by decide)
  have happend : body ++ '\x7d' :: cs = (body ++ ['\x7d']) ++ cs := by simp
  have hnext : (body ++ '\x7d' :: cs).find? isBrace = some '\x7d' := by
    rw [find?_isBrace_append h]
    rfl
  rw [grammatical_cons, happend, grammatical_append hclosed, ← happend, and_comm]
  refine and_congr_left fun _ => ⟨fun hspecs => (hspecs rfl).2 body cs rfl h, ?_⟩
  rintro hspecs -
  refine ⟨hnext, ?_⟩
  intro body' after hsame hbody'
  rwa [← eq_of_append_close hsame h hbody']

/-- A source that is put together of two grammatical ones is grammatical, and whatever follows a
grammatical source has to be one by itself. -/
theorem grammatical_append_iff {first rest : List Char} (h : Grammatical validateDefaults first) :
    Grammatical validateDefaults (first ++ rest) ↔ Grammatical validateDefaults rest := by
  induction first with
  | nil => rfl
  | cons c cs ih =>
      obtain ⟨hcs, hopen⟩ := grammatical_cons.1 h
      rw [List.cons_append, grammatical_cons, ih hcs]
      refine and_iff_left fun hc => ?_
      obtain ⟨hnext, hspecs⟩ := hopen hc
      refine ⟨by rw [List.find?_append, hnext]; rfl, ?_⟩
      -- the expansion that is opened here ends within the first source
      obtain ⟨-, body, after, rfl, hbody⟩ := List.find?_eq_some_iff_append.1 hnext
      have hbody : ∀ d ∈ body, isBrace d = false := by simpa using hbody
      intro body' after' hsame hbody'
      rw [List.append_assoc, List.cons_append] at hsame
      rw [← eq_of_append_close hsame hbody hbody']
      exact hspecs body after rfl hbody

end Template

namespace Segment

/-- A segment that is not refused: a text without an opening brace, or an expansion of specs. -/
def IsWell (validateDefaults : Bool) : Segment → Prop
  | .text cs => '\x7b' ∉ cs
  | .expansion body => ∀ piece ∈ splitAt ',' body, VarSpec.IsSpec validateDefaults piece

variable {validateDefaults : Bool}

theorem forall_mem_ofText {cs : List Char} :
    (∀ s ∈ ofText cs, s.IsWell validateDefaults) ↔ '\x7b' ∉ cs := by
  cases cs <;> simp [ofText, IsWell]

/-- The segments that are still to come are not refused exactly if the text begun has no opening
brace and the rest, with the expansion begun, is grammatical. -/
theorem forall_mem_segmentsFrom {text cs : List Char} {body? : Option (List Char)}
    (hbody : ∀ body, body? = some body → ∀ c ∈ body, Template.isBrace c = false) :
    (∀ s ∈ segmentsFrom text body? cs, s.IsWell validateDefaults) ↔
      '\x7b' ∉ text ∧ Template.Grammatical validateDefaults
        ((body?.map fun body => '\x7b' :: body.reverse).getD [] ++ cs) := by
  induction cs generalizing text body? with
  | nil =>
      cases body? with
      | none => simp [segmentsFrom, forall_mem_ofText, Template.grammatical_nil]
      | some body =>
          -- an expansion that is never closed is a text with its brace
          have hopen :
              ¬ Template.Grammatical validateDefaults ('\x7b' :: (body.reverse ++ [])) := by
            rw [Template.grammatical_cons, Template.find?_isBrace_append (by simpa using hbody)]
            simp
          simpa [segmentsFrom, forall_mem_ofText] using fun _ => hopen
  | cons c rest ih =>
      cases body? with
      | none =>
          rw [segmentsFrom]
          split
          · next hopen =>
            subst hopen
            rw [ih (by simp)]
            rfl
          · next hopen =>
            rw [ih (by simp), List.mem_cons, not_or]
            simp [Template.grammatical_cons, hopen, Ne.symm hopen]
      | some body =>
          have hbody : ∀ c ∈ body.reverse, Template.isBrace c = false := by simpa using hbody
          rw [segmentsFrom]
          split
          · next hclose =>
            subst hclose
            rw [List.forall_mem_append, List.forall_mem_cons, forall_mem_ofText, ih (by simp),
              List.mem_reverse]
            show _ ↔ _ ∧ Template.Grammatical validateDefaults
              ('\x7b' :: (body.reverse ++ '\x7d' :: rest))
            rw [Template.grammatical_expansion hbody]
            simp [IsWell]
          · split
            · next hopen =>
              subst hopen
              have hnested : ¬ Template.Grammatical validateDefaults
                  ('\x7b' :: (body.reverse ++ '\x7b' :: rest)) := by
                rw [Template.grammatical_cons, Template.find?_isBrace_append hbody]
                simp [Template.isBrace]
              rw [ih (by simp)]
              simpa using fun _ => hnested
            · next hclose hopen =>
              have hmore : ∀ d ∈ c :: body, Template.isBrace d = false := by
                refine List.forall_mem_cons.2 ⟨by simp [Template.isBrace, hclose, hopen], ?_⟩
                simpa using hbody
              rw [ih (by simpa using hmore)]
              simp

/-- The segments of a source are not refused exactly if the source is grammatical. -/
theorem forall_mem_ofSource {cs : List Char} :
    (∀ s ∈ ofSource cs, s.IsWell validateDefaults) ↔ Template.Grammatical validateDefaults cs := by
  rw [ofSource, forall_mem_segmentsFrom (by simp)]
  simp

end Segment

namespace Token

theorem ofText_isOk_iff (source : String) (start : Nat) (cs : List Char) :
    (∃ t, ofText source start cs = .ok t) ↔ '\x7b' ∉ cs := by
  unfold ofText
  cases h : cs.findIdx? (· == '\x7b') with
  | none =>
      have hall : ∀ c ∈ cs, c ≠ '\x7b' := by simpa [List.findIdx?_eq_none_iff] using h
      exact iff_of_true ⟨_, rfl⟩ fun hmem => hall _ hmem rfl
  | some i =>
      have hopen : '\x7b' ∈ cs := by
        obtain ⟨hi, hbrace, -⟩ := List.findIdx?_eq_some_iff_getElem.1 h
        rw [← eq_of_beq hbrace]
        exact List.getElem_mem hi
      exact iff_of_false nofun (not_not.2 hopen)

/-- The asterisk that ends a source makes no difference to whether its last text is refused. -/
theorem ofLastText_isOk_iff (source : String) (start : Nat) (cs : List Char) :
    (∃ tokens, ofLastText source start cs = .ok tokens) ↔ '\x7b' ∉ cs := by
  unfold ofLastText
  split
  · next hlast =>
    have hstar : cs = cs.dropLast ++ ['*'] :=
      (List.dropLast_append_getLast? '*' (by simpa using hlast)).symm
    split
    · next hone =>
      have hempty : cs.dropLast = [] := by simp [← List.length_eq_zero_iff, hone]
      rw [hempty] at hstar
      rw [hstar]
      exact iff_of_true ⟨_, rfl⟩ (by decide)
    · have hsame : '\x7b' ∉ cs ↔ '\x7b' ∉ cs.dropLast := by
        conv_lhs => rw [hstar]
        simp
      rw [hsame, ← ofText_isOk_iff source start]
      simp [map_eq_ok]
  · rw [← ofText_isOk_iff source start]
    simp [map_eq_ok]

theorem ofSegment_isOk_iff (source : String) (validateDefaults : Bool) (start : Nat)
    (segment : Segment) :
    (∃ tokens, ofSegment source validateDefaults start segment = .ok tokens) ↔
      segment.IsWell validateDefaults := by
  cases segment with
  | text cs =>
      refine Iff.trans ?_ (ofText_isOk_iff source start cs)
      simp [ofSegment, map_eq_ok]
  | expansion body =>
      let ctx : SpecContext := { source? := some source, offset := start + 1, validateDefaults }
      refine Iff.trans ?_ (VarSpec.parsePieces_isOk_iff ctx 0 (splitAt ',' body))
      simp [ofSegment, ofExpansion, VarSpec.parseBody, map_eq_ok, ctx]

theorem ofSegments_isOk_iff (source : String) (validateDefaults : Bool) (start : Nat)
    (segments : List Segment) :
    (∃ tokens, ofSegments source validateDefaults start segments = .ok tokens) ↔
      ∀ s ∈ segments, s.IsWell validateDefaults := by
  fun_induction ofSegments source validateDefaults start segments with
  | case1 => simp
  | case2 start cs =>
      rw [ofLastText_isOk_iff, List.forall_mem_singleton]
      rfl
  | case3 start segment rest _ ih =>
      rw [List.forall_mem_cons, ← ih, ← ofSegment_isOk_iff source validateDefaults start]
      constructor
      · rintro ⟨tokens, h⟩
        obtain ⟨first, hfirst, h⟩ := bind_eq_ok.1 h
        obtain ⟨further, hfurther, -⟩ := bind_eq_ok.1 h
        exact ⟨⟨first, hfirst⟩, further, hfurther⟩
      · rintro ⟨⟨first, hfirst⟩, further, hfurther⟩
        exact ⟨first ++ further,
          bind_eq_ok.2 ⟨first, hfirst, bind_eq_ok.2 ⟨further, hfurther, rfl⟩⟩⟩

theorem reads_iff_grammatical (source : String) (validateDefaults : Bool) :
    (∃ tokens, ofSource source validateDefaults = .ok tokens) ↔
      Template.Grammatical validateDefaults source.toList := by
  rw [ofSource, ofSegments_isOk_iff, Segment.forall_mem_ofSource]

/-- **A source has tokens exactly if it is grammatical.** No closing brace and no asterisk that
follows a source with tokens, whatever comes after it, is a reason to refuse the whole. -/
theorem ofSource_isOk_iff_grammatical (source : String) (validateDefaults : Bool) :
    ((∃ tokens, ofSource source validateDefaults = .ok tokens) ↔
      Template.Grammatical validateDefaults source.toList) ∧
    ((∃ tokens, ofSource source validateDefaults = .ok tokens) →
      ∀ stray after : String, stray = "\x7d" ∨ stray = "*" →
        ((∃ tokens, ofSource (source ++ stray ++ after) validateDefaults = .ok tokens) ↔
          ∃ tokens, ofSource (source ++ after) validateDefaults = .ok tokens)) := by
  refine ⟨reads_iff_grammatical source validateDefaults, fun h stray after hstray => ?_⟩
  have hsource := (reads_iff_grammatical source validateDefaults).1 h
  have hopen : '\x7b' ∉ stray.toList := by
    rcases hstray with rfl | rfl <;> decide
  rw [reads_iff_grammatical, reads_iff_grammatical, String.toList_append, String.toList_append,
    String.toList_append, List.append_assoc, Template.grammatical_append_iff hsource,
    Template.grammatical_append hopen, Template.grammatical_append_iff hsource]

end Token

end PathRouter
