import PathRouter.Proofs.Spelling

set_option autoImplicit false

/-! # Tokens are read back from their spelling

Tokens that are put together, without having been read from a source, need not come out again when
the source that they spell is read: two literals side by side become one, and an asterisk at the end
becomes a wildcard. `Readable` says which tokens do not run into this; for these, reading undoes
spelling (`Token.ofSource_of_readable`).
-/

namespace PathRouter

open Outcome

/-! ## Cutting what is spelt -/

theorem splitAt_of_not_mem {separator : Char} {cs : List Char} (h : separator ∉ cs) :
    splitAt separator cs = [cs] := by
  induction cs with
  | nil => rfl
  | cons c rest ih =>
      obtain ⟨hc, hrest⟩ := List.ne_and_not_mem_of_not_mem_cons h
      rw [splitAt, if_neg hc.symm, ih hrest]

namespace Segment

/-- Text without an opening brace is all taken up. -/
theorem segmentsFrom_text {cs : List Char} (h : '\x7b' ∉ cs) (text rest : List Char) :
    segmentsFrom text none (cs ++ rest) = segmentsFrom (cs.reverse ++ text) none rest := by
  induction cs generalizing text with
  | nil => rfl
  | cons c cs ih =>
      obtain ⟨hc, hcs⟩ := List.ne_and_not_mem_of_not_mem_cons h
      rw [List.cons_append, segmentsFrom]
      simp only [hc.symm, if_false]
      rw [ih hcs, List.reverse_cons, List.append_assoc]
      rfl

/-- After an opening brace everything up to the next brace is the body of an expansion. -/
theorem segmentsFrom_body {body : List Char} (h : ∀ c ∈ body, Template.isBrace c = false)
    (text done rest : List Char) :
    segmentsFrom text (some done) (body ++ '\x7d' :: rest) =
      ofText text.reverse ++ .expansion (done.reverse ++ body) :: ofSource rest := by
  induction body generalizing done with
  | nil => simp [segmentsFrom, ofSource]
  | cons c body ih =>
      obtain ⟨hc, hbody⟩ := List.forall_mem_cons.1 h
      have hbrace : c ≠ '\x7b' ∧ c ≠ '\x7d' := by simpa [Template.isBrace] using hc
      rw [List.cons_append, segmentsFrom]
      simp only [hbrace.1, hbrace.2, if_false]
      rw [ih hbody, List.reverse_cons, List.append_assoc]
      rfl

theorem ofSource_text {cs : List Char} (h : '\x7b' ∉ cs) : ofSource cs = ofText cs := by
  have hcut := segmentsFrom_text h [] []
  rw [List.append_nil, List.append_nil] at hcut
  rw [ofSource, hcut, segmentsFrom, List.reverse_reverse]

/-- An expansion, and before it text if there is any. -/
theorem ofSource_append {cs body : List Char} (h : '\x7b' ∉ cs)
    (hbody : ∀ c ∈ body, Template.isBrace c = false) (rest : List Char) :
    ofSource (cs ++ '\x7b' :: (body ++ '\x7d' :: rest)) =
      ofText cs ++ .expansion body :: ofSource rest := by
  rw [ofSource, segmentsFrom_text h, segmentsFrom, if_pos rfl, segmentsFrom_body hbody,
    List.append_nil, List.reverse_reverse]
  rfl

theorem ofSource_expansion {body : List Char} (h : ∀ c ∈ body, Template.isBrace c = false)
    (rest : List Char) :
    ofSource ('\x7b' :: (body ++ '\x7d' :: rest)) = .expansion body :: ofSource rest :=
  ofSource_append List.not_mem_nil h rest

theorem ofText_of_ne_nil {cs : List Char} (h : cs ≠ []) : ofText cs = [.text cs] := by
  rw [ofText, if_neg (by simpa using h)]

end Segment

/-! ## Tokens that can be read back -/

/-- A variable that is spelt as `name=default:constraint` with a name that is one, a constraint that
is accepted, and nothing in the default and the constraint that would end them. -/
structure Variable.IsReadable (validateDefaults : Bool) (v : Variable) : Prop where
  spelled : v = .spelled v.name v.default? v.constraint?
  named : VarSpec.IsName v.name.toList
  default : ∀ default, v.default? = some default →
    ∀ c ∈ [':', ',', '\x7b', '\x7d'], c ∉ default.toList
  plain : ∀ constraint, v.constraint? = some constraint →
    ∀ c ∈ [',', '\x7b', '\x7d'], c ∉ constraint.toList
  constraint : ∀ constraint, v.constraint? = some constraint →
    VarSpec.Constrains validateDefaults (v.default?.map String.toList) constraint.toList

/-- A token by itself that can be read back. -/
def Token.IsReadable (validateDefaults : Bool) : Token → Prop
  | .literal text => text ≠ "" ∧ '\x7b' ∉ text.toList
  | .var v => v.IsReadable validateDefaults
  | .wildcard expression => expression = wildcardText

/-- Tokens that can be read back where they stand: besides, no two literals stand side by side, a
wildcard only stands at the end, and a literal at the end is not taken for a wildcard. -/
structure Readable (validateDefaults : Bool) (tokens : List Token) : Prop where
  each : ∀ t ∈ tokens, t.IsReadable validateDefaults
  apart : tokens.IsChain fun t u => ¬ (t.IsLiteral ∧ u.IsLiteral)
  wildcard : ∀ t ∈ tokens.dropLast, t.kind ≠ .wildcard
  asterisk : ∀ text, tokens.getLast? = some (.literal text) → text.toList.getLast? ≠ some '*'

variable {validateDefaults : Bool}

theorem Readable.tail {t : Token} {tokens : List Token}
    (h : Readable validateDefaults (t :: tokens)) : Readable validateDefaults tokens := by
  refine ⟨(List.forall_mem_cons.1 h.each).2, h.apart.tail, fun u hu => ?_, fun text htext => ?_⟩
  · refine h.wildcard u ?_
    cases tokens with
    | nil => cases hu
    | cons s rest => exact List.mem_cons_of_mem _ hu
  · refine h.asterisk text ?_
    cases tokens with
    | nil => cases htext
    | cons s rest => rwa [List.getLast?_cons_cons]

/-- A wildcard has no token after it. -/
theorem Readable.eq_nil_of_wildcard {expression : String} {tokens : List Token}
    (h : Readable validateDefaults (.wildcard expression :: tokens)) : tokens = [] := by
  cases tokens with
  | nil => rfl
  | cons s rest => exact absurd rfl (h.wildcard _ (List.mem_cons_self ..))

/-! ## Variables -/

/-- The characters of a name may all go on with one. -/
theorem VarSpec.IsName.isNameContinue {cs : List Char} (h : IsName cs) :
    ∀ c ∈ cs, isNameContinue c = true := by
  have hname := isName_iff.2 h
  cases cs with
  | nil => exact nofun
  | cons first rest =>
      obtain ⟨hfirst, hrest⟩ := Bool.and_eq_true_iff.1 hname
      refine List.forall_mem_cons.2 ⟨?_, List.all_eq_true.1 hrest⟩
      rcases Bool.or_eq_true_iff.1 hfirst with hletter | hunderscore
      · simp [VarSpec.isNameContinue, Char.isAlphanum, hletter]
      · simp [VarSpec.isNameContinue, beq_iff_eq.1 hunderscore]

/-- What stands between the braces of a variable that is spelt out. -/
theorem Variable.toList_body (name : String) (default? constraint? : Option String) :
    (body name default? constraint?).toList =
      VarSpec.spelling name.toList (default?.map String.toList)
        (constraint?.map String.toList) := by
  cases default? <;> cases constraint? <;> simp [body, VarSpec.spelling]

/-- A character that stands nowhere in the parts of a spec. -/
theorem VarSpec.not_mem_spelling {name : List Char} {default? constraint? : Option (List Char)}
    {c : Char} (hname : c ∉ name) (hdefault : ∀ default, default? = some default → c ∉ default)
    (hconstraint : ∀ constraint, constraint? = some constraint → c ∉ constraint)
    (hseparator : c ≠ '=' ∧ c ≠ ':') : c ∉ spelling name default? constraint? := by
  cases default? <;> cases constraint? <;> simp_all [spelling]

namespace Variable

variable {v : Variable}

/-- The parts of a spec that a variable is spelt from. -/
def specText (v : Variable) : List Char :=
  VarSpec.spelling v.name.toList (v.default?.map String.toList) (v.constraint?.map String.toList)

theorem IsReadable.expression_eq (h : v.IsReadable validateDefaults) :
    v.expression = "\x7b" ++ String.ofList v.specText ++ "\x7d" := by
  have hexpression := congrArg Variable.expression h.spelled
  rw [hexpression, specText, ← toList_body, String.ofList_toList]
  rfl

theorem IsReadable.not_mem (h : v.IsReadable validateDefaults) {c : Char}
    (hc : c ∈ [',', '\x7b', '\x7d']) : c ∉ v.specText := by
  have hname : VarSpec.isNameContinue c = false ∧ c ≠ '=' ∧ c ≠ ':' := by
    simp only [List.mem_cons, List.not_mem_nil, or_false] at hc
    rcases hc with rfl | rfl | rfl <;> decide
  refine VarSpec.not_mem_spelling ?_ ?_ ?_ hname.2
  · intro hmem
    exact absurd (h.named.isNameContinue c hmem) (by simp [hname.1])
  · intro default hdefault
    obtain ⟨text, htext, rfl⟩ := Option.map_eq_some_iff.1 hdefault
    exact h.default text htext c (List.mem_cons_of_mem _ hc)
  · intro constraint hconstraint
    obtain ⟨text, htext, rfl⟩ := Option.map_eq_some_iff.1 hconstraint
    exact h.plain text htext c hc

theorem IsReadable.not_isBrace (h : v.IsReadable validateDefaults) :
    ∀ c ∈ v.specText, Template.isBrace c = false := by
  intro c hc
  have hopen : c ≠ '\x7b' := by
    rintro rfl
    exact h.not_mem (by decide) hc
  have hclose : c ≠ '\x7d' := by
    rintro rfl
    exact h.not_mem (by decide) hc
  simp [Template.isBrace, hopen, hclose]

theorem IsReadable.specifies (h : v.IsReadable validateDefaults) :
    VarSpec.Specifies validateDefaults v.specText v.name.toList (v.default?.map String.toList)
      (v.constraint?.map String.toList) := by
  refine ⟨rfl, h.named, ?_, ?_⟩
  · intro default hdefault
    obtain ⟨text, htext, rfl⟩ := Option.map_eq_some_iff.1 hdefault
    exact h.default text htext ':' (by decide)
  · intro constraint hconstraint
    obtain ⟨text, htext, rfl⟩ := Option.map_eq_some_iff.1 hconstraint
    exact h.constraint text htext

end Variable

/-! ## Reading -/

namespace Token

variable {source : String} {start : Nat}

theorem ofText_of_not_mem {cs : List Char} (h : '\x7b' ∉ cs) :
    ofText source start cs = .ok (.literal (String.ofList cs)) := by
  obtain ⟨t, ht⟩ := (ofText_isOk_iff source start cs).2 h
  rw [ht, ofText_eq_ok ht]

/-- The expansion of a variable that can be read back is read as this variable. -/
theorem ofExpansion_of_readable {v : Variable} (h : v.IsReadable validateDefaults) :
    ofExpansion source validateDefaults start v.specText = .ok [.var v] := by
  let ctx : SpecContext := { source? := some source, offset := start + 1, validateDefaults }
  have hsplit : splitAt ',' v.specText = [v.specText] := splitAt_of_not_mem (h.not_mem (by decide))
  have hmap (text? : Option String) : (text?.map String.toList).map String.ofList = text? := by
    cases text? <;> simp
  let spec : VarSpec :=
    { name := v.name
      default? := v.default?
      constraint? := v.constraint?
      start := 0
      stop := 0 + v.specText.length }
  have hparse : VarSpec.parse ctx v.specText 0 (0 + v.specText.length) = .ok spec :=
    VarSpec.parse_eq_ok.2 ⟨_, _, _, h.specifies, by rw [hmap, hmap, String.ofList_toList]⟩
  have hspecs : VarSpec.parsePieces ctx 0 [v.specText] = .ok [spec] :=
    VarSpec.parsePieces_cons_eq_ok.2 ⟨spec, [], hparse, rfl, rfl⟩
  rw [← hsplit] at hspecs
  refine map_eq_ok.2 ⟨_, hspecs, ?_⟩
  rw [hsplit, List.zip_cons_cons, List.zip_nil_left, ofSpecs, ← h.expression_eq]

/-- A segment that is no text at the end, and the segments after it. -/
theorem ofSegments_cons {segment : Segment} {rest : List Segment} {first further : List Token}
    (hlast : ∀ cs, segment = .text cs → rest ≠ [])
    (hfirst : ofSegment source validateDefaults start segment = .ok first)
    (hfurther : ofSegments source validateDefaults (start + segment.width) rest = .ok further) :
    ofSegments source validateDefaults start (segment :: rest) = .ok (first ++ further) := by
  rw [ofSegments]
  · exact bind_eq_ok.2 ⟨first, hfirst, bind_eq_ok.2 ⟨further, hfurther, rfl⟩⟩
  · exact fun cs hcs hrest => hlast cs hcs hrest

/-- The text that ends a source, with an asterisk that is a wildcard. -/
theorem ofLastText_concat {cs : List Char} (h : '\x7b' ∉ cs) (hcs : cs ≠ []) :
    ofLastText source start (cs ++ ['*']) =
      .ok [.literal (String.ofList cs), .wildcard wildcardText] := by
  have hone : (cs ++ ['*']).length ≠ 1 := by simpa using hcs
  rw [ofLastText, List.getLast?_concat, if_pos (by rfl), if_neg hone, List.dropLast_concat,
    ofText_of_not_mem h]
  rfl

theorem ofLastText_of_getLast? {cs : List Char} (h : '\x7b' ∉ cs)
    (hlast : cs.getLast? ≠ some '*') :
    ofLastText source start cs = .ok [.literal (String.ofList cs)] := by
  rw [ofLastText, if_neg (by simpa using hlast), ofText_of_not_mem h]
  rfl

theorem chars_var {v : Variable} (h : v.IsReadable validateDefaults) (rest : List Char) :
    (Token.var v).chars ++ rest = '\x7b' :: (v.specText ++ '\x7d' :: rest) := by
  simp [chars, expression, h.expression_eq]

/-! ### A literal and what follows it -/

variable {text : String}

theorem ofSegments_literal (hsome : text.toList ≠ []) (hopen : '\x7b' ∉ text.toList)
    (hlast : text.toList.getLast? ≠ some '*') :
    ofSegments source validateDefaults start (Segment.ofSource text.toList) =
      .ok [.literal text] := by
  have htokens : ofLastText source start text.toList =
      .ok [.literal (String.ofList text.toList)] := ofLastText_of_getLast? hopen hlast
  rw [Segment.ofSource_text hopen, Segment.ofText_of_ne_nil hsome, ofSegments, htokens,
    String.ofList_toList]

theorem ofSegments_literal_wildcard (hsome : text.toList ≠ []) (hopen : '\x7b' ∉ text.toList) :
    ofSegments source validateDefaults start (Segment.ofSource (text.toList ++ ['*'])) =
      .ok [.literal text, .wildcard wildcardText] := by
  have hstar : '\x7b' ∉ text.toList ++ ['*'] := by simpa using hopen
  have htokens : ofLastText source start (text.toList ++ ['*']) =
      .ok [.literal (String.ofList text.toList), .wildcard wildcardText] :=
    ofLastText_concat hopen hsome
  rw [Segment.ofSource_text hstar, Segment.ofText_of_ne_nil (by simp), ofSegments, htokens,
    String.ofList_toList]

/-- A literal ends where a variable begins, and what is read after it does not depend on it. -/
theorem ofSegments_literal_var {v : Variable} (hsome : text.toList ≠ [])
    (hopen : '\x7b' ∉ text.toList) (hv : v.IsReadable validateDefaults) {rest : List Char}
    {tokens : List Token}
    (hrest : ∀ {start}, ofSegments source validateDefaults start
      (Segment.ofSource ((Token.var v).chars ++ rest)) = .ok tokens) :
    ofSegments source validateDefaults start
      (Segment.ofSource (text.toList ++ ((Token.var v).chars ++ rest))) =
        .ok (.literal text :: tokens) := by
  have hfirst : ofSegment source validateDefaults start (.text text.toList) =
      .ok [.literal text] := by
    rw [ofSegment, ofText_of_not_mem hopen, String.ofList_toList]
    rfl
  rw [chars_var hv, Segment.ofSource_expansion hv.not_isBrace] at hrest
  rw [chars_var hv, Segment.ofSource_append hopen hv.not_isBrace, Segment.ofText_of_ne_nil hsome]
  exact ofSegments_cons (fun _ _ => List.cons_ne_nil _ _) hfirst hrest

/-- The segments of tokens that can be read back are read as these tokens. The induction is on the
tokens; only the token after a literal tells where the literal ends. -/
theorem ofSegments_of_readable {tokens : List Token} (h : Readable validateDefaults tokens) :
    ofSegments source validateDefaults start (Segment.ofSource (tokens.flatMap chars)) =
      .ok tokens := by
  induction tokens generalizing start with
  | nil => rfl
  | cons t tokens ih =>
      have hrest : ∀ {start}, ofSegments source validateDefaults start
          (Segment.ofSource (tokens.flatMap chars)) = .ok tokens := ih h.tail
      have ht := h.each t (List.mem_cons_self ..)
      cases t with
      | wildcard expression =>
          obtain rfl := h.eq_nil_of_wildcard
          obtain rfl : expression = wildcardText := ht
          rfl
      | var v =>
          rw [List.flatMap_cons, chars_var ht, Segment.ofSource_expansion ht.not_isBrace]
          have hfirst : ofSegment source validateDefaults start (.expansion v.specText) =
              .ok [.var v] := ofExpansion_of_readable ht
          exact ofSegments_cons (by simp) hfirst hrest
      | literal text =>
          obtain ⟨hsome, hopen⟩ : text ≠ "" ∧ '\x7b' ∉ text.toList := ht
          have htext : text.toList ≠ [] := by simpa using hsome
          have hliteral : (Token.literal text).chars = text.toList := rfl
          rw [List.flatMap_cons, hliteral]
          cases tokens with
          | nil =>
              -- the end of the source: an asterisk here would be a wildcard
              rw [List.flatMap_nil, List.append_nil]
              exact ofSegments_literal htext hopen (h.asterisk text rfl)
          | cons u tokens =>
              have hu := h.each u (by simp)
              cases u with
              | literal other => exact absurd ⟨rfl, rfl⟩ (List.isChain_cons_cons.1 h.apart).1
              | wildcard expression =>
                  obtain rfl := h.tail.eq_nil_of_wildcard
                  obtain rfl : expression = wildcardText := hu
                  exact ofSegments_literal_wildcard htext hopen
              | var v => exact ofSegments_literal_var htext hopen hu hrest

/-- **Reading undoes spelling.** Tokens that can be read back are the tokens of the source that they
spell, each with the same text or with the same name, default, constraint and spelling. So the
template that is composed of them is the one that is read from its source. -/
theorem ofSource_of_readable {tokens : List Token} (h : Readable validateDefaults tokens) :
    ofSource (Template.ofTokens tokens).source validateDefaults = .ok tokens ∧
      ∃ t, Template.parse (Template.ofTokens tokens).source validateDefaults = .ok t ∧
        t.tokens = tokens ∧ (Template.ofTokens tokens).same t = true := by
  have hchars : (Template.ofTokens tokens).source.toList = tokens.flatMap chars := by
    rw [Template.ofTokens, String.toList_join, List.flatMap_map]
    rfl
  have hread : ofSource (Template.ofTokens tokens).source validateDefaults = .ok tokens := by
    rw [ofSource, hchars]
    exact ofSegments_of_readable h
  have hparse : Template.parse (Template.ofTokens tokens).source validateDefaults =
      .ok { source := (Template.ofTokens tokens).source, tokens } := by
    rw [Template.parse, hread]
    rfl
  exact ⟨hread, _, hparse, rfl, beq_self_eq_true _⟩

/-- A literal with a closing brace and an asterisk, a default with `=`, a constraint with `=` and
`:`, and two variables side by side. -/
theorem ofSource_of_readable_adjacent :
    let tokens : List Token :=
      [.literal "/\x7d*", .var (.spelled "x" (some "a=b") (some "[a-z=:]+")),
        .var (.spelled "y_1" none none), .literal ",*", .wildcard wildcardText]
    Readable true tokens ∧ ofSource (Template.ofTokens tokens).source true = .ok tokens := by
  intro tokens
  have hembedded : ((Regex.compile true {} (VarSpec.embedded "[a-z=:]+".toList)).toOption.map
      (·.groups)) = some 1 := by decide +kernel
  have hcompiled : ((Regex.compile false {} "[a-z=:]+".toList).toOption.map fun program =>
      (program.groups, (Regex.fullMatch? program.regex "a=b".toList).isSome)) = some (0, true) := by
    decide +kernel
  have hconstrains : VarSpec.Constrains true (some "a=b".toList) "[a-z=:]+".toList := by
    obtain ⟨around, haround, -⟩ := Outcome.toOption_map_eq_some.1 hembedded
    obtain ⟨program, hprogram, hpair⟩ := Outcome.toOption_map_eq_some.1 hcompiled
    obtain ⟨hgroups, hfits⟩ := Prod.mk.inj hpair
    refine ⟨by decide, ⟨around, haround⟩, program, hprogram, hgroups, fun _ default hdefault => ?_⟩
    rw [← Option.some.inj hdefault]
    exact hfits
  have hname : ∀ cs, VarSpec.isName cs = true → VarSpec.IsName cs := fun _ => VarSpec.isName_iff.1
  have hx : Variable.IsReadable true (.spelled "x" (some "a=b") (some "[a-z=:]+")) := by
    refine ⟨rfl, hname _ (by decide), ?_, ?_, ?_⟩
    · rintro default hdefault
      rw [← Option.some.inj hdefault]
      simp only [List.forall_mem_cons, List.not_mem_nil, false_implies, implies_true, and_true]
      decide
    · rintro constraint hconstraint
      rw [← Option.some.inj hconstraint]
      simp only [List.forall_mem_cons, List.not_mem_nil, false_implies, implies_true, and_true]
      decide
    · rintro constraint hconstraint
      rw [← Option.some.inj hconstraint]
      exact hconstrains
  have hy : Variable.IsReadable true (.spelled "y_1" none none) :=
    ⟨rfl, hname _ (by decide), nofun, nofun, nofun⟩
  have hreadable : Readable true tokens := by
    refine ⟨?_, ?_, ?_, nofun⟩
    · simp only [tokens, List.forall_mem_cons, List.not_mem_nil, false_implies, implies_true,
        and_true]
      refine ⟨?_, hx, hy, ?_, rfl⟩
      · show "/\x7d*" ≠ "" ∧ '\x7b' ∉ "/\x7d*".toList
        decide
      · show ",*" ≠ "" ∧ '\x7b' ∉ ",*".toList
        decide
    · simp [tokens, IsLiteral, kind]
    · simp [tokens, kind]
  exact ⟨hreadable, (ofSource_of_readable hreadable).1⟩

end Token

end PathRouter
