import PathRouter.Proofs.Ties

set_option autoImplicit false

/-! # Patterns that are the same

Patterns are the same if their sources are, and the kinds and spellings of their tokens. The
spelling of a variable tells its name, its default and its constraint, provided that the separators
stand in their places only: there is no `=` and no `:` in the name, and no `:` in the default. So
patterns whose variables are read from a source, or spelt out in this way, have the same tokens if
they are the same, and can take each other's place (`Pattern.interchangeable_of_same`).
-/

namespace PathRouter

open Outcome

/-! ## Spellings without their braces -/

/-- A text without a brace that opens it and one that closes it. -/
def unbraced (cs : List Char) : List Char :=
  let inner := if cs.head? = some '\x7b' then cs.tail else cs
  if inner.getLast? = some '\x7d' then inner.dropLast else inner

theorem unbraced_braces (body : List Char) : unbraced ('\x7b' :: (body ++ ['\x7d'])) = body := by
  simp [unbraced]

/-- Braces around a text without braces, one or two of which may be missing. -/
theorem unbraced_append {lead body tail : List Char} (hlead : lead = [] ∨ lead = ['\x7b'])
    (htail : tail = [] ∨ tail = ['\x7d']) (hbody : ∀ c ∈ body, Template.isBrace c = false)
    (hne : body ≠ []) : unbraced (lead ++ body ++ tail) = body := by
  have hopened : ∀ rest, (body ++ rest).head? ≠ some '\x7b' := by
    intro rest hhead
    rw [List.head?_append_of_ne_nil _ hne] at hhead
    exact absurd (hbody _ (List.mem_of_head? hhead)) (by decide)
  have hclosed : body.getLast? ≠ some '\x7d' := by
    intro hlast
    exact absurd (hbody _ (List.mem_of_getLast? hlast)) (by decide)
  have hinner : (if (lead ++ body ++ tail).head? = some '\x7b' then (lead ++ body ++ tail).tail
      else lead ++ body ++ tail) = body ++ tail := by
    rcases hlead with rfl | rfl
    · rw [List.nil_append, if_neg (hopened tail)]
    · rfl
  unfold unbraced
  rw [hinner]
  rcases htail with rfl | rfl
  · simp [hclosed]
  · simp

/-! ## Variables that their spellings tell -/

/-- The parts of a variable are those into which its spelling, without its braces, is divided. -/
def Variable.Tells (v : Variable) : Prop :=
  VarSpec.divide (unbraced v.expression.toList) =
    (v.name.toList, v.default?.map String.toList, v.constraint?.map String.toList)

/-- A variable that is spelt out, with the separators in their places only. -/
structure Variable.IsOrderly (v : Variable) : Prop where
  spelled : v = .spelled v.name v.default? v.constraint?
  name : ∀ c ∈ v.name.toList, c ≠ '=' ∧ c ≠ ':'
  default : ∀ default, v.default? = some default → ':' ∉ default.toList

namespace Variable

variable {v w : Variable}

/-- **A spelling tells all of the variable.** -/
theorem Tells.eq_of_expression_eq (hv : v.Tells) (hw : w.Tells)
    (h : v.expression = w.expression) : v = w := by
  have hinjective : Function.Injective (Option.map String.toList) :=
    Option.map_injective fun _ _ htexts => String.toList_injective htexts
  rw [Tells, h, hw] at hv
  obtain ⟨hname, hparts⟩ := Prod.mk.inj hv
  obtain ⟨hdefault, hconstraint⟩ := Prod.mk.inj hparts
  have hname : w.name = v.name := String.toList_injective hname
  have hdefault : w.default? = v.default? := hinjective hdefault
  have hconstraint : w.constraint? = v.constraint? := hinjective hconstraint
  cases v
  cases w
  rw [mk.injEq]
  exact ⟨hname.symm, hdefault.symm, hconstraint.symm, h⟩

/-- The parts of a variable that is spelt out are found again if the separators are in their
places. -/
theorem IsOrderly.tells (h : v.IsOrderly) : v.Tells := by
  have hexpression : v.expression = "\x7b" ++ body v.name v.default? v.constraint? ++ "\x7d" :=
    congrArg Variable.expression h.spelled
  have hinner : unbraced v.expression.toList = v.specText := by
    rw [hexpression, String.toList_append, String.toList_append, toList_body]
    exact unbraced_braces _
  rw [Tells, hinner, specText, VarSpec.divide_spelling h.name]
  intro default hdefault
  obtain ⟨text, htext, rfl⟩ := Option.map_eq_some_iff.1 hdefault
  exact h.default text htext

/-- The parts of a variable that is read are found again, whichever braces its spelling has. -/
theorem tells_of_parse {ctx : SpecContext} {piece : List Char} {start stop : Int} {s : VarSpec}
    (h : VarSpec.parse ctx piece start stop = .ok s)
    (hpiece : ∀ c ∈ piece, Template.isBrace c = false) {lead tail : String}
    (hlead : lead = "" ∨ lead = "\x7b") (htail : tail = "" ∨ tail = "\x7d") :
    (s.variable (lead ++ String.ofList piece ++ tail)).Tells := by
  obtain ⟨name, default?, constraint?, hspecifies, rfl⟩ := VarSpec.parse_eq_ok.1 h
  have hdivide : VarSpec.divide piece = (name, default?, constraint?) :=
    VarSpec.divide_eq_iff.2 ⟨hspecifies.spelt, hspecifies.named.not_separator, hspecifies.default⟩
  have hne : piece ≠ [] := by
    rintro rfl
    obtain rfl : [] = name := congrArg Prod.fst hdivide
    exact hspecifies.named
  have hinner : unbraced (lead ++ String.ofList piece ++ tail).toList = piece := by
    rw [String.toList_append, String.toList_append, String.toList_ofList]
    refine unbraced_append ?_ ?_ hpiece hne
    · rcases hlead with rfl | rfl <;> simp
    · rcases htail with rfl | rfl <;> simp
  show VarSpec.divide (unbraced (lead ++ String.ofList piece ++ tail).toList) = _
  rw [hinner, hdivide]
  cases default? <;> cases constraint? <;> simp [VarSpec.variable]

end Variable

/-! ## Tokens that are told by their keys -/

namespace Token

/-- A token that is told by its kind and its spelling. -/
def Tells : Token → Prop
  | .var v => v.Tells
  | _ => True

theorem Tells.eq_of_key_eq {t u : Token} (ht : t.Tells) (hu : u.Tells) (h : t.key = u.key) :
    t = u := by
  obtain ⟨hkind, hexpression⟩ := Prod.mk.inj h
  cases t with
  | literal text =>
      cases u with
      | literal text' => exact congrArg Token.literal hexpression
      | var _ | wildcard _ => cases hkind
  | var v =>
      cases u with
      | var w => exact congrArg Token.var (Variable.Tells.eq_of_expression_eq ht hu hexpression)
      | literal _ | wildcard _ => cases hkind
  | wildcard expression =>
      cases u with
      | wildcard expression' => exact congrArg Token.wildcard hexpression
      | literal _ | var _ => cases hkind

theorem eq_of_map_key_eq {tokens tokens' : List Token} (h : ∀ t ∈ tokens, t.Tells)
    (h' : ∀ t ∈ tokens', t.Tells) (hkeys : tokens.map key = tokens'.map key) :
    tokens = tokens' := by
  induction tokens generalizing tokens' with
  | nil => exact (List.map_eq_nil_iff.1 hkeys.symm).symm
  | cons t rest ih =>
      obtain ⟨u, rest', rfl, hu, hrest⟩ := List.map_eq_cons_iff.1 hkeys.symm
      obtain ⟨ht, htells⟩ := List.forall_mem_cons.1 h
      obtain ⟨hu', htells'⟩ := List.forall_mem_cons.1 h'
      rw [ht.eq_of_key_eq hu' hu.symm, ih htells htells' hrest.symm]

/-- What a token adds to a score is told by its key, even where the token itself is not. -/
theorem score_eq_of_key_eq {t u : Token} (h : t.key = u.key) : t.score = u.score := by
  obtain ⟨hkind, hexpression⟩ := Prod.mk.inj h
  cases t <;> cases u <;> first | rfl | exact congrArg literalWeight hexpression | cases hkind

end Token

/-! ## Tokens of a source -/

/-- A segment whose expansion, if it is one, has no braces inside. -/
def Segment.IsFlat : Segment → Prop
  | .text _ => True
  | .expansion body => ∀ c ∈ body, Template.isBrace c = false

theorem Segment.isFlat_of_mem_ofText {cs : List Char} : ∀ s ∈ ofText cs, s.IsFlat := by
  cases cs with
  | nil => exact nofun
  | cons c rest => exact List.forall_mem_singleton.2 trivial

theorem Segment.isFlat_of_mem_segmentsFrom {text cs : List Char} {body? : Option (List Char)}
    (h : ∀ body, body? = some body → ∀ c ∈ body, Template.isBrace c = false) :
    ∀ s ∈ segmentsFrom text body? cs, s.IsFlat := by
  fun_induction segmentsFrom text body? cs with
  | case1 | case2 => exact isFlat_of_mem_ofText
  | case3 _ _ ih => exact ih (by simp)
  | case4 _ _ _ _ ih => exact ih (by simp)
  | case5 text rest body ih =>
      refine List.forall_mem_append.2 ⟨isFlat_of_mem_ofText, List.forall_mem_cons.2 ⟨?_, ?_⟩⟩
      · simpa [IsFlat] using h body rfl
      · exact ih (by simp)
  | case6 _ _ _ _ ih => exact ih (by simp)
  | case7 text c rest body hclose hopen ih =>
      refine ih fun _ hbody => ?_
      obtain rfl := Option.some.inj hbody
      refine List.forall_mem_cons.2 ⟨?_, h body rfl⟩
      simp [Template.isBrace, hclose, hopen]

/-- The characters of the parts of a text are characters of the text. -/
theorem mem_of_mem_splitAt {separator c : Char} {cs piece : List Char}
    (hpiece : piece ∈ splitAt separator cs) (hc : c ∈ piece) : c ∈ cs := by
  have hmem : piece ∈ (splitAt separator cs).intersperse [separator] := by
    obtain ⟨i, hi, rfl⟩ := List.getElem_of_mem hpiece
    rw [List.getElem_eq_getElem_intersperse_two_mul]
    exact List.getElem_mem _
  rw [← intercalate_splitAt separator cs]
  exact List.mem_flatten.2 ⟨piece, hmem, hc⟩

/-- Each spec of an expansion has been read from the part where it stands. -/
theorem VarSpec.parse_of_mem_zip {ctx : SpecContext} {start : Int} {pieces : List (List Char)}
    {specs : List VarSpec} (h : parsePieces ctx start pieces = .ok specs) :
    ∀ s ∈ specs.zip pieces, ∃ first last, parse ctx s.2 first last = .ok s.1 := by
  induction pieces generalizing start specs with
  | nil => simp
  | cons piece rest ih =>
      obtain ⟨s, others, hs, hothers, rfl⟩ := parsePieces_cons_eq_ok.1 h
      exact List.forall_mem_cons.2 ⟨⟨_, _, hs⟩, ih hothers⟩

namespace Token

variable {source : String} {validateDefaults : Bool} {tokens : List Token}

theorem tells_of_mem_ofSpecs {ctx : SpecContext} {lead : String}
    (hlead : lead = "" ∨ lead = "\x7b") {specs : List (VarSpec × List Char)}
    (h : ∀ s ∈ specs, (∃ first last, VarSpec.parse ctx s.2 first last = .ok s.1) ∧
      ∀ c ∈ s.2, Template.isBrace c = false) : ∀ t ∈ ofSpecs lead specs, t.Tells := by
  fun_induction ofSpecs lead specs with
  | case1 => exact List.forall_mem_nil _
  | case2 lead s piece =>
      obtain ⟨⟨first, last, hparse⟩, hpiece⟩ := h _ (List.mem_singleton_self _)
      exact List.forall_mem_singleton.2
        (Variable.tells_of_parse hparse hpiece hlead (.inr rfl))
  | case3 lead s piece rest _ ih =>
      obtain ⟨⟨⟨first, last, hparse⟩, hpiece⟩, hrest⟩ := List.forall_mem_cons.1 h
      have hfirst : (s.variable (lead ++ String.ofList piece ++ "")).Tells :=
        Variable.tells_of_parse hparse hpiece hlead (.inl rfl)
      rw [String.append_empty] at hfirst
      exact List.forall_mem_cons.2 ⟨hfirst, List.forall_mem_cons.2 ⟨trivial, ih (.inl rfl) hrest⟩⟩

theorem tells_of_mem_ofSegment {start : Nat} {segment : Segment} (hflat : segment.IsFlat)
    (h : ofSegment source validateDefaults start segment = .ok tokens) :
    ∀ t ∈ tokens, t.Tells := by
  cases segment with
  | text cs =>
      obtain ⟨t, ht, rfl⟩ := map_eq_ok.1 h
      rw [ofText_eq_ok ht]
      exact List.forall_mem_singleton.2 trivial
  | expansion body =>
      obtain ⟨specs, hspecs, rfl⟩ := map_eq_ok.1 h
      have hread := VarSpec.parse_of_mem_zip hspecs
      refine tells_of_mem_ofSpecs (.inr rfl) fun s hs => ⟨hread s hs, fun c hc => ?_⟩
      exact hflat c (mem_of_mem_splitAt (List.of_mem_zip hs).2 hc)

/-- The tokens of a source are told by their keys. -/
theorem tells_of_mem_ofSource (h : ofSource source validateDefaults = .ok tokens) :
    ∀ t ∈ tokens, t.Tells := by
  have hflat : ∀ s ∈ Segment.ofSource source.toList, s.IsFlat :=
    Segment.isFlat_of_mem_segmentsFrom (by simp)
  unfold ofSource at h
  generalize Segment.ofSource source.toList = segments at h hflat
  generalize 0 = start at h
  fun_induction ofSegments source validateDefaults start segments generalizing tokens with
  | case1 =>
      obtain rfl := Except.ok.inj h
      exact List.forall_mem_nil _
  | case2 start cs => rcases ofLastText_eq_ok h with rfl | rfl | rfl <;> simp [Tells]
  | case3 start segment rest _ ih =>
      obtain ⟨first, hfirst, h⟩ := bind_eq_ok.1 h
      obtain ⟨further, hfurther, h⟩ := bind_eq_ok.1 h
      obtain rfl := Except.ok.inj h
      obtain ⟨hsegment, hrest⟩ := List.forall_mem_cons.1 hflat
      exact List.forall_mem_append.2 ⟨tells_of_mem_ofSegment hsegment hfirst, ih hrest hfurther⟩

end Token

/-! ## Patterns -/

namespace Pattern

variable {p q : Pattern}

/-- A pattern that is read from its source, or composed of literals, wildcards and variables that
are spelt out with the separators in their places. -/
def IsOrderly (p : Pattern) : Prop :=
  p.IsRead ∨ ofTokens p.tokens = .ok p ∧ ∀ v, .var v ∈ p.tokens → v.IsOrderly

theorem IsOrderly.tells (h : p.IsOrderly) : ∀ t ∈ p.tokens, t.Tells := by
  obtain ⟨_, hparse⟩ | ⟨-, hvars⟩ := h
  · obtain ⟨htokens, -⟩ := exists_bodies_of_parse hparse
    exact Token.tells_of_mem_ofSource htokens
  · intro t ht
    cases t with
    | var v => exact (hvars v ht).tells
    | literal _ | wildcard _ => trivial

/-- A pattern can be made again of its template. -/
theorem IsOrderly.ofTemplate_eq (h : p.IsOrderly) : ofTemplate p.template = .ok p := by
  obtain ⟨_, hparse⟩ | ⟨hcomposed, -⟩ := h
  · unfold parse at hparse
    split at hparse
    · cases hparse
    · rwa [template_of_ofTemplate hparse]
  · have htemplate := template_of_ofTemplate hcomposed
    rwa [ofTokens, ← htemplate] at hcomposed

/-- **Patterns that are the same are equal** if each is read from its source or composed of tokens
that are told by their keys. -/
theorem IsOrderly.eq_of_same (hp : p.IsOrderly) (hq : q.IsOrderly) (h : p.same q = true) :
    p = q := by
  obtain ⟨hsource, hkeys⟩ := Prod.mk.inj (same_iff.1 h)
  have htokens : p.template.tokens = q.template.tokens :=
    Token.eq_of_map_key_eq hp.tells hq.tells hkeys
  have htemplate : p.template = q.template := by
    obtain ⟨⟨source, tokens⟩, program⟩ := p
    obtain ⟨⟨source', tokens'⟩, program'⟩ := q
    obtain rfl : source = source' := hsource
    obtain rfl : tokens = tokens' := htokens
    rfl
  have hmade := hp.ofTemplate_eq
  rw [htemplate, hq.ofTemplate_eq] at hmade
  exact (Except.ok.inj hmade).symm

/-- The score of a pattern depends on what identifies it alone, whatever its variables are. -/
theorem score_eq_of_same (h : p.same q = true) : p.score = q.score := by
  obtain ⟨-, hkeys⟩ := Prod.mk.inj (same_iff.1 h)
  have hscores : p.template.tokens.map Token.score = q.template.tokens.map Token.score := by
    rw [← List.forall₂_eq_eq_eq] at hkeys ⊢
    rw [List.forall₂_map_left_iff, List.forall₂_map_right_iff] at hkeys ⊢
    exact hkeys.imp fun _ _ => Token.score_eq_of_key_eq
  exact congrArg totalScore hscores

/-- **Patterns that are the same can take each other's place**, if each is read from its source or
composed of literals, wildcards and variables that are spelt out, with no `=` or `:` in a name and
no `:` in a default: they have the same tokens, match the same paths and give them the same values,
and expand parameters to the same text. In any case they have the same source and score. -/
theorem interchangeable_of_same (h : p.same q = true) :
    p.source = q.source ∧ p.score = q.score ∧
      (p.IsOrderly → q.IsOrderly → p.tokens = q.tokens ∧
        (∀ path, p.isMatch path = q.isMatch path ∧ p.resolve path = q.resolve path) ∧
        ∀ parameters, p.template.expand parameters = q.template.expand parameters) := by
  refine ⟨congrArg Prod.fst (same_iff.1 h), score_eq_of_same h, fun hp hq => ?_⟩
  obtain rfl := hp.eq_of_same hq h
  exact ⟨rfl, fun _ => ⟨rfl, rfl⟩, fun _ => rfl⟩

/-- A pattern that is read and one that is composed, both spelt `/{x=a:b}`. -/
theorem interchangeable_of_same_read :
    ∃ p q, parse "/\x7bx=a:b\x7d" false = .ok p ∧
      ofTokens [.literal "/", .var (.spelled "x" (some "a") (some "b"))] = .ok q ∧
      p.same q = true ∧ p.isMatch "/b" = true ∧ p.isMatch "/b" = q.isMatch "/b" ∧
      p.resolve "/b" = q.resolve "/b" := by
  obtain ⟨p, hp, hpkey⟩ := toOption_map_eq_some.1
    (by decide +kernel : ((parse "/\x7bx=a:b\x7d" false).toOption.map
      fun p => (p.template.key, p.isMatch "/b")) =
        some (("/\x7bx=a:b\x7d", [(.literal, "/"), (.var, "\x7bx=a:b\x7d")]), true))
  obtain ⟨q, hq, hqkey⟩ := toOption_map_eq_some.1
    (by decide +kernel : ((ofTokens [.literal "/",
        .var (.spelled "x" (some "a") (some "b"))]).toOption.map fun q => q.template.key) =
      some ("/\x7bx=a:b\x7d", [(.literal, "/"), (.var, "\x7bx=a:b\x7d")]))
  obtain ⟨hpkey, hmatch⟩ := Prod.mk.inj hpkey
  have hsame : p.same q = true := same_iff.2 (hpkey.trans hqkey.symm)
  have htokens : q.tokens = [.literal "/", .var (.spelled "x" (some "a") (some "b"))] :=
    congrArg Template.tokens (template_of_ofTemplate hq)
  have hpOrderly : p.IsOrderly := .inl ⟨false, by rwa [source_of_parse hp]⟩
  have hqOrderly : q.IsOrderly := by
    refine .inr ⟨by rwa [htokens], fun v hv => ?_⟩
    rw [htokens] at hv
    obtain rfl : v = .spelled "x" (some "a") (some "b") := by simpa using hv
    refine ⟨rfl, ?_, fun default hdefault => ?_⟩
    · simp [Variable.spelled]
    · obtain rfl : "a" = default := Option.some.inj hdefault
      simp
  obtain ⟨-, -, hagree⟩ := interchangeable_of_same hsame
  obtain ⟨-, hpaths, -⟩ := hagree hpOrderly hqOrderly
  exact ⟨p, q, hp, hq, hsame, hmatch, (hpaths "/b").1, (hpaths "/b").2⟩

/-- A default with a colon, and a default with a constraint, are spelt alike. So two patterns of one
variable each are the same, though one of them matches what the other does not, and they have
different defaults. -/
theorem exists_same_not_interchangeable :
    ∃ p q, ofTokens [.var (.spelled "x" (some "a:b") none)] = .ok p ∧
      ofTokens [.var (.spelled "x" (some "a") (some "b"))] = .ok q ∧ p.same q = true ∧
      p.isMatch "c" = true ∧ q.isMatch "c" = false ∧
      p.template.expand .empty = "a:b" ∧ q.template.expand .empty = "a" := by
  obtain ⟨p, hp, hpfacts⟩ := toOption_map_eq_some.1
    (by decide +kernel : ((ofTokens [.var (.spelled "x" (some "a:b") none)]).toOption.map
      fun p => (p.template.key, p.isMatch "c", p.template.expand .empty)) =
        some (("\x7bx=a:b\x7d", [(.var, "\x7bx=a:b\x7d")]), true, "a:b"))
  obtain ⟨q, hq, hqfacts⟩ := toOption_map_eq_some.1
    (by decide +kernel : ((ofTokens [.var (.spelled "x" (some "a") (some "b"))]).toOption.map
      fun q => (q.template.key, q.isMatch "c", q.template.expand .empty)) =
        some (("\x7bx=a:b\x7d", [(.var, "\x7bx=a:b\x7d")]), false, "a"))
  simp only [Prod.mk.injEq] at hpfacts hqfacts
  obtain ⟨hpkey, hpmatch, hpexpand⟩ := hpfacts
  obtain ⟨hqkey, hqmatch, hqexpand⟩ := hqfacts
  refine ⟨p, q, hp, hq, same_iff.2 ?_, hpmatch, hqmatch, hpexpand, hqexpand⟩
  exact hpkey.trans hqkey.symm

end Pattern

end PathRouter
