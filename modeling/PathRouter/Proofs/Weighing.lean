import PathRouter.Proofs.Layout

set_option autoImplicit false

/-! # What a source weighs

The score of a pattern can be read off its source without cutting the source into tokens
(`Pattern.score_of_source`). Outside of expansions every character counts that is no slash, but for
an asterisk at the end; inside of them commas count, and nothing else (`Template.weight`). The
characters are told apart by one scan of the source (`Template.placed`), and what they weigh by
induction on how the source is laid out (`Token.Reads.countP_literal`).
-/

namespace PathRouter

/-! ## Characters of a source -/

namespace Template

/-- The brace that ends a part of a source: an expansion, if the part is `inside` of one, or the
text before one. -/
def border (inside : Bool) : Char := if inside then '\x7d' else '\x7b'

/-- The characters of a source, each with whether it stands inside of an expansion, if the first of
them stands `inside` of one. The braces of expansions are left out. -/
def placed (inside : Bool) : List Char → List (Bool × Char)
  | [] => []
  | c :: rest =>
    if c = border inside then placed (!inside) rest else (inside, c) :: placed inside rest

/-- The characters of a source inside of its expansions, or those outside of them. -/
def part (inside : Bool) (cs : List Char) : List Char :=
  ((placed false cs).filter (·.1 == inside)).map Prod.snd

/-- A source without the asterisk that ends it, if one does. -/
def withoutRemainder (cs : List Char) : List Char :=
  if cs.getLast? = some '*' then cs.dropLast else cs

/-- What a source weighs: the characters outside of its expansions that are no slashes, without an
asterisk at the end, and the commas inside of them. -/
def weight (cs : List Char) : Nat :=
  (part false (withoutRemainder cs)).countP (· != '/') + (part true cs).count ','

/-- What does not end the part that it stands in belongs to this part. -/
theorem placed_append {inside : Bool} {cs : List Char} (h : border inside ∉ cs) (rest : List Char) :
    placed inside (cs ++ rest) = cs.map (Prod.mk inside) ++ placed inside rest := by
  induction cs with
  | nil => rfl
  | cons c cs ih =>
      obtain ⟨hc, hcs⟩ := List.ne_and_not_mem_of_not_mem_cons h
      rw [List.cons_append, placed, if_neg hc.symm, ih hcs, List.map_cons, List.cons_append]

theorem part_append {text : List Char} (h : '\x7b' ∉ text) (inside : Bool) (rest : List Char) :
    part inside (text ++ rest) = (if inside then [] else text) ++ part inside rest := by
  have hplaced : placed false (text ++ rest) = text.map (Prod.mk false) ++ placed false rest :=
    placed_append h rest
  rw [part, hplaced, List.filter_append, List.map_append]
  congr 1
  cases inside <;> simp [List.filter_map, Function.comp_def]

theorem part_expansion {body : List Char} (h : ∀ c ∈ body, isBrace c = false) (inside : Bool)
    (rest : List Char) :
    part inside ('\x7b' :: (body ++ '\x7d' :: rest)) =
      (if inside then body else []) ++ part inside rest := by
  have hclose : border true ∉ body := fun hmem => absurd (h _ hmem) (by decide)
  -- the first brace leads into the expansion, and the last one out of it
  have hplaced : placed false ('\x7b' :: (body ++ '\x7d' :: rest)) =
      body.map (Prod.mk true) ++ placed false rest := by
    have hopen : placed false ('\x7b' :: (body ++ '\x7d' :: rest)) =
        placed true (body ++ '\x7d' :: rest) := if_pos rfl
    have hclosed : placed true ('\x7d' :: rest) = placed false rest := if_pos rfl
    rw [hopen, placed_append hclose, hclosed]
  rw [part, hplaced, List.filter_append, List.map_append]
  congr 1
  cases inside <;> simp [List.filter_map, Function.comp_def]

theorem part_of_not_mem {text : List Char} (h : '\x7b' ∉ text) (inside : Bool) :
    part inside text = if inside then [] else text := by
  have happend := part_append h inside []
  have hnil : part inside [] = [] := rfl
  rwa [hnil, List.append_nil, List.append_nil] at happend

/-- What stands before the end of a source stays, unless it is itself an asterisk at the end. -/
theorem withoutRemainder_append {cs rest : List Char}
    (h : rest = [] → cs.getLast? ≠ some '*') :
    withoutRemainder (cs ++ rest) = cs ++ withoutRemainder rest := by
  rcases rest.eq_nil_or_concat' with rfl | ⟨before, c, rfl⟩
  · rw [List.append_nil, withoutRemainder, if_neg (h rfl)]
    simp [withoutRemainder]
  · rw [← List.append_assoc, withoutRemainder, withoutRemainder, List.getLast?_concat,
      List.getLast?_concat, List.dropLast_concat, List.dropLast_concat]
    split <;> simp

/-- Text at the end of a source weighs as many characters as it has that are no slashes. -/
theorem weight_text {text : List Char} (hopen : '\x7b' ∉ text) (hlast : text.getLast? ≠ some '*') :
    weight text = text.countP (· != '/') := by
  rw [weight, withoutRemainder, if_neg hlast, part_of_not_mem hopen, part_of_not_mem hopen]
  simp

/-- So does text before anything else, whatever it ends with. -/
theorem weight_append {text rest : List Char} (hopen : '\x7b' ∉ text) (hrest : rest ≠ []) :
    weight (text ++ rest) = text.countP (· != '/') + weight rest := by
  have hcut : withoutRemainder (text ++ rest) = text ++ withoutRemainder rest :=
    withoutRemainder_append fun hnil => absurd hnil hrest
  rw [weight, hcut, part_append hopen, part_append hopen, if_neg Bool.false_ne_true, if_pos rfl,
    List.countP_append, List.nil_append, Nat.add_assoc, weight]

/-- An expansion weighs as many characters as it has commas. -/
theorem weight_expansion {body : List Char} (h : ∀ c ∈ body, isBrace c = false)
    (rest : List Char) :
    weight ('\x7b' :: (body ++ '\x7d' :: rest)) = body.count ',' + weight rest := by
  have hcut : withoutRemainder ('\x7b' :: (body ++ '\x7d' :: rest)) =
      '\x7b' :: (body ++ '\x7d' :: withoutRemainder rest) := by
    have hspelt (cs : List Char) : '\x7b' :: (body ++ '\x7d' :: cs) =
        ('\x7b' :: body ++ ['\x7d']) ++ cs := by
      rw [List.append_assoc, List.cons_append, List.singleton_append]
    rw [hspelt, hspelt]
    -- the brace, and no asterisk inside of the expansion, stands at its end
    refine withoutRemainder_append fun _ => ?_
    rw [List.getLast?_concat]
    decide
  rw [weight, hcut, part_expansion h, part_expansion h, if_neg Bool.false_ne_true, if_pos rfl,
    List.nil_append, List.count_append, weight]
  omega

end Template

/-! ## Characters of tokens -/

/-- There is one part more than there are separators. -/
theorem length_splitAt (separator : Char) (cs : List Char) :
    (splitAt separator cs).length = cs.count separator + 1 := by
  induction cs with
  | nil => rfl
  | cons c rest ih =>
      rw [splitAt]
      split
      · next hc =>
        subst hc
        rw [List.length_cons, ih, List.count_cons_self]
      · next hc =>
        rw [List.count_cons_of_ne hc]
        split
        · next piece pieces hpieces => rw [← ih, hpieces, List.length_cons, List.length_cons]
        · next hnil => exact absurd hnil (splitAt_ne_nil separator rest)

namespace Token

/-- The spellings of the tokens of a kind, put together. -/
def spellingOf (kind : TokenKind) (tokens : List Token) : List Char :=
  (tokens.filter fun t => t.kind = kind).flatMap chars

theorem spellingOf_cons (kind : TokenKind) (t : Token) (tokens : List Token) :
    spellingOf kind (t :: tokens) =
      (if t.kind = kind then t.chars else []) ++ spellingOf kind tokens := by
  by_cases h : t.kind = kind <;> simp [spellingOf, h]

theorem spellingOf_literal_cons (text : String) (tokens : List Token) :
    spellingOf .literal (.literal text :: tokens) =
      text.toList ++ spellingOf .literal tokens := rfl

theorem spellingOf_literal_var (v : Variable) (tokens : List Token) :
    spellingOf .literal (.var v :: tokens) = spellingOf .literal tokens := rfl

theorem spellingOf_append (kind : TokenKind) (tokens further : List Token) :
    spellingOf kind (tokens ++ further) = spellingOf kind tokens ++ spellingOf kind further := by
  simp [spellingOf]

/-- The spellings of the three kinds are as long as all spellings together. -/
theorem length_flatMap_chars (tokens : List Token) :
    (spellingOf .literal tokens).length + (spellingOf .var tokens).length +
      (spellingOf .wildcard tokens).length = (tokens.flatMap chars).length := by
  induction tokens with
  | nil => rfl
  | cons t tokens ih =>
      rw [List.flatMap_cons, List.length_append, ← ih]
      simp only [spellingOf_cons, List.length_append]
      cases t <;> simp only [kind, reduceCtorEq, if_true, if_false, List.length_nil] <;> omega

/-- A score counts the characters of the literals that are no slashes. -/
theorem totalScore_eq_countP (tokens : List Token) :
    totalScore (tokens.map score) = (spellingOf .literal tokens).countP (· != '/') := by
  induction tokens with
  | nil => rfl
  | cons t tokens ih =>
      have hstep : totalScore ((t :: tokens).map score) =
          t.score + totalScore (tokens.map score) := rfl
      rw [hstep, ih, spellingOf_cons, List.countP_append]
      congr 1
      cases t with
      | literal text => exact List.countP_eq_length_filter.symm
      | var v => rfl
      | wildcard expression => rfl

/-- Among the variables of specs, the literals are the commas between them. -/
theorem spellingOf_literal_ofSpecs (lead : String) (specs : List (VarSpec × List Char)) :
    spellingOf .literal (ofSpecs lead specs) = List.replicate (specs.length - 1) ',' := by
  fun_induction ofSpecs lead specs with
  | case1 => rfl
  | case2 lead s piece => rfl
  | case3 lead s piece rest hsome ih =>
      -- what follows begins with a comma for its first variable
      obtain ⟨next, others, rfl⟩ := List.exists_cons_of_ne_nil hsome
      rw [spellingOf_literal_var, spellingOf_literal_cons, ih]
      simp [List.replicate_succ]

/-- **What the literals weigh is what the source weighs**, by induction on the layout of the
source. -/
theorem Reads.countP_literal {validateDefaults : Bool} {cs : List Char} {tokens : List Token}
    (h : Reads validateDefaults cs tokens) :
    (spellingOf .literal tokens).countP (· != '/') = Template.weight cs := by
  induction h with
  | nil => rfl
  | remainder => rfl -- the asterisk is a wildcard, and left out of the weight
  | last hsome hopen hlast =>
      rw [spellingOf_literal_cons, String.toList_ofList, Template.weight_text hopen hlast]
      simp [spellingOf]
  | text hsome hopen hrest h ih =>
      rw [spellingOf_literal_cons, String.toList_ofList, List.countP_append, ih,
        Template.weight_append hopen hrest]
  | @expansion ctx body rest specs tokens hctx hbody hspecs h ih =>
      have hlength : (specs.zip (splitAt ',' body)).length = body.count ',' + 1 := by
        rw [List.length_zip, VarSpec.length_of_parsePieces hspecs, Nat.min_self, length_splitAt]
      rw [spellingOf_append, List.countP_append, ih, spellingOf_literal_ofSpecs, hlength,
        Nat.add_sub_cancel, List.countP_replicate, Template.weight_expansion hbody]
      rfl

/-- The wildcards of a source are spelt by the asterisk at its end. -/
theorem spellingOf_wildcard_of_ofSource {source : String} {validateDefaults : Bool}
    {tokens : List Token} (h : ofSource source validateDefaults = .ok tokens) :
    spellingOf .wildcard tokens = if source.toList.getLast? = some '*' then ['*'] else [] := by
  have hnone : ∀ tokens : List Token, (∀ t ∈ tokens, t.kind ≠ .wildcard) →
      spellingOf .wildcard tokens = [] := by
    intro tokens htokens
    rw [spellingOf, List.filter_eq_nil_iff.2 (by simpa using htokens), List.flatMap_nil]
  have hwildcard := wildcard_of_ofSegments (Segment.alternate_ofSource source.toList).nonempty h
  rw [Segment.flatMap_chars_ofSource] at hwildcard
  split
  · next hstar =>
    rw [if_pos hstar] at hwildcard
    obtain ⟨before, rfl, hbefore⟩ := hwildcard
    rw [spellingOf_append, hnone before hbefore]
    rfl
  · next hstar =>
    rw [if_neg hstar] at hwildcard
    exact hnone tokens hwildcard

end Token

/-! ## Scores -/

namespace Pattern

/-- **The score can be read off the source.** A source that has tokens is a pattern, and its score
is what the source weighs: the characters outside of its expansions that are no slashes, without an
asterisk at the end, and the commas inside of them. Put differently, the score, the spellings of the
variables, the slashes of the literals and the asterisk at the end, if there is one, make up the
length of the source. -/
theorem score_of_source {source : String} {validateDefaults : Bool} {tokens : List Token}
    (h : Token.ofSource source validateDefaults = .ok tokens) :
    ∃ p, parse source validateDefaults = .ok p ∧ p.tokens = tokens ∧
      p.score = Template.weight source.toList ∧
      p.score + (Token.spellingOf .var tokens).length +
        (Token.spellingOf .literal tokens).count '/' +
          (if source.toList.getLast? = some '*' then 1 else 0) = source.length := by
  obtain ⟨bodies, hbodies⟩ := exists_bodies (Token.admitted_of_ofSource h)
  refine ⟨_, parse_eq_ok h hbodies, rfl, ?_, ?_⟩
  · exact (Token.totalScore_eq_countP tokens).trans (Token.reads_of_ofSource h).countP_literal
  · -- every character belongs to one token, of one of the three kinds
    have hscore : totalScore (tokens.map Token.score) +
        (Token.spellingOf .literal tokens).count '/' =
          (Token.spellingOf .literal tokens).length := by
      rw [Token.totalScore_eq_countP, List.length_eq_countP_add_countP (· != '/')]
      simp [List.count, Bool.beq_eq_decide_eq]
    have hwildcard : (Token.spellingOf .wildcard tokens).length =
        if source.toList.getLast? = some '*' then 1 else 0 := by
      rw [Token.spellingOf_wildcard_of_ofSource h]
      split <;> rfl
    have hspelt : (tokens.flatMap Token.chars).length = source.length := by
      have hjoin := congrArg String.length (Token.join_expression_of_ofSource h)
      rw [← hjoin, ← String.length_toList, String.toList_join, List.flatMap_map]
      rfl
    have htotal := Token.length_flatMap_chars tokens
    show totalScore (tokens.map Token.score) + _ + _ + _ = _
    omega

/-- Commas inside and outside of an expansion, a stray brace, an asterisk that is literal text and
one that is a wildcard. -/
theorem score_of_source_expansion :
    ∃ p, parse "/\x7d*,\x7bx=/a,y:[0-9]*\x7d/é*" true = .ok p ∧ p.score = 5 ∧
      p.score + (Token.spellingOf .var p.tokens).length +
        (Token.spellingOf .literal p.tokens).count '/' + 1 = 22 := by
  have hsome : (Token.ofSource "/\x7d*,\x7bx=/a,y:[0-9]*\x7d/é*" true).toOption.isSome = true := by
    decide +kernel
  obtain ⟨tokens, htokens⟩ := Option.isSome_iff_exists.1 hsome
  obtain ⟨p, hp, rfl, hscore, htotal⟩ := score_of_source (Outcome.toOption_eq_some.1 htokens)
  refine ⟨p, hp, hscore.trans ?_, htotal.trans ?_⟩ <;> decide +kernel

end Pattern

end PathRouter
