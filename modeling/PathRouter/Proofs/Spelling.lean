import PathRouter.Proofs.Composition
import PathRouter.Proofs.Grammar

set_option autoImplicit false

/-! # Tokens spell their source

The tokens of a source, put together again, are the source (`Token.join_expression_of_ofSource`).
They are canonical: no literal is empty, has an opening brace or stands next to another literal, and
there is a wildcard exactly if the source ends with an asterisk, of which it is the last token
(`Token.canonical_of_ofSource`). So composing a template or a pattern of the tokens of one that was
read gives it back.
-/

namespace PathRouter

open Outcome

/-! ## Segments -/

namespace Segment

/-- A text. -/
def IsText : Segment → Prop
  | .text _ => True
  | .expansion _ => False

/-- Segments as they are cut: no text is empty, and no two texts stand side by side. -/
structure Alternate (segments : List Segment) : Prop where
  nonempty : .text [] ∉ segments
  apart : segments.IsChain fun s t => ¬ (s.IsText ∧ t.IsText)

theorem alternate_ofText (cs : List Char) : Alternate (ofText cs) := by
  cases cs with
  | nil => exact ⟨by simp [ofText], .nil⟩
  | cons c rest => exact ⟨by simp [ofText], .singleton _⟩

/-- A text, if there is one, may stand before an expansion. -/
theorem Alternate.ofText_append {segments : List Segment} (h : Alternate segments)
    (text body : List Char) : Alternate (ofText text ++ .expansion body :: segments) := by
  have hrest : Alternate (.expansion body :: segments) := by
    refine ⟨by simpa using h.nonempty, ?_⟩
    cases segments with
    | nil => exact .singleton _
    | cons s rest => exact List.isChain_cons_cons.2 ⟨And.left, h.apart⟩
  cases text with
  | nil => exact hrest
  | cons c cs =>
      exact ⟨by simpa [ofText] using h.nonempty, List.isChain_cons_cons.2 ⟨And.right, hrest.apart⟩⟩

theorem alternate_segmentsFrom (text cs : List Char) (body? : Option (List Char)) :
    Alternate (segmentsFrom text body? cs) := by
  fun_induction segmentsFrom text body? cs with
  | case1 | case2 => exact alternate_ofText _
  | case3 | case4 | case6 | case7 => assumption
  | case5 _ _ _ ih => exact ih.ofText_append _ _

theorem alternate_ofSource (cs : List Char) : Alternate (ofSource cs) :=
  alternate_segmentsFrom [] cs none

end Segment

/-! ## Expansions -/

theorem VarSpec.length_of_parsePieces {ctx : SpecContext} {start : Int}
    {pieces : List (List Char)} {specs : List VarSpec}
    (h : parsePieces ctx start pieces = .ok specs) : specs.length = pieces.length := by
  induction pieces generalizing start specs with
  | nil =>
      obtain rfl := Except.ok.inj h
      rfl
  | cons piece rest ih =>
      obtain ⟨s, others, -, hothers, rfl⟩ := parsePieces_cons_eq_ok.1 h
      rw [List.length_cons, List.length_cons, ih hothers]

namespace Token

/-- The characters of the spelling of a token. -/
def chars (t : Token) : List Char := t.expression.toList

/-- A literal. -/
def IsLiteral (t : Token) : Prop := t.kind = .literal

/-- A literal that is not empty and has no opening brace; any other token. -/
def IsProper : Token → Prop
  | .literal text => text ≠ "" ∧ '\x7b' ∉ text.toList
  | _ => True

/-- Tokens as they are read: every literal is proper, and no two stand side by side. -/
structure Canonical (tokens : List Token) : Prop where
  proper : ∀ t ∈ tokens, t.IsProper
  apart : tokens.IsChain fun t u => ¬ (t.IsLiteral ∧ u.IsLiteral)

theorem flatMap_chars_ofSpecs {lead : String} {specs : List (VarSpec × List Char)}
    (h : specs ≠ []) :
    (ofSpecs lead specs).flatMap chars =
      lead.toList ++ [','].intercalate (specs.map Prod.snd) ++ ['\x7d'] := by
  induction specs generalizing lead with
  | nil => exact absurd rfl h
  | cons first rest ih =>
      obtain ⟨s, piece⟩ := first
      cases rest with
      | nil => simp [ofSpecs, chars, expression, List.intercalate]
      | cons second rest =>
          rw [ofSpecs, List.flatMap_cons, List.flatMap_cons, ih (by simp)]
          · simp [chars, expression, List.intercalate]
          · simp

theorem ofSpecs_ne_nil (lead : String) {specs : List (VarSpec × List Char)} (h : specs ≠ []) :
    ofSpecs lead specs ≠ [] := by
  cases specs with
  | nil => exact absurd rfl h
  | cons first rest => cases rest <;> simp [ofSpecs]

/-- The tokens of specs are canonical, and begin and end with a variable. -/
theorem canonical_ofSpecs (lead : String) (specs : List (VarSpec × List Char)) :
    Canonical (ofSpecs lead specs) ∧ (∀ t ∈ (ofSpecs lead specs).head?, ¬ t.IsLiteral) ∧
      ∀ t ∈ (ofSpecs lead specs).getLast?, ¬ t.IsLiteral := by
  induction specs generalizing lead with
  | nil => exact ⟨⟨nofun, .nil⟩, by simp [ofSpecs], by simp [ofSpecs]⟩
  | cons first rest ih =>
      obtain ⟨s, piece⟩ := first
      cases rest with
      | nil =>
          refine ⟨⟨?_, .singleton _⟩, ?_, ?_⟩
          · simp [ofSpecs, IsProper]
          · simp [ofSpecs, IsLiteral, kind]
          · simp [ofSpecs, IsLiteral, kind]
      | cons second rest =>
          obtain ⟨⟨hproper, hapart⟩, hhead, hlast⟩ := ih ""
          have hsome := ofSpecs_ne_nil "" (List.cons_ne_nil second rest)
          rw [ofSpecs]
          · refine ⟨⟨?_, ?_⟩, ?_, ?_⟩
            · refine List.forall_mem_cons.2 ⟨trivial, List.forall_mem_cons.2 ⟨?_, hproper⟩⟩
              show "," ≠ "" ∧ '\x7b' ∉ ",".toList
              decide
            · -- the comma stands between two variables
              refine List.isChain_cons.2
                ⟨by simp [IsLiteral, kind], List.isChain_cons.2 ⟨?_, hapart⟩⟩
              exact fun t ht h => hhead t ht h.2
            · simp [IsLiteral, kind]
            · rwa [List.getLast?_cons_cons, List.getLast?_cons_of_ne_nil hsome]
          · simp

/-! ## Segments and sources -/

theorem flatMap_chars_of_ofLastText {source : String} {start : Nat} {cs : List Char}
    {tokens : List Token} (h : ofLastText source start cs = .ok tokens) :
    tokens.flatMap chars = cs := by
  unfold ofLastText at h
  split at h
  · next hlast =>
    have hstar : cs.dropLast ++ ['*'] = cs :=
      List.dropLast_append_getLast? '*' (by simpa using hlast)
    split at h
    · next hone =>
      obtain rfl := Except.ok.inj h
      have hempty : cs.dropLast = [] := by simp [← List.length_eq_zero_iff, hone]
      rw [hempty] at hstar
      simpa [chars, expression, wildcardText] using hstar
    · obtain ⟨t, ht, rfl⟩ := map_eq_ok.1 h
      rw [ofText_eq_ok ht]
      simpa [chars, expression, wildcardText] using hstar
  · obtain ⟨t, ht, rfl⟩ := map_eq_ok.1 h
    rw [ofText_eq_ok ht]
    simp [chars, expression]

theorem flatMap_chars_of_ofSegment {source : String} {validateDefaults : Bool} {start : Nat}
    {segment : Segment} {tokens : List Token}
    (h : ofSegment source validateDefaults start segment = .ok tokens) :
    tokens.flatMap chars = segment.chars := by
  cases segment with
  | text cs =>
      obtain ⟨t, ht, rfl⟩ := map_eq_ok.1 h
      rw [ofText_eq_ok ht]
      simp [chars, expression, Segment.chars]
  | expansion body =>
      obtain ⟨specs, hspecs, rfl⟩ := map_eq_ok.1 h
      have hlength := VarSpec.length_of_parsePieces hspecs
      have hsome : specs.zip (splitAt ',' body) ≠ [] := by
        intro hzip
        have := congrArg List.length hzip
        have := List.length_pos_iff.2 (splitAt_ne_nil ',' body)
        simp only [List.length_zip, List.length_nil] at *
        omega
      rw [flatMap_chars_ofSpecs hsome, List.map_snd_zip (by omega), intercalate_splitAt]
      rfl

/-- The tokens of segments spell the segments. -/
theorem flatMap_chars_of_ofSegments {source : String} {validateDefaults : Bool} {start : Nat}
    {segments : List Segment} {tokens : List Token}
    (h : ofSegments source validateDefaults start segments = .ok tokens) :
    tokens.flatMap chars = segments.flatMap Segment.chars := by
  fun_induction ofSegments source validateDefaults start segments generalizing tokens with
  | case1 =>
      obtain rfl := Except.ok.inj h
      rfl
  | case2 start cs =>
      rw [flatMap_chars_of_ofLastText h]
      simp [Segment.chars]
  | case3 start segment rest _ ih =>
      obtain ⟨first, hfirst, h⟩ := bind_eq_ok.1 h
      obtain ⟨further, hfurther, h⟩ := bind_eq_ok.1 h
      obtain rfl := Except.ok.inj h
      rw [List.flatMap_append, List.flatMap_cons, flatMap_chars_of_ofSegment hfirst, ih hfurther]

/-! ## Canonical tokens -/

/-- The literal of a text that is not empty is proper. -/
theorem isProper_of_ofText {source : String} {start : Nat} {cs : List Char} {t : Token}
    (h : ofText source start cs = .ok t) (hcs : cs ≠ []) : t.IsProper := by
  have hopen := (ofText_isOk_iff source start cs).1 ⟨t, h⟩
  rw [ofText_eq_ok h]
  refine ⟨?_, by rwa [String.toList_ofList]⟩
  intro hempty
  exact hcs (by simpa using hempty)

theorem canonical_of_ofLastText {source : String} {start : Nat} {cs : List Char}
    {tokens : List Token} (h : ofLastText source start cs = .ok tokens) (hcs : cs ≠ []) :
    Canonical tokens := by
  unfold ofLastText at h
  split at h
  · split at h
    · obtain rfl := Except.ok.inj h
      exact ⟨List.forall_mem_singleton.2 trivial, .singleton _⟩
    · next hlast hone =>
      obtain ⟨t, ht, rfl⟩ := map_eq_ok.1 h
      -- more than the asterisk is left
      have hrest : cs.dropLast ≠ [] := by
        intro hempty
        have := congrArg List.length hempty
        have := List.length_pos_iff.2 hcs
        simp only [List.length_dropLast, List.length_nil] at *
        omega
      refine ⟨List.forall_mem_cons.2 ⟨isProper_of_ofText ht hrest, ?_⟩, ?_⟩
      · exact List.forall_mem_singleton.2 trivial
      · exact List.isChain_pair.2 (by simp [IsLiteral, kind])
  · obtain ⟨t, ht, rfl⟩ := map_eq_ok.1 h
    exact ⟨List.forall_mem_singleton.2 (isProper_of_ofText ht hcs), .singleton _⟩

/-- A segment that is no empty text has tokens. They are canonical, and begin and end with a literal
only if the segment is a text. -/
theorem canonical_of_ofSegment {source : String} {validateDefaults : Bool} {start : Nat}
    {segment : Segment} {tokens : List Token} (hsegment : segment ≠ .text [])
    (h : ofSegment source validateDefaults start segment = .ok tokens) :
    Canonical tokens ∧ tokens ≠ [] ∧ (∀ t ∈ tokens.head?, t.IsLiteral → segment.IsText) ∧
      ∀ t ∈ tokens.getLast?, t.IsLiteral → segment.IsText := by
  cases segment with
  | text cs =>
      have hcs : cs ≠ [] := by
        rintro rfl
        exact hsegment rfl
      obtain ⟨t, ht, rfl⟩ := map_eq_ok.1 h
      refine ⟨⟨List.forall_mem_singleton.2 (isProper_of_ofText ht hcs), .singleton _⟩, ?_, ?_, ?_⟩
      · simp
      · exact fun _ _ _ => trivial
      · exact fun _ _ _ => trivial
  | expansion body =>
      have hspell := flatMap_chars_of_ofSegment h
      obtain ⟨specs, -, rfl⟩ := map_eq_ok.1 h
      obtain ⟨hcanonical, hhead, hlast⟩ :=
        canonical_ofSpecs "\x7b" (specs.zip (splitAt ',' body))
      refine ⟨hcanonical, ?_, ?_, ?_⟩
      · intro hempty
        rw [hempty] at hspell
        cases hspell
      · exact fun t ht hliteral => absurd hliteral (hhead t ht)
      · exact fun t ht hliteral => absurd hliteral (hlast t ht)

/-- The tokens of segments as they are cut are canonical, and begin with a literal only if the
segments begin with a text. -/
theorem canonical_of_ofSegments {source : String} {validateDefaults : Bool} {start : Nat}
    {segments : List Segment} {tokens : List Token} (halternate : Segment.Alternate segments)
    (h : ofSegments source validateDefaults start segments = .ok tokens) :
    Canonical tokens ∧ ∀ t ∈ tokens.head?, t.IsLiteral → ∃ s ∈ segments.head?, s.IsText := by
  fun_induction ofSegments source validateDefaults start segments generalizing tokens with
  | case1 =>
      obtain rfl := Except.ok.inj h
      exact ⟨⟨by simp, .nil⟩, by simp⟩
  | case2 start cs =>
      have hcs : cs ≠ [] := by
        rintro rfl
        exact halternate.nonempty (List.mem_cons_self ..)
      exact ⟨canonical_of_ofLastText h hcs, fun _ _ _ => ⟨_, rfl, trivial⟩⟩
  | case3 start segment rest _ ih =>
      obtain ⟨first, hfirst, h⟩ := bind_eq_ok.1 h
      obtain ⟨further, hfurther, h⟩ := bind_eq_ok.1 h
      obtain rfl := Except.ok.inj h
      obtain ⟨hsegment, hrest⟩ := List.ne_and_not_mem_of_not_mem_cons halternate.nonempty
      obtain ⟨hnext, hapart⟩ := List.isChain_cons.1 halternate.apart
      obtain ⟨hcanonical, hsome, hhead, hlast⟩ := canonical_of_ofSegment hsegment.symm hfirst
      obtain ⟨hcanonical', hhead'⟩ := ih ⟨hrest, hapart⟩ hfurther
      refine ⟨⟨?_, hcanonical.apart.append hcanonical'.apart ?_⟩, ?_⟩
      · exact List.forall_mem_append.2 ⟨hcanonical.proper, hcanonical'.proper⟩
      · -- two literals side by side would come from two texts side by side
        rintro t ht u hu ⟨htext, hutext⟩
        obtain ⟨s, hs, hstext⟩ := hhead' u hu hutext
        exact hnext s hs ⟨hlast t ht htext, hstext⟩
      · intro t ht hliteral
        rw [List.head?_append_of_ne_nil _ hsome] at ht
        exact ⟨segment, rfl, hhead t ht hliteral⟩

/-! ## Wildcards -/

/-- A text that ends a source has a wildcard, as its last token, exactly if it ends with an
asterisk. -/
theorem wildcard_of_ofLastText {source : String} {start : Nat} {cs : List Char}
    {tokens : List Token} (h : ofLastText source start cs = .ok tokens) :
    if cs.getLast? = some '*' then
      ∃ before, tokens = before ++ [.wildcard wildcardText] ∧ ∀ t ∈ before, t.kind ≠ .wildcard
    else ∀ t ∈ tokens, t.kind ≠ .wildcard := by
  unfold ofLastText at h
  split at h
  · next hlast =>
    rw [if_pos (by simpa using hlast)]
    split at h
    · obtain rfl := Except.ok.inj h
      exact ⟨[], rfl, nofun⟩
    · obtain ⟨t, ht, rfl⟩ := map_eq_ok.1 h
      rw [ofText_eq_ok ht]
      exact ⟨[_], rfl, List.forall_mem_singleton.2 nofun⟩
  · next hlast =>
    rw [if_neg (by simpa using hlast)]
    obtain ⟨t, ht, rfl⟩ := map_eq_ok.1 h
    rw [ofText_eq_ok ht]
    exact List.forall_mem_singleton.2 nofun

theorem kind_ne_wildcard_of_isMatchable {t : Token} (h : t.isMatchable false = true) :
    t.kind ≠ .wildcard := by
  cases t with
  | wildcard _ => cases h
  | _ => nofun

/-- The same of segments, none of which is an empty text. -/
theorem wildcard_of_ofSegments {source : String} {validateDefaults : Bool} {start : Nat}
    {segments : List Segment} {tokens : List Token} (hnonempty : .text [] ∉ segments)
    (h : ofSegments source validateDefaults start segments = .ok tokens) :
    if (segments.flatMap Segment.chars).getLast? = some '*' then
      ∃ before, tokens = before ++ [.wildcard wildcardText] ∧ ∀ t ∈ before, t.kind ≠ .wildcard
    else ∀ t ∈ tokens, t.kind ≠ .wildcard := by
  fun_induction ofSegments source validateDefaults start segments generalizing tokens with
  | case1 =>
      obtain rfl := Except.ok.inj h
      simp
  | case2 start cs =>
      simpa [Segment.chars] using wildcard_of_ofLastText h
  | case3 start segment rest hlast ih =>
      obtain ⟨first, hfirst, h⟩ := bind_eq_ok.1 h
      obtain ⟨further, hfurther, h⟩ := bind_eq_ok.1 h
      obtain rfl := Except.ok.inj h
      obtain ⟨hsegment, hrest⟩ := List.ne_and_not_mem_of_not_mem_cons hnonempty
      have hnone : ∀ t ∈ first, t.kind ≠ .wildcard := fun t ht =>
        kind_ne_wildcard_of_isMatchable (isMatchable_of_ofSegment hfirst t ht)
      have hend : ((segment :: rest).flatMap Segment.chars).getLast? = some '*' ↔
          (rest.flatMap Segment.chars).getLast? = some '*' := by
        rw [List.flatMap_cons]
        cases rest with
        | nil =>
            -- an expansion ends with its brace
            cases segment with
            | text cs => exact absurd rfl (hlast cs rfl)
            | expansion body =>
                have hbrace : (Segment.expansion body).chars.getLast? = some '\x7d' :=
                  List.getLast?_concat
                simp [hbrace]
        | cons next others =>
            have hnext : next.chars ≠ [] := by
              cases next with
              | text cs =>
                  rintro rfl
                  exact hrest (List.mem_cons_self ..)
              | expansion body => simp [Segment.chars]
            rw [List.getLast?_append_of_ne_nil _ (by simp [hnext])]
      have hih := ih hrest hfurther
      simp only [hend]
      split
      · next hstar =>
        rw [if_pos hstar] at hih
        obtain ⟨before, rfl, hbefore⟩ := hih
        exact ⟨first ++ before, (List.append_assoc ..).symm,
          List.forall_mem_append.2 ⟨hnone, hbefore⟩⟩
      · next hstar =>
        rw [if_neg hstar] at hih
        exact List.forall_mem_append.2 ⟨hnone, hih⟩

/-! ## Sources -/

/-- The tokens of a source, put together again, are the source. -/
theorem join_expression_of_ofSource {source : String} {validateDefaults : Bool}
    {tokens : List Token} (h : ofSource source validateDefaults = .ok tokens) :
    String.join (tokens.map expression) = source := by
  refine String.toList_inj.1 ?_
  calc (String.join (tokens.map expression)).toList
      = tokens.flatMap chars := by rw [String.toList_join, List.flatMap_map]; rfl
    _ = (Segment.ofSource source.toList).flatMap Segment.chars := flatMap_chars_of_ofSegments h
    _ = source.toList := Segment.flatMap_chars_ofSource _

/-- **Tokens spell their source and are canonical.** Put together again, the tokens of a source are
the source. No literal is empty, has an opening brace, or stands next to another one. There is a
wildcard exactly if the source ends with an asterisk, and then it is one alone and the last token.
The template composed of the tokens of the template that is read is that template, and the pattern
composed of those of the pattern that is read is that pattern. -/
theorem canonical_of_ofSource {source : String} {validateDefaults : Bool} {tokens : List Token}
    (h : ofSource source validateDefaults = .ok tokens) :
    String.join (tokens.map expression) = source ∧
      (∀ text, .literal text ∈ tokens → text ≠ "" ∧ '\x7b' ∉ text.toList) ∧
      tokens.IsChain (fun t u => ¬ (t.IsLiteral ∧ u.IsLiteral)) ∧
      ((∃ t ∈ tokens, t.kind = .wildcard) ↔ source.toList.getLast? = some '*') ∧
      (source.toList.getLast? = some '*' →
        ∃ before, tokens = before ++ [.wildcard wildcardText] ∧ ∀ t ∈ before, t.kind ≠ .wildcard) ∧
      (∃ t, Template.parse source validateDefaults = .ok t ∧ t.tokens = tokens ∧
        (Template.ofTokens t.tokens).same t = true) ∧
      ∃ p q, Pattern.parse source validateDefaults = .ok p ∧ p.tokens = tokens ∧
        Pattern.ofTokens p.tokens = .ok q ∧ q.same p = true := by
  have hjoin := join_expression_of_ofSource h
  have halternate := Segment.alternate_ofSource source.toList
  obtain ⟨hcanonical, -⟩ := canonical_of_ofSegments halternate h
  have hwildcard := wildcard_of_ofSegments halternate.nonempty h
  rw [Segment.flatMap_chars_ofSource] at hwildcard
  have htemplate : Template.parse source validateDefaults = .ok { source, tokens } := by
    unfold Template.parse
    rw [h]
    rfl
  have hcomposed : Template.ofTokens tokens = { source, tokens } := by
    rw [Template.ofTokens, hjoin]
  obtain ⟨bodies, hbodies⟩ := Pattern.exists_bodies (admitted_of_ofSource h)
  have hpattern := Pattern.parse_eq_ok h hbodies
  have hofTokens : Pattern.ofTokens tokens = Pattern.parse source validateDefaults := by
    unfold Pattern.ofTokens Pattern.parse
    rw [hcomposed, htemplate]
  refine ⟨hjoin, fun text ht => hcanonical.proper _ ht, hcanonical.apart, ?_, ?_, ?_, ?_⟩
  · by_cases hstar : source.toList.getLast? = some '*'
    · rw [if_pos hstar] at hwildcard
      obtain ⟨before, rfl, -⟩ := hwildcard
      exact iff_of_true ⟨_, List.mem_append_right _ (List.mem_cons_self ..), rfl⟩ hstar
    · rw [if_neg hstar] at hwildcard
      exact iff_of_false (fun ⟨t, ht, hkind⟩ => hwildcard t ht hkind) hstar
  · intro hstar
    rwa [if_pos hstar] at hwildcard
  · refine ⟨_, htemplate, rfl, ?_⟩
    simp [hcomposed, Template.same]
  · exact ⟨_, _, hpattern, rfl, hofTokens.trans hpattern, Pattern.same_iff.2 rfl⟩

/-- An expansion of two variables between a stray brace, an asterisk that is literal text and one
that is a wildcard. -/
theorem canonical_of_ofSource_expansion :
    ∃ tokens, ofSource "\x7da*\x7bx,y=1:[0-9]\x7d*" true = .ok tokens ∧
      tokens.map expression = ["\x7da*", "\x7bx", ",", "y=1:[0-9]\x7d", "*"] ∧
      ∃ p q, Pattern.parse "\x7da*\x7bx,y=1:[0-9]\x7d*" true = .ok p ∧ p.tokens = tokens ∧
        Pattern.ofTokens p.tokens = .ok q ∧ q.same p = true := by
  have htokens : ((ofSource "\x7da*\x7bx,y=1:[0-9]\x7d*" true).toOption.map fun tokens =>
      tokens.map expression) = some ["\x7da*", "\x7bx", ",", "y=1:[0-9]\x7d", "*"] := by
    decide +kernel
  cases h : ofSource "\x7da*\x7bx,y=1:[0-9]\x7d*" true with
  | error e =>
      rw [h] at htokens
      cases htokens
  | ok tokens =>
      rw [h] at htokens
      obtain ⟨-, -, -, -, -, -, hpattern⟩ := canonical_of_ofSource h
      exact ⟨tokens, rfl, Option.some.inj htokens, hpattern⟩

end Token

end PathRouter
