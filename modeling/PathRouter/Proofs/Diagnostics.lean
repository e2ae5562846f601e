import PathRouter.Proofs.Reading.Limits
import PathRouter.Proofs.Rereading
import PathRouter.Proofs.Loading

set_option autoImplicit false

/-! # What is told of a source that is refused

A source that is no template is refused with a diagnostic that points into the source: at an opening
brace without a closing one, or at the first text in an expansion that is no spec. What stands
before is a template by itself. There is one exception, which is no diagnostic: a constraint with an
escape for a code point beyond 31 bits exceeds a limit of the engine. Loads report every failure of
a source as the failure of the load, with the same exception
(`Template.diagnostic_of_parse_eq_error`).
-/

namespace PathRouter

open Outcome

/-! ## Specs -/

namespace VarSpec

variable {ctx : SpecContext}

/-- What stands for the name of a spec is there and is no name. -/
def Misnames (text : List Char) : Prop := (divide text).1 ≠ [] ∧ ¬ IsName (divide text).1

/-- The failures for which a text from `start` to `stop` can be refused as a spec. Where the name is
no name the diagnostic points at the name, and otherwise at all of the text. -/
inductive Refusal (ctx : SpecContext) (text : List Char) (start stop : Int) : ParseError → Prop
  | name (hname : Misnames text) : Refusal ctx text start stop (.fault
      { fault := .badName (String.ofList (divide text).1)
        span := some ⟨ctx.offset + start, ctx.offset + (start + (divide text).1.length)⟩
        source := ctx.source? })
  | whole (fault : TemplateFault) (hname : ¬ Misnames text) (hbrace : fault ≠ .unterminatedBrace) :
      Refusal ctx text start stop (.fault
        { fault, span := some ⟨ctx.offset + start, ctx.offset + stop⟩, source := ctx.source? })
  | excess (constraint shown : List Char) (e : Regex.Excess)
      (hconstraint : (divide text).2.2 = some constraint)
      (hcompile : compileConstraint constraint = .error (shown, .excess e)) :
      Refusal ctx text start stop (.excess e)

theorem refusal_of_checkConstraint {text constraint : List Char} {start stop : Int}
    {e : ParseError} (hname : ¬ Misnames text)
    (hconstraint : (divide text).2.2 = some constraint)
    (h : checkConstraint ctx constraint start stop = .error e) : Refusal ctx text start stop e := by
  unfold checkConstraint at h
  dsimp only at h
  split at h
  · cases h
    exact .whole _ hname nofun
  · split at h
    · next shown excess hcompile =>
      cases h
      exact .excess constraint shown excess hconstraint hcompile
    · cases h
      exact .whole _ hname nofun
    · split at h
      · cases h
        exact .whole _ hname nofun
      · cases h

theorem refusal_of_parse {text : List Char} {start stop : Int} {e : ParseError}
    (h : parse ctx text start stop = .error e) : Refusal ctx text start stop e := by
  unfold parse at h
  rcases hdivide : divide text with ⟨name, default?, constraint?⟩
  have hfst : (divide text).1 = name := by rw [hdivide]
  split at h
  · next hempty =>
    cases h
    refine .whole _ (fun hname => hname.1 ?_) nofun
    rw [List.isEmpty_iff.1 hempty]
    rfl
  · rw [hdivide] at h
    dsimp only at h
    split at h
    · next hempty =>
      cases h
      exact .whole _ (fun hname => hname.1 (hfst.trans (List.isEmpty_iff.1 hempty))) nofun
    · next hsome =>
      split at h
      · next hinvalid =>
        cases h
        have hname : Misnames text := by
          refine ⟨?_, ?_⟩
          · rw [hfst]
            exact fun hempty => hsome (List.isEmpty_iff.2 hempty)
          · rw [hfst, ← isName_iff]
            simpa using hinvalid
        rw [← hfst]
        exact .name hname
      · next hvalid =>
        -- from here on the name is one, and all of the text is pointed at
        have hname : ¬ Misnames text := by
          rintro ⟨-, hnot⟩
          rw [hfst, ← isName_iff] at hnot
          exact hvalid (by simpa using hnot)
        cases constraint? with
        | none => cases h
        | some constraint =>
            have hconstraint : (divide text).2.2 = some constraint := by rw [hdivide]
            rcases bind_eq_error.1 h with hcheck | ⟨program, -, h⟩
            · exact refusal_of_checkConstraint hname hconstraint hcheck
            · cases default? with
              | none => cases h
              | some default =>
                  dsimp only at h
                  split at h
                  · cases h
                    exact .whole _ hname nofun
                  · cases h

/-- What stands before a spec: the specs before it, each with the comma after it. -/
def lead (pieces : List (List Char)) : List Char := pieces.flatMap (· ++ [','])

/-- Specs are read up to the first that is none. -/
theorem parsePieces_eq_error {pieces : List (List Char)} {start : Int} {e : ParseError}
    (h : parsePieces ctx start pieces = .error e) :
    ∃ good piece rest, pieces = good ++ piece :: rest ∧
      (∀ p ∈ good, IsSpec ctx.validateDefaults p) ∧ ¬ IsSpec ctx.validateDefaults piece ∧
      Refusal ctx piece (start + (lead good).length) (start + (lead good).length + piece.length)
        e := by
  induction pieces generalizing start with
  | nil => cases h
  | cons first pieces ih =>
      unfold parsePieces at h
      rcases bind_eq_error.1 h with hfirst | ⟨s, hs, h⟩
      · refine ⟨[], first, pieces, rfl, List.forall_mem_nil _, ?_, ?_⟩
        · rw [← parse_isOk_iff ctx first start (start + first.length), hfirst]
          rintro ⟨s, hs⟩
          cases hs
        · simpa [lead] using refusal_of_parse hfirst
      · have hspec : IsSpec ctx.validateDefaults first :=
          (parse_isOk_iff ctx first start (start + first.length)).1 ⟨s, hs⟩
        rcases bind_eq_error.1 h with hrest | ⟨specs, -, h⟩
        · obtain ⟨good, piece, rest, rfl, hgood, hpiece, hrefusal⟩ := ih hrest
          refine ⟨first :: good, piece, rest, rfl, List.forall_mem_cons.2 ⟨hspec, hgood⟩, hpiece,
            ?_⟩
          -- the place is counted from the spec before it, which a comma follows
          have hstart : start + first.length + 1 + (lead good).length =
              start + (lead (first :: good)).length := by
            simp only [lead, List.flatMap_cons, List.length_append, List.length_singleton]
            push_cast
            ring
          rwa [hstart] at hrefusal
        · cases h

/-- A spec stands in the body of its expansion, after the specs before it. -/
theorem exists_body_eq {body piece : List Char} {good rest : List (List Char)}
    (h : splitAt ',' body = good ++ piece :: rest) :
    ∃ tail, body = lead good ++ piece ++ tail := by
  rw [← intercalate_splitAt ',' body, h]
  clear h
  induction good with
  | nil =>
      cases rest with
      | nil => exact ⟨[], by simp [lead]⟩
      | cons next rest => exact ⟨',' :: [','].intercalate (next :: rest), by simp [lead]⟩
  | cons first good ih =>
      obtain ⟨tail, htail⟩ := ih
      refine ⟨tail, ?_⟩
      rw [List.cons_append, List.intercalate_cons_of_ne_nil (by simp), htail]
      simp [lead]

/-- A constraint is part of its spec. -/
theorem subset_of_divide {text constraint : List Char}
    (h : (divide text).2.2 = some constraint) : ∀ c ∈ constraint, c ∈ text := by
  rcases hdivide : divide text with ⟨name, default?, constraint?⟩
  rw [hdivide] at h
  obtain ⟨rfl, -, -⟩ := divide_eq_iff.1 hdivide
  obtain rfl : constraint? = some constraint := h
  intro c hc
  simp [spelling, hc]

/-- A name is the beginning of its spec. -/
theorem divide_fst_isPrefix (text : List Char) : (divide text).1 <+: text := by
  rcases hdivide : divide text with ⟨name, default?, constraint?⟩
  obtain ⟨rfl, -, -⟩ := divide_eq_iff.1 hdivide
  exact ⟨_, (List.append_assoc ..).symm⟩

end VarSpec

/-! ## Places in a source -/

namespace Template

/-- Reading a source succeeds. -/
def Accepts (validateDefaults : Bool) (cs : List Char) : Prop :=
  ∃ t, parse (String.ofList cs) validateDefaults = .ok t

variable {validateDefaults : Bool} {source : String} {cs : List Char}

theorem accepts_iff : Accepts validateDefaults cs ↔ Grammatical validateDefaults cs := by
  have hreads := Token.reads_iff_grammatical (String.ofList cs) validateDefaults
  rw [String.toList_ofList] at hreads
  rw [← hreads, Accepts]
  constructor
  · rintro ⟨t, ht⟩
    obtain ⟨tokens, htokens, -⟩ := map_eq_ok.1 ht
    exact ⟨tokens, htokens⟩
  · rintro ⟨tokens, htokens⟩
    exact ⟨_, map_eq_ok.2 ⟨tokens, htokens, rfl⟩⟩

/-- The brace that opens at `start` is not closed: the next brace, if any, is another opening one.
What stands before it is a template. -/
structure UnclosedAt (validateDefaults : Bool) (cs : List Char) (start : Nat) : Prop where
  brace : cs[start]? = some '\x7b'
  unclosed : (cs.drop (start + 1)).find? isBrace ≠ some '\x7d'
  accepted : Accepts validateDefaults (cs.take start)

/-- The text `piece` that begins at `start` stands for a spec and is none. It is the first such text
in its expansion, and what stands before the expansion is a template. -/
structure MisspecifiedAt (validateDefaults : Bool) (cs piece : List Char) (start : Nat) :
    Prop where
  expansion : ∃ before body after good rest,
    cs = before ++ '\x7b' :: (body ++ '\x7d' :: after) ∧ (∀ c ∈ body, isBrace c = false) ∧
    Accepts validateDefaults before ∧ splitAt ',' body = good ++ piece :: rest ∧
    (∀ p ∈ good, VarSpec.IsSpec validateDefaults p) ∧
    start = before.length + 1 + (VarSpec.lead good).length
  refused : ¬ VarSpec.IsSpec validateDefaults piece

/-- What a source can be refused for. -/
inductive Told (validateDefaults : Bool) (source : String) : ParseError → Prop
  | brace {start stop : Nat} (h : UnclosedAt validateDefaults source.toList start)
      (hstart : start ≤ stop) (hstop : stop ≤ source.toList.length) :
      Told validateDefaults source (.fault
        { fault := .unterminatedBrace, span := some ⟨start, stop⟩, source := some source })
  | name {piece : List Char} {start : Nat}
      (h : MisspecifiedAt validateDefaults source.toList piece start)
      (hname : VarSpec.Misnames piece) :
      Told validateDefaults source (.fault
        { fault := .badName (String.ofList (VarSpec.divide piece).1)
          span := some ⟨start, start + (VarSpec.divide piece).1.length⟩
          source := some source })
  | spec {piece : List Char} {start : Nat}
      (h : MisspecifiedAt validateDefaults source.toList piece start) (fault : TemplateFault)
      (hname : ¬ VarSpec.Misnames piece) (hbrace : fault ≠ .unterminatedBrace) :
      Told validateDefaults source (.fault
        { fault, span := some ⟨start, start + piece.length⟩, source := some source })
  | excess {piece : List Char} {start : Nat}
      (h : MisspecifiedAt validateDefaults source.toList piece start)
      (constraint shown : List Char) (hconstraint : (VarSpec.divide piece).2.2 = some constraint)
      (hcompile : VarSpec.compileConstraint constraint = .error (shown, .excess .codePoint)) :
      Told validateDefaults source (.excess .codePoint)

/-- A text that is no spec stands in the source between what comes before and after it. -/
theorem MisspecifiedAt.exists_eq_append {piece : List Char} {start : Nat}
    (h : MisspecifiedAt validateDefaults cs piece start) :
    ∃ first last, cs = first ++ piece ++ last ∧ first.length = start := by
  obtain ⟨before, body, after, good, rest, rfl, -, -, hsplit, -, rfl⟩ := h.expansion
  obtain ⟨tail, hbody⟩ := VarSpec.exists_body_eq hsplit
  refine ⟨before ++ '\x7b' :: VarSpec.lead good, tail ++ '\x7d' :: after, ?_, ?_⟩
  · simp [hbody]
  · simp only [List.length_append, List.length_cons]
    omega

/-- So what it begins with is found in the source again. -/
theorem MisspecifiedAt.extract_eq {piece part : List Char} {start : Nat}
    (h : MisspecifiedAt validateDefaults cs piece start) (hpart : part <+: piece) :
    start + part.length ≤ cs.length ∧ cs.extract start (start + part.length) = part := by
  obtain ⟨first, last, rfl, rfl⟩ := h.exists_eq_append
  obtain ⟨further, rfl⟩ := hpart
  refine ⟨?_, ?_⟩
  · simp only [List.length_append]
    omega
  · rw [List.extract_eq_take_drop, List.append_assoc, List.drop_left, List.append_assoc,
      Nat.add_sub_cancel_left, List.take_left]

/-- The refusal of a spec, told of the source. -/
theorem told_of_refusal {before body after piece : List Char} {good rest : List (List Char)}
    {e : ParseError} (hsource : source.toList = before ++ '\x7b' :: (body ++ '\x7d' :: after))
    (hbody : ∀ c ∈ body, isBrace c = false) (hbefore : Grammatical validateDefaults before)
    (hsplit : splitAt ',' body = good ++ piece :: rest)
    (hgood : ∀ p ∈ good, VarSpec.IsSpec validateDefaults p)
    (hpiece : ¬ VarSpec.IsSpec validateDefaults piece)
    (h : VarSpec.Refusal
      { source? := some source, offset := before.length + 1, validateDefaults } piece
      (0 + (VarSpec.lead good).length) (0 + (VarSpec.lead good).length + piece.length) e) :
    Told validateDefaults source e := by
  have hplace : MisspecifiedAt validateDefaults source.toList piece
      (before.length + 1 + (VarSpec.lead good).length) :=
    ⟨⟨before, body, after, good, rest, hsource, hbody, accepts_iff.2 hbefore, hsplit, hgood, rfl⟩,
      hpiece⟩
  cases h with
  | name hname =>
      have htold := Told.name hplace hname
      push_cast at htold
      simpa only [zero_add, add_assoc] using htold
  | whole fault hname hbrace =>
      have htold := Told.spec hplace fault hname hbrace
      push_cast at htold
      simpa only [zero_add, add_assoc] using htold
  | excess constraint shown e hconstraint hcompile =>
      -- no other limit can be met, since the body of an expansion has no closing brace
      have hplain : '\x7d' ∉ constraint := by
        intro hmem
        obtain ⟨tail, heq⟩ := VarSpec.exists_body_eq hsplit
        have hclose : '\x7d' ∈ body := by
          rw [heq]
          simp [VarSpec.subset_of_divide hconstraint _ hmem]
        exact absurd (hbody _ hclose) (by decide)
      obtain rfl := Regex.codePoint_of_compileConstraint hplain hcompile
      exact .excess hplace constraint shown hconstraint hcompile

end Template

/-! ## Reading up to the first fault -/

namespace Segment

/-- A text that has been begun is the beginning of the first segment. -/
theorem segmentsFrom_of_ne_nil {text : List Char} (h : text ≠ []) (body? : Option (List Char))
    (cs : List Char) :
    ∃ more rest, segmentsFrom text body? cs = .text (text.reverse ++ more) :: rest := by
  induction cs generalizing text body? with
  | nil =>
      cases body? with
      | none => exact ⟨[], [], by simp [segmentsFrom, ofText_of_ne_nil, h]⟩
      | some body => exact ⟨'\x7b' :: body.reverse, [], by simp [segmentsFrom, ofText_of_ne_nil]⟩
  | cons c rest ih =>
      cases body? with
      | none =>
          rw [segmentsFrom]
          split
          · exact ih h _
          · obtain ⟨more, segments, hmore⟩ := ih (List.cons_ne_nil c text) none
            exact ⟨c :: more, segments, by simp [hmore]⟩
      | some body =>
          rw [segmentsFrom]
          split
          · exact ⟨[], .expansion body.reverse :: segmentsFrom [] none rest,
              by simp [ofText_of_ne_nil, h]⟩
          · split
            · -- with a second opening brace all that stands before it is text
              have hsome : body ++ '\x7b' :: text ≠ [] := by simp
              obtain ⟨more, segments, hmore⟩ := ih hsome (some [])
              exact ⟨'\x7b' :: (body.reverse ++ more), segments, by simp [hmore]⟩
            · exact ih h _

/-- An opening brace after it that is not closed goes on with it. -/
theorem segmentsFrom_unclosed {after : List Char}
    (h : after.find? Template.isBrace ≠ some '\x7d') (text body : List Char) :
    ∃ more rest, segmentsFrom text (some body) after =
      .text (text.reverse ++ '\x7b' :: more) :: rest := by
  induction after generalizing body with
  | nil => exact ⟨body.reverse, [], by simp [segmentsFrom, ofText_of_ne_nil]⟩
  | cons c after ih =>
      have hclose : c ≠ '\x7d' := by
        rintro rfl
        exact h rfl
      rw [segmentsFrom, if_neg hclose]
      split
      · have hsome : body ++ '\x7b' :: text ≠ [] := by simp
        obtain ⟨more, rest, hmore⟩ := segmentsFrom_of_ne_nil hsome (some []) after
        exact ⟨body.reverse ++ more, rest, by simp [hmore]⟩
      · next hopen =>
        have hbrace : Template.isBrace c = false := by simp [Template.isBrace, hopen, hclose]
        refine ih ?_ (c :: body)
        rwa [List.find?_cons_of_neg (by simp [hbrace])] at h

theorem ofSource_unclosed {before after : List Char} (hbefore : '\x7b' ∉ before)
    (hafter : after.find? Template.isBrace ≠ some '\x7d') :
    ∃ more rest, ofSource (before ++ '\x7b' :: after) =
      .text (before ++ '\x7b' :: more) :: rest := by
  have hsegments := segmentsFrom_unclosed hafter before.reverse []
  rw [List.reverse_reverse] at hsegments
  rwa [ofSource, segmentsFrom_text hbefore, segmentsFrom, if_pos rfl, List.append_nil]

end Segment

namespace Token

open Template (Told)

variable {source : String} {validateDefaults : Bool} {start : Nat} {e : ParseError}

/-- The error of a brace at `start` that is not closed in the text up to `stop`. -/
def unclosed (source : String) (start stop : Nat) : ParseError :=
  .fault { fault := .unterminatedBrace, span := some ⟨start, stop⟩, source := some source }

theorem ofText_open {before after : List Char} (h : '\x7b' ∉ before) :
    ofText source start (before ++ '\x7b' :: after) =
      .error (unclosed source (start + before.length)
        (start + (before ++ '\x7b' :: after).length)) := by
  have hbefore : before.findIdx? (· == '\x7b') = none := by
    rw [List.findIdx?_eq_none_iff]
    intro c hc
    exact beq_eq_false_iff_ne.2 fun hbrace => h (hbrace ▸ hc)
  have hfind : (before ++ '\x7b' :: after).findIdx? (· == '\x7b') = some before.length := by
    rw [List.findIdx?_append, hbefore, List.findIdx?_cons]
    simp
  unfold ofText
  rw [hfind, unclosed]
  push_cast
  rfl

/-- Where a text ends a source, the asterisk of a wildcard is not taken into the span. -/
theorem ofLastText_open {before after : List Char} (h : '\x7b' ∉ before) :
    ∃ stop, start + before.length ≤ stop ∧
      stop ≤ start + (before ++ '\x7b' :: after).length ∧
      ofLastText source start (before ++ '\x7b' :: after) =
        .error (unclosed source (start + before.length) stop) := by
  unfold ofLastText
  split
  · next hlast =>
    -- the asterisk at the end is not the brace
    have hafter : after ≠ [] := by
      rintro rfl
      simp at hlast
    have hmany : (before ++ '\x7b' :: after).length ≠ 1 := by
      have hpos := List.length_pos_iff.2 hafter
      simp only [List.length_append, List.length_cons]
      omega
    have hdrop : (before ++ '\x7b' :: after).dropLast = before ++ '\x7b' :: after.dropLast := by
      rw [List.dropLast_append_of_ne_nil (List.cons_ne_nil _ _),
        List.dropLast_cons_of_ne_nil hafter]
    rw [if_neg hmany, hdrop, ofText_open h]
    refine ⟨start + (before ++ '\x7b' :: after.dropLast).length, ?_, ?_, rfl⟩
    · simp
    · simp
  · rw [ofText_open h]
    refine ⟨start + (before ++ '\x7b' :: after).length, ?_, le_rfl, rfl⟩
    simp

theorem ofSegments_open {before after : List Char} {rest : List Segment} (h : '\x7b' ∉ before) :
    ∃ stop, start + before.length ≤ stop ∧
      stop ≤ start + (before ++ '\x7b' :: after).length ∧
      ofSegments source validateDefaults start (.text (before ++ '\x7b' :: after) :: rest) =
        .error (unclosed source (start + before.length) stop) := by
  cases rest with
  | nil => exact ofLastText_open h
  | cons next rest =>
      refine ⟨start + (before ++ '\x7b' :: after).length, ?_, le_rfl, ?_⟩
      · simp
      · rw [ofSegments, ofSegment, ofText_open h]
        · rfl
        · exact fun cs _ hrest => List.cons_ne_nil _ _ hrest

/-- An expansion is refused by itself, or what comes after it is. -/
theorem ofSegments_expansion_eq_error {body : List Char} {rest : List Segment}
    (h : ofSegments source validateDefaults start (.expansion body :: rest) = .error e) :
    ofExpansion source validateDefaults start body = .error e ∨
      (Segment.expansion body).IsWell validateDefaults ∧
        ofSegments source validateDefaults (start + (body.length + 2)) rest = .error e := by
  rw [ofSegments] at h
  · rcases bind_eq_error.1 h with hbody | ⟨first, hfirst, h⟩
    · exact .inl hbody
    · have hwell : (Segment.expansion body).IsWell validateDefaults :=
        (ofSegment_isOk_iff source validateDefaults start _).1 ⟨first, hfirst⟩
      rcases bind_eq_error.1 h with hrest | ⟨further, -, h⟩
      · exact .inr ⟨hwell, hrest⟩
      · cases h
  · rintro cs hcs -
    cases hcs

/-- Text before an expansion is never refused. -/
theorem ofSegments_text_eq_error {text body : List Char} {rest : List Segment}
    (htext : '\x7b' ∉ text)
    (h : ofSegments source validateDefaults start
      (Segment.ofText text ++ .expansion body :: rest) = .error e) :
    ofSegments source validateDefaults (start + text.length) (.expansion body :: rest) =
      .error e := by
  by_cases hempty : text = []
  · subst hempty
    exact h
  · rw [Segment.ofText_of_ne_nil hempty, List.singleton_append, ofSegments] at h
    · rcases bind_eq_error.1 h with hfirst | ⟨first, -, h⟩
      · rw [ofSegment, ofText_of_not_mem htext] at hfirst
        cases hfirst
      · rcases bind_eq_error.1 h with hrest | ⟨further, -, h⟩
        · exact hrest
        · cases h
    · exact fun cs _ hrest => List.cons_ne_nil _ _ hrest

/-- An expansion that is refused is so for the first of its specs that is none. -/
theorem told_of_ofExpansion {before body after : List Char}
    (hsource : source.toList = before ++ '\x7b' :: (body ++ '\x7d' :: after))
    (hbody : ∀ c ∈ body, Template.isBrace c = false)
    (hbefore : Template.Grammatical validateDefaults before)
    (h : ofExpansion source validateDefaults before.length body = .error e) :
    Told validateDefaults source e := by
  obtain ⟨good, piece, rest, hsplit, hgood, hpiece, hrefusal⟩ :=
    VarSpec.parsePieces_eq_error (map_eq_error.1 h)
  exact Template.told_of_refusal hsource hbody hbefore hsplit hgood hpiece hrefusal

/-- A brace that is not closed is refused where it stands. -/
theorem told_of_open {done text tail more : List Char} {segments : List Segment}
    (hsource : source.toList = done ++ (text ++ '\x7b' :: tail)) (htext : '\x7b' ∉ text)
    (hbefore : Template.Grammatical validateDefaults (done ++ text))
    (htail : tail.find? Template.isBrace ≠ some '\x7d')
    (hsegments : Segment.ofSource (text ++ '\x7b' :: tail) =
      .text (text ++ '\x7b' :: more) :: segments)
    (h : ofSegments source validateDefaults done.length
      (Segment.ofSource (text ++ '\x7b' :: tail)) = .error e) :
    Told validateDefaults source e := by
  -- the text that has the brace in it is no longer than what is left of the source
  have hspell : text ++ '\x7b' :: more ++ segments.flatMap Segment.chars =
      text ++ '\x7b' :: tail := by
    have hchars := Segment.flatMap_chars_ofSource (text ++ '\x7b' :: tail)
    rwa [hsegments, List.flatMap_cons] at hchars
  have hmore : (text ++ '\x7b' :: more).length ≤ (text ++ '\x7b' :: tail).length :=
    List.IsPrefix.length_le ⟨_, hspell⟩
  rw [hsegments] at h
  obtain ⟨stop, hstart, hstop, herror⟩ : ∃ stop, done.length + text.length ≤ stop ∧
      stop ≤ done.length + (text ++ '\x7b' :: more).length ∧
      ofSegments source validateDefaults done.length (.text (text ++ '\x7b' :: more) :: segments) =
        .error (unclosed source (done.length + text.length) stop) := ofSegments_open htext
  rw [herror] at h
  rw [← Except.error.inj h, unclosed]
  refine Told.brace ⟨?_, ?_, ?_⟩ hstart ?_
  · simp [hsource]
  · have hdrop : source.toList.drop (done.length + text.length + 1) = tail := by
      rw [hsource, ← List.append_assoc, ← List.length_append, List.drop_append]
      simp
    rwa [hdrop]
  · have htake : source.toList.take (done.length + text.length) = done ++ text := by
      rw [hsource, ← List.append_assoc, ← List.length_append, List.take_left']
      rfl
    rw [htake]
    exact Template.accepts_iff.2 hbefore
  · rw [hsource, List.length_append]
    omega

/-- Reading fails at the first brace that is not closed or the first expansion that is refused. The
induction is on the length of what is still to be read; what has been read is a template. -/
theorem told_of_ofSegments {done cs : List Char} (hsource : source.toList = done ++ cs)
    (hdone : Template.Grammatical validateDefaults done)
    (h : ofSegments source validateDefaults done.length (Segment.ofSource cs) = .error e) :
    Told validateDefaults source e := by
  induction hlength : cs.length using Nat.strongRecOn generalizing done cs with
  | ind n ih =>
      by_cases hopen : '\x7b' ∈ cs
      · obtain ⟨text, tail, rfl, htext⟩ := List.eq_append_cons_of_mem hopen
        have hbefore : Template.Grammatical validateDefaults (done ++ text) := by
          have htextual : Template.Grammatical validateDefaults (text ++ []) :=
            (Template.grammatical_append htext).2 Template.grammatical_nil
          rw [List.append_nil] at htextual
          exact (Template.grammatical_append_iff hdone).2 htextual
        by_cases hclosed : tail.find? Template.isBrace = some '\x7d'
        · obtain ⟨-, body, rest, rfl, hbody⟩ := List.find?_eq_some_iff_append.1 hclosed
          have hbody : ∀ c ∈ body, Template.isBrace c = false := by simpa using hbody
          rw [← List.append_assoc] at hsource
          rw [Segment.ofSource_append htext hbody] at h
          have hsegments := ofSegments_text_eq_error htext h
          rw [← List.length_append] at hsegments
          rcases ofSegments_expansion_eq_error hsegments with hexpansion | ⟨hwell, hrest⟩
          · exact told_of_ofExpansion hsource hbody hbefore hexpansion
          · -- the expansion is part of what has been read
            have hread : Template.Grammatical validateDefaults
                (done ++ text ++ '\x7b' :: (body ++ ['\x7d'])) :=
              (Template.grammatical_append_iff hbefore).2
                ((Template.grammatical_expansion hbody).2 ⟨hwell, Template.grammatical_nil⟩)
            refine ih rest.length ?_ ?_ hread ?_ rfl
            · rw [← hlength]
              simp only [List.length_append, List.length_cons]
              omega
            · simp [hsource]
            · rw [← hrest]
              simp [Nat.add_assoc]
        · obtain ⟨more, segments, hsegments⟩ := Segment.ofSource_unclosed htext hclosed
          exact told_of_open hsource htext hbefore hclosed hsegments h
      · -- text alone is never refused
        obtain ⟨tokens, htokens⟩ : ∃ tokens, ofSegments source validateDefaults done.length
            (Segment.ofSource cs) = .ok tokens := by
          rw [ofSegments_isOk_iff, Segment.ofSource_text hopen, Segment.forall_mem_ofText]
          exact hopen
        rw [htokens] at h
        cases h

end Token

/-! ## Loads -/

/-- What a source without tokens is told of. -/
theorem Template.told_of_parse {source : String} {validateDefaults : Bool} {e : ParseError}
    (h : parse source validateDefaults = .error e) : Told validateDefaults source e := by
  have hall : source.toList = [] ++ source.toList := rfl
  exact Token.told_of_ofSegments hall grammatical_nil (map_eq_error.1 h)

/-- A source is a pattern exactly if it is a template, and is refused for the same reason. -/
theorem Pattern.parse_eq_error_iff {source : String} {validateDefaults : Bool} {e : PatternError} :
    parse source validateDefaults = .error e ↔
      ∃ e', Template.parse source validateDefaults = .error e' ∧ e = .parse e' := by
  cases htemplate : Template.parse source validateDefaults with
  | error e' => simp [parse, htemplate, eq_comm]
  | ok t =>
      obtain ⟨tokens, htokens, -⟩ := map_eq_ok.1 htemplate
      obtain ⟨p, -, hp, -⟩ := parse_of_tokens htokens
      simp [hp]

variable {α : Type}

/-- Why a declaration of a source with methods that can be listed is refused. -/
theorem Builder.reported_of_register {b : Builder α} {c : Cache} {d : Declaration α}
    {e : Failure} {s : String} (hsource : d.pattern = .source (some s)) {names : List Value}
    (hnames : Methods.listed d.methods = .ok names) (h : (b.register c d).1 = .error e) :
    e.isOfDeclaration = true ∨ (∃ limit source, e = .capped limit source none) ∨
      e = .pattern (.parse (.excess .codePoint)) := by
  rcases register_eq_error h with hmethods | hcompile | ⟨r, hadd⟩
  · rcases Methods.normalize_eq_error hmethods with hlisted | ⟨name, rfl⟩ | rfl
    · cases hnames.symm.trans hlisted
    · exact .inl rfl
    · exact .inl rfl
  · obtain ⟨source?, validateDefaults, href, hparse⟩ := Cache.compileRef_eq_error hcompile
    obtain rfl : some s = source? := PatternRef.source.inj (hsource.symm.trans href)
    rcases Pattern.parse?_eq_error hparse with ⟨hnone, -⟩ | ⟨_, e₁, -, hpattern, rfl⟩
    · cases hnone
    · obtain ⟨e₂, htemplate, rfl⟩ := Pattern.parse_eq_error_iff.1 hpattern
      cases Template.told_of_parse htemplate with
      | excess => exact .inr (.inr rfl)
      | _ => exact .inl rfl
  · rcases add_eq_error hadd with ⟨source, methods, rfl⟩ | hcapped
    · exact .inl rfl
    · exact .inr (.inl hcapped)

/-- A load fails as one of its declarations does. -/
theorem Registry.exists_of_load_eq_error {r : Registry α} {ds : List (Declaration α)} {e : Failure}
    (h : (r.load ds).1 = .error e) :
    ∃ d ∈ ds, ∃ (b : Builder α) (c : Cache) (index : Nat) (e' : Failure),
      (b.register c d).1 = .error e' ∧ e = e'.atDeclaration index d.pattern.source? := by
  unfold load at h
  rcases hrun : r.builder.registerAll r.cache 0 ds with ⟨⟨index, d, e'⟩ | b, c⟩
  · rw [hrun] at h
    obtain ⟨before, after, b₁, c₁, rfl, -, -, hd⟩ := Builder.registerAll_eq_error hrun
    exact ⟨d, by simp, b₁, c₁, index, e', congrArg Prod.fst hd, (Except.error.inj h).symm⟩
  · rw [hrun] at h
    cases h

/-- A load of sources fails as a load does, or passes on that a limit of the engine is exceeded. -/
theorem Registry.report_of_load {r : Registry α} {ds : List (Declaration α)} {e : Failure}
    (hds : ∀ d ∈ ds, (∃ s, d.pattern = .source (some s)) ∧
      ∃ names, Methods.listed d.methods = .ok names)
    (h : (r.load ds).1 = .error e) :
    (∃ message index pattern details cause,
      e.report = .load message index pattern details cause) ∨
      e = .pattern (.parse (.excess .codePoint)) := by
  obtain ⟨d, hd, b, c, index, e', hregister, rfl⟩ := exists_of_load_eq_error h
  obtain ⟨⟨s, hs⟩, names, hnames⟩ := hds d hd
  rcases Builder.reported_of_register hs hnames hregister with hown | ⟨limit, source, rfl⟩ | rfl
  · left
    have hwrapped : e'.atDeclaration index d.pattern.source? =
        .declaration index d.pattern.source? e' := by
      cases e' with
      | capped => cases hown
      | _ => simp [Failure.atDeclaration, hown]
    rw [hwrapped]
    exact ⟨_, _, _, _, _, rfl⟩
  · exact .inl ⟨_, _, _, _, _, rfl⟩
  · exact .inr rfl

namespace Template

/-- **Only well-formed diagnostics come out of a source**, but for one limit of the engine. A source
is refused as a pattern exactly if it is refused as a template, and for the same reason. The reason
is reported as an error of the template that has the source and a span in it: of a brace that is not
closed, or of the first text of an expansion that is no spec, or of what stands for a name there if
this is no name. What stands before the brace, or before the expansion, is a template. The one
exception is a constraint with an escape for a code point beyond 31 bits. Loads of sources, with
methods that can be listed, report all failures as failures of the load, with the same exception. -/
theorem diagnostic_of_parse_eq_error {α : Type} (source : String)
    (validateDefaults : Bool) :
    (∀ e, Pattern.parse source validateDefaults = .error e ↔
      ∃ e', parse source validateDefaults = .error e' ∧ e = .parse e') ∧
    (∀ e, parse source validateDefaults = .error e →
      (∃ (f : TemplateError) (start stop : Nat), e = .fault f ∧
        (PatternError.parse e).report = .diagnostic f.diagnostic ∧ f.diagnostic.topic = .template ∧
        f.source = some source ∧ f.span = some ⟨start, stop⟩ ∧ start ≤ stop ∧
        stop ≤ source.toList.length ∧
        (f.fault = .unterminatedBrace → UnclosedAt validateDefaults source.toList start) ∧
        (f.fault ≠ .unterminatedBrace → ∃ spec,
          MisspecifiedAt validateDefaults source.toList spec start ∧
          (VarSpec.Misnames spec → source.toList.extract start stop = (VarSpec.divide spec).1) ∧
          (¬ VarSpec.Misnames spec → source.toList.extract start stop = spec))) ∨
      e = .excess .codePoint ∧ ∃ spec start constraint shown,
        MisspecifiedAt validateDefaults source.toList spec start ∧
        (VarSpec.divide spec).2.2 = some constraint ∧
        VarSpec.compileConstraint constraint = .error (shown, .excess .codePoint)) ∧
    ∀ (r : Registry α) (ds : List (Declaration α)),
      (∀ d ∈ ds, (∃ s, d.pattern = .source (some s)) ∧
        ∃ names, Methods.listed d.methods = .ok names) →
      ∀ e, (r.load ds).1 = .error e →
        (∃ message index pattern details cause,
          e.report = .load message index pattern details cause) ∨
        e = .pattern (.parse (.excess .codePoint)) := by
  refine ⟨fun e => Pattern.parse_eq_error_iff, fun e h => ?_,
    fun r ds hds e => Registry.report_of_load hds⟩
  cases told_of_parse h with
  | @brace start stop hunclosed hstart hstop =>
      exact .inl ⟨_, start, stop, rfl, rfl, rfl, rfl, rfl, hstart, hstop, fun _ => hunclosed,
        fun hbrace => absurd rfl hbrace⟩
  | @name spec start hmisspecified hname =>
      have hspan := hmisspecified.extract_eq (VarSpec.divide_fst_isPrefix spec)
      refine .inl ⟨_, start, start + (VarSpec.divide spec).1.length, rfl, rfl, rfl, rfl, ?_,
        Nat.le_add_right _ _, hspan.1, nofun, fun _ => ⟨spec, hmisspecified, fun _ => hspan.2, ?_⟩⟩
      · push_cast
        rfl
      · exact fun hnot => absurd hname hnot
  | @spec spec start hmisspecified fault hname hbrace =>
      have hspan := hmisspecified.extract_eq List.prefix_rfl
      refine .inl ⟨_, start, start + spec.length, rfl, rfl, rfl, rfl, ?_, Nat.le_add_right _ _,
        hspan.1, fun h => absurd h hbrace, fun _ => ⟨spec, hmisspecified, ?_, fun _ => hspan.2⟩⟩
      · push_cast
        rfl
      · exact fun h => absurd h hname
  | excess hmisspecified constraint shown hconstraint hcompile =>
      exact .inr ⟨rfl, _, _, constraint, shown, hmisspecified, hconstraint, hcompile⟩

/-- A spec whose name begins with a digit, in a source and in a load. -/
theorem diagnostic_of_parse_eq_error_digit :
    ∃ (spec : List Char) (r : Registry Nat) (ds : List (Declaration Nat)) (e : Failure),
      parse "/{x,1y=2}" true = .error (.fault
        { fault := .badName "1y", span := some ⟨4, 6⟩, source := some "/{x,1y=2}" }) ∧
      MisspecifiedAt true "/{x,1y=2}".toList spec 4 ∧
      (VarSpec.Misnames spec → (VarSpec.divide spec).1 = ['1', 'y']) ∧
      (r.load ds).1 = .error e ∧
      ∃ message index pattern details cause,
        e.report = .load message index pattern details cause := by
  let r : Registry Nat := { limits := {}, cache := .ofOptions {} }
  let ds : List (Declaration Nat) := [⟨.source (some "/{x,1y=2}"), .text "get", 0⟩]
  have hparse : parse "/{x,1y=2}" true = .error (.fault
      { fault := .badName "1y", span := some ⟨4, 6⟩, source := some "/{x,1y=2}" }) :=
    map_eq_error.2 (by decide +kernel)
  have hload : (match (r.load ds).1 with
      | .error (.declaration ..) => true
      | _ => false) = true := by decide +kernel
  obtain ⟨-, hdiagnostic, hloads⟩ := diagnostic_of_parse_eq_error (α := Nat) "/{x,1y=2}" true
  rcases hdiagnostic _ hparse with ⟨f, start, stop, hf, -, -, -, hspan, -, -, -, hspec⟩ | ⟨he, -⟩
  · obtain rfl := ParseError.fault.inj hf
    obtain ⟨hstart, hstop⟩ := Span.mk.inj (Option.some.inj hspan)
    obtain rfl : start = 4 := by omega
    obtain rfl : stop = 6 := by omega
    obtain ⟨spec, hplace, hname, -⟩ := hspec nofun
    cases hrun : (r.load ds).1 with
    | ok g =>
        rw [hrun] at hload
        cases hload
    | error e =>
        refine ⟨spec, r, ds, e, hparse, hplace, fun h => (hname h).symm, hrun, ?_⟩
        rcases hloads r ds (by simp [ds, Methods.listed]) e hrun with hreport | rfl
        · exact hreport
        · rw [hrun] at hload
          cases hload
  · cases he

/-- The exception does occur: an escape for a code point beyond 31 bits is reported as an error of
the engine, and not of the template. -/
theorem exists_overflow :
    ¬ ∀ source validateDefaults e, parse source validateDefaults = .error e →
      ∃ d, (PatternError.parse e).report = .diagnostic d := by
  intro hall
  have hexcess : parse "\x7bx:\\UFFFFFFFF\x7d" true = .error (.excess .codePoint) :=
    map_eq_error.2 (by decide +kernel)
  obtain ⟨d, hd⟩ := hall _ _ _ hexcess
  cases hd

end Template

end PathRouter
