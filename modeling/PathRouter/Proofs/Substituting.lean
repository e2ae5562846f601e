import PathRouter.Proofs.Dividing
import PathRouter.Proofs.Layout

set_option autoImplicit false

/-! # Expanding is substitution in the source

What becomes of a source is said here of its characters alone (`Template.Substitutes`): an expansion
is replaced by the values of its specs, an asterisk at the end by the remainder of a path, and all
else stays as it is. This is what a template expands to (`Template.expand_substitutes`), however its
source is cut into tokens.
-/

namespace PathRouter

open Outcome

/-! ## Cutting what commas join -/

theorem splitAt_append {separator : Char} {piece : List Char} (h : separator ∉ piece)
    (rest : List Char) :
    splitAt separator (piece ++ separator :: rest) = piece :: splitAt separator rest := by
  induction piece with
  | nil => simp [splitAt]
  | cons c piece ih =>
      obtain ⟨hc, hpiece⟩ := List.ne_and_not_mem_of_not_mem_cons h
      rw [List.cons_append, splitAt, if_neg hc.symm, ih hpiece]

/-- Parts without a separator are found again in the whole. -/
theorem splitAt_intercalate {separator : Char} {pieces : List (List Char)} (hsome : pieces ≠ [])
    (h : ∀ piece ∈ pieces, separator ∉ piece) :
    splitAt separator ([separator].intercalate pieces) = pieces := by
  induction pieces with
  | nil => exact absurd rfl hsome
  | cons piece rest ih =>
      obtain ⟨hpiece, hrest⟩ := List.forall_mem_cons.1 h
      cases rest with
      | nil => rw [List.intercalate_singleton, splitAt_of_not_mem hpiece]
      | cons next others =>
          rw [List.intercalate_cons_cons, List.append_assoc, List.singleton_append,
            splitAt_append hpiece, ih (List.cons_ne_nil _ _) hrest]

/-- What stands in the whole is a separator or stands in a part. -/
theorem eq_or_exists_of_mem_intercalate {separator c : Char} {pieces : List (List Char)}
    (h : c ∈ [separator].intercalate pieces) : c = separator ∨ ∃ piece ∈ pieces, c ∈ piece := by
  induction pieces with
  | nil => cases h
  | cons piece rest ih =>
      simp only [List.mem_cons, exists_eq_or_imp]
      cases rest with
      | nil => exact .inr (.inl (by simpa using h))
      | cons next others =>
          rw [List.intercalate_cons_cons, List.append_assoc, List.mem_append, List.mem_append,
            List.mem_singleton] at h
          rcases h with h | rfl | h
          · exact .inr (.inl h)
          · exact .inl rfl
          · exact (ih h).imp_right .inr

/-! ## What becomes of a source -/

namespace VarSpec

variable {value? : String → Option String}

/-- A spec gives a text: the value of its name if there is one, else its default, else nothing. -/
def Gives (value? : String → Option String) (piece text : List Char) : Prop :=
  ∃ name default? constraint?, Decomposes piece name default? constraint? ∧
    text = (((value? (String.ofList name)).map String.toList).or default?).getD []

theorem rightUnique_gives : Relator.RightUnique (Gives value?) := by
  rintro piece text text' ⟨name, default?, constraint?, h, rfl⟩ ⟨name', default?', _, h', rfl⟩
  obtain ⟨rfl, rfl, -⟩ := h.unique h'
  rfl

end VarSpec

namespace Template

variable {value? : String → Option String}

/-- What becomes of the characters of a source, where `value?` gives the values of names. Commas
stay between the values of an expansion. -/
inductive Substitutes (value? : String → Option String) : List Char → List Char → Prop
  | nil : Substitutes value? [] []
  /-- An asterisk is replaced at the end only. -/
  | remainder : Substitutes value? ['*'] ((value? remainderName).getD "").toList
  | char {c : Char} {cs out : List Char} (hopen : c ≠ '\x7b') (hlast : c = '*' → cs ≠ [])
      (h : Substitutes value? cs out) : Substitutes value? (c :: cs) (c :: out)
  | expansion {pieces texts : List (List Char)} {cs out : List Char} (hsome : pieces ≠ [])
      (hcomma : ∀ piece ∈ pieces, ',' ∉ piece)
      (hbrace : ∀ piece ∈ pieces, ∀ c ∈ piece, isBrace c = false)
      (hvalues : List.Forall₂ (VarSpec.Gives value?) pieces texts) (h : Substitutes value? cs out) :
      Substitutes value? ('\x7b' :: ([','].intercalate pieces ++ '\x7d' :: cs))
        ([','].intercalate texts ++ out)

namespace Substitutes

/-- An opening brace begins an expansion. -/
theorem exists_of_open {tail out : List Char} (h : Substitutes value? ('\x7b' :: tail) out) :
    ∃ pieces texts cs rest, tail = [','].intercalate pieces ++ '\x7d' :: cs ∧
      out = [','].intercalate texts ++ rest ∧ pieces ≠ [] ∧
      (∀ piece ∈ pieces, ',' ∉ piece) ∧ (∀ piece ∈ pieces, ∀ c ∈ piece, isBrace c = false) ∧
      List.Forall₂ (VarSpec.Gives value?) pieces texts ∧ Substitutes value? cs rest := by
  generalize hcs : '\x7b' :: tail = cs at h
  cases h with
  | nil => cases hcs
  | remainder => simp at hcs
  | char hopen _ _ => exact absurd (List.cons.inj hcs).1.symm hopen
  | expansion hsome hcomma hbrace hvalues h =>
      exact ⟨_, _, _, _, (List.cons.inj hcs).2, rfl, hsome, hcomma, hbrace, hvalues, h⟩

theorem not_isBrace {pieces : List (List Char)}
    (h : ∀ piece ∈ pieces, ∀ c ∈ piece, isBrace c = false) :
    ∀ c ∈ [','].intercalate pieces, isBrace c = false := by
  intro c hc
  rcases eq_or_exists_of_mem_intercalate hc with rfl | ⟨piece, hpiece, hc⟩
  · rfl
  · exact h piece hpiece c hc

/-- **A source becomes one text only.** -/
theorem unique {cs out out' : List Char} (h : Substitutes value? cs out)
    (h' : Substitutes value? cs out') : out = out' := by
  induction h generalizing out' with
  | nil =>
      cases h'
      rfl
  | remainder =>
      cases h' with
      | remainder => rfl
      | char _ hlast _ => exact absurd rfl (hlast rfl)
  | @char c cs out hopen hlast h ih =>
      generalize hcs : c :: cs = whole at h'
      cases h' with
      | nil => cases hcs
      | remainder =>
          obtain ⟨rfl, rfl⟩ := List.cons.inj hcs
          exact absurd rfl (hlast rfl)
      | char _ _ h' =>
          obtain ⟨rfl, rfl⟩ := List.cons.inj hcs
          rw [ih h']
      | expansion _ _ _ _ _ => exact absurd (List.cons.inj hcs).1 hopen
  | expansion hsome hcomma hbrace hvalues h ih =>
      obtain ⟨pieces', texts', cs', rest, htail, rfl, hsome', hcomma', hbrace', hvalues', h'⟩ :=
        h'.exists_of_open
      -- the body ends at the next brace, and its pieces at the commas
      have hbody := eq_of_append_close htail (not_isBrace hbrace) (not_isBrace hbrace')
      have hpieces := congrArg (splitAt ',') hbody
      rw [splitAt_intercalate hsome hcomma, splitAt_intercalate hsome' hcomma'] at hpieces
      subst hpieces
      obtain ⟨-, rfl⟩ := List.cons.inj (List.append_cancel_left htail)
      rw [VarSpec.rightUnique_gives.forall₂ hvalues hvalues', ih h']

/-- Text without an opening brace stays, in front of whatever follows. -/
theorem append {text cs out : List Char} (hopen : '\x7b' ∉ text) (hcs : cs ≠ [])
    (h : Substitutes value? cs out) : Substitutes value? (text ++ cs) (text ++ out) := by
  induction text with
  | nil => exact h
  | cons c text ih =>
      obtain ⟨hc, htext⟩ := List.ne_and_not_mem_of_not_mem_cons hopen
      exact .char hc.symm (fun _ => List.append_ne_nil_of_right_ne_nil text hcs) (ih htext)

/-- So it does at the end, if it does not end with an asterisk. -/
theorem of_text {text : List Char} (hopen : '\x7b' ∉ text) (hlast : text.getLast? ≠ some '*') :
    Substitutes value? text text := by
  rcases List.eq_nil_or_concat' text with rfl | ⟨before, c, rfl⟩
  · exact .nil
  · rw [List.getLast?_concat, ne_eq, Option.some_inj] at hlast
    rw [List.mem_append, List.mem_singleton, not_or] at hopen
    exact append hopen.1 (List.cons_ne_nil c [])
      (.char (Ne.symm hopen.2) (fun hc => absurd hc hlast) .nil)

end Substitutes

end Template

/-! ## What tokens expand to -/

/-- The text that a spec stands for. -/
def VarSpec.text (value? : String → Option String) (s : VarSpec) : List Char :=
  (((value? s.name).or s.default?).getD "").toList

variable {value? : String → Option String}

/-- Specs stand for what the pieces that they are read from give. -/
theorem VarSpec.gives_of_parsePieces {ctx : SpecContext} {start : Int} {pieces : List (List Char)}
    {specs : List VarSpec} (h : parsePieces ctx start pieces = .ok specs) :
    List.Forall₂ (Gives value?) pieces (specs.map (text value?)) := by
  induction pieces generalizing start specs with
  | nil =>
      obtain rfl := Except.ok.inj h
      exact .nil
  | cons piece rest ih =>
      obtain ⟨s, others, hs, hothers, rfl⟩ := parsePieces_cons_eq_ok.1 h
      obtain ⟨-, -, -, hdecomposes⟩ := decomposes_of_parse hs
      refine .cons ⟨_, _, _, hdecomposes, ?_⟩ (ih hothers)
      rw [text, String.ofList_toList]
      cases value? s.name <;> cases s.default? <;> rfl

namespace Token

/-- The characters that a token expands to. -/
def expanded (value? : String → Option String) (t : Token) : List Char :=
  (t.expand value?).toList

/-- The commas that are read as literals come back between the texts of the specs. -/
theorem flatMap_expanded_ofSpecs (lead : String) (specs : List (VarSpec × List Char)) :
    (ofSpecs lead specs).flatMap (expanded value?) =
      [','].intercalate ((specs.map Prod.fst).map (VarSpec.text value?)) := by
  fun_induction ofSpecs lead specs with
  | case1 => rfl
  | case2 lead s piece =>
      rw [List.flatMap_singleton, List.map_singleton, List.map_singleton,
        List.intercalate_singleton]
      rfl
  | case3 lead s piece rest hsome ih =>
      obtain ⟨next, others, rfl⟩ := List.exists_cons_of_ne_nil hsome
      have hcomma : expanded value? (.literal ",") = [','] := by simp [expanded, expand]
      simp only [List.map_cons] at ih ⊢
      rw [List.flatMap_cons, List.flatMap_cons, ih, hcomma, List.intercalate_cons_cons,
        List.append_assoc]
      rfl

/-- **What is read expands to what it becomes by its layout.** -/
theorem Reads.substitutes {validateDefaults : Bool} {cs : List Char} {tokens : List Token}
    (h : Reads validateDefaults cs tokens) :
    Template.Substitutes value? cs (tokens.flatMap (expanded value?)) := by
  induction h with
  | nil => exact .nil
  | remainder =>
      rw [List.flatMap_singleton]
      exact .remainder
  | last hsome hopen hlast =>
      rw [List.flatMap_singleton, expanded, expand, String.toList_ofList]
      exact .of_text hopen hlast
  | text hsome hopen hrest h ih =>
      rw [List.flatMap_cons, expanded, expand, String.toList_ofList]
      exact ih.append hopen hrest
  | @expansion ctx body rest specs tokens hctx hbody hspecs h ih =>
      have hlength := VarSpec.length_of_parsePieces hspecs
      have hexpansion := Template.Substitutes.expansion (splitAt_ne_nil ',' body)
        (fun _ hpiece => not_mem_of_mem_splitAt hpiece)
        (fun _ hpiece c hc => hbody c (mem_of_mem_splitAt hpiece hc))
        (VarSpec.gives_of_parsePieces hspecs) ih
      rw [intercalate_splitAt] at hexpansion
      rwa [List.flatMap_append, flatMap_expanded_ofSpecs, List.map_fst_zip hlength.le]

end Token

namespace Template

theorem toList_expandWith (t : Template) :
    (t.expandWith value?).toList = t.tokens.flatMap (Token.expanded value?) := by
  rw [expandWith, String.toList_join, List.flatMap_map]
  rfl

/-- What a template expands to depends on the values of its variables and of the remainder only. -/
theorem expandWith_congr {t : Template} {value?' : String → Option String}
    (h : ∀ name ∈ t.variableNames, value? name = value?' name)
    (hremainder : value? remainderName = value?' remainderName) :
    t.expandWith value? = t.expandWith value?' := by
  refine congrArg String.join (List.map_congr_left fun u hu => ?_)
  cases u with
  | literal text => rfl
  | var v =>
      have hname : v.name ∈ t.variableNames := by
        rw [variableNames, List.mem_eraseDups, List.mem_filterMap]
        exact ⟨_, hu, rfl⟩
      rw [Token.expand, Token.expand, h v.name hname]
  | wildcard expression => rw [Token.expand, Token.expand, hremainder]

/-- **Expanding is substitution in the source.** The template of a source, if it has one, expands to
the only text that the source becomes when the values of its specs, with the commas between them,
take the place of each expansion, the value of the remainder that of an asterisk at the end, and
all other characters stay. Values that agree on the names of the variables and on the remainder give
the same text. A source without an opening brace that does not end with an asterisk has a template,
and expands to itself. This is so for any values of names, those of parameters (`Template.expand`)
among them. -/
theorem expand_substitutes (source : String) (validateDefaults : Bool) :
    (∀ t, Template.parse source validateDefaults = .ok t →
      (∀ value? out, Substitutes value? source.toList out ↔
        out = (t.expandWith value?).toList) ∧
      ∀ value? value?' : String → Option String,
        (∀ name ∈ t.variableNames, value? name = value?' name) →
          value? remainderName = value?' remainderName →
            t.expandWith value? = t.expandWith value?') ∧
    ('\x7b' ∉ source.toList → source.toList.getLast? ≠ some '*' →
      ∃ t, Template.parse source validateDefaults = .ok t ∧
        ∀ value?, t.expandWith value? = source) := by
  have hexpand : ∀ t, Template.parse source validateDefaults = .ok t →
      ∀ value? out, Substitutes value? source.toList out ↔ out = (t.expandWith value?).toList := by
    rintro t ht value? out
    obtain ⟨tokens, htokens, rfl⟩ := map_eq_ok.1 ht
    have hsubstitutes : Substitutes value? source.toList (tokens.flatMap (Token.expanded value?)) :=
      (Token.reads_of_ofSource htokens).substitutes
    rw [toList_expandWith]
    constructor
    · intro h
      exact h.unique hsubstitutes
    · rintro rfl
      exact hsubstitutes
  refine ⟨fun t ht => ⟨hexpand t ht, fun _ _ => expandWith_congr⟩, fun hopen hlast => ?_⟩
  have hgrammatical : Grammatical validateDefaults source.toList := by
    rw [← List.append_nil source.toList, grammatical_append hopen]
    exact grammatical_nil
  obtain ⟨tokens, htokens⟩ := (Token.reads_iff_grammatical source validateDefaults).2 hgrammatical
  have ht : Template.parse source validateDefaults = .ok { source, tokens } :=
    map_eq_ok.2 ⟨tokens, htokens, rfl⟩
  refine ⟨_, ht, fun value? => String.toList_inj.1 ?_⟩
  exact ((hexpand _ ht value? source.toList).1 (.of_text hopen hlast)).symm

/-- A name that is repeated with and without a default, a value with a comma, and asterisks and a
closing brace in the text; and a source of text alone. -/
theorem expand_substitutes_repeated :
    let value? : String → Option String :=
      fun name => [("y", "v,"), ("*", "rest")].lookup name
    (∃ t, Template.parse "/\x7d*\x7bx=1:[0-9],y,x\x7d-*" true = .ok t ∧
      ∀ out, Substitutes value? "/\x7d*\x7bx=1:[0-9],y,x\x7d-*".toList out ↔
        out = "/\x7d*1,v,,-rest".toList) ∧
    ∃ t, Template.parse "/a*\x7d" true = .ok t ∧ ∀ value?, t.expandWith value? = "/a*\x7d" := by
  intro value?
  have hread : (Template.parse "/\x7d*\x7bx=1:[0-9],y,x\x7d-*" true).toOption.map
      (fun t => t.expandWith value?) = some "/\x7d*1,v,,-rest" := by decide +kernel
  obtain ⟨t, ht, hexpand⟩ := toOption_map_eq_some.1 hread
  refine ⟨⟨t, ht, fun out => ?_⟩, (expand_substitutes "/a*\x7d" true).2 (by decide) (by decide)⟩
  rw [← hexpand]
  exact ((expand_substitutes _ true).1 t ht).1 value? out

end Template

end PathRouter
