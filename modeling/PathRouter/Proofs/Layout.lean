import PathRouter.Proofs.Identity

set_option autoImplicit false

/-! # How a source is laid out

A source that is read consists of texts without an opening brace and of expansions, and of an
asterisk at the end that is a wildcard. `Token.Reads` says this of the characters that are still to
come and of the tokens that they give, without the segments in between; what holds of a source by
its layout is proved by induction on it (`Token.reads_of_ofSource`).
-/

namespace PathRouter

open Outcome

/-- The segments that spell nothing are the empty texts. -/
theorem Segment.chars_ne_nil {segment : Segment} (h : segment ≠ .text []) : segment.chars ≠ [] := by
  cases segment with
  | text cs =>
      rintro rfl
      exact h rfl
  | expansion body => exact List.cons_ne_nil _ _

namespace Token

variable {validateDefaults : Bool}

/-- Characters and the tokens that they are read as. -/
inductive Reads (validateDefaults : Bool) : List Char → List Token → Prop
  | nil : Reads validateDefaults [] []
  | remainder : Reads validateDefaults ['*'] [.wildcard wildcardText]
  /-- The text that ends a source without an asterisk. -/
  | last {cs : List Char} (hsome : cs ≠ []) (hopen : '\x7b' ∉ cs) (hlast : cs.getLast? ≠ some '*') :
      Reads validateDefaults cs [.literal (String.ofList cs)]
  | text {cs rest : List Char} {tokens : List Token} (hsome : cs ≠ []) (hopen : '\x7b' ∉ cs)
      (hrest : rest ≠ []) (h : Reads validateDefaults rest tokens) :
      Reads validateDefaults (cs ++ rest) (.literal (String.ofList cs) :: tokens)
  | expansion {ctx : SpecContext} {body rest : List Char} {specs : List VarSpec}
      {tokens : List Token} (hctx : ctx.validateDefaults = validateDefaults)
      (hbody : ∀ c ∈ body, Template.isBrace c = false)
      (hspecs : VarSpec.parseBody ctx body = .ok specs) (h : Reads validateDefaults rest tokens) :
      Reads validateDefaults ('\x7b' :: (body ++ '\x7d' :: rest))
        (ofSpecs "\x7b" (specs.zip (splitAt ',' body)) ++ tokens)

theorem reads_of_ofLastText {source : String} {start : Nat} {cs : List Char} {tokens : List Token}
    (hsome : cs ≠ []) (h : ofLastText source start cs = .ok tokens) :
    Reads validateDefaults cs tokens := by
  have hopen : '\x7b' ∉ cs := (ofLastText_isOk_iff source start cs).1 ⟨tokens, h⟩
  by_cases hlast : cs.getLast? = some '*'
  · obtain ⟨before, rfl⟩ := List.getLast?_eq_some_iff.1 hlast
    by_cases hbefore : before = []
    · subst hbefore
      obtain rfl := Except.ok.inj h
      exact .remainder
    · -- a literal, and a wildcard after it
      have hclosed : '\x7b' ∉ before := fun hmem => hopen (List.mem_append_left _ hmem)
      rw [ofLastText_concat hclosed hbefore] at h
      obtain rfl := Except.ok.inj h
      exact .text hbefore hclosed (List.cons_ne_nil _ _) .remainder
  · rw [ofLastText_of_getLast? hopen hlast] at h
    obtain rfl := Except.ok.inj h
    exact .last hsome hopen hlast

theorem reads_of_ofSegments {source : String} {start : Nat} {segments : List Segment}
    {tokens : List Token} (hflat : ∀ s ∈ segments, s.IsFlat) (hnonempty : .text [] ∉ segments)
    (h : ofSegments source validateDefaults start segments = .ok tokens) :
    Reads validateDefaults (segments.flatMap Segment.chars) tokens := by
  fun_induction ofSegments source validateDefaults start segments generalizing tokens with
  | case1 =>
      obtain rfl := Except.ok.inj h
      exact .nil
  | case2 start cs =>
      have hsome : cs ≠ [] := by
        rintro rfl
        exact hnonempty (List.mem_singleton_self _)
      rw [List.flatMap_singleton]
      exact reads_of_ofLastText hsome h
  | case3 start segment rest hlast ih =>
      obtain ⟨first, hfirst, h⟩ := bind_eq_ok.1 h
      obtain ⟨further, hfurther, h⟩ := bind_eq_ok.1 h
      obtain rfl := Except.ok.inj h
      obtain ⟨hsegment, hflat⟩ := List.forall_mem_cons.1 hflat
      obtain ⟨hne, hnonempty⟩ := List.ne_and_not_mem_of_not_mem_cons hnonempty
      have hreads := ih hflat hnonempty hfurther
      rw [List.flatMap_cons]
      cases segment with
      | text cs =>
          obtain ⟨t, ht, rfl⟩ := map_eq_ok.1 hfirst
          have hsome : cs ≠ [] := Segment.chars_ne_nil hne.symm
          have hopen : '\x7b' ∉ cs := (ofText_isOk_iff _ _ cs).1 ⟨t, ht⟩
          -- a text that is not the last segment has something after it
          have hrest : rest.flatMap Segment.chars ≠ [] := by
            cases rest with
            | nil => exact absurd rfl (hlast cs rfl)
            | cons next others =>
                have hnext : next ≠ .text [] := fun hempty => hnonempty (by simp [hempty])
                simp [Segment.chars_ne_nil hnext]
          rw [ofText_eq_ok ht]
          exact .text hsome hopen hrest hreads
      | expansion body =>
          obtain ⟨specs, hspecs, rfl⟩ := map_eq_ok.1 hfirst
          have hchars : (Segment.expansion body).chars ++ rest.flatMap Segment.chars =
              '\x7b' :: (body ++ '\x7d' :: rest.flatMap Segment.chars) := by simp [Segment.chars]
          rw [hchars]
          exact .expansion rfl hsegment hspecs hreads

/-- **The tokens of a source are read from it by its layout.** -/
theorem reads_of_ofSource {source : String} {tokens : List Token}
    (h : ofSource source validateDefaults = .ok tokens) :
    Reads validateDefaults source.toList tokens := by
  have hflat : ∀ s ∈ Segment.ofSource source.toList, s.IsFlat :=
    Segment.isFlat_of_mem_segmentsFrom nofun
  have hreads := reads_of_ofSegments hflat (Segment.alternate_ofSource source.toList).nonempty h
  rwa [Segment.flatMap_chars_ofSource] at hreads

end Token

end PathRouter
