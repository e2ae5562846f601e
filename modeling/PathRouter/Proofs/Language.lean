import PathRouter.Proofs.Movement
import PathRouter.Proofs.Reading.Trees

set_option autoImplicit false

/-! # What the backtracking search finds

An expression is *plain* if it looks at nothing but the characters that it takes up and gives back
whatever it is asked to. A plain expression has a language, given by recursion on the expression
(`Regex.language`), and the search finds exactly the words of that language that the rest of the
search can go on from: it gives no others (`Regex.moves_run`), and by trying again it misses none
(`Regex.finds_run`). In particular, a plain expression matches the texts in its language
(`Regex.isSome_fullMatch?_iff`). Any other expression moves past words too, and it leaves no marks
if there is no capturing group in it.

The search stops repeating after an iteration that has taken up nothing, and it bounds the number of
iterations by the characters that are left; neither loses a word, since empty iterations can be left
out.
-/

namespace PathRouter.Regex

open scoped Computability

/-! ## Searches for a language -/

/-- A search finds the words of a language: it misses none of them if the rest of the search
succeeds after that word, whatever the marks. -/
structure Finds (s : Search) (L : Language Char) : Prop where
  complete : ∀ {c : Cursor} {k : Rest} {w rest : List Char}, c.after = w ++ rest → w ∈ L →
    (∀ trail, (k (c.past w rest trail)).isSome = true) → (s c k).isSome = true

variable {s t : Search} {L M : Language Char}

theorem finds_empty : Finds (fun c k => k c) 1 where
  complete {c k w rest} hw hL hk := by
    obtain rfl := (Language.mem_one w).1 hL
    obtain rfl : c.after = rest := hw
    exact hk c.trail

/-- One search after another finds the words of the one language followed by those of the other. -/
theorem Finds.seq (hs : Finds s L) (ht : Finds t M) :
    Finds (fun c k => s c fun d => t d k) (L * M) where
  complete {c k w rest} hw hLM hk := by
    obtain ⟨u, hu, v, hv, rfl⟩ := Language.mem_mul.1 hLM
    rw [List.append_assoc] at hw
    refine hs.complete hw hu fun trail => ht.complete rfl hv fun trail' => ?_
    rw [Cursor.past_past]
    exact hk trail'

/-- A choice between two searches finds the words of both languages. -/
theorem Finds.alt (hs : Finds s L) (ht : Finds t M) :
    Finds (fun c k => s c k <|> t c k) (L + M) where
  complete {c k w rest} hw hLM hk := by
    rcases (Language.mem_add L M w).1 hLM with hL | hM
    · simp [hs.complete hw hL hk]
    · simp [ht.complete hw hM hk]

theorem Finds.exactly (hs : Finds s L) (n : Nat) : Finds (exactly s n) (L ^ n) := by
  induction n with
  | zero => exact finds_empty
  | succ n ih =>
      rw [pow_succ']
      exact hs.seq ih

/-! ## Repetitions -/

namespace Repeats

variable {loop : Nat → Option Nat → Search}

/-- Words that are not empty are all found if enough iterations are allowed. The induction is on the
words; an iteration over one of them moves on, so that the next one may be tried. -/
theorem isSome_of_words (hloop : Repeats s loop) (hs : Finds s L) {words : List (List Char)}
    (hwords : ∀ w ∈ words, w ∈ L ∧ w ≠ []) {n : Nat} (hn : words.length ≤ n) {last : Option Nat}
    {c : Cursor} {k : Rest} {rest : List Char} (hlast : last ≠ some c.place)
    (hafter : c.after = words.flatten ++ rest)
    (hk : ∀ trail, (k (c.past words.flatten rest trail)).isSome = true) :
    (loop n last c k).isSome = true := by
  induction words generalizing n last c with
  | nil =>
      refine hloop.stop ?_
      obtain rfl : c.after = rest := hafter
      exact hk c.trail
  | cons w words ih =>
      obtain ⟨⟨hw, hne⟩, hwords⟩ := List.forall_mem_cons.1 hwords
      obtain ⟨n, rfl⟩ : ∃ m, n = m + 1 := ⟨n - 1, by rw [List.length_cons] at hn; omega⟩
      rw [List.flatten_cons, List.append_assoc] at hafter
      refine hloop.more hlast (hs.complete hafter hw fun trail => ?_)
      -- the place of the next iteration is another one than the place of this one
      refine ih hwords (Nat.le_of_succ_le_succ hn) ?_ rfl fun trail' => ?_
      · have hlength := List.length_pos_iff.2 hne
        show some c.place ≠ some (c.place + w.length)
        simp only [ne_eq, Option.some.injEq]
        omega
      · rw [Cursor.past_past]
        exact hk trail'

/-- Words that are not empty are at most as many as they have characters together. -/
theorem length_le_length_flatten {words : List (List Char)} (h : ∀ w ∈ words, w ≠ []) :
    words.length ≤ words.flatten.length := by
  have hsum := List.length_le_sum_of_one_le (words.map List.length) fun i hi => by
    obtain ⟨w, hw, rfl⟩ := List.mem_map.1 hi
    exact List.length_pos_iff.2 (h w hw)
  rwa [List.length_map, ← List.length_flatten] at hsum

/-- After the iterations that have to be made, the search finds any number of further ones that is
allowed. -/
theorem finds_further (hloop : Repeats s loop) (hs : Finds s L) (least : Nat) (most : Option Nat) :
    Finds (fun c k => loop (furtherBound least most c) none c k) (further L least most) where
  complete {c k w rest} hw hL hk := by
    obtain ⟨n, hn, hpow⟩ := hL
    obtain ⟨words, rfl, rfl, hwords⟩ := Language.mem_pow.1 hpow
    -- empty words can be left out
    let kept := words.filter fun w => !w.isEmpty
    have hkept : ∀ w ∈ kept, w ∈ L ∧ w ≠ [] := by
      intro w hw
      obtain ⟨hw, hne⟩ := List.mem_filter.1 hw
      exact ⟨hwords w hw, by simpa using hne⟩
    have hflatten : kept.flatten = words.flatten := List.flatten_filter_not_isEmpty
    have hfew : kept.length ≤ words.length := List.length_filter_le _ _
    have hshort : kept.length ≤ c.after.length := by
      have hlength := length_le_length_flatten fun w hw => (hkept w hw).2
      rw [hw, List.length_append, ← hflatten]
      omega
    -- and the others are no more than the characters that are left
    have hbound : kept.length ≤ furtherBound least most c := by
      unfold furtherBound
      cases most with
      | none => exact hshort.trans (Nat.le_succ _)
      | some m => exact Nat.le_min.2 ⟨hfew.trans (hn m rfl), hshort.trans (Nat.le_succ _)⟩
    rw [← hflatten] at hw hk
    exact hloop.isSome_of_words hs hkept hbound nofun hw hk

end Repeats

/-! ## The language of an expression -/

/-- An expression that looks at nothing but the characters that it takes up, refers to no group, and
gives back whatever it is asked to. -/
def isPlain : Regex → Bool
  | .empty | .char .. => true
  | .seq r s | .alt r s => r.isPlain && s.isPlain
  | .group _ r | .scoped r => r.isPlain
  | .rep greed _ _ r => greed != .possessive && r.isPlain
  | .anchor .. | .atomic _ | .lookAhead .. | .lookBehind .. | .backref .. | .cond .. => false

/-- The words that a plain expression stands for. Expressions that are not plain stand for none. -/
def language : Regex → Language Char
  | .empty => 1
  | .char modes t => ({w | ∃ x, w = [x] ∧ t.holds modes x = true} : Set (List Char))
  | .seq r s => r.language * s.language
  | .alt r s => r.language + s.language
  | .group _ r | .scoped r => r.language
  | .rep _ least most r => r.language ^ least * further r.language least most
  | .anchor .. | .atomic _ | .lookAhead .. | .lookBehind .. | .backref .. | .cond .. => 0

/-- The words that an expression may move past: those of its language if it is plain. Of other
expressions it is not told. -/
def reach (r : Regex) : Language Char := {w | r.isPlain = true → w ∈ r.language}

theorem reach_of_isPlain {r : Regex} (h : r.isPlain = true) : r.reach = r.language :=
  Set.ext fun _ => ⟨fun hw => hw h, fun hw _ => hw⟩

/-! ## What the search moves past -/

theorem moves_char (modes : Modes) (t : CharTest) :
    Moves true (run (.char modes t)) (language (.char modes t)) where
  of_eq_some {c k d} h := by
    rw [run] at h
    cases hafter : c.after with
    | nil =>
        rw [hafter] at h
        cases h
    | cons x rest =>
        rw [hafter] at h
        dsimp only at h
        split at h
        · next hx => exact ⟨[x], ⟨x, rfl, hx⟩, rest, c.trail, hafter, fun _ => rfl, h⟩
        · cases h

/-- What is not plain may move past anything. -/
theorem mem_reach_of_isPlain_eq_false {r : Regex} (h : r.isPlain = false) (w : List Char) :
    w ∈ r.reach := fun hplain => by simp [h] at hplain

theorem moves_anchor (modes : Modes) (place : Anchor) :
    Moves true (run (.anchor modes place)) (reach (.anchor modes place)) where
  of_eq_some {c k d} h := by
    rw [run] at h
    split at h
    · exact succeedsPast_of_eq_some h (mem_reach_of_isPlain_eq_false rfl [])
    · cases h

theorem moves_backref (modes : Modes) (index : Nat) (width : Width) :
    Moves true (run (.backref modes index width)) (reach (.backref modes index width)) where
  of_eq_some {c k d} h := by
    rw [run] at h
    cases hcaptured : c.captured? index with
    | none =>
        rw [hcaptured] at h
        cases h
    | some cs =>
        rw [hcaptured] at h
        exact ((moves_takeAll modes cs).of_eq_some h).mono fun w _ =>
          mem_reach_of_isPlain_eq_false rfl w

theorem moves_rep {r : Regex} {a : Bool} (hr : Moves a (run r) r.reach) (greed : Greed)
    (least : Nat) (most : Option Nat) :
    Moves a (run (.rep greed least most r)) (reach (.rep greed least most r)) := by
  have hwords : ∀ w ∈ r.reach ^ least * further r.reach least most,
      w ∈ (rep greed least most r).reach := by
    intro w hw hplain
    obtain ⟨-, hplain⟩ := Bool.and_eq_true_iff.1 hplain
    rwa [reach_of_isPlain hplain] at hw
  -- what is tried first makes no difference to what is passed
  cases greed with
  | greedy =>
      have hmore := (repeats_many (run r)).moves_further hr least most
      exact ((hr.exactly least).seq hmore).mono hwords
  | reluctant =>
      have hmore := (repeats_few (run r)).moves_further hr least most
      exact ((hr.exactly least).seq hmore).mono hwords
  | possessive =>
      -- it is not told how many iterations were made
      have hmore : Moves a
          (fun c k => k (manySettled (run r) (furtherBound least most c) c)) r.reach∗ :=
        ⟨fun h => (hr.manySettled _).of_eq_some h⟩
      exact ((hr.exactlySettled least).seq hmore).mono
        fun w _ => mem_reach_of_isPlain_eq_false rfl w

/-- **The search for an expression moves past words that the expression may reach.** It leaves no
marks on the way if there is no capturing group in the expression. -/
theorem moves_run (r : Regex) : Moves r.isGroupless (run r) r.reach := by
  induction r with
  | empty => exact moves_empty.mono fun w hw _ => hw
  | char modes t => exact (moves_char modes t).mono fun w hw _ => hw
  | anchor modes place => exact moves_anchor modes place
  | seq r s hr hs =>
      have hboth := (hr.forget Bool.and_elim_left).seq (hs.forget Bool.and_elim_right)
      refine hboth.mono fun w hw hplain => ?_
      obtain ⟨hplainr, hplains⟩ := Bool.and_eq_true_iff.1 hplain
      rwa [reach_of_isPlain hplainr, reach_of_isPlain hplains] at hw
  | alt r s hr hs =>
      have hboth := (hr.forget Bool.and_elim_left).alt (hs.forget Bool.and_elim_right)
      refine hboth.mono fun w hw hplain => ?_
      obtain ⟨hplainr, hplains⟩ := Bool.and_eq_true_iff.1 hplain
      rwa [reach_of_isPlain hplainr, reach_of_isPlain hplains] at hw
  | group index r hr => exact hr.group index
  | «scoped» r hr => exact hr
  | atomic r hr => exact hr.settled.mono fun w _ => mem_reach_of_isPlain_eq_false rfl w
  | lookAhead negated r hr =>
      have hlook : ∀ {c d : Cursor}, run r c some = some d → r.isGroupless = true →
          d.trail = c.trail := fun h hgroupless => hr.trail_eq hgroupless h
      exact (moves_look hlook negated).mono fun w _ => mem_reach_of_isPlain_eq_false rfl w
  | lookBehind negated width r hr =>
      have hlook : ∀ {c d : Cursor}, (c.back? width.least).bind (run r · some) = some d →
          r.isGroupless = true → d.trail = c.trail := by
        intro c d h hgroupless
        obtain ⟨e, hback, h⟩ := Option.bind_eq_some_iff.1 h
        exact (hr.trail_eq hgroupless h).trans (Cursor.trail_of_back? hback)
      exact (moves_look hlook negated).mono fun w _ => mem_reach_of_isPlain_eq_false rfl w
  | rep greed least most r hr => exact moves_rep hr greed least most
  | backref modes index width => exact moves_backref modes index width
  | cond index yes no hyes hno =>
      have hboth := (hyes.forget Bool.and_elim_left).ite (hno.forget Bool.and_elim_right)
        fun c => (c.span? index).isSome
      exact hboth.mono fun w _ => mem_reach_of_isPlain_eq_false rfl w

/-! ## What the search finds -/

theorem finds_char (modes : Modes) (t : CharTest) :
    Finds (run (.char modes t)) (language (.char modes t)) where
  complete {c k w rest} hw hL hk := by
    obtain ⟨x, rfl, hx⟩ := hL
    rw [run, hw]
    show Option.isSome (if t.holds modes x = true then k (c.advance x rest) else none) = true
    rw [if_pos hx]
    exact hk c.trail

/-- The marks of a group make no difference. -/
theorem Finds.group (hs : Finds s L) (index : Nat) :
    Finds (fun c k => s (c.mark (.opened index c.place)) fun d =>
      k (d.mark (.closed index d.place))) L where
  complete hw hL hk := hs.complete hw hL fun _ => hk _

/-- **The search for a plain expression finds the language of the expression.** -/
theorem finds_run {r : Regex} (h : r.isPlain = true) : Finds (run r) r.language := by
  induction r with
  | empty => exact finds_empty
  | char modes t => exact finds_char modes t
  | seq r s hr hs =>
      obtain ⟨h₁, h₂⟩ := Bool.and_eq_true_iff.1 h
      exact (hr h₁).seq (hs h₂)
  | alt r s hr hs =>
      obtain ⟨h₁, h₂⟩ := Bool.and_eq_true_iff.1 h
      exact (hr h₁).alt (hs h₂)
  | group index r hr => exact (hr h).group index
  | «scoped» r hr => exact hr h
  | rep greed least most r hr =>
      obtain ⟨hgreed, hplain⟩ := Bool.and_eq_true_iff.1 h
      have hr := hr hplain
      -- what is tried first makes no difference to what is found at all
      cases greed with
      | greedy => exact (hr.exactly least).seq ((repeats_many (run r)).finds_further hr least most)
      | reluctant =>
          exact (hr.exactly least).seq ((repeats_few (run r)).finds_further hr least most)
      | possessive => cases hgreed
  | _ => cases h

theorem atEnd_eq_some {c d : Cursor} : atEnd c = some d ↔ c.after = [] ∧ c = d := by
  unfold atEnd
  cases hafter : c.after <;> simp

/-- **A plain expression matches exactly the texts in its language.** -/
theorem isSome_fullMatch?_iff {r : Regex} (h : r.isPlain = true) (text : List Char) :
    (fullMatch? r text).isSome = true ↔ text ∈ r.language := by
  constructor
  · intro hmatch
    obtain ⟨d, hd⟩ := Option.isSome_iff_exists.1 hmatch
    obtain ⟨w, hw, rest, trail, htext, -, hend⟩ := (moves_run r).of_eq_some hd
    obtain rfl : rest = [] := (atEnd_eq_some.1 hend).1
    obtain rfl : text = w := htext.trans (List.append_nil w)
    exact hw h
  · intro hL
    have htext : (Cursor.start text).after = text ++ [] := (List.append_nil text).symm
    refine (finds_run h).complete htext hL fun trail => ?_
    rfl

/-! ## Sequences -/

theorem isPlain_ofList {rs : List Regex} (h : ∀ r ∈ rs, r.isPlain = true) :
    (ofList rs).isPlain = true := by
  refine ofList_induction (P := fun r => r.isPlain = true) rfl ?_ h
  intro r s hr hs
  exact Bool.and_eq_true_iff.2 ⟨hr, hs⟩

theorem language_ofList_cons (r : Regex) (rs : List Regex) :
    (ofList (r :: rs)).language = r.language * (ofList rs).language := by
  cases rs with
  | nil =>
      show r.language = r.language * 1
      rw [mul_one]
  | cons s rs => rfl

/-- A word of a sequence can be cut into words of its elements. -/
theorem mem_language_ofList {rs : List Regex} {w : List Char} :
    w ∈ (ofList rs).language ↔
      ∃ pieces : List (List Char), pieces.flatten = w ∧
        List.Forall₂ (fun r piece => piece ∈ r.language) rs pieces := by
  induction rs generalizing w with
  | nil =>
      constructor
      · intro hw
        obtain rfl := (Language.mem_one w).1 hw
        exact ⟨[], rfl, .nil⟩
      · rintro ⟨pieces, rfl, hpieces⟩
        cases hpieces
        exact Language.nil_mem_one
  | cons r rest ih =>
      rw [language_ofList_cons]
      constructor
      · intro hw
        obtain ⟨u, hu, v, hv, rfl⟩ := Language.mem_mul.1 hw
        obtain ⟨pieces, rfl, hpieces⟩ := ih.1 hv
        exact ⟨u :: pieces, rfl, .cons hu hpieces⟩
      · rintro ⟨pieces, rfl, hpieces⟩
        cases hpieces with
        | cons hu hpieces => exact Language.append_mem_mul hu (ih.2 ⟨_, rfl, hpieces⟩)

end PathRouter.Regex
