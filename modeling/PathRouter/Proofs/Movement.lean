import PathRouter.Regex.Matcher
import Mathlib.Computability.Language
import Mathlib.Tactic

set_option autoImplicit false

/-! # How a search moves

A search that succeeds has moved on over the text before the rest of it succeeded: it has taken up a
word of some language, and it may have left marks (`Moves`). Searches that are put together move
past words that are put together; so do repetitions, whichever number of iterations they try first
(`Repeats.moves_further`) and whether or not they give back what they have taken up
(`Moves.manySettled`). To look around is to stay where one is (`moves_look`).
-/

namespace PathRouter.Regex

open scoped Computability

/-! ## Places after a word -/

namespace Cursor

/-- The place after the word `w`, with `rest` after it and some marks. -/
def past (c : Cursor) (w rest : List Char) (trail : List Mark) : Cursor :=
  ⟨c.place + w.length, w.reverse ++ c.before, rest, trail⟩

theorem past_past (c : Cursor) (u v mid rest : List Char) (trail trail' : List Mark) :
    (c.past u mid trail).past v rest trail' = c.past (u ++ v) rest trail' := by
  simp [past, Nat.add_assoc]

/-- To go back leaves the marks as they are. -/
theorem trail_of_back? {c d : Cursor} {n : Nat} (h : c.back? n = some d) : d.trail = c.trail := by
  induction n generalizing c with
  | zero =>
      obtain rfl := Option.some.inj h
      rfl
  | succ n ih =>
      rw [back?] at h
      cases hbefore : c.before with
      | nil =>
          rw [hbefore] at h
          cases h
      | cons x before =>
          rw [hbefore] at h
          have hnear : Cursor.back? _ n = some d := h
          exact (ih hnear).trans rfl

end Cursor

/-! ## Searches that move past words -/

/-- The rest of a search succeeds after a word of `L`. With `unmarked`, no marks are left on the way
there. -/
def SucceedsPast (unmarked : Bool) (L : Language Char) (c : Cursor) (k : Rest) (d : Cursor) :
    Prop :=
  ∃ w ∈ L, ∃ rest trail, c.after = w ++ rest ∧ (unmarked = true → trail = c.trail) ∧
    k (c.past w rest trail) = some d

/-- If the search succeeds, then its rest does so after a word of `L`. -/
structure Moves (unmarked : Bool) (s : Search) (L : Language Char) : Prop where
  of_eq_some : ∀ {c : Cursor} {k : Rest} {d : Cursor},
    s c k = some d → SucceedsPast unmarked L c k d

variable {s t : Search} {L M : Language Char} {a b : Bool} {c d : Cursor} {k : Rest}

theorem SucceedsPast.mono (h : SucceedsPast a L c k d) (hL : ∀ w ∈ L, w ∈ M) :
    SucceedsPast a M c k d := by
  obtain ⟨w, hw, hrest⟩ := h
  exact ⟨w, hL w hw, hrest⟩

/-- The rest succeeds at once. -/
theorem succeedsPast_of_eq_some (h : k c = some d) (hL : [] ∈ L) : SucceedsPast a L c k d :=
  ⟨[], hL, c.after, c.trail, rfl, fun _ => rfl, h⟩

/-- The rest succeeds after a word of the one language and then one of the other. -/
theorem SucceedsPast.append {u rest : List Char} {trail : List Mark} (hu : u ∈ L)
    (hafter : c.after = u ++ rest) (htrail : a = true → trail = c.trail)
    (h : SucceedsPast a M (c.past u rest trail) k d) : SucceedsPast a (L * M) c k d := by
  obtain ⟨v, hv, rest', trail', hrest, htrail', h⟩ := h
  obtain rfl : rest = v ++ rest' := hrest
  rw [Cursor.past_past] at h
  refine ⟨u ++ v, Language.append_mem_mul hu hv, rest', trail', ?_, fun ha => ?_, h⟩
  · rw [hafter, List.append_assoc]
  · exact (htrail' ha).trans (htrail ha)

theorem Moves.mono (hs : Moves a s L) (hL : ∀ w ∈ L, w ∈ M) : Moves a s M :=
  ⟨fun h => (hs.of_eq_some h).mono hL⟩

/-- Whether marks are left may be forgotten. -/
theorem Moves.forget (hs : Moves a s L) (hmarks : b = true → a = true) : Moves b s L where
  of_eq_some {c k d} h := by
    obtain ⟨w, hw, rest, trail, hafter, htrail, h⟩ := hs.of_eq_some h
    exact ⟨w, hw, rest, trail, hafter, htrail ∘ hmarks, h⟩

theorem moves_empty : Moves a (fun c k => k c) 1 :=
  ⟨fun h => succeedsPast_of_eq_some h Language.nil_mem_one⟩

/-- One search after another moves past a word of the one language and then one of the other. -/
theorem Moves.seq (hs : Moves a s L) (ht : Moves a t M) :
    Moves a (fun c k => s c fun d => t d k) (L * M) where
  of_eq_some {c k d} h := by
    obtain ⟨u, hu, rest, trail, hafter, htrail, h⟩ := hs.of_eq_some h
    exact .append hu hafter htrail (ht.of_eq_some h)

/-- A choice between two searches moves past a word of one of the languages. -/
theorem Moves.alt (hs : Moves a s L) (ht : Moves a t M) :
    Moves a (fun c k => s c k <|> t c k) (L + M) where
  of_eq_some {c k d} h := by
    cases hfirst : s c k with
    | some e =>
        rw [hfirst] at h
        obtain rfl := Option.some.inj h
        exact (hs.of_eq_some hfirst).mono fun w hw => Or.inl hw
    | none =>
        -- the second branch is tried only where the first one fails with this rest
        rw [hfirst] at h
        exact (ht.of_eq_some h).mono fun w hw => Or.inr hw

/-- So does a choice that depends on the place. -/
theorem Moves.ite (hs : Moves a s L) (ht : Moves a t M) (p : Cursor → Bool) :
    Moves a (fun c k => if p c then s c k else t c k) (L + M) where
  of_eq_some {c k d} h := by
    split at h
    · exact (hs.of_eq_some h).mono fun w hw => Or.inl hw
    · exact (ht.of_eq_some h).mono fun w hw => Or.inr hw

/-- Around a group there are marks. -/
theorem Moves.group (hs : Moves a s L) (index : Nat) :
    Moves false (fun c k => s (c.mark (.opened index c.place)) fun d =>
      k (d.mark (.closed index d.place))) L where
  of_eq_some {c k d} h := by
    obtain ⟨w, hw, rest, trail, hafter, -, h⟩ := hs.of_eq_some h
    exact ⟨w, hw, rest, _, hafter, nofun, h⟩

/-- A search that is settled once it has matched moves as it did when it matched. -/
theorem Moves.settled (hs : Moves a s L) : Moves a (fun c k => (s c some).bind k) L where
  of_eq_some {c k d} h := by
    obtain ⟨e, he, h⟩ := Option.bind_eq_some_iff.1 h
    obtain ⟨w, hw, rest, trail, hafter, htrail, hpast⟩ := hs.of_eq_some he
    obtain rfl := Option.some.inj hpast
    exact ⟨w, hw, rest, trail, hafter, htrail, h⟩

/-- Without marks on the way, those at the end of a match are those at its beginning. -/
theorem Moves.trail_eq (hs : Moves a s L) (ha : a = true) (h : s c some = some d) :
    d.trail = c.trail := by
  obtain ⟨w, -, rest, trail, -, htrail, hpast⟩ := hs.of_eq_some h
  obtain rfl := Option.some.inj hpast
  exact htrail ha

/-- Where a text is only looked at, the search goes on from the same place. What it has seen may
have left marks. -/
theorem moves_look {look : Cursor → Option Cursor}
    (hlook : ∀ {c d}, look c = some d → a = true → d.trail = c.trail) (negated : Bool) :
    Moves a (fun c k =>
      match look c with
      | some d => if negated then none else k { c with trail := d.trail }
      | none => if negated then k c else none) 1 where
  of_eq_some {c k d} h := by
    cases hseen : look c with
    | some e =>
        rw [hseen] at h
        dsimp only at h
        split at h
        · cases h
        · exact ⟨[], Language.nil_mem_one, c.after, e.trail, rfl, hlook hseen, h⟩
    | none =>
        rw [hseen] at h
        dsimp only at h
        split at h
        · exact moves_empty.of_eq_some h
        · cases h

theorem moves_takeAll (modes : Modes) (cs : List Char) : Moves true (takeAll modes cs) ⊤ where
  of_eq_some {c k d} h := by
    induction cs generalizing c with
    | nil => exact succeedsPast_of_eq_some h trivial
    | cons x xs ih =>
        rw [takeAll] at h
        cases hafter : c.after with
        | nil =>
            rw [hafter] at h
            cases h
        | cons y rest =>
            rw [hafter] at h
            dsimp only at h
            split at h
            · have hone : [y] ∈ (⊤ : Language Char) := trivial
              exact (SucceedsPast.append hone hafter (fun _ => rfl) (ih h)).mono fun _ _ => trivial
            · cases h

/-! ## Repetitions -/

theorem Moves.exactly (hs : Moves a s L) (n : Nat) : Moves a (exactly s n) (L ^ n) := by
  induction n with
  | zero => exact moves_empty
  | succ n ih =>
      rw [pow_succ']
      exact hs.seq ih

/-- What repeating as often as possible and as seldom as possible have in common: at each step
either the rest of the search goes on at once or one more iteration is made, unless the latest one
has taken up nothing, and if one of the two succeeds then the step does. -/
structure Repeats (s : Search) (loop : Nat → Option Nat → Search) : Prop where
  zero : ∀ last c k, loop 0 last c k = k c
  sound : ∀ {n last c k d}, loop (n + 1) last c k = some d →
    k c = some d ∨ s c (fun e => loop n (some c.place) e k) = some d
  stop : ∀ {n last c k}, (k c).isSome = true → (loop n last c k).isSome = true
  more : ∀ {n last c k}, last ≠ some c.place →
    (s c fun e => loop n (some c.place) e k).isSome = true → (loop (n + 1) last c k).isSome = true

theorem repeats_many (s : Search) : Repeats s (many s) where
  zero _ _ _ := rfl
  sound {n last c k d} h := by
    rw [many] at h
    split at h
    · -- the latest iteration has taken up nothing
      exact .inl h
    · cases hmore : s c (fun e => many s n (some c.place) e k) with
      | some e =>
          rw [hmore] at h
          exact .inr h
      | none =>
          rw [hmore] at h
          exact .inl h
  stop {n last c k} h := by
    cases n with
    | zero => exact h
    | succ n =>
        rw [many]
        split
        · exact h
        · simp [h]
  more {n last c k} hlast h := by
    rw [many, if_neg hlast]
    simp [h]

theorem repeats_few (s : Search) : Repeats s (few s) where
  zero _ _ _ := rfl
  sound {n last c k d} h := by
    rw [few] at h
    cases hstop : k c with
    | some e =>
        rw [hstop] at h
        exact .inl h
    | none =>
        rw [hstop] at h
        change (if _ then _ else _) = _ at h
        split at h
        · cases h
        · exact .inr h
  stop {n last c k} h := by
    cases n with
    | zero => exact h
    | succ n =>
        rw [few]
        simp [h]
  more {n last c k} hlast h := by
    rw [few, if_neg hlast]
    simp [h]

/-- The words of as many further iterations as are allowed after the first `least` ones. -/
def further (L : Language Char) (least : Nat) (most : Option Nat) : Language Char :=
  {w | ∃ n, (∀ m, most = some m → n ≤ m - least) ∧ w ∈ L ^ n}

namespace Repeats

variable {loop : Nat → Option Nat → Search}

/-- The iterations that are made are at most as many as allowed. -/
theorem moves_pow (hloop : Repeats s loop) (hs : Moves a s L) (n : Nat) (last : Option Nat) :
    Moves a (loop n last) ({w | ∃ i ≤ n, w ∈ L ^ i} : Set (List Char)) where
  of_eq_some {c k d} h := by
    have hnone : [] ∈ L ^ 0 := Language.nil_mem_one
    induction n generalizing last c with
    | zero =>
        rw [hloop.zero] at h
        exact succeedsPast_of_eq_some h ⟨0, le_rfl, hnone⟩
    | succ n ih =>
        rcases hloop.sound h with h | h
        · exact succeedsPast_of_eq_some h ⟨0, Nat.zero_le _, hnone⟩
        · -- one iteration, and after it at most `n` more
          obtain ⟨u, hu, rest, trail, hafter, htrail, h⟩ := hs.of_eq_some h
          refine (SucceedsPast.append hu hafter htrail (ih _ h)).mono ?_
          intro w hw
          obtain ⟨u, hu, v, ⟨i, hi, hv⟩, rfl⟩ := Language.mem_mul.1 hw
          refine ⟨i + 1, Nat.succ_le_succ hi, ?_⟩
          rw [pow_succ']
          exact Language.append_mem_mul hu hv

/-- After the iterations that have to be made, the search makes any number of further ones that is
allowed. -/
theorem moves_further (hloop : Repeats s loop) (hs : Moves a s L) (least : Nat)
    (most : Option Nat) :
    Moves a (fun c k => loop (furtherBound least most c) none c k) (further L least most) where
  of_eq_some {c k d} h := by
    refine ((hloop.moves_pow hs _ none).of_eq_some h).mono ?_
    rintro w ⟨n, hn, hw⟩
    refine ⟨n, ?_, hw⟩
    rintro m rfl
    exact hn.trans (Nat.min_le_left _ _)

end Repeats

theorem Moves.exactlySettled (hs : Moves a s L) (n : Nat) :
    Moves a (fun c k => (exactlySettled s n c).bind k) (L ^ n) := by
  induction n with
  | zero => exact moves_empty
  | succ n ih =>
      rw [pow_succ']
      refine ⟨fun {c k d} h => ?_⟩
      -- the first iteration is settled before the others begin
      have hseq : ((s c some).bind fun e => (Regex.exactlySettled s n e).bind k) = some d := by
        rw [← Option.bind_assoc]
        exact h
      exact (hs.settled.seq ih).of_eq_some hseq

theorem Moves.manySettled (hs : Moves a s L) (n : Nat) :
    Moves a (fun c k => k (manySettled s n c)) L∗ where
  of_eq_some {c k d} h := by
    induction n generalizing c with
    | zero => exact succeedsPast_of_eq_some h (Language.nil_mem_kstar L)
    | succ n ih =>
        rw [Regex.manySettled] at h
        cases hmore : s c some with
        | none =>
            rw [hmore] at h
            exact succeedsPast_of_eq_some h (Language.nil_mem_kstar L)
        | some e =>
            rw [hmore] at h
            obtain ⟨u, hu, rest, trail, hafter, htrail, hpast⟩ := hs.of_eq_some hmore
            obtain rfl := Option.some.inj hpast
            have hrest : SucceedsPast a (L∗) (c.past u rest trail) k d := by
              -- an iteration that takes up nothing is the last one
              dsimp only at h
              split at h
              · exact succeedsPast_of_eq_some h (Language.nil_mem_kstar L)
              · exact ih h
            exact (SucceedsPast.append hu hafter htrail hrest).mono fun w hw =>
              (mul_kstar_le_kstar : L * L∗ ≤ L∗) hw

end PathRouter.Regex
