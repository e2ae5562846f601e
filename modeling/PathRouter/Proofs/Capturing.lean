import PathRouter.Proofs.Composition
import PathRouter.Proofs.Language

set_option autoImplicit false

/-! # What the groups of a pattern capture

The expression of a pattern is a sequence of capturing groups, and there are no groups in their
bodies. A match of a whole text cuts the text into one piece for each group; all groups take part in
the match, and each of them captures its own piece (`exists_pieces_of_captures?`). The groups may
look at what is around their pieces, and they may be empty.
-/

namespace PathRouter

open Regex

namespace Regex

/-! ## The marks of groups -/

/-- The group that a mark belongs to. -/
def Mark.group : Mark → Nat
  | .opened group _ | .closed group _ => group

/-- The marks of groups, numbered from `n` on, that take up pieces of a text one after the other,
the first of them at a place. -/
def groupMarks (n place : Nat) : List (List Char) → List Mark
  | [] => []
  | piece :: pieces =>
    groupMarks (n + 1) (place + piece.length) pieces ++
      [.closed n (place + piece.length), .opened n place]

theorem le_group_of_mem_groupMarks {n place : Nat} {pieces : List (List Char)} {m : Mark}
    (h : m ∈ groupMarks n place pieces) : n ≤ m.group := by
  induction pieces generalizing n place with
  | nil => cases h
  | cons piece pieces ih =>
      rcases List.mem_append.1 h with h | h
      · exact (Nat.le_succ n).trans (ih h)
      · rcases List.mem_pair.1 h with rfl | rfl
        · exact le_rfl
        · exact le_rfl

namespace Cursor

variable {c : Cursor} {n : Nat}

/-- Only the latest marks of a group count, and marks of other groups do not. -/
theorem span?_of_trail {marks trail : List Mark} {first last : Nat}
    (htrail : c.trail = marks ++ .closed n last :: .opened n first :: trail)
    (hmarks : ∀ m ∈ marks, m.group ≠ n) (hle : first ≤ last) : c.span? n = some (first, last) := by
  have hopened : c.openedAt? n = some first := by
    rw [openedAt?, htrail, List.findSome?_append, List.findSome?_eq_none_iff.2]
    · simp
    · intro m hm
      have hgroup := hmarks m hm
      cases m <;> simp_all [Mark.group]
  have hclosed : c.closedAt? n = some last := by
    rw [closedAt?, htrail, List.findSome?_append, List.findSome?_eq_none_iff.2]
    · simp
    · intro m hm
      have hgroup := hmarks m hm
      cases m <;> simp_all [Mark.group]
  rw [span?, hopened, hclosed]
  exact if_pos hle

/-- A group captures its own piece. The induction is on the pieces; those before the first one are a
part of what stands before. -/
theorem captured?_of_groupMarks {before after : List Char} {pieces : List (List Char)}
    {trail : List Mark} (htext : c.text = before ++ pieces.flatten ++ after)
    (htrail : c.trail = groupMarks n before.length pieces ++ trail) {i : Nat}
    (hi : i < pieces.length) : c.captured? (n + i) = some pieces[i] := by
  induction pieces generalizing n before trail i with
  | nil => cases hi
  | cons piece pieces ih =>
      rw [groupMarks, List.append_assoc] at htrail
      rw [List.flatten_cons] at htext
      cases i with
      | zero =>
          have hspan : c.span? n = some (before.length, before.length + piece.length) := by
            refine span?_of_trail htrail (fun m hm => ?_) (Nat.le_add_right _ _)
            -- the marks after those of the first group belong to groups with greater numbers
            have hle := le_group_of_mem_groupMarks hm
            omega
          rw [captured?, Nat.add_zero, hspan, htext]
          simp
      | succ i =>
          -- the first piece joins what stands before
          have htext' : c.text = (before ++ piece) ++ pieces.flatten ++ after := by
            rw [htext]
            simp
          have htrail' : c.trail = groupMarks (n + 1) (before ++ piece).length pieces ++
              ([.closed n (before.length + piece.length), .opened n before.length] ++ trail) := by
            rw [htrail, List.length_append]
          have hnext := ih htext' htrail' (Nat.lt_of_succ_lt_succ hi)
          rwa [Nat.add_right_comm] at hnext

end Cursor

/-! ## Matching groups one after the other -/

theorem run_ofList_cons (r : Regex) (rs : List Regex) (c : Cursor) (k : Rest) :
    run (ofList (r :: rs)) c k = run r c fun d => run (ofList rs) d k := by
  cases rs <;> rfl

end Regex

/-- A match of groups without groups in them cuts off one piece of the text for each group. The
induction is on the groups. -/
theorem exists_pieces_of_run {bodies : List Regex} (hbodies : ∀ b ∈ bodies, b.isGroupless = true)
    {n : Nat} {c d : Cursor} {k : Rest} (h : run (.ofList (groupsFrom n bodies)) c k = some d) :
    ∃ pieces rest, List.Forall₂ (fun b piece => piece ∈ b.reach) bodies pieces ∧
      c.after = pieces.flatten ++ rest ∧
        k (c.past pieces.flatten rest (groupMarks n c.place pieces ++ c.trail)) = some d := by
  induction bodies generalizing n c with
  | nil => exact ⟨[], c.after, .nil, rfl, h⟩
  | cons b bodies ih =>
      obtain ⟨hb, hbodies⟩ := List.forall_mem_cons.1 hbodies
      have hcons : groupsFrom n (b :: bodies) = .group n b :: groupsFrom (n + 1) bodies := rfl
      rw [hcons, run_ofList_cons] at h
      obtain ⟨piece, hpiece, rest, trail, hafter, htrail, h⟩ := (moves_run b).of_eq_some h
      obtain ⟨pieces, rest', hpieces, hrest, h⟩ := ih hbodies h
      -- the body leaves no marks, so that those of the group itself are all there are
      obtain rfl := htrail hb
      obtain rfl : rest = pieces.flatten ++ rest' := hrest
      refine ⟨piece :: pieces, rest', .cons hpiece hpieces, ?_, ?_⟩
      · rw [List.flatten_cons, List.append_assoc]
        exact hafter
      · rw [List.flatten_cons, ← Cursor.past_past c piece _ (pieces.flatten ++ rest') _ c.trail,
          groupMarks, List.append_assoc]
        exact h

/-- At the end of a text that groups have taken up piece by piece, each of them has captured its own
piece. -/
theorem map_captured?_past (pieces : List (List Char)) :
    ((List.range pieces.length).map fun i => (Cursor.past (.start pieces.flatten) pieces.flatten []
      (groupMarks 1 0 pieces)).captured? (i + 1)) = pieces.map some := by
  refine List.ext_getElem (by simp) fun i hi hi' => ?_
  have htext : (Cursor.past (.start pieces.flatten) pieces.flatten []
      (groupMarks 1 0 pieces)).text = [] ++ pieces.flatten ++ [] := by
    simp [Cursor.text, Cursor.past, Cursor.start]
  have htrail : groupMarks 1 0 pieces = groupMarks 1 ([] : List Char).length pieces ++ [] :=
    (List.append_nil _).symm
  have hcaptured := Cursor.captured?_of_groupMarks htext htrail (by simpa using hi')
  rw [List.getElem_map, List.getElem_map, List.getElem_range, Nat.add_comm]
  exact hcaptured

/-- **Every group takes part in a match, and the pieces that the groups capture make up the text.**
Each piece is a word that the body of its group may reach. -/
theorem exists_pieces_of_captures? {bodies : List Regex}
    (hbodies : ∀ b ∈ bodies, b.isGroupless = true) {text : List Char}
    {captured : List (Option (List Char))}
    (h : Program.captures? ⟨.ofList (groupsFrom 1 bodies), bodies.length⟩ text = some captured) :
    ∃ pieces, captured = pieces.map some ∧ pieces.flatten = text ∧
      List.Forall₂ (fun b piece => piece ∈ b.reach) bodies pieces := by
  obtain ⟨d, hd, rfl⟩ := Option.map_eq_some_iff.1 h
  obtain ⟨pieces, rest, hpieces, htext, hend⟩ := exists_pieces_of_run hbodies hd
  obtain ⟨hrest, rfl⟩ := atEnd_eq_some.1 hend
  obtain rfl : rest = [] := hrest
  obtain rfl : text = pieces.flatten := htext.trans (List.append_nil _)
  refine ⟨pieces, ?_, rfl, hpieces⟩
  rw [hpieces.length_eq, ← map_captured?_past]
  -- no marks have been left before the match
  exact congrArg (fun trail => (List.range pieces.length).map fun i =>
    (Cursor.past (.start pieces.flatten) pieces.flatten [] trail).captured? (i + 1))
    (List.append_nil _)

end PathRouter
