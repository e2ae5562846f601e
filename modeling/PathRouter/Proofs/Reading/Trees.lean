import PathRouter.Regex.Program
import Mathlib.Tactic

set_option autoImplicit false

/-! # Trees up to their modes

What an expression is built from does not depend on the modes in force where it is read, apart from
the modes that its elements carry. Two expressions are alike if they differ in these modes only, by
a relation `R` between those of the one and those of the other (`Alike`). Widths and checks do not
see the difference (`Alike.width_eq`, `Alike.check_eq`), and neither does the reading of a frame as
long as the elements of the frame carry the modes of the frame: then the same heads are taken out of
alternations (`alike_alternation`). Such a frame captures nothing either (`Frame.Uniform`).
-/

namespace PathRouter.Regex

variable {R : Modes → Modes → Prop} {m m' : Modes} {r r' s s' : Regex}

/-! ## Expressions that differ in their modes -/

/-- The expressions are built alike, and the modes of their elements are related by `R`. -/
inductive Alike (R : Modes → Modes → Prop) : Regex → Regex → Prop where
  | empty : Alike R .empty .empty
  | char {m m' : Modes} (h : R m m') (t : CharTest) : Alike R (.char m t) (.char m' t)
  | anchor {m m' : Modes} (h : R m m') (a : Anchor) : Alike R (.anchor m a) (.anchor m' a)
  | seq {r r' s s' : Regex} (hr : Alike R r r') (hs : Alike R s s') :
      Alike R (.seq r s) (.seq r' s')
  | alt {r r' s s' : Regex} (hr : Alike R r r') (hs : Alike R s s') :
      Alike R (.alt r s) (.alt r' s')
  | group (index : Nat) {r r' : Regex} (h : Alike R r r') :
      Alike R (.group index r) (.group index r')
  | «scoped» {r r' : Regex} (h : Alike R r r') : Alike R (.scoped r) (.scoped r')
  | atomic {r r' : Regex} (h : Alike R r r') : Alike R (.atomic r) (.atomic r')
  | lookAhead (negated : Bool) {r r' : Regex} (h : Alike R r r') :
      Alike R (.lookAhead negated r) (.lookAhead negated r')
  | lookBehind (negated : Bool) (w : Width) {r r' : Regex} (h : Alike R r r') :
      Alike R (.lookBehind negated w r) (.lookBehind negated w r')
  | rep (greed : Greed) (least : Nat) (most : Option Nat) {r r' : Regex} (h : Alike R r r') :
      Alike R (.rep greed least most r) (.rep greed least most r')
  | backref {m m' : Modes} (h : R m m') (index : Nat) (w : Width) :
      Alike R (.backref m index w) (.backref m' index w)
  | cond (index : Nat) {r r' s s' : Regex} (hr : Alike R r r') (hs : Alike R s s') :
      Alike R (.cond index r s) (.cond index r' s')

/-- Expressions in the same modes that are built alike are the same. -/
theorem Alike.eq (h : r.Alike Eq r') : r = r' := by
  induction h <;> simp_all

theorem Alike.width_eq (h : r.Alike R r') : r.width = r'.width := by
  induction h with
  | rep greed least most _ ih => cases most <;> simp [width, ih]
  | _ => simp_all [width]

theorem Alike.check_eq (plain : Bool) (h : r.Alike R r') : check plain r = check plain r' := by
  induction h with
  | rep greed least most _ ih => cases plain <;> simp_all [check]
  | _ => simp_all [check]

theorem Alike.isSimple_eq (h : r.Alike R r') : r.isSimple = r'.isSimple := by
  cases h <;> rfl

theorem alike_ofList {rs rs' : List Regex} (h : List.Forall₂ (Alike R) rs rs') :
    (ofList rs).Alike R (ofList rs') := by
  induction h with
  | nil => exact .empty
  | cons hr hrest ih =>
      cases hrest with
      | nil => exact hr
      | cons hs hrest => exact .seq hr ih

/-! ## Alternations -/

section

variable {branches branches' : List (List Regex)}

theorem alike_choice (h : List.Forall₂ (List.Forall₂ (Alike R)) branches branches') :
    (choice branches).Alike R (choice branches') := by
  induction h with
  | nil => exact .empty
  | cons hbranch hrest ih =>
      cases hrest with
      | nil => exact alike_ofList hbranch
      | cons hsecond hrest => exact .alt (alike_ofList hbranch) ih

theorem members?_eq_of_alike {branch branch' : List Regex}
    (h : List.Forall₂ (Alike R) branch branch') : members? branch = members? branch' := by
  cases h with
  | nil => rfl
  | cons hr hrest =>
      cases hrest with
      | nil =>
          cases hr with
          | char h t => cases t with
              | oneOf negated items => cases negated <;> rfl
              | _ => rfl
          | _ => rfl
      | cons hs hrest => simp [members?]

theorem alike_branchesOf (hm : R m m')
    (h : List.Forall₂ (List.Forall₂ (Alike R)) branches branches') :
    (branchesOf m branches).Alike R (branchesOf m' branches') := by
  have hmembers : branches.mapM members? = branches'.mapM members? := by
    induction h with
    | nil => rfl
    | cons hbranch hrest ih => simp [members?_eq_of_alike hbranch, ih]
  unfold branchesOf
  rw [hmembers]
  cases branches'.mapM members? with
  | none => exact alike_choice h
  | some items => exact .char hm _

/-- An element whose spelling settles its meaning carries the modes `m`. -/
def InModes (m : Modes) : Regex → Prop
  | .char modes _ | .anchor modes _ | .backref modes _ _ => modes = m
  | _ => True

/-- Elements that are alike are told apart from other elements in the same modes alike. -/
theorem Alike.eq_iff (hr : r.Alike R r') (hs : s.Alike R s') (hsimple : r.isSimple = true)
    (hrm : r.InModes m) (hsm : s.InModes m) (hrm' : r'.InModes m') (hsm' : s'.InModes m') :
    s = r ↔ s' = r' := by
  -- the elements that are compared with others are those of one symbol
  cases hr with
  | char _ t => cases hs <;> simp_all [InModes]
  | anchor _ a => cases hs <;> simp_all [InModes]
  | backref _ index w => cases hs <;> simp_all [InModes]
  | _ => cases hsimple

theorem head?_eq_of_alike {branch branch' : List Regex} (hr : r.Alike R r')
    (hbranch : List.Forall₂ (Alike R) branch branch') (hsimple : r.isSimple = true)
    (hrm : r.InModes m) (hbm : ∀ s ∈ branch, s.InModes m) (hrm' : r'.InModes m')
    (hbm' : ∀ s ∈ branch', s.InModes m') :
    (branch.head? == some r) = (branch'.head? == some r') := by
  cases hbranch with
  | nil => rfl
  | cons hs _ =>
      have hiff := hr.eq_iff hs hsimple hrm (hbm _ (List.mem_cons_self ..)) hrm'
        (hbm' _ (List.mem_cons_self ..))
      rw [Bool.eq_iff_iff]
      simpa using hiff

/-- So the same element is taken out of branches that are alike. -/
theorem all_head?_eq_of_alike (hr : r.Alike R r') (hsimple : r.isSimple = true)
    (h : List.Forall₂ (List.Forall₂ (Alike R)) branches branches')
    (hrm : r.InModes m) (hbm : ∀ b ∈ branches, ∀ s ∈ b, s.InModes m) (hrm' : r'.InModes m')
    (hbm' : ∀ b ∈ branches', ∀ s ∈ b, s.InModes m') :
    (branches.all fun b => b.head? == some r) = branches'.all fun b => b.head? == some r' := by
  induction h with
  | nil => rfl
  | cons hbranch _ ih =>
      obtain ⟨hfirst, hrest⟩ := List.forall_mem_cons.1 hbm
      obtain ⟨hfirst', hrest'⟩ := List.forall_mem_cons.1 hbm'
      rw [List.all_cons, List.all_cons, ih hrest hrest',
        head?_eq_of_alike hr hbranch hsimple hrm hfirst hrm' hfirst']

theorem inModes_tails (h : ∀ b ∈ branches, ∀ r ∈ b, r.InModes m) :
    ∀ b ∈ branches.map List.tail, ∀ r ∈ b, r.InModes m := by
  intro b hb s hs
  obtain ⟨whole, hwhole, rfl⟩ := List.mem_map.1 hb
  exact h whole hwhole s (List.mem_of_mem_tail hs)

theorem alike_tails (h : List.Forall₂ (List.Forall₂ (Alike R)) branches branches') :
    List.Forall₂ (List.Forall₂ (Alike R)) (branches.map List.tail) (branches'.map List.tail) := by
  rw [List.forall₂_map_left_iff, List.forall₂_map_right_iff]
  refine h.imp fun branch branch' hbranch => ?_
  cases hbranch with
  | nil => exact .nil
  | cons _ hrest => exact hrest

theorem alike_factored (hm : R m m') {first first' : List Regex}
    (hfirst : List.Forall₂ (Alike R) first first')
    (hothers : List.Forall₂ (List.Forall₂ (Alike R)) branches branches')
    (hfm : ∀ r ∈ first, r.InModes m) (hom : ∀ b ∈ branches, ∀ r ∈ b, r.InModes m)
    (hfm' : ∀ r ∈ first', r.InModes m') (hom' : ∀ b ∈ branches', ∀ r ∈ b, r.InModes m') :
    List.Forall₂ (Alike R) (factored m first branches) (factored m' first' branches') := by
  induction hfirst generalizing branches branches' with
  | nil => exact .cons (alike_branchesOf hm (.cons .nil hothers)) .nil
  | @cons r r' rest rest' hr hrest ih =>
      obtain ⟨hrm, hrestm⟩ := List.forall_mem_cons.1 hfm
      obtain ⟨hrm', hrestm'⟩ := List.forall_mem_cons.1 hfm'
      -- the same head is common to all branches
      have hheads : (r.isSimple && branches.all fun b => b.head? == some r) =
          (r'.isSimple && branches'.all fun b => b.head? == some r') := by
        rw [← hr.isSimple_eq]
        cases hsimple : r.isSimple with
        | false => rfl
        | true =>
            rw [Bool.true_and, Bool.true_and,
              all_head?_eq_of_alike hr hsimple hothers hrm hom hrm' hom']
      rw [factored, factored, hheads]
      split
      · exact .cons hr (ih (alike_tails hothers) hrestm (inModes_tails hom) hrestm'
          (inModes_tails hom'))
      · exact .cons (alike_branchesOf hm (.cons (.cons hr hrest) hothers)) .nil

theorem alike_alternation (hm : R m m')
    (h : List.Forall₂ (List.Forall₂ (Alike R)) branches branches')
    (hbm : ∀ b ∈ branches, ∀ r ∈ b, r.InModes m)
    (hbm' : ∀ b ∈ branches', ∀ r ∈ b, r.InModes m') :
    List.Forall₂ (Alike R) (alternation m branches) (alternation m' branches') := by
  cases h with
  | nil => exact .nil
  | cons hfirst hothers =>
      obtain ⟨hfm, hom⟩ := List.forall_mem_cons.1 hbm
      obtain ⟨hfm', hom'⟩ := List.forall_mem_cons.1 hbm'
      cases hothers with
      | nil => exact hfirst
      | cons hsecond hothers =>
          exact alike_factored hm hfirst (.cons hsecond hothers) hfm hom hfm' hom'

end

/-! ## Capturing nothing -/

/-- There is no capturing group in the expression. -/
def isGroupless : Regex → Bool
  | .empty | .char .. | .anchor .. | .backref .. => true
  | .group .. => false
  | .seq r s | .alt r s | .cond _ r s => r.isGroupless && s.isGroupless
  | .scoped r | .atomic r | .lookAhead _ r | .lookBehind _ _ r | .rep _ _ _ r => r.isGroupless

/-- There is no capturing group in the expression, and nothing in it depends on one. -/
def isSelfContained : Regex → Bool
  | .empty | .char .. | .anchor .. => true
  | .group .. | .backref .. | .cond .. => false
  | .seq r s | .alt r s => r.isSelfContained && s.isSelfContained
  | .scoped r | .atomic r | .lookAhead _ r | .lookBehind _ _ r | .rep _ _ _ r => r.isSelfContained

theorem isGroupless_of_isSelfContained (h : r.isSelfContained = true) : r.isGroupless = true := by
  induction r <;> simp_all [isSelfContained, isGroupless]

theorem isSelfContained_ofList {rs : List Regex} (h : ∀ r ∈ rs, r.isSelfContained = true) :
    (ofList rs).isSelfContained = true := by
  refine ofList_induction (P := fun r => r.isSelfContained = true) rfl ?_ h
  intro r s hr hs
  exact Bool.and_eq_true_iff.2 ⟨hr, hs⟩

theorem isSelfContained_choice {branches : List (List Regex)}
    (h : ∀ b ∈ branches, ∀ r ∈ b, r.isSelfContained = true) :
    (choice branches).isSelfContained = true := by
  induction branches with
  | nil => rfl
  | cons branch rest ih =>
      obtain ⟨hbranch, hrest⟩ := List.forall_mem_cons.1 h
      cases rest with
      | nil => exact isSelfContained_ofList hbranch
      | cons second rest =>
          exact Bool.and_eq_true_iff.2 ⟨isSelfContained_ofList hbranch, ih hrest⟩

/-! ## Elements that fit their frame -/

/-- An element that a frame in the modes `m` can have: it carries these modes, and it neither
captures anything nor depends on captures. -/
structure Fits (m : Modes) (r : Regex) : Prop where
  inModes : r.InModes m
  selfContained : r.isSelfContained = true

theorem fits_ofList {rs : List Regex} (h : ∀ r ∈ rs, r.Fits m) : (ofList rs).Fits m := by
  refine ⟨?_, isSelfContained_ofList fun r hr => (h r hr).selfContained⟩
  cases rs with
  | nil => trivial
  | cons r rest =>
      cases rest with
      | nil => exact (h r (List.mem_cons_self ..)).inModes
      | cons s rest => trivial

theorem fits_branchesOf {branches : List (List Regex)} (h : ∀ b ∈ branches, ∀ r ∈ b, r.Fits m) :
    (branchesOf m branches).Fits m := by
  unfold branchesOf
  split
  · exact ⟨rfl, rfl⟩
  · refine ⟨?_, isSelfContained_choice fun b hb r hr => (h b hb r hr).selfContained⟩
    cases branches with
    | nil => trivial
    | cons branch rest =>
        cases rest with
        | nil => exact (fits_ofList (h branch (List.mem_cons_self ..))).inModes
        | cons second rest => trivial

theorem fits_factored {first : List Regex} {others : List (List Regex)}
    (hfirst : ∀ r ∈ first, r.Fits m) (hothers : ∀ b ∈ others, ∀ r ∈ b, r.Fits m) :
    ∀ r ∈ factored m first others, r.Fits m := by
  induction first generalizing others with
  | nil =>
      have hbranches : (branchesOf m ([] :: others)).Fits m :=
        fits_branchesOf (List.forall_mem_cons.2 ⟨hfirst, hothers⟩)
      simpa [factored] using hbranches
  | cons r rest ih =>
      obtain ⟨hr, hrest⟩ := List.forall_mem_cons.1 hfirst
      rw [factored]
      split
      · refine List.forall_mem_cons.2 ⟨hr, ih hrest ?_⟩
        intro b hb s hs
        obtain ⟨whole, hwhole, rfl⟩ := List.mem_map.1 hb
        exact hothers whole hwhole s (List.mem_of_mem_tail hs)
      · have hbranches : (branchesOf m ((r :: rest) :: others)).Fits m :=
          fits_branchesOf (List.forall_mem_cons.2 ⟨hfirst, hothers⟩)
        simpa using hbranches

theorem fits_alternation {branches : List (List Regex)}
    (h : ∀ b ∈ branches, ∀ r ∈ b, r.Fits m) : ∀ r ∈ alternation m branches, r.Fits m := by
  cases branches with
  | nil => simp [alternation]
  | cons first others =>
      obtain ⟨hfirst, hothers⟩ := List.forall_mem_cons.1 h
      cases others with
      | nil => exact hfirst
      | cons second rest => exact fits_factored hfirst hothers

/-- The items are built alike. -/
inductive Item.Alike (R : Modes → Modes → Prop) : Item → Item → Prop where
  | one {r r' : Regex} (h : r.Alike R r') : Alike R (.one r) (.one r')
  | plain {rs rs' : List Regex} (h : List.Forall₂ (Regex.Alike R) rs rs') :
      Alike R (.plain rs) (.plain rs')

namespace Item.Alike

variable {i i' : Item}

theorem elements (h : i.Alike R i') : List.Forall₂ (Regex.Alike R) i.elements i'.elements := by
  cases h with
  | one h => exact .cons h .nil
  | plain h => exact h

theorem body (h : i.Alike R i') : i.body.Alike R i'.body := by
  cases h with
  | one h => exact h
  | plain h => exact alike_ofList h

theorem unrepeatable?_eq (h : i.Alike R i') : i.unrepeatable? = i'.unrepeatable? := by
  cases h with
  | one h => cases h <;> rfl
  | plain h => rfl

theorem withGreed (greed : Greed) (h : i.Alike R i') :
    (i.withGreed greed).Alike R (i'.withGreed greed) := by
  cases h with
  | one h =>
      have hself := h
      cases h with
      | rep greed' least most h => exact .one (.rep greed least most h)
      | _ => exact .one hself
  | plain h => exact .plain h

end Item.Alike

theorem Item.fits_withGreed {greed : Greed} {i : Item} (h : ∀ r ∈ i.elements, r.Fits m) :
    ∀ r ∈ (i.withGreed greed).elements, r.Fits m := by
  cases i with
  | one r =>
      cases r with
      | rep greed' least most body =>
          have hbody := (h _ (List.mem_singleton_self _)).selfContained
          exact List.forall_mem_singleton.2 ⟨trivial, hbody⟩
      | _ => exact h
  | plain rs => exact h

theorem Item.isSelfContained_body {i : Item} (h : ∀ r ∈ i.elements, r.Fits m) :
    i.body.isSelfContained = true := by
  cases i with
  | one r => exact (h r (List.mem_singleton_self r)).selfContained
  | plain rs => exact isSelfContained_ofList fun r hr => (h r hr).selfContained

/-- The elements of a frame carry the modes of the frame and capture nothing. -/
structure Frame.Uniform (g : Frame) : Prop where
  branches : ∀ b ∈ g.branches, ∀ r ∈ b, r.Fits g.modes
  items : ∀ i ∈ g.items, ∀ r ∈ i.elements, r.Fits g.modes

/-- Two frames that differ at most in their modes, and in where they begin and what they are for. -/
structure Frame.Alike (R : Modes → Modes → Prop) (g g' : Frame) : Prop where
  modes : R g.modes g'.modes
  branches : List.Forall₂ (List.Forall₂ (Regex.Alike R)) g.branches g'.branches
  items : List.Forall₂ (Item.Alike R) g.items g'.items
  uniform : g.Uniform
  uniform' : g'.Uniform

namespace Frame

variable {g g' : Frame}

theorem Uniform.branch (h : g.Uniform) : ∀ r ∈ g.branch, r.Fits g.modes := by
  intro r hr
  obtain ⟨i, hi, hri⟩ := List.mem_flatMap.1 hr
  exact h.items i (List.mem_reverse.1 hi) r hri

theorem Uniform.allBranches (h : g.Uniform) : ∀ b ∈ g.allBranches, ∀ r ∈ b, r.Fits g.modes := by
  intro b hb
  rcases List.mem_cons.1 (List.mem_reverse.1 hb) with rfl | hb
  · exact h.branch
  · exact h.branches b hb

theorem Uniform.elements (h : g.Uniform) : ∀ r ∈ g.elements, r.Fits g.modes :=
  fits_alternation h.allBranches

theorem Uniform.add (h : g.Uniform) {i : Item} (hi : ∀ r ∈ i.elements, r.Fits g.modes) :
    (g.add i).Uniform :=
  ⟨h.branches, List.forall_mem_cons.2 ⟨hi, h.items⟩⟩

theorem Uniform.bar (h : g.Uniform) : g.bar.Uniform :=
  ⟨List.forall_mem_cons.2 ⟨h.branch, h.branches⟩, fun _ hi => nomatch hi⟩

theorem Alike.branch (h : g.Alike R g') : List.Forall₂ (Regex.Alike R) g.branch g'.branch := by
  unfold Frame.branch
  exact List.rel_flatMap (List.forall₂_reverse_iff.2 h.items) fun _ _ hi => hi.elements

theorem Alike.add (h : g.Alike R g') {i i' : Item} (hi : i.Alike R i')
    (hmodes : ∀ r ∈ i.elements, r.Fits g.modes)
    (hmodes' : ∀ r ∈ i'.elements, r.Fits g'.modes) : (g.add i).Alike R (g'.add i') :=
  ⟨h.modes, h.branches, .cons hi h.items, h.uniform.add hmodes, h.uniform'.add hmodes'⟩

/-- Frames that are alike stay so if the item read last is replaced in both. -/
theorem Alike.replace (h : g.Alike R g') {i i' j j' : Item} {rest rest' : List Item}
    (hitems : g.items = i :: rest) (hitems' : g'.items = i' :: rest') (hj : j.Alike R j')
    (hmodes : ∀ r ∈ j.elements, r.Fits g.modes) (hmodes' : ∀ r ∈ j'.elements, r.Fits g'.modes) :
    Frame.Alike R { g with items := j :: rest } { g' with items := j' :: rest' } := by
  have hboth := h.items
  rw [hitems, hitems', List.forall₂_cons] at hboth
  refine ⟨h.modes, h.branches, .cons hj hboth.2, ⟨h.uniform.branches, ?_⟩,
    ⟨h.uniform'.branches, ?_⟩⟩
  · intro k hk
    rcases List.mem_cons.1 hk with rfl | hk
    · exact hmodes
    · exact h.uniform.items k (hitems ▸ List.mem_cons_of_mem _ hk)
  · intro k hk
    rcases List.mem_cons.1 hk with rfl | hk
    · exact hmodes'
    · exact h.uniform'.items k (hitems' ▸ List.mem_cons_of_mem _ hk)

theorem Alike.bar (h : g.Alike R g') : g.bar.Alike R g'.bar :=
  ⟨h.modes, .cons h.branch h.branches, .nil, h.uniform.bar, h.uniform'.bar⟩

/-- Frames that are alike have elements that are alike. -/
theorem Alike.elements (h : g.Alike R g') :
    List.Forall₂ (Regex.Alike R) g.elements g'.elements := by
  have hall : List.Forall₂ (List.Forall₂ (Regex.Alike R)) g.allBranches g'.allBranches :=
    List.forall₂_reverse_iff.2 (.cons h.branch h.branches)
  exact alike_alternation h.modes hall
    (fun b hb r hr => (h.uniform.allBranches b hb r hr).inModes)
    (fun b hb r hr => (h.uniform'.allBranches b hb r hr).inModes)

theorem Alike.body (h : g.Alike R g') : g.body.Alike R g'.body :=
  alike_ofList h.elements

end Frame

/-- The groups that neither capture nor depend on captures. -/
def GroupKind.isInner : GroupKind → Bool
  | .plain | .scoped | .atomic | .ahead _ | .behind .. => true
  | .whole | .capture _ | .condition _ => false

namespace Frame

variable {g g' : Frame}

/-- What two frames that are alike come to, once they are closed, is alike. -/
theorem Alike.close (h : g.Alike R g') (hkind : g.kind = g'.kind)
    (hinner : g.kind.isInner = true) : g.close.Alike R g'.close := by
  unfold Frame.close
  rw [← hkind]
  cases hk : g.kind with
  | plain => exact .plain h.elements
  | «scoped» => exact .one (.scoped h.body)
  | atomic => exact .one (.atomic h.body)
  | ahead negated => exact .one (.lookAhead negated h.body)
  | behind negated outermost =>
      dsimp only
      rw [h.body.width_eq]
      exact .one (.lookBehind negated _ h.body)
  | _ => rw [hk] at hinner; cases hinner

theorem Uniform.isSelfContained_body (h : g.Uniform) : g.body.isSelfContained = true :=
  isSelfContained_ofList fun r hr => (h.elements r hr).selfContained

/-- A closed group is no element with modes of its own unless it is part of the group around it. -/
theorem Uniform.close (h : g.Uniform) (hinner : g.kind.isInner = true)
    (hplain : g.kind = .plain → g.modes = m) : ∀ r ∈ g.close.elements, r.Fits m := by
  unfold Frame.close
  cases hk : g.kind with
  | plain =>
      -- its elements become elements of the frame around it
      rw [← hplain hk]
      exact h.elements
  | whole => rw [hk] at hinner; cases hinner
  | capture index => rw [hk] at hinner; cases hinner
  | condition index => rw [hk] at hinner; cases hinner
  | _ => exact List.forall_mem_singleton.2 ⟨trivial, h.isSelfContained_body⟩

end Frame

end PathRouter.Regex
