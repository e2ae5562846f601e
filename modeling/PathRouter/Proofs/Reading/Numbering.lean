import PathRouter.Proofs.Reading.Embedding

set_option autoImplicit false

/-! # Groups are numbered in their order

An expression that compiles has as many capturing groups as are counted while it is read, and they
are numbered from one on in the order in which they are opened (`indices_of_compile`): closing a
group, ending a branch and repeating an item neither lose a group nor double one, and what is taken
out of an alternation has no groups.
-/

namespace PathRouter.Regex

/-- The indices of the capturing groups in an expression, in the order in which these are opened. -/
def indices : Regex → List Nat
  | .empty | .char .. | .anchor .. | .backref .. => []
  | .group index r => index :: r.indices
  | .seq r s | .alt r s | .cond _ r s => r.indices ++ s.indices
  | .scoped r | .atomic r | .lookAhead _ r | .lookBehind _ _ r | .rep _ _ _ r => r.indices

theorem isGroupless_iff (r : Regex) : r.isGroupless = true ↔ r.indices = [] := by
  induction r <;> simp_all [isGroupless, indices]

theorem indices_of_isSimple {r : Regex} (h : r.isSimple = true) : r.indices = [] := by
  cases r <;> first | rfl | cases h

/-! ## Sequences and alternations -/

theorem indices_ofList (rs : List Regex) : (ofList rs).indices = rs.flatMap indices := by
  induction rs with
  | nil => rfl
  | cons r rest ih =>
      cases rest with
      | nil => simp [ofList]
      | cons s rest =>
          show r.indices ++ (ofList (s :: rest)).indices = _
          rw [ih]
          rfl

theorem indices_choice (branches : List (List Regex)) :
    (choice branches).indices = branches.flatMap (List.flatMap indices) := by
  induction branches with
  | nil => rfl
  | cons branch rest ih =>
      cases rest with
      | nil => simp [choice, indices_ofList]
      | cons second rest =>
          show (ofList branch).indices ++ (choice (second :: rest)).indices = _
          rw [ih, indices_ofList]
          rfl

/-- A branch that is a part of a class has no groups. -/
theorem indices_of_members? {branch : List Regex} {items : List ClassItem}
    (h : members? branch = some items) : branch.flatMap indices = [] := by
  unfold members? at h
  split at h
  · rfl
  · rfl
  · cases h

theorem indices_branchesOf (m : Modes) (branches : List (List Regex)) :
    (branchesOf m branches).indices = branches.flatMap (List.flatMap indices) := by
  unfold branchesOf
  split
  · next items hitems =>
    have hnone : ∀ (bs : List (List Regex)) (items : List (List ClassItem)),
        bs.mapM members? = some items → bs.flatMap (List.flatMap indices) = [] := by
      intro bs
      induction bs with
      | nil => exact fun _ _ => rfl
      | cons b rest ih =>
          intro items h
          obtain ⟨first, hfirst, further, hfurther, -⟩ := by
            simpa [List.mapM_cons, Option.bind_eq_some_iff] using h
          rw [List.flatMap_cons, indices_of_members? hfirst, ih further hfurther, List.append_nil]
    exact (hnone branches items hitems).symm
  · exact indices_choice branches

/-- Heads that all branches have in common are of one symbol, so that no group is lost with those
of the other branches. -/
theorem indices_factored (m : Modes) (first : List Regex) (others : List (List Regex)) :
    (factored m first others).flatMap indices =
      first.flatMap indices ++ others.flatMap (List.flatMap indices) := by
  induction first generalizing others with
  | nil => simp [factored, indices_branchesOf]
  | cons r rest ih =>
      rw [factored]
      split
      · next hcommon =>
        obtain ⟨hsimple, hheads⟩ := Bool.and_eq_true_iff.1 hcommon
        have htails : (others.map List.tail).flatMap (List.flatMap indices) =
            others.flatMap (List.flatMap indices) := by
          rw [List.flatMap_map]
          refine List.flatMap_congr fun b hb => ?_
          obtain ⟨rest', rfl⟩ : ∃ rest', b = r :: rest' := by
            have hhead := List.all_eq_true.1 hheads b hb
            cases b with
            | nil => simp at hhead
            | cons s rest' => exact ⟨rest', by simpa using hhead⟩
          simp [indices_of_isSimple hsimple]
        rw [List.flatMap_cons, List.flatMap_cons, ih, htails, List.append_assoc]
      · rw [List.flatMap_singleton, indices_branchesOf, List.flatMap_cons]

theorem indices_alternation (m : Modes) (branches : List (List Regex)) :
    (alternation m branches).flatMap indices = branches.flatMap (List.flatMap indices) := by
  cases branches with
  | nil => rfl
  | cons first others =>
      cases others with
      | nil => simp [alternation]
      | cons second rest =>
          show (factored m first (second :: rest)).flatMap indices = _
          rw [indices_factored]
          rfl

/-! ## Items and frames -/

/-- The indices of the groups in an item. -/
def Item.indices (i : Item) : List Nat := i.elements.flatMap Regex.indices

theorem Item.indices_body (i : Item) : i.body.indices = i.indices := by
  cases i with
  | one r => simp [Item.body, Item.indices, Item.elements]
  | plain rs => exact indices_ofList rs

theorem Item.indices_rep (greed : Greed) (least : Nat) (most : Option Nat) (i : Item) :
    (Item.one (.rep greed least most i.body)).indices = i.indices := by
  rw [← i.indices_body]
  exact List.flatMap_singleton ..

theorem Item.indices_withGreed (greed : Greed) (i : Item) :
    (i.withGreed greed).indices = i.indices := by
  cases i with
  | one r => cases r <;> rfl
  | plain rs => rfl

/-- The index of a group that captures. -/
def GroupKind.indices : GroupKind → List Nat
  | .capture index => [index]
  | _ => []

namespace Frame

variable {g : Frame}

/-- The index of an open group, if it captures, and those of the groups that have been read
in it. -/
def indices (g : Frame) : List Nat :=
  g.kind.indices ++ g.branches.reverse.flatMap (List.flatMap Regex.indices) ++
    g.items.reverse.flatMap Item.indices

/-- A condition has one branch at most before the one that is being read. -/
def HasFewBranches (g : Frame) : Prop :=
  ∀ index, g.kind = .condition index → g.branches.length ≤ 1

theorem indices_branch (g : Frame) :
    g.branch.flatMap Regex.indices = g.items.reverse.flatMap Item.indices := by
  rw [Frame.branch, List.flatMap_assoc]
  rfl

theorem indices_allBranches (g : Frame) :
    g.kind.indices ++ g.allBranches.flatMap (List.flatMap Regex.indices) = g.indices := by
  rw [allBranches, List.reverse_cons, List.flatMap_append, List.flatMap_singleton, indices_branch,
    indices, List.append_assoc]

theorem indices_add (g : Frame) (i : Item) : (g.add i).indices = g.indices ++ i.indices := by
  simp [indices, Frame.add]

theorem indices_bar (g : Frame) : g.bar.indices = g.indices := by
  simp [indices, Frame.bar, indices_branch]

theorem indices_elements (g : Frame) :
    g.kind.indices ++ g.elements.flatMap Regex.indices = g.indices := by
  rw [elements, indices_alternation, indices_allBranches]

theorem indices_body (g : Frame) : g.kind.indices ++ g.body.indices = g.indices := by
  rw [body, indices_ofList, indices_elements]

/-- Closing a group keeps the groups in it, and its own index. -/
theorem indices_close (h : g.HasFewBranches) : g.close.indices = g.indices := by
  have hbody := g.indices_body
  have helements := g.indices_elements
  have hall := g.indices_allBranches
  unfold Frame.close
  cases hkind : g.kind with
  | condition index =>
      rw [hkind] at hall
      rw [← hall, allBranches]
      have hfew := h index hkind
      cases hbranches : g.branches with
      | nil => simp [Item.indices, Item.elements, Regex.indices, GroupKind.indices, indices_ofList]
      | cons yes further =>
          obtain rfl : further = [] := by
            rw [hbranches] at hfew
            exact List.length_eq_zero_iff.1 (Nat.le_zero.1 (Nat.le_of_succ_le_succ hfew))
          simp [Item.indices, Item.elements, Regex.indices, GroupKind.indices, indices_ofList]
  | _ =>
      rw [hkind] at hbody helements
      simpa [Item.indices, Item.elements, Regex.indices, GroupKind.indices] using ‹_›

end Frame

/-! ## The state of reading -/

namespace Reader

/-- The indices of all groups read so far, those in the outermost group first. -/
def indices (r : Reader) : List Nat := (r.top :: r.below).reverse.flatMap Frame.indices

/-- The groups read so far are numbered from one on, and the outermost frame is the whole
expression. -/
structure Numbered (r : Reader) : Prop where
  indices : r.indices = List.range' 1 (r.table.next - 1)
  counted : 1 ≤ r.table.next
  few : ∀ g ∈ r.top :: r.below, g.HasFewBranches
  whole : (r.top.kind :: r.below.map Frame.kind).getLast? = some .whole

variable {r q : Reader}

theorem indices_eq (r : Reader) :
    r.indices = r.below.reverse.flatMap Frame.indices ++ r.top.indices := by
  simp [indices]

theorem numbered_start (strict : Bool) (modes : Modes) : (start strict modes).Numbered :=
  ⟨rfl, le_rfl, List.forall_mem_singleton.2 nofun, rfl⟩

namespace Numbered

/-- The innermost frame may change as long as its groups stay. -/
theorem replace (h : r.Numbered) (hbelow : q.below = r.below)
    (hnext : q.table.next = r.table.next) (hkind : q.top.kind = r.top.kind)
    (hindices : q.top.indices = r.top.indices) (hfew : q.top.HasFewBranches) : q.Numbered := by
  refine ⟨?_, hnext ▸ h.counted, ?_, ?_⟩
  · rw [hnext, ← h.indices, indices_eq, indices_eq, hbelow, hindices]
  · rw [hbelow]
    exact List.forall_mem_cons.2 ⟨hfew, (List.forall_mem_cons.1 h.few).2⟩
  · rw [hkind, hbelow]
    exact h.whole

theorem few_top (h : r.Numbered) : r.top.HasFewBranches := h.few _ (List.mem_cons_self ..)

/-- Opening a group that does not capture opens no numbered one. -/
theorem push (h : r.Numbered) {kind : GroupKind} (start : Nat) (modes : Modes)
    (hkind : ∀ index, kind ≠ .capture index) : (r.push kind start modes).Numbered := by
  refine ⟨?_, h.counted, List.forall_mem_cons.2 ⟨fun _ _ => Nat.zero_le _, h.few⟩, ?_⟩
  · have hnone : kind.indices = [] := by
      cases kind <;> first | rfl | exact absurd rfl (hkind _)
    show _ = List.range' 1 (r.table.next - 1)
    rw [← h.indices]
    simp [Reader.indices, Reader.push, Frame.indices, hnone]
  · exact h.whole

/-- A capturing group has the next number. -/
theorem capture (h : r.Numbered) (start : Nat) {table : GroupTable}
    (hnext : table.next = r.table.next + 1) :
    ({ r with table }.push (.capture r.table.next) start r.top.modes).Numbered := by
  refine ⟨?_, ?_, List.forall_mem_cons.2 ⟨nofun, h.few⟩, h.whole⟩
  · have hcounted := h.counted
    show _ = List.range' 1 (table.next - 1)
    have hsucc : table.next - 1 = (r.table.next - 1) + 1 := by omega
    rw [hsucc, List.range'_concat, ← h.indices]
    have hindex : 1 + 1 * (r.table.next - 1) = r.table.next := by omega
    rw [hindex]
    simp [Reader.indices, Reader.push, Frame.indices, GroupKind.indices]
  · show 1 ≤ table.next
    omega

/-- Closing a group keeps it, with the groups in it, in the one around it. -/
theorem close (h : r.Numbered) {outer : Frame} {further : List Frame}
    (hbelow : r.below = outer :: further) : (r.close outer further).Numbered := by
  have hnext : (r.close outer further).table.next = r.table.next := by
    unfold Reader.close
    dsimp only
    split <;> rfl
  have hfew := h.few
  have hwhole := h.whole
  rw [hbelow] at hfew hwhole
  obtain ⟨htop, hrest⟩ := List.forall_mem_cons.1 hfew
  refine ⟨?_, hnext ▸ h.counted, ?_, ?_⟩
  · rw [hnext, ← h.indices, indices_eq, indices_eq, hbelow]
    show further.reverse.flatMap Frame.indices ++ (outer.add r.top.close).indices = _
    rw [Frame.indices_add, Frame.indices_close htop]
    simp
  · obtain ⟨houter, hfurther⟩ := List.forall_mem_cons.1 hrest
    exact List.forall_mem_cons.2 ⟨houter, hfurther⟩
  · exact hwhole

/-- **A change keeps the groups numbered in their order.** -/
theorem change (h : r.Numbered) (hchange : r.Change q) : q.Numbered := by
  cases hchange with
  | place | await => exact h.replace rfl rfl rfl rfl h.few_top
  | add hsimple =>
      refine h.replace rfl rfl rfl ?_ h.few_top
      show (r.top.add _).indices = _
      rw [Frame.indices_add]
      simp [Item.indices, Item.elements, indices_of_isSimple hsimple]
  | push start modes hkind => exact h.push start modes hkind
  | capture start hnext _ => exact h.capture start hnext
  | behind negated start =>
      unfold Reader.behind
      split
      · exact h.push start _ nofun
      · let noted : Reader := { r with table := { r.table with behindFrom := some r.table.next } }
        have hnoted : noted.Numbered := ⟨h.indices, h.counted, h.few, h.whole⟩
        exact hnoted.push start _ nofun
  | close hbelow => exact h.close hbelow
  | bar hbranches =>
      refine h.replace rfl rfl rfl r.top.indices_bar fun index hkind => ?_
      show (_ :: r.top.branches).length ≤ 1
      rw [hbranches index hkind]
      exact le_rfl
  | quantify least most hitems =>
      refine h.replace rfl rfl rfl ?_ h.few_top
      simp [Frame.indices, hitems, Item.indices_rep]
  | setGreed greed =>
      unfold Reader.setGreed
      split
      · exact h.replace rfl rfl rfl rfl h.few_top
      · next item rest hitems =>
        refine h.replace rfl rfl rfl ?_ h.few_top
        simp [Frame.indices, hitems, Item.indices_withGreed]
  | awaitGroup index position =>
      exact h.replace rfl (GroupTable.next_await ..) rfl rfl h.few_top
  | setGlobals on _ => exact h.replace rfl rfl rfl rfl h.few_top

theorem changes (h : r.Numbered) (hchanges : r.Changes q) : q.Numbered := by
  induction hchanges with
  | refl => exact h
  | tail _ hchange ih => exact ih.change hchange

end Numbered

end Reader

/-- **The groups of an expression that compiles are numbered in their order**: there are as many as
have been counted, and none is lost or doubled. -/
theorem indices_of_compile {strict : Bool} {m : Modes} {cs : List Char} {program : Program}
    (h : compile strict m cs = .ok program) :
    program.regex.indices = List.range' 1 program.groups := by
  obtain ⟨q, hq, -, rfl⟩ := compile_eq_ok.1 h
  obtain ⟨-, p, hp, hfinish⟩ := read_eq_ok.1 hq
  obtain ⟨hsettle, hbelow, -, -⟩ := Reader.finish_eq_ok.1 hfinish
  have hnumbered : q.Numbered :=
    ((Reader.numbered_start strict m).changes (Reader.leads_feedAll _ _ _ p hp)).changes
      (Reader.leads_settle p q hsettle)
  have hwhole := hnumbered.whole
  have hindices := hnumbered.indices
  rw [hbelow] at hwhole
  rw [Reader.indices_eq, hbelow] at hindices
  have hkind : q.top.kind = .whole := Option.some.inj hwhole
  have hbody := q.top.indices_body
  rw [hkind] at hbody
  exact hbody.trans hindices

end PathRouter.Regex
