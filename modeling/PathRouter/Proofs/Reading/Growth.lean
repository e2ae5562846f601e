import PathRouter.Proofs.Reading.Changes

set_option autoImplicit false

/-! # What reading never takes back

A capturing group that has been opened stays counted, a group that a condition depends on stays
awaited, and flags that have been set for the whole expression stay set, whatever is read
afterwards (`Changes.grows`). Once anything has been read that takes part in a match, there always
is, and no more flags are set for the whole expression. A lone backslash at the end is never read
(`feed_cut`).
-/

namespace PathRouter.Regex

theorem GroupTable.awaited_subset_await (t : GroupTable) (index position : Nat) :
    t.awaited ⊆ (t.await index position).awaited := by
  unfold GroupTable.await
  split
  · exact List.Subset.refl _
  · exact List.subset_cons_self _ _

theorem GroupTable.next_await (t : GroupTable) (index position : Nat) :
    (t.await index position).next = t.next := by
  unfold GroupTable.await
  split <;> rfl

/-- A group that a condition depends on is awaited. -/
theorem GroupTable.exists_mem_await (t : GroupTable) (index position : Nat) :
    ∃ a ∈ (t.await index position).awaited, a.1 = index := by
  unfold GroupTable.await
  split
  · next h =>
    obtain ⟨a, ha, hindex⟩ := List.lookup_isSome_iff.1 h
    exact ⟨a, ha, (beq_iff_eq.1 hindex).symm⟩
  · exact ⟨(index, position), List.mem_cons_self .., rfl⟩

namespace Reader

/-- The state `q` may come after the state `r`, as far as groups and global flags tell. -/
structure Grows (r q : Reader) : Prop where
  next : r.table.next ≤ q.table.next
  awaited : r.table.awaited ⊆ q.table.awaited
  globals : r.globals ≠ [] → q.globals ≠ []
  begun : r.atStart = false → q.atStart = false ∧ q.globals = r.globals

variable {r q : Reader}

theorem Grows.of_same (htable : q.table = r.table) (hglobals : q.globals = r.globals)
    (hbegun : r.atStart = false → q.atStart = false) : r.Grows q := by
  refine ⟨?_, ?_, ?_, ?_⟩
  · rw [htable]
  · rw [htable]
    exact List.Subset.refl _
  · rw [hglobals]
    exact id
  · exact fun hr => ⟨hbegun hr, hglobals⟩

theorem Grows.refl (r : Reader) : r.Grows r := .of_same rfl rfl id

theorem Grows.trans {s : Reader} (h : r.Grows q) (h' : q.Grows s) : r.Grows s := by
  refine ⟨h.next.trans h'.next, List.Subset.trans h.awaited h'.awaited, h'.globals ∘ h.globals, ?_⟩
  intro hr
  obtain ⟨hq, hglobals⟩ := h.begun hr
  obtain ⟨hs, hglobals'⟩ := h'.begun hq
  exact ⟨hs, hglobals'.trans hglobals⟩

/-! ## Single changes -/

theorem atStart_of_items (h : r.top.items.isEmpty = false) : r.atStart = false := by
  rw [atStart, h, Bool.and_false]

theorem atStart_of_branches (h : r.top.branches.isEmpty = false) : r.atStart = false := by
  rw [atStart, h, Bool.and_false, Bool.false_and]

theorem grows_behind (r : Reader) (negated : Bool) (start : Nat) :
    r.Grows (r.behind negated start) := by
  unfold behind
  split
  · exact .of_same rfl rfl fun _ => rfl
  · exact ⟨le_rfl, List.Subset.refl _, id, fun _ => ⟨rfl, rfl⟩⟩

theorem grows_close (r : Reader) (outer : Frame) (further : List Frame) :
    r.Grows (r.close outer further) := by
  unfold close
  dsimp only
  -- what has been closed is an item of the group around it
  split
  · exact ⟨le_rfl, List.Subset.refl _, id, fun _ => ⟨atStart_of_items rfl, rfl⟩⟩
  · exact ⟨le_rfl, List.Subset.refl _, id, fun _ => ⟨atStart_of_items rfl, rfl⟩⟩
  · exact .of_same rfl rfl fun _ => atStart_of_items rfl

theorem grows_setGreed (r : Reader) (greed : Greed) : r.Grows (r.setGreed greed) := by
  unfold setGreed
  split
  · exact .of_same rfl rfl id
  · exact .of_same rfl rfl fun _ => atStart_of_items rfl

/-- **A change takes nothing back.** -/
theorem Change.grows (h : r.Change q) : r.Grows q := by
  cases h with
  | place | await => exact .of_same rfl rfl id
  | add => exact .of_same rfl rfl fun _ => atStart_of_items rfl
  | push => exact .of_same rfl rfl fun _ => rfl
  | capture _ hnext hawaited =>
      exact ⟨hnext ▸ Nat.le_succ _, hawaited ▸ List.Subset.refl _, id, fun _ => ⟨rfl, rfl⟩⟩
  | behind => exact grows_behind ..
  | close => exact grows_close ..
  | bar => exact .of_same rfl rfl fun _ => atStart_of_branches rfl
  | quantify => exact .of_same rfl rfl fun _ => atStart_of_items rfl
  | setGreed => exact grows_setGreed ..
  | awaitGroup =>
      refine ⟨(GroupTable.next_await ..).ge, GroupTable.awaited_subset_await .., id, ?_⟩
      exact fun hr => ⟨hr, rfl⟩
  | setGlobals _ hstart =>
      refine ⟨le_rfl, List.Subset.refl _, List.append_ne_nil_of_right_ne_nil _, fun hr => ?_⟩
      rw [hr] at hstart
      cases hstart

/-- **Neither does a chain of changes**, and with it reading any number of symbols. -/
theorem Changes.grows (h : r.Changes q) : r.Grows q := by
  induction h with
  | refl => exact .refl r
  | tail _ hchange ih => exact ih.trans hchange.grows

/-! ## A lone backslash -/

/-- Something that does not touch the state, and a step after it that is refused. -/
theorem bind_refused {β : Type} (x : Except Error β) {g : β → Except Error Reader}
    (hg : ∀ b, ∃ e, g b = .error e) : ∃ e, x >>= g = .error e := by
  cases x with
  | error e => exact ⟨e, rfl⟩
  | ok b => exact hg b

theorem feedReady_cut (r : Reader) (s : Symbol) : ∃ e, r.feedReady s true = .error e := by
  unfold feedReady
  dsimp only
  split
  · split <;> exact ⟨_, rfl⟩
  · split
    · split
      · exact bind_refused _ fun _ => ⟨_, rfl⟩
      · exact ⟨_, rfl⟩
    · exact ⟨_, rfl⟩

/-- A symbol before a lone backslash at the end is refused. -/
theorem feed_cut (r : Reader) (s : Symbol) : ∃ e, r.feed s true = .error e := by
  unfold feed
  cases hpending : r.pending with
  | ready => exact feedReady_cut r s
  | quantified =>
      dsimp only
      split
      · exact ⟨_, rfl⟩
      · split
        · exact ⟨_, rfl⟩
        · exact feedReady_cut r s
  | escape start n =>
      dsimp only
      split
      · exact ⟨_, rfl⟩
      · exact bind_refused _ fun _ => feedReady_cut _ s
  | reference start first =>
      dsimp only
      split
      · exact ⟨_, rfl⟩
      · exact bind_refused _ fun _ => feedReady_cut _ s
  | octalReference start first second =>
      dsimp only
      split
      · exact ⟨_, rfl⟩
      · exact bind_refused _ fun _ => feedReady_cut _ s
  | bounds start least most =>
      dsimp only
      split
      · exact ⟨_, rfl⟩
      · split
        · exact ⟨_, rfl⟩
        · split
          · exact ⟨_, rfl⟩
          · exact feedReady_cut _ s
  | bracket b => exact bind_refused _ fun _ => ⟨_, rfl⟩
  | opening start =>
      dsimp only
      split
      · exact ⟨_, rfl⟩
      · exact bind_refused _ fun _ => feedReady_cut _ s
  | _ => exact ⟨_, rfl⟩

/-- So a lone backslash at the end is never read. -/
theorem feedAll_lone {ss : List Symbol} (hss : ss ≠ []) (r : Reader) :
    ∃ e, feedAll true ss r = .error e := by
  induction ss generalizing r with
  | nil => exact absurd rfl hss
  | cons s rest ih =>
      cases rest with
      | nil =>
          obtain ⟨e, he⟩ := feed_cut r s
          -- the last symbol is the one that the backslash cuts short
          exact ⟨e, by simp [feedAll, he, bind, Except.bind]⟩
      | cons t rest => exact bind_refused _ fun q => ih (List.cons_ne_nil _ _) q

end Reader

end PathRouter.Regex
