import PathRouter.Failure
import PathRouter.Outcome
import PathRouter.Text.Case

/-!
# Methods

The methods of a route are a set of names in upper case. A set is held as a list in ascending order
without repetitions, so that equal sets are equal lists.
-/

set_option autoImplicit false

namespace PathRouter

open Text

namespace Methods

/-- A set with one more name. -/
def insert (name : String) : List String → List String
  | [] => [name]
  | n :: rest =>
    if before name n then name :: n :: rest
    else if name = n then n :: rest
    else n :: insert name rest

/-- The set of the names in a list. -/
def ofList (names : List String) : List String := names.foldr insert []

/-- The union of two sets. -/
def union (a b : List String) : List String := a.foldr insert b

/-- The names that two sets have in common. -/
def inter (a b : List String) : List String := a.filter b.contains

/-- Whether all names of the first set are in the second. -/
def isSubset (a b : List String) : Bool := a.all b.contains

/-! ## Members -/

@[simp] theorem mem_insert {name m : String} {names : List String} :
    m ∈ insert name names ↔ m = name ∨ m ∈ names := by
  induction names with
  | nil => simp [insert]
  | cons n rest ih =>
    rw [insert]
    split
    · simp
    · split
      · next h => subst h; simp
      · simp only [List.mem_cons, ih]
        exact or_left_comm

@[simp] theorem mem_ofList {m : String} {names : List String} : m ∈ ofList names ↔ m ∈ names := by
  induction names with
  | nil => simp [ofList]
  | cons n rest ih => simpa [ofList] using or_congr_right ih

@[simp] theorem mem_union {m : String} {a b : List String} : m ∈ union a b ↔ m ∈ a ∨ m ∈ b := by
  induction a with
  | nil => simp [union]
  | cons n rest ih => simpa [union, or_assoc] using or_congr_right ih

@[simp] theorem mem_inter {m : String} {a b : List String} : m ∈ inter a b ↔ m ∈ a ∧ m ∈ b := by
  simp [inter]

theorem isSubset_iff {a b : List String} : isSubset a b = true ↔ ∀ m ∈ a, m ∈ b := by
  simp [isSubset]

/-! ## Order -/

/-- Every name comes before all names that follow it. -/
def Ascending (names : List String) : Prop := names.Pairwise fun a b => before a b = true

/-- Inserting a name keeps the ascending order. -/
theorem ascending_insert {name : String} {names : List String} (h : Ascending names) :
    Ascending (insert name names) := by
  induction names with
  | nil => simp [insert, Ascending]
  | cons n rest ih =>
    obtain ⟨least, sorted⟩ := List.pairwise_cons.1 h
    rw [insert]
    split
    · next first =>
      refine List.pairwise_cons.2 ⟨?_, h⟩
      intro m hm
      rcases List.mem_cons.1 hm with rfl | hm
      · exact first
      · exact before_trans first (least m hm)
    · next notFirst =>
      split
      · exact h
      · next different =>
        refine List.pairwise_cons.2 ⟨?_, ih sorted⟩
        intro m hm
        rcases mem_insert.1 hm with rfl | hm
        · rcases before_trichotomy m n with h | h | h
          · exact absurd h notFirst
          · exact absurd h different
          · exact h
        · exact least m hm

theorem ascending_ofList (names : List String) : Ascending (ofList names) := by
  induction names with
  | nil => exact List.Pairwise.nil
  | cons n rest ih => exact ascending_insert ih

theorem ascending_union {a b : List String} (h : Ascending b) : Ascending (union a b) := by
  induction a with
  | nil => exact h
  | cons n rest ih => exact ascending_insert ih

/-- No name is repeated in ascending names. -/
theorem Ascending.nodup {names : List String} (h : Ascending names) : names.Nodup := by
  refine List.Pairwise.imp ?_ h
  intro a b first same
  subst same
  simp [before_irrefl] at first

/-- Sets with the same members are the same list. -/
theorem eq_of_mem_iff {a b : List String} (ha : Ascending a) (hb : Ascending b)
    (same : ∀ m, m ∈ a ↔ m ∈ b) : a = b := by
  induction a generalizing b with
  | nil =>
    cases b with
    | nil => rfl
    | cons n rest => exact absurd ((same n).2 (List.mem_cons_self ..)) (by simp)
  | cons m as ih =>
    cases b with
    | nil => exact absurd ((same m).1 (List.mem_cons_self ..)) (by simp)
    | cons n bs =>
      obtain ⟨leastA, sortedA⟩ := List.pairwise_cons.1 ha
      obtain ⟨leastB, sortedB⟩ := List.pairwise_cons.1 hb
      have heads : m = n := by
        rcases List.mem_cons.1 ((same m).1 (List.mem_cons_self ..)) with h | h
        · exact h
        · rcases List.mem_cons.1 ((same n).2 (List.mem_cons_self ..)) with h' | h'
          · exact h'.symm
          · exact absurd (leastA n h') (by simp [before_asymm (leastB m h)])
      subst heads
      congr 1
      refine ih sortedA sortedB fun k => ?_
      constructor
      · intro hk
        rcases List.mem_cons.1 ((same k).1 (List.mem_cons_of_mem _ hk)) with h | h
        · exact absurd (h ▸ leastA k hk) (by simp [before_irrefl])
        · exact h
      · intro hk
        rcases List.mem_cons.1 ((same k).2 (List.mem_cons_of_mem _ hk)) with h | h
        · exact absurd (h ▸ leastB k hk) (by simp [before_irrefl])
        · exact h

/-! ## Normal forms -/

/-- The names that a value lists: a text is one name. -/
def listed : Value → Except Failure (List Value)
  | .text s => .ok [.text s]
  | .list items => .ok items
  | .record fields => .ok (fields.map fun field => .text field.1)
  | v => .error (.notIterable v.kindName)

/-- A name without the blanks around it, in upper case. -/
def nameOf (v : Value) : Except Failure String :=
  match v with
  | .text s => if (trim s).isEmpty then .error (.invalidMethod v) else .ok (upper (trim s))
  | _ => .error (.invalidMethod v)

/-- The methods that a value stands for, at least one. -/
def normalize (v : Value) : Except Failure (List String) := do
  let names ← (← listed v).mapM nameOf
  if names.isEmpty then .error .noMethod else .ok (ofList names)

/-- The methods that a value stands for are a set. -/
theorem ascending_of_normalize {v : Value} {methods : List String}
    (h : normalize v = .ok methods) : Ascending methods := by
  obtain ⟨items, -, h⟩ := Outcome.bind_eq_ok.1 h
  obtain ⟨names, -, h⟩ := Outcome.bind_eq_ok.1 h
  split at h
  · cases h
  · cases h
    exact ascending_ofList names

end Methods

end PathRouter
