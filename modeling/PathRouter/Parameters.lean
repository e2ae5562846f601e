import PathRouter.Text.Quoted

/-!
# Bindings of names to values

`Bindings` is an ordered map: every name is bound once, a name that is bound again keeps its place
and takes the new value. `Parameters` are bindings to texts: the values that a template is expanded
with, and the values that a pattern finds in a path.
-/

set_option autoImplicit false

namespace PathRouter

/-- The list with `name` bound to `value`: in the place of its binding, or at the end. -/
def bindName {α : Type} (name : String) (value : α) : List (String × α) → List (String × α)
  | [] => [(name, value)]
  | (n, v) :: rest =>
    if n = name then (name, value) :: rest else (n, v) :: bindName name value rest

/-- The names of a list with one more binding: a new name is added at the end. -/
theorem map_fst_bindName {α : Type} (name : String) (value : α) (items : List (String × α)) :
    (bindName name value items).map Prod.fst =
      if name ∈ items.map Prod.fst then items.map Prod.fst else items.map Prod.fst ++ [name] := by
  induction items with
  | nil => simp [bindName]
  | cons item rest ih =>
    obtain ⟨n, v⟩ := item
    by_cases h : n = name
    · simp [bindName, h]
    · have h' : ¬ name = n := fun e => h e.symm
      by_cases hm : name ∈ rest.map Prod.fst
      · simp [bindName, h, h', ih, hm]
      · simp [bindName, h, h', ih, hm]

/-- The value of a name in a list with one more binding. -/
theorem lookup_bindName {α : Type} (name other : String) (value : α)
    (items : List (String × α)) :
    (bindName name value items).lookup other =
      if other = name then some value else items.lookup other := by
  induction items with
  | nil =>
    by_cases h : other = name
    · simp [bindName, h]
    · have hb : (other == name) = false := by simp [h]
      simp [bindName, h, List.lookup_cons, hb]
  | cons item rest ih =>
    obtain ⟨n, v⟩ := item
    by_cases hn : n = name
    · by_cases h : other = name
      · simp [bindName, hn, h]
      · have hb : (other == name) = false := by simp [h]
        simp [bindName, hn, h, List.lookup_cons, hb]
    · by_cases h : other = n
      · simp [bindName, h, hn]
      · have hb : (other == n) = false := by simp [h]
        simp [bindName, hn, List.lookup_cons, hb, ih]

/-- An ordered map from names to values. -/
structure Bindings (α : Type) where
  items : List (String × α)
  nodup : (items.map Prod.fst).Nodup

namespace Bindings

variable {α : Type}

/-- No bindings. -/
def empty : Bindings α := ⟨[], List.nodup_nil⟩

instance : EmptyCollection (Bindings α) := ⟨empty⟩

/-- Binds a name, in the place it has or at the end. -/
def insert (b : Bindings α) (name : String) (value : α) : Bindings α :=
  ⟨bindName name value b.items, by
    rw [map_fst_bindName]
    split
    · exact b.nodup
    · next h =>
      refine List.nodup_append.2 ⟨b.nodup, by simp, ?_⟩
      intro a ha c hc
      simp only [List.mem_singleton] at hc
      subst hc
      exact fun e => h (e ▸ ha)⟩

/-- Binds names one after the other. -/
def insertAll (b : Bindings α) (pairs : List (String × α)) : Bindings α :=
  pairs.foldl (fun b p => b.insert p.1 p.2) b

/-- The bindings made by pairs, one after the other. -/
def ofList (pairs : List (String × α)) : Bindings α := insertAll empty pairs

/-- The value of a name. -/
def get? (b : Bindings α) (name : String) : Option α := b.items.lookup name

/-- Binding a name changes the value of that name alone. -/
theorem get?_insert (b : Bindings α) (name other : String) (value : α) :
    (b.insert name value).get? other = if other = name then some value else b.get? other := by
  obtain ⟨items, nodup⟩ := b
  show (bindName name value items).lookup other = _
  exact lookup_bindName name other value items

/-- Of the values that a name is bound to one after the other, the last one stays. -/
theorem get?_insertAll (b : Bindings α) (pairs : List (String × α)) (name : String) :
    (b.insertAll pairs).get? name = (pairs.reverse.lookup name).or (b.get? name) := by
  induction pairs generalizing b with
  | nil => rfl
  | cons pair rest ih =>
    obtain ⟨n, v⟩ := pair
    have hstep : b.insertAll ((n, v) :: rest) = (b.insert n v).insertAll rest := rfl
    rw [hstep, ih, get?_insert, List.reverse_cons, List.lookup_append, Option.or_assoc]
    congr 1
    by_cases h : name = n
    · simp [h]
    · have hb : (name == n) = false := by simp [h]
      simp [h, List.lookup_cons, hb]

/-- Whether a name is bound. -/
def contains (b : Bindings α) (name : String) : Bool := (b.get? name).isSome

/-- The names, in the order in which they were first bound. -/
def names (b : Bindings α) : List String := b.items.map Prod.fst

/-- Binding a name that is bound already keeps the names; another one is the last of them. -/
theorem names_insert (b : Bindings α) (name : String) (value : α) :
    (b.insert name value).names =
      if name ∈ b.names then b.names else b.names ++ [name] :=
  map_fst_bindName name value b.items

/-- The values, in the order of their names. -/
def values (b : Bindings α) : List α := b.items.map Prod.snd

/-- The number of names. -/
def size (b : Bindings α) : Nat := b.items.length

/-- Whether two maps bind the same names to the same values, in any order. -/
def agrees [BEq α] (a b : Bindings α) : Bool :=
  a.size == b.size && a.items.all fun (name, value) =>
    match b.get? name with
    | some other => value == other
    | none => false

/-- Whether two maps hold the same bindings in the same order. -/
def same [BEq α] (a b : Bindings α) : Bool := a.items == b.items

/-- The bindings as text, values written by `shown`. -/
def describe (shown : α → String) (b : Bindings α) : String :=
  let parts := b.items.map fun (name, value) => Text.quoted name ++ ": " ++ shown value
  "Parameters(\x7b" ++ ", ".intercalate parts ++ "\x7d)"

end Bindings

/-- Bindings of variable names to texts. -/
abbrev Parameters := Bindings String

end PathRouter
