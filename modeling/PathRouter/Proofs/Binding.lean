import PathRouter.Proofs.Grammar

set_option autoImplicit false

/-! # What tokens bind

Names that are bound one after the other are kept once each, in the order in which they first come
(`Bindings.names_ofList`); if they are distinct, the bindings are just the pairs
(`Bindings.items_ofList`). A pattern binds its tokens' names to their pieces in this way
(`Pattern.foldl_bind`), and the name of the remainder is the name of no variable
(`Token.remainderName_not_mem_of_ofSource`), so that it comes last.
-/

namespace PathRouter

/-! ## Binding names one after the other -/

section

variable {α : Type}

theorem bindName_of_not_mem {name : String} (value : α) {items : List (String × α)}
    (h : name ∉ items.map Prod.fst) : bindName name value items = items ++ [(name, value)] := by
  induction items with
  | nil => rfl
  | cons item rest ih =>
      obtain ⟨n, v⟩ := item
      rw [List.map_cons, List.mem_cons, not_or] at h
      rw [bindName, if_neg (Ne.symm h.1), ih h.2, List.cons_append]

namespace Bindings

theorem names_insertAll (b : Bindings α) (pairs : List (String × α)) :
    (b.insertAll pairs).names =
      b.names ++ ((pairs.map Prod.fst).filter fun name => decide (name ∉ b.names)).eraseDups := by
  induction pairs generalizing b with
  | nil => simp [insertAll]
  | cons pair rest ih =>
      obtain ⟨name, value⟩ := pair
      have hstep : b.insertAll ((name, value) :: rest) = (b.insert name value).insertAll rest := rfl
      rw [hstep, ih, names_insert, List.map_cons, List.filter_cons]
      by_cases hname : name ∈ b.names
      · -- a name that is bound already
        simp [hname]
      · -- a new name: what is bound to it later adds no name
        have hfilter : ((rest.map Prod.fst).filter fun n => decide (n ∉ b.names ++ [name])) =
            ((rest.map Prod.fst).filter fun n => decide (n ∉ b.names)).filter
              fun n => !(n == name) := by
          rw [List.filter_filter]
          refine List.filter_congr fun n _ => ?_
          simp [Bool.and_comm, Bool.beq_eq_decide_eq]
        rw [if_neg hname, hfilter, if_pos (by simpa using hname), List.eraseDups_cons,
          List.append_assoc, List.singleton_append]

/-- Every name is kept once. -/
theorem names_ofList (pairs : List (String × α)) :
    (ofList pairs).names = (pairs.map Prod.fst).eraseDups := by
  have hempty : (empty : Bindings α).names = [] := rfl
  rw [ofList, names_insertAll, hempty]
  simp

theorem items_insertAll {b : Bindings α} {pairs : List (String × α)}
    (h : (b.names ++ pairs.map Prod.fst).Nodup) : (b.insertAll pairs).items = b.items ++ pairs := by
  induction pairs generalizing b with
  | nil => simp [insertAll]
  | cons pair rest ih =>
      obtain ⟨name, value⟩ := pair
      have hstep : b.insertAll ((name, value) :: rest) = (b.insert name value).insertAll rest := rfl
      have hname : name ∉ b.names := by
        intro hmem
        exact (List.disjoint_of_nodup_append h) hmem (List.mem_cons_self ..)
      have hitems : (b.insert name value).items = b.items ++ [(name, value)] :=
        bindName_of_not_mem value hname
      have hrest : ((b.insert name value).names ++ rest.map Prod.fst).Nodup := by
        rw [names_insert, if_neg hname]
        simpa using h
      rw [hstep, ih hrest, hitems, List.append_assoc, List.singleton_append]

/-- Distinct names are bound to the values that come with them. -/
theorem items_ofList {pairs : List (String × α)} (h : (pairs.map Prod.fst).Nodup) :
    (ofList pairs).items = pairs :=
  items_insertAll h

/-- A name is bound to the value that comes with it last. -/
theorem get?_ofList_of_last {before after : List (String × α)} {name : String} (value : α)
    (h : name ∉ after.map Prod.fst) :
    (ofList (before ++ (name, value) :: after)).get? name = some value := by
  have hafter : after.reverse.lookup name = none := by
    refine List.lookup_eq_none_iff.2 fun pair hpair => ?_
    rw [bne_iff_ne]
    rintro rfl
    exact h (List.mem_map_of_mem (List.mem_reverse.1 hpair))
  rw [ofList, get?_insertAll, List.reverse_append, List.reverse_cons, List.lookup_append,
    List.lookup_append, hafter, Option.none_or, List.lookup_cons_self]
  rfl

theorem get?_ofList {pairs : List (String × α)} (h : (pairs.map Prod.fst).Nodup) {name : String}
    {value : α} (hmem : (name, value) ∈ pairs) : (ofList pairs).get? name = some value := by
  obtain ⟨before, after, rfl⟩ := List.append_of_mem hmem
  rw [List.map_append, List.map_cons] at h
  exact get?_ofList_of_last value (List.nodup_cons.1 (List.nodup_append.1 h).2.1).1

end Bindings

end

/-! ## The names of tokens -/

namespace Token

/-- The name of a variable. -/
def variableName? : Token → Option String
  | .var v => some v.name
  | _ => none

/-- The name that a token binds. -/
def boundName? : Token → Option String
  | .literal _ => none
  | .var v => some v.name
  | .wildcard _ => some remainderName

/-- What a token stands for if it has captured a piece: a literal for its text, and a variable that
has captured nothing for its default, if it has one. -/
def value : Token → String → String
  | .literal text, _ => text
  | .var v, piece => if piece.isEmpty then v.default?.getD "" else piece
  | .wildcard _, piece => piece

/-- What a token with its piece binds. -/
def binding? (pair : Token × String) : Option (String × String) :=
  pair.1.boundName?.map fun name => (name, pair.1.value pair.2)

/-- No variable of a source has the name of the remainder. -/
theorem remainderName_not_mem_of_ofSource {source : String} {validateDefaults : Bool}
    {tokens : List Token} (h : ofSource source validateDefaults = .ok tokens) :
    remainderName ∉ tokens.filterMap variableName? := by
  have hnone : ∀ t ∈ tokens, t.variableName? ≠ some remainderName := by
    refine forall_mem_of_ofSource (fun _ => nofun) nofun ?_ h
    intro ctx text first last s _ hparse expression hname
    obtain ⟨name, default?, constraint?, hspecifies, rfl⟩ := VarSpec.parse_eq_ok.1 hparse
    have hname : String.ofList name = remainderName := Option.some.inj hname
    have hstar : name = ['*'] := by
      rw [← String.toList_ofList (l := name), hname]
      rfl
    -- an asterisk is no name
    have hisName := VarSpec.isName_iff.2 hspecifies.named
    rw [hstar] at hisName
    exact absurd hisName (by decide)
  intro hmem
  obtain ⟨t, ht, hname⟩ := List.mem_filterMap.1 hmem
  exact hnone t ht hname

/-- Whether the last of the tokens is a wildcard. -/
def endInWildcard (tokens : List Token) : Bool :=
  tokens.getLast?.any fun t => t.kind == .wildcard

/-- The name of the remainder is bound last, if there is a wildcard. -/
theorem filterMap_boundName? {tokens : List Token} (h : Pattern.areMatchable tokens = true) :
    tokens.filterMap boundName? =
      tokens.filterMap variableName? ++ if endInWildcard tokens then [remainderName] else [] := by
  induction tokens with
  | nil => rfl
  | cons t rest ih =>
      cases rest with
      | nil => cases t <;> rfl
      | cons u rest =>
          obtain ⟨ht, hrest⟩ := Bool.and_eq_true_iff.1 h
          have hlast : endInWildcard (t :: u :: rest) = endInWildcard (u :: rest) := by
            rw [endInWildcard, endInWildcard, List.getLast?_cons_cons]
          rw [hlast]
          cases t with
          | literal text => exact ih hrest
          | var v => exact congrArg (v.name :: ·) (ih hrest)
          | wildcard expression => cases ht

theorem map_fst_binding? {tokens : List Token} {pieces : List String}
    (h : tokens.length = pieces.length) :
    ((tokens.zip pieces).filterMap binding?).map Prod.fst = tokens.filterMap boundName? := by
  have hfst : ((tokens.zip pieces).map Prod.fst) = tokens := List.map_fst_zip h.le
  calc ((tokens.zip pieces).filterMap binding?).map Prod.fst
      = (tokens.zip pieces).filterMap fun pair => pair.1.boundName? := by
        rw [List.map_filterMap]
        refine List.filterMap_congr fun pair _ => ?_
        simp [binding?, Function.comp_def]
    _ = ((tokens.zip pieces).map Prod.fst).filterMap boundName? := by
        rw [List.filterMap_map]
        rfl
    _ = tokens.filterMap boundName? := by rw [hfst]

/-- A name is bound to what the last token that binds it stands for. -/
theorem get?_bound_of_last {tokens before after : List Token} {pieces : List String}
    (hlength : tokens.length = pieces.length) {t : Token} (htokens : tokens = before ++ t :: after)
    {name : String} (ht : t.boundName? = some name) (hlast : name ∉ after.filterMap boundName?) :
    ∃ piece, pieces[before.length]? = some piece ∧ (t, piece) ∈ tokens.zip pieces ∧
      (Bindings.ofList ((tokens.zip pieces).filterMap binding?)).get? name =
        some (t.value piece) := by
  subst htokens
  obtain ⟨earlier, later, rfl, hearlier⟩ : ∃ earlier later, pieces = earlier ++ later ∧
      earlier.length = before.length := by
    refine ⟨pieces.take before.length, pieces.drop before.length,
      (List.take_append_drop ..).symm, ?_⟩
    rw [List.length_take, ← hlength, List.length_append]
    omega
  cases later with
  | nil =>
      rw [List.length_append, List.length_append, hearlier] at hlength
      simp at hlength
  | cons piece later =>
      have hzip : (before ++ t :: after).zip (earlier ++ piece :: later) =
          before.zip earlier ++ (t, piece) :: after.zip later := List.zip_append hearlier.symm
      have hbinding : binding? (t, piece) = some (name, t.value piece) := by
        rw [binding?, ht, Option.map_some]
      have hrest : after.length = later.length := by
        rw [List.length_append, List.length_append, hearlier, List.length_cons,
          List.length_cons] at hlength
        omega
      refine ⟨piece, ?_, ?_, ?_⟩
      · rw [← hearlier, List.getElem?_append_right le_rfl, Nat.sub_self]
        rfl
      · rw [hzip]
        exact List.mem_append_right _ (List.mem_cons_self ..)
      · rw [hzip, List.filterMap_append, List.filterMap_cons_some hbinding]
        refine Bindings.get?_ofList_of_last _ ?_
        rwa [map_fst_binding? hrest]

/-- Apart from the name of the remainder, the names that tokens bind are those of variables. -/
theorem not_mem_boundNames {tokens : List Token} {name : String} (hname : name ≠ remainderName)
    (h : name ∉ tokens.filterMap variableName?) : name ∉ tokens.filterMap boundName? := by
  intro hmem
  obtain ⟨t, ht, hbound⟩ := List.mem_filterMap.1 hmem
  refine h (List.mem_filterMap.2 ⟨t, ht, ?_⟩)
  cases t with
  | literal text => cases hbound
  | var v => exact hbound
  | wildcard expression => exact absurd (Option.some.inj hbound).symm hname

/-- So is the name of a variable that is the last one of its name. -/
theorem get?_bound_of_last_variable {tokens before after : List Token} {pieces : List String}
    (hlength : tokens.length = pieces.length)
    (hremainder : remainderName ∉ tokens.filterMap variableName?) {v : Variable}
    (htokens : tokens = before ++ .var v :: after)
    (hlast : v.name ∉ after.filterMap variableName?) :
    ∃ piece, pieces[before.length]? = some piece ∧ (.var v, piece) ∈ tokens.zip pieces ∧
      (Bindings.ofList ((tokens.zip pieces).filterMap binding?)).get? v.name =
        some ((Token.var v).value piece) := by
  refine get?_bound_of_last hlength htokens rfl (not_mem_boundNames ?_ hlast)
  rintro hname
  refine hremainder (List.mem_filterMap.2 ⟨.var v, ?_, congrArg some hname⟩)
  rw [htokens]
  exact List.mem_append_right _ (List.mem_cons_self ..)

/-- Distinct variables bind distinct names, also with the remainder. -/
theorem nodup_filterMap_boundName? {tokens : List Token}
    (hmatchable : Pattern.areMatchable tokens = true)
    (hremainder : remainderName ∉ tokens.filterMap variableName?)
    (h : (tokens.filterMap variableName?).Nodup) : (tokens.filterMap boundName?).Nodup := by
  rw [filterMap_boundName? hmatchable]
  split
  · refine List.nodup_append.2 ⟨h, List.nodup_singleton _, fun name hname other hother => ?_⟩
    obtain rfl := List.mem_singleton.1 hother
    rintro rfl
    exact hremainder hname
  · rwa [List.append_nil]

/-- Every variable's name is kept once, in order, and that of the remainder after them. -/
theorem eraseDups_filterMap_boundName? {tokens : List Token}
    (hmatchable : Pattern.areMatchable tokens = true)
    (hremainder : remainderName ∉ tokens.filterMap variableName?) :
    (tokens.filterMap boundName?).eraseDups = (tokens.filterMap variableName?).eraseDups ++
      if endInWildcard tokens then [remainderName] else [] := by
  rw [filterMap_boundName? hmatchable, List.eraseDups_append]
  split
  · -- the remainder is not among the names before it
    have hkept : [remainderName].removeAll (tokens.filterMap variableName?) = [remainderName] := by
      have helem : (tokens.filterMap variableName?).elem remainderName = false := by
        rwa [← Bool.not_eq_true, List.elem_iff]
      rw [List.removeAll, List.filter_singleton, helem]
      rfl
    rw [hkept]
    rfl
  · rfl

/-- With what distinct tokens bind, each of them expands to what it stands for. -/
theorem expand_eq_value {tokens : List Token} {pieces : List String}
    (hlength : tokens.length = pieces.length) (hnames : (tokens.filterMap boundName?).Nodup)
    {t : Token} {piece : String} (hmem : (t, piece) ∈ tokens.zip pieces) :
    t.expand (Bindings.ofList ((tokens.zip pieces).filterMap binding?)).get? = t.value piece := by
  have hkeys : (((tokens.zip pieces).filterMap binding?).map Prod.fst).Nodup := by
    rwa [map_fst_binding? hlength]
  have hget : ∀ name, t.boundName? = some name →
      (Bindings.ofList ((tokens.zip pieces).filterMap binding?)).get? name =
        some (t.value piece) := by
    intro name hname
    refine Bindings.get?_ofList hkeys (List.mem_filterMap.2 ⟨(t, piece), hmem, ?_⟩)
    rw [binding?, hname, Option.map_some]
  cases t with
  | literal text => rfl
  | var v => rw [expand, hget v.name rfl, Option.some_or, Option.getD_some]
  | wildcard expression => rw [expand, hget remainderName rfl, Option.getD_some]

end Token

theorem Template.variableNames_eq (t : Template) :
    t.variableNames = (t.tokens.filterMap Token.variableName?).eraseDups := by
  rw [Template.variableNames]
  congr 1

namespace Pattern

theorem foldl_bind (b : Parameters) (pairs : List (Token × String)) :
    pairs.foldl bind b = b.insertAll (pairs.filterMap Token.binding?) := by
  induction pairs generalizing b with
  | nil => rfl
  | cons pair rest ih =>
      obtain ⟨t, piece⟩ := pair
      cases t with
      | literal text => exact ih b
      | var v => exact ih _
      | wildcard expression => exact ih _

/-- Resolving a path binds what the tokens have captured. -/
theorem resolve_eq_some {p : Pattern} {path : String} {bound : Parameters} :
    p.resolve path = some bound ↔ ∃ captured, p.captures? path = some captured ∧
      bound = .ofList ((p.tokens.zip captured).filterMap Token.binding?) := by
  rw [resolve, Option.map_eq_some_iff]
  refine exists_congr fun captured => and_congr_right fun _ => ?_
  rw [foldl_bind, eq_comm]
  rfl

end Pattern

end PathRouter
