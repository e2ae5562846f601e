import PathRouter.Proofs.Rearranging

set_option autoImplicit false

/-! # Fingerprints identify route tables

The canonical text of routes can be read back, so that it is the text of one table of routes only. A
character between quotes is read back from its escape (`Fingerprint.readChar?_escapedChar`), and
what is written of texts, lists and rows shows where it ends (`Fingerprint.Delimited`): followed by
anything, it is told apart from what is written of any other text, list or row. Canonical texts are
therefore the same exactly if the tables are (`Generation.canonical_eq_iff`), and fingerprints of
different tables are the same only where the digest collides
(`Registry.fingerprints_identify_tables`).
-/

namespace PathRouter

namespace Fingerprint

/-! ## Characters -/

/-- The value of a hexadecimal digit in lower case. -/
def hexValue (c : Char) : Nat := if c.isDigit then c.toNat - 0x30 else c.toNat - 0x57

theorem hexValue_digitChar : ∀ n < 16, hexValue n.digitChar = n := by decide

/-- The code unit of four hexadecimal digits, and what follows. -/
def readUnit? : List Char → Option (Nat × List Char)
  | a :: b :: c :: d :: rest =>
    some (hexValue a * 0x1000 + hexValue b * 0x100 + hexValue c * 0x10 + hexValue d, rest)
  | _ => none

/-- The character that the letter after a backslash stands for. -/
def shortEscape (letter : Char) : Char :=
  if letter == 'n' then '\n'
  else if letter == 'r' then '\r'
  else if letter == 't' then '\t'
  else if letter == 'f' then '\x0c'
  else if letter == 'b' then '\x08'
  else letter

/-- The character at the beginning of a text, written out or escaped, and what follows. A leading
surrogate makes one character with the surrogate after it. -/
def readChar? : List Char → Option (Char × List Char)
  | '\x5c' :: 'u' :: rest =>
    (readUnit? rest).bind fun (unit, rest) =>
      if 0xd800 ≤ unit ∧ unit < 0xdc00 then
        (readUnit? (rest.drop 2)).map fun (trail, rest) =>
          (Char.ofNat (0x10000 + (unit - 0xd800) * 0x400 + (trail - 0xdc00)), rest)
      else some (Char.ofNat unit, rest)
  | '\x5c' :: letter :: rest => some (shortEscape letter, rest)
  | c :: rest => some (c, rest)
  | [] => none

theorem hexPadded_succ {width : Nat} (h : 0 < width) (n : Nat) :
    Text.hexPadded (width + 1) n = Text.hexPadded width (n / 0x10) ++ [(n % 0x10).digitChar] := by
  unfold Text.hexPadded
  dsimp only
  by_cases hn : n < 0x10
  · -- one digit, with zeros in front of it on both sides
    have hzero : n / 0x10 = 0 := Nat.div_eq_of_lt hn
    rw [Nat.toDigits_of_lt_base hn, hzero, Nat.toDigits_zero, Nat.mod_eq_of_lt hn,
      List.length_singleton, List.length_singleton, Nat.add_sub_cancel,
      ← List.replicate_succ' (n := width - 1), Nat.sub_add_cancel h]
  · rw [Nat.toDigits_of_base_le (by decide) (Nat.le_of_not_lt hn), List.length_append,
      List.length_singleton, Nat.add_sub_add_right, List.append_assoc]

theorem hexPadded_four {n : Nat} (h : n < 0x10000) :
    Text.hexPadded 4 n = [(n / 0x1000).digitChar, (n / 0x100 % 0x10).digitChar,
      (n / 0x10 % 0x10).digitChar, (n % 0x10).digitChar] := by
  have hlast : Text.hexPadded 1 (n / 0x1000) = [(n / 0x1000).digitChar] := by
    rw [Text.hexPadded, Nat.toDigits_of_lt_base (by omega)]
    rfl
  have hdiv : n / 0x10 / 0x10 = n / 0x100 := Nat.div_div_eq_div_mul ..
  have hdiv' : n / 0x100 / 0x10 = n / 0x1000 := Nat.div_div_eq_div_mul ..
  rw [hexPadded_succ (by decide), hexPadded_succ (by decide), hexPadded_succ (by decide), hdiv,
    hdiv', hlast]
  rfl

theorem readUnit?_hexPadded {n : Nat} (h : n < 0x10000) (rest : List Char) :
    readUnit? (Text.hexPadded 4 n ++ rest) = some (n, rest) := by
  rw [hexPadded_four h]
  simp only [List.cons_append, List.nil_append, readUnit?]
  rw [hexValue_digitChar _ (by omega), hexValue_digitChar _ (by omega),
    hexValue_digitChar _ (by omega), hexValue_digitChar _ (by omega)]
  congr 2
  omega

theorem readChar?_cons {c : Char} (h : c ≠ '\x5c') (rest : List Char) :
    readChar? (c :: rest) = some (c, rest) := by
  unfold readChar?
  split
  · next heq => exact absurd (List.cons.inj heq).1 h
  · next heq => exact absurd (List.cons.inj heq).1 h
  · next heq =>
    obtain ⟨rfl, rfl⟩ := List.cons.inj heq
    rfl
  · next heq => cases heq

theorem readChar?_unitEscape {n : Nat} (h : n < 0x10000) (rest : List Char) :
    readChar? (unitEscape n ++ rest) =
      if 0xd800 ≤ n ∧ n < 0xdc00 then
        (readUnit? (rest.drop 2)).map fun (trail, rest) =>
          (Char.ofNat (0x10000 + (n - 0xd800) * 0x400 + (trail - 0xdc00)), rest)
      else some (Char.ofNat n, rest) := by
  rw [unitEscape, List.cons_append, List.cons_append, readChar?, readUnit?_hexPadded h,
    Option.bind_some]

/-- A character is read back from what is written for it. -/
theorem readChar?_escapedChar (c : Char) (rest : List Char) :
    readChar? (escapedChar c ++ rest) = some (c, rest) := by
  have hvalid : c.toNat < 0xd800 ∨ 0xdfff < c.toNat ∧ c.toNat < 0x110000 := c.valid
  unfold escapedChar
  dsimp only
  split_ifs with hself hn hr ht hf hb hplain hunit
  · -- a quote or a backslash
    rw [Bool.or_eq_true, beq_iff_eq, beq_iff_eq] at hself
    rcases hself with rfl | rfl <;> rfl
  · obtain rfl := eq_of_beq hn
    rfl
  · obtain rfl := eq_of_beq hr
    rfl
  · obtain rfl := eq_of_beq ht
    rfl
  · obtain rfl := eq_of_beq hf
    rfl
  · obtain rfl := eq_of_beq hb
    rfl
  · -- a character that stands for itself
    refine readChar?_cons ?_ rest
    rintro rfl
    exact hself rfl
  · -- a code unit, which is no surrogate
    rw [readChar?_unitEscape hunit, if_neg (by omega), Char.ofNat_toNat]
  · -- two surrogates
    have hdrop (n : Nat) : (unitEscape n ++ rest).drop 2 = Text.hexPadded 4 n ++ rest := rfl
    have hcode : 0x10000 + (0xd800 + (c.toNat - 0x10000) / 0x400 - 0xd800) * 0x400 +
        (0xdc00 + (c.toNat - 0x10000) % 0x400 - 0xdc00) = c.toNat := by omega
    rw [List.append_assoc, readChar?_unitEscape (by omega), if_pos (by omega), hdrop,
      readUnit?_hexPadded (by omega), Option.map_some]
    dsimp only
    rw [hcode, Char.ofNat_toNat]

/-- What is written for a character does not begin with a quote. -/
theorem escapedChar_append_ne (c : Char) (rest rest' : List Char) :
    escapedChar c ++ rest ≠ '\x22' :: rest' := by
  intro h
  have hread := readChar?_escapedChar c rest
  rw [h, readChar?_cons (by decide)] at hread
  obtain ⟨rfl, -⟩ := Prod.mk.inj (Option.some.inj hread)
  -- the quote itself is written with a backslash
  exact absurd (List.cons.inj h).1 (by decide)

/-! ## Texts, lists and rows -/

section

variable {α : Type} {f : α → List Char}

/-- What is written of a value shows where it ends: whatever follows, it is told apart from what is
written of any other value. -/
def Delimited (f : α → List Char) : Prop :=
  ∀ a b rest rest', f a ++ rest = f b ++ rest' → a = b ∧ rest = rest'

theorem delimited_escapedChar : Delimited escapedChar := by
  intro c d rest rest' h
  have hread := readChar?_escapedChar c rest
  rw [h, readChar?_escapedChar] at hread
  obtain ⟨hd, hrest⟩ := Prod.mk.inj (Option.some.inj hread)
  exact ⟨hd.symm, hrest.symm⟩

/-- Forms after a character that is always the same. -/
theorem Delimited.cons (hf : Delimited f) (lead : Char) : Delimited fun a => lead :: f a :=
  fun a b rest rest' h => hf a b rest rest' (List.cons.inj h).2

/-- Forms one after the other, closed by a character with which none of them begins. -/
theorem Delimited.flatMap (hf : Delimited f) {close : Char}
    (hclose : ∀ a rest rest', f a ++ rest ≠ close :: rest') :
    Delimited fun as : List α => as.flatMap f ++ [close] := by
  intro as bs rest rest' h
  dsimp only at h
  rw [List.append_assoc, List.append_assoc, List.singleton_append, List.singleton_append] at h
  induction as generalizing bs with
  | nil =>
      cases bs with
      | nil => exact ⟨rfl, (List.cons.inj h).2⟩
      | cons b bs =>
          rw [List.flatMap_cons, List.append_assoc] at h
          exact absurd h.symm (hclose b _ _)
  | cons a as ih =>
      rw [List.flatMap_cons, List.append_assoc] at h
      cases bs with
      | nil => exact absurd h (hclose a _ _)
      | cons b bs =>
          rw [List.flatMap_cons, List.append_assoc] at h
          obtain ⟨rfl, htail⟩ := hf a b _ _ h
          obtain ⟨rfl, hrest⟩ := ih bs htail
          exact ⟨rfl, hrest⟩

theorem delimited_textForm : Delimited textForm := by
  intro s t rest rest' h
  have hchars : Delimited fun cs : List Char => '\x22' :: (cs.flatMap escapedChar ++ ['\x22']) :=
    (delimited_escapedChar.flatMap escapedChar_append_ne).cons '\x22'
  obtain ⟨htexts, hrest⟩ := hchars s.toList t.toList rest rest' h
  exact ⟨String.toList_inj.1 htexts, hrest⟩

/-- Items with commas between them: all but the first are written with a comma in front. -/
theorem intercalate_comma (first : List Char) (items : List (List Char)) :
    [','].intercalate (first :: items) = first ++ items.flatMap (',' :: ·) := by
  induction items generalizing first with
  | nil => simp
  | cons second items ih =>
      rw [List.intercalate_cons_cons, ih, List.flatMap_cons, List.append_assoc, List.cons_append,
        List.nil_append, List.cons_append]

/-- Lists of forms, none of which begins with the bracket that closes the list. -/
theorem Delimited.listForm (hf : Delimited f)
    (hclose : ∀ a rest rest', f a ++ rest ≠ ']' :: rest') :
    Delimited fun as : List α => listForm (as.map f) := by
  have htail : Delimited fun as : List α => as.flatMap (fun a => ',' :: f a) ++ [']'] :=
    (hf.cons ',').flatMap fun _ _ _ h => absurd (List.cons.inj h).1 (by decide)
  have hcons (a : α) (as : List α) (rest : List Char) :
      Fingerprint.listForm ((a :: as).map f) ++ rest =
        '[' :: (f a ++ (as.flatMap (fun a => ',' :: f a) ++ [']'] ++ rest)) := by
    simp [Fingerprint.listForm, intercalate_comma, List.flatMap_map]
  have hnil (rest : List Char) :
      Fingerprint.listForm (([] : List α).map f) ++ rest = '[' :: ']' :: rest := rfl
  intro as bs rest rest' h
  dsimp only at h
  cases as with
  | nil =>
      rw [hnil] at h
      cases bs with
      | nil => exact ⟨rfl, (List.cons.inj (List.cons.inj h).2).2⟩
      | cons b bs =>
          rw [hcons] at h
          exact absurd (List.cons.inj h).2.symm (hclose b _ _)
  | cons a as =>
      rw [hcons] at h
      cases bs with
      | nil => exact absurd (List.cons.inj h).2 (hclose a _ _)
      | cons b bs =>
          rw [hcons] at h
          obtain ⟨rfl, hitems⟩ := hf a b _ _ (List.cons.inj h).2
          obtain ⟨rfl, hrest⟩ := htail as bs _ _ hitems
          exact ⟨rfl, hrest⟩

end

theorem delimited_rowForm : Delimited rowForm := by
  have hmethods : Delimited fun methods : List String => listForm (methods.map textForm) :=
    delimited_textForm.listForm fun _ _ _ h => absurd (List.cons.inj h).1 (by decide)
  have hform (row : Row) (rest : List Char) : rowForm row ++ rest =
      '[' :: (textForm row.1 ++ ',' :: (listForm (row.2.map textForm) ++ ']' :: rest)) := by
    simp [rowForm, listForm]
  intro row row' rest rest' h
  rw [hform, hform] at h
  obtain ⟨hsource, h⟩ := delimited_textForm _ _ _ _ (List.cons.inj h).2
  obtain ⟨hrow, h⟩ := hmethods _ _ _ _ (List.cons.inj h).2
  exact ⟨Prod.ext hsource hrow, (List.cons.inj h).2⟩

/-- The canonical text of rows is that of the same rows in any order, and of no others. -/
theorem canonicalForm_eq_iff {rows rows' : List Row} :
    canonicalForm rows = canonicalForm rows' ↔ rows.Perm rows' := by
  refine ⟨fun h => ?_, canonicalForm_eq_of_perm⟩
  have hrows : Delimited fun rows : List Row => listForm (rows.map rowForm) :=
    delimited_rowForm.listForm fun _ _ _ h => absurd (List.cons.inj h).1 (by decide)
  have hforms : listForm ((rows.mergeSort rowLe).map rowForm) =
      listForm ((rows'.mergeSort rowLe).map rowForm) := by
    simpa [canonicalForm] using congrArg String.toList h
  have hsorted : rows.mergeSort rowLe = rows'.mergeSort rowLe :=
    (hrows _ _ [] [] (congrArg (· ++ []) hforms)).1
  have hperm := List.mergeSort_perm rows rowLe
  rw [hsorted] at hperm
  exact hperm.symm.trans (List.mergeSort_perm rows' rowLe)

end Fingerprint

/-! ## Tables of routes -/

section

variable {α β : Type}

/-- What a table of routes says of one: the source of its pattern and the set of its methods. -/
def Route.entry (r : Route α) : String × Finset String := (r.source, r.methods.toFinset)

/-- The table of the routes of a generation, in no order. -/
def Generation.table (g : Generation α) : Multiset (String × Finset String) :=
  Multiset.ofList (g.routes.map Route.entry)

/-- A set of methods is written in one way. -/
theorem Route.rowOf_eq (r : Route α) :
    Fingerprint.rowOf r = (r.entry.1, Methods.ofList r.entry.2.toList) := by
  refine Prod.ext rfl (Methods.eq_of_mem_iff r.ascending (Methods.ascending_ofList _) fun m => ?_)
  simp [Fingerprint.rowOf, entry]

/-- Generations have the same canonical text exactly if they have the same table. -/
theorem Generation.canonical_eq_iff {g : Generation α} {g' : Generation β} :
    Fingerprint.canonical g.routes = Fingerprint.canonical g'.routes ↔ g.table = g'.table := by
  rw [Fingerprint.canonical, Fingerprint.canonical, Fingerprint.canonicalForm_eq_iff, table, table,
    Multiset.coe_eq_coe]
  constructor
  · intro h
    have hentries := h.map fun row : Fingerprint.Row => (row.1, row.2.toFinset)
    rwa [List.map_map, List.map_map] at hentries
  · intro h
    rw [List.map_congr_left fun r _ => Route.rowOf_eq r,
      List.map_congr_left fun r _ => Route.rowOf_eq r]
    have hrows := h.map fun entry => (entry.1, Methods.ofList entry.2.toList)
    rwa [List.map_map, List.map_map] at hrows

/-- Ranking does not change the table. -/
theorem Generation.table_ofRoutes (version : Int) (routes : List (Route α)) :
    (ofRoutes version routes).table = Multiset.ofList (routes.map Route.entry) :=
  Multiset.coe_eq_coe.2 ((perm_ofRoutes version routes).map _)

/-- The source that a declaration names is that of its route. -/
theorem Declaration.Makes.source?_eq {validateDefaults : Bool} {d : Declaration α} {r : Route α}
    (h : d.Makes validateDefaults r) : d.pattern.source? = some r.source := by
  have hpattern := h.pattern
  cases hd : d.pattern with
  | made p =>
      rw [hd] at hpattern
      rw [Route.source, ← Except.ok.inj hpattern]
      rfl
  | source source? =>
      rw [hd] at hpattern
      obtain ⟨source, rfl, hparse⟩ := Pattern.parse?_eq_ok.1 hpattern
      rw [Route.source, Pattern.source_of_parse hparse]
      rfl

/-- Declarations of one source that list the same names of methods, in any order and with any
payload, have one entry. -/
theorem Declaration.Makes.entry_eq {validateDefaults validateDefaults' : Bool} {d : Declaration α}
    {d' : Declaration β} {r : Route α} {r' : Route β} (h : d.Makes validateDefaults r)
    (h' : d'.Makes validateDefaults' r') (hsource : d.pattern.source? = d'.pattern.source?)
    (hnames : ∀ name, name ∈ Methods.named d.methods ↔ name ∈ Methods.named d'.methods) :
    r.entry = r'.entry := by
  refine Prod.ext ?_ (Finset.ext fun m => ?_)
  · rw [h.source?_eq, h'.source?_eq] at hsource
    exact Option.some.inj hsource
  · simp [Route.entry, h.methods, h'.methods, hnames]

/-- **Fingerprints identify tables of routes.** Two generations have the same canonical text exactly
if they have the same table, whatever their versions and payloads are. The table of a generation is
that of its routes in any order, and the entry of a route that of its declaration, in whichever
order the methods are listed. So the report on a new generation that its table is unchanged is
right: it is made if the tables are the same, and if they are not only where two canonical texts
have one digest. -/
theorem Registry.fingerprints_identify_tables :
    (∀ (g : Generation α) (g' : Generation β),
      Fingerprint.canonical g.routes = Fingerprint.canonical g'.routes ↔ g.table = g'.table) ∧
    (∀ (version : Int) (routes : List (Route α)),
      (Generation.ofRoutes version routes).table = Multiset.ofList (routes.map Route.entry)) ∧
    (∀ (validateDefaults validateDefaults' : Bool) (d : Declaration α) (d' : Declaration β)
      (r : Route α) (r' : Route β), d.Makes validateDefaults r → d'.Makes validateDefaults' r' →
      d.pattern.source? = d'.pattern.source? →
      (∀ name, name ∈ Methods.named d.methods ↔ name ∈ Methods.named d'.methods) →
      r.entry = r'.entry) ∧
    ∀ (r : Registry α) (b : Builder α), ∃ unchanged,
      (r.publish b).2.journal =
        r.journal ++ [.committed (r.version + 1) (r.publish b).1.size unchanged] ∧
      (r.generation? = none → unchanged = false) ∧
      ∀ previous, r.generation? = some previous →
        (previous.table = (r.publish b).1.table → unchanged = true) ∧
        (unchanged = true → previous.table = (r.publish b).1.table ∨
          Fingerprint.canonical previous.routes ≠ Fingerprint.canonical (r.publish b).1.routes ∧
            Digest.sha256Hex (Fingerprint.canonical previous.routes) =
              Digest.sha256Hex (Fingerprint.canonical (r.publish b).1.routes)) := by
  refine ⟨fun _ _ => Generation.canonical_eq_iff, Generation.table_ofRoutes,
    fun _ _ _ _ _ _ h h' => h.entry_eq h', fun r b => ⟨_, rfl, fun hnone => ?_, ?_⟩⟩
  · rw [hnone]
  · intro previous hprevious
    rw [hprevious]
    dsimp only
    rw [beq_iff_eq]
    constructor
    · intro htable
      exact congrArg Digest.sha256Hex (Generation.canonical_eq_iff.2 htable)
    · intro hdigest
      by_cases htext : Fingerprint.canonical previous.routes =
          Fingerprint.canonical (r.publish b).1.routes
      · exact .inl (Generation.canonical_eq_iff.1 htext)
      · exact .inr ⟨htext, hdigest⟩

end

/-- Two routes are published, and then once more in the other order, with the methods of one of them
listed in the other order and with other payloads. The table is reported as unchanged. -/
theorem Registry.fingerprints_identify_tables_reversed :
    ∃ (r : Registry Nat) (b b' : Builder Nat), b.routes.map Route.payload = [0, 1] ∧
      b'.routes.map Route.payload = [2, 3] ∧
      .committed 2 (b'.build 2).size true ∈ ((r.publish b).2.publish b').2.journal := by
  let r : Registry Nat := { limits := {}, cache := .ofOptions {} }
  let quoted (payload : Nat) (methods : List Value) : Declaration Nat :=
    ⟨.source (some "/\x22{a}"), .list methods, payload⟩
  let put (payload : Nat) : Declaration Nat := ⟨.source (some "/{b}"), .text "PUT", payload⟩
  let columns (b : Builder Nat) :=
    (b.routes.map Route.payload, b.routes.map fun r => (r.source, r.methods))
  have hbuilt : (r.builder.registerAll r.cache 0
      [quoted 0 [.text "get", .text "POST"], put 1]).1.toOption.map columns =
        some ([0, 1], [("/\x22{a}", ["GET", "POST"]), ("/{b}", ["PUT"])]) := by
    decide +kernel
  have hbuilt' : (r.builder.registerAll r.cache 0
      [put 2, quoted 3 [.text "POST", .text "get"]]).1.toOption.map columns =
        some ([2, 3], [("/{b}", ["PUT"]), ("/\x22{a}", ["GET", "POST"])]) := by
    decide +kernel
  obtain ⟨b, -, hb⟩ := Outcome.toOption_map_eq_some.1 hbuilt
  obtain ⟨b', -, hb'⟩ := Outcome.toOption_map_eq_some.1 hbuilt'
  obtain ⟨hpayloads, hrows⟩ := Prod.mk.inj hb
  obtain ⟨hpayloads', hrows'⟩ := Prod.mk.inj hb'
  obtain ⟨-, htable, -, hpublish⟩ := @Registry.fingerprints_identify_tables Nat Nat
  have hentries (b : Builder Nat) : b.routes.map Route.entry =
      (b.routes.map fun r => (r.source, r.methods)).map fun row => (row.1, row.2.toFinset) := by
    rw [List.map_map]
    rfl
  have hsame : (b.build 1).table = (b'.build 2).table := by
    rw [Builder.build, Builder.build, htable, htable, hentries, hentries, hrows, hrows']
    exact Multiset.coe_eq_coe.2 (.swap ..)
  obtain ⟨unchanged, hjournal, -, hprevious⟩ := hpublish (r.publish b).2 b'
  obtain rfl := (hprevious _ rfl).1 hsame
  refine ⟨r, b, b', hpayloads, hpayloads', ?_⟩
  rw [hjournal]
  exact List.mem_append_right _ (List.mem_singleton_self _)

end PathRouter
