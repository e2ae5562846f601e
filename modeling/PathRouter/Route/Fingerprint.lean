import PathRouter.Digest.Sha256
import PathRouter.Route.Basic
import PathRouter.Text.Quoted

/-!
# Fingerprints

The fingerprint of routes is the digest of a canonical text, which lists the source of every route
with its methods. Routes in another order, or with other payloads, have the same text
(`canonicalForm_eq_of_perm`).
-/

set_option autoImplicit false

namespace PathRouter.Fingerprint

open Text

/-- The sixteen-bit escape of a code unit. -/
def unitEscape (n : Nat) : List Char := '\x5c' :: 'u' :: hexPadded 4 n

/-- A character of the canonical text, which is all ASCII: characters beyond U+FFFF are written as
two surrogates. -/
def escapedChar (c : Char) : List Char :=
  let n := c.toNat
  if c == '\x22' || c == '\x5c' then ['\x5c', c]
  else if c == '\n' then ['\x5c', 'n']
  else if c == '\r' then ['\x5c', 'r']
  else if c == '\t' then ['\x5c', 't']
  else if c == '\x0c' then ['\x5c', 'f']
  else if c == '\x08' then ['\x5c', 'b']
  else if 0x20 ≤ n && n < 0x7f then [c]
  else if n < 0x10000 then unitEscape n
  else unitEscape (0xd800 + (n - 0x10000) / 0x400) ++ unitEscape (0xdc00 + (n - 0x10000) % 0x400)

/-- A text between double quotes. -/
def textForm (s : String) : List Char := '\x22' :: s.toList.flatMap escapedChar ++ ['\x22']

/-- Written items between brackets, with commas between them. -/
def listForm (items : List (List Char)) : List Char :=
  '[' :: List.intercalate [','] items ++ [']']

/-- A source with its methods. -/
abbrev Row := String × List String

/-- The row of a route. -/
def rowOf {α : Type} (r : Route α) : Row := (r.source, r.methods)

/-- A row as it is written. -/
def rowForm (row : Row) : List Char :=
  listForm [textForm row.1, listForm (row.2.map textForm)]

/-- Whether one list of texts comes before another or is the same. -/
def textsLe : List String → List String → Bool
  | [], _ => true
  | _ :: _, [] => false
  | s :: ss, t :: ts => if s = t then textsLe ss ts else notAfter s t

/-- The order of rows: by source, then by methods. -/
def rowLe (a b : Row) : Bool := if a.1 = b.1 then textsLe a.2 b.2 else notAfter a.1 b.1

theorem textsLe_cons {s t : String} {ss ts : List String} :
    textsLe (s :: ss) (t :: ts) = true ↔ before s t = true ∨ (s = t ∧ textsLe ss ts = true) := by
  by_cases h : s = t
  · subst h
    simp [textsLe, before_irrefl]
  · simp [textsLe, h, notAfter_iff]

theorem textsLe_trans {as bs cs : List String} (hab : textsLe as bs = true)
    (hbc : textsLe bs cs = true) : textsLe as cs = true := by
  induction as generalizing bs cs with
  | nil => rfl
  | cons a as ih =>
    cases bs with
    | nil => cases hab
    | cons b bs =>
      cases cs with
      | nil => cases hbc
      | cons c cs =>
        rw [textsLe_cons] at *
        rcases hab with h | ⟨rfl, h⟩
        · rcases hbc with h' | ⟨rfl, _⟩
          · exact .inl (before_trans h h')
          · exact .inl h
        · rcases hbc with h' | ⟨rfl, h'⟩
          · exact .inl h'
          · exact .inr ⟨rfl, ih h h'⟩

theorem textsLe_total (as bs : List String) : textsLe as bs = true ∨ textsLe bs as = true := by
  induction as generalizing bs with
  | nil => exact .inl rfl
  | cons a as ih =>
    cases bs with
    | nil => exact .inr rfl
    | cons b bs =>
      rw [textsLe_cons, textsLe_cons]
      rcases before_trichotomy a b with h | rfl | h
      · exact .inl (.inl h)
      · exact (ih bs).imp (fun h => .inr ⟨rfl, h⟩) fun h => .inr ⟨rfl, h⟩
      · exact .inr (.inl h)

theorem textsLe_antisymm {as bs : List String} (hab : textsLe as bs = true)
    (hba : textsLe bs as = true) : as = bs := by
  induction as generalizing bs with
  | nil =>
    cases bs with
    | nil => rfl
    | cons b bs => cases hba
  | cons a as ih =>
    cases bs with
    | nil => cases hab
    | cons b bs =>
      rw [textsLe_cons] at *
      rcases hab with h | ⟨rfl, h⟩
      · rcases hba with h' | ⟨rfl, _⟩
        · exact absurd h' (by simp [before_asymm h])
        · exact absurd h (by simp [before_irrefl])
      · rcases hba with h' | ⟨_, h'⟩
        · exact absurd h' (by simp [before_irrefl])
        · rw [ih h h']

theorem rowLe_iff {a b : Row} :
    rowLe a b = true ↔ before a.1 b.1 = true ∨ (a.1 = b.1 ∧ textsLe a.2 b.2 = true) := by
  by_cases h : a.1 = b.1
  · simp [rowLe, h, before_irrefl]
  · simp [rowLe, h, notAfter_iff]

theorem rowLe_trans (a b c : Row) (hab : rowLe a b = true) (hbc : rowLe b c = true) :
    rowLe a c = true := by
  rw [rowLe_iff] at *
  rcases hab with h | ⟨h, hs⟩
  · rcases hbc with h' | ⟨h', _⟩
    · exact .inl (before_trans h h')
    · exact .inl (h' ▸ h)
  · rcases hbc with h' | ⟨h', hs'⟩
    · exact .inl (h ▸ h')
    · exact .inr ⟨h.trans h', textsLe_trans hs hs'⟩

theorem rowLe_total (a b : Row) : (rowLe a b || rowLe b a) = true := by
  rw [Bool.or_eq_true, rowLe_iff, rowLe_iff]
  rcases before_trichotomy a.1 b.1 with h | h | h
  · exact .inl (.inl h)
  · exact (textsLe_total a.2 b.2).imp (fun hs => .inr ⟨h, hs⟩) fun hs => .inr ⟨h.symm, hs⟩
  · exact .inr (.inl h)

theorem rowLe_antisymm {a b : Row} (hab : rowLe a b = true) (hba : rowLe b a = true) : a = b := by
  rw [rowLe_iff] at *
  rcases hab with h | ⟨h, hs⟩
  · rcases hba with h' | ⟨h', _⟩
    · exact absurd h' (by simp [before_asymm h])
    · exact absurd h (by simp [h', before_irrefl])
  · rcases hba with h' | ⟨_, hs'⟩
    · exact absurd h' (by simp [h, before_irrefl])
    · exact Prod.ext h (textsLe_antisymm hs hs')

/-- The canonical text of rows. -/
def canonicalForm (rows : List Row) : String :=
  String.ofList (listForm ((rows.mergeSort rowLe).map rowForm))

/-- Rows in another order have the same text. -/
theorem canonicalForm_eq_of_perm {rows rows' : List Row} (h : rows.Perm rows') :
    canonicalForm rows = canonicalForm rows' := by
  have hsorted : rows.mergeSort rowLe = rows'.mergeSort rowLe := by
    refine List.Perm.eq_of_pairwise (fun _ _ _ _ hab hba => rowLe_antisymm hab hba)
      (List.pairwise_mergeSort rowLe_trans rowLe_total rows)
      (List.pairwise_mergeSort rowLe_trans rowLe_total rows') ?_
    exact (List.mergeSort_perm rows rowLe).trans (h.trans (List.mergeSort_perm rows' rowLe).symm)
  rw [canonicalForm, canonicalForm, hsorted]

/-- The canonical text of routes. -/
def canonical {α : Type} (routes : List (Route α)) : String := canonicalForm (routes.map rowOf)

end PathRouter.Fingerprint

/-- The fingerprint of routes. -/
def PathRouter.fingerprint {α : Type} (routes : List (PathRouter.Route α)) : String :=
  PathRouter.Digest.sha256Hex (PathRouter.Fingerprint.canonical routes)
