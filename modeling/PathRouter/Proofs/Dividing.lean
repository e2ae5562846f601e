import PathRouter.Proofs.Diagnostics

set_option autoImplicit false

/-! # Dividing the body of an expansion

The body of an expansion is divided into specs and these into names, defaults and constraints, and
nothing is lost on the way (`VarSpec.specs_spell_body`). Each spec tells where it stands in the body
(`VarSpec.StandsIn`), the places follow each other with one comma between them, and the parts of a
spec are the only ones from which it can be spelt (`VarSpec.Decomposes.unique`).
-/

namespace PathRouter.VarSpec

open Outcome

/-! ## Pieces -/

/-- A piece is spelt from a name, a default without a colon and a constraint. -/
structure Decomposes (piece name : List Char) (default? constraint? : Option (List Char)) :
    Prop where
  named : IsName name
  default : ∀ default, default? = some default → ':' ∉ default
  spelt : piece = spelling name default? constraint?

theorem Decomposes.divide_eq {piece name : List Char} {default? constraint? : Option (List Char)}
    (h : Decomposes piece name default? constraint?) :
    divide piece = (name, default?, constraint?) :=
  divide_eq_iff.2 ⟨h.spelt, h.named.not_separator, h.default⟩

/-- **There is one way only to take a piece apart.** -/
theorem Decomposes.unique {piece name name' : List Char}
    {default? constraint? default?' constraint?' : Option (List Char)}
    (h : Decomposes piece name default? constraint?)
    (h' : Decomposes piece name' default?' constraint?') :
    name' = name ∧ default?' = default? ∧ constraint?' = constraint? := by
  have hsame := h'.divide_eq.symm.trans h.divide_eq
  simpa using hsame

/-- A spec as it is spelt. -/
def spelt (s : VarSpec) : List Char :=
  spelling s.name.toList (s.default?.map String.toList) (s.constraint?.map String.toList)

variable {ctx : SpecContext} {body : List Char} {pieces : List (List Char)} {specs : List VarSpec}
  {start : Int}

/-- What is read from a piece is spelt like it. -/
theorem decomposes_of_parse {piece : List Char} {stop : Int} {s : VarSpec}
    (h : parse ctx piece start stop = .ok s) :
    s.start = start ∧ s.stop = stop ∧ s.spelt = piece ∧
      Decomposes piece s.name.toList (s.default?.map String.toList)
        (s.constraint?.map String.toList) := by
  obtain ⟨name, default?, constraint?, hspecifies, rfl⟩ := parse_eq_ok.1 h
  have htoList (text? : Option (List Char)) :
      (text?.map String.ofList).map String.toList = text? := by
    cases text? <;> simp
  dsimp only [spelt]
  rw [htoList, htoList, String.toList_ofList]
  exact ⟨rfl, rfl, hspecifies.spelt.symm,
    hspecifies.named, hspecifies.default, hspecifies.spelt⟩

/-! ## Places -/

/-- A spec stands in a body: it is found there as it is spelt. -/
structure StandsIn (body : List Char) (s : VarSpec) : Prop where
  start : 0 ≤ s.start
  stop : s.stop = s.start + s.spelt.length
  within : s.stop ≤ body.length
  extract : body.extract s.start.toNat s.stop.toNat = s.spelt

theorem lead_cons (piece : List Char) (rest : List (List Char)) :
    lead (piece :: rest) = piece ++ ',' :: lead rest := by
  simp [lead]

/-- With a comma after each, the pieces are the body and one more comma. -/
theorem lead_splitAt (body : List Char) : lead (splitAt ',' body) = body ++ [','] := by
  have hlead (pieces : List (List Char)) (h : pieces ≠ []) :
      lead pieces = [','].intercalate pieces ++ [','] := by
    induction pieces with
    | nil => exact absurd rfl h
    | cons piece rest ih =>
        cases rest with
        | nil => simp [lead]
        | cons next rest =>
            rw [lead_cons, ih (List.cons_ne_nil next rest), List.intercalate_cons_cons]
            simp
  rw [hlead _ (splitAt_ne_nil ',' body), intercalate_splitAt]

/-- A spec that is read from a piece stands where the pieces before it end. -/
theorem standsIn_of_parse {good rest : List (List Char)} {piece : List Char} {s : VarSpec}
    (hbody : splitAt ',' body = good ++ piece :: rest)
    (h : parse ctx piece (lead good).length ((lead good).length + piece.length) = .ok s) :
    StandsIn body s := by
  obtain ⟨hstart, hstop, hspelt, -⟩ := decomposes_of_parse h
  obtain ⟨tail, rfl⟩ := exists_body_eq hbody
  refine ⟨?_, ?_, ?_, ?_⟩
  · rw [hstart]
    exact Int.natCast_nonneg _
  · rw [hstart, hstop, hspelt]
  · rw [hstop]
    simp only [List.length_append]
    omega
  · rw [hstart, hstop, hspelt]
    show (lead good ++ piece ++ tail).extract (lead good).length
      ((lead good).length + piece.length) = piece
    rw [List.extract_eq_take_drop, List.append_assoc, List.drop_left, Nat.add_sub_cancel_left,
      List.take_left]

/-- Each spec stands in the body, by induction on the pieces that are still to come. -/
theorem standsIn_of_parsePieces (good : List (List Char))
    (hbody : splitAt ',' body = good ++ pieces)
    (h : parsePieces ctx (lead good).length pieces = .ok specs) : ∀ s ∈ specs, StandsIn body s := by
  induction pieces generalizing good specs with
  | nil =>
      obtain rfl := Except.ok.inj h
      exact nofun
  | cons piece rest ih =>
      obtain ⟨s, others, hs, hothers, rfl⟩ := parsePieces_cons_eq_ok.1 h
      refine List.forall_mem_cons.2 ⟨standsIn_of_parse hbody hs, ?_⟩
      -- the next piece begins after this one and the comma
      refine ih (good ++ [piece]) (by simpa using hbody) ?_
      have hlead : (lead (good ++ [piece])).length = (lead good).length + piece.length + 1 := by
        simp [lead, add_assoc]
      rw [hlead]
      exact_mod_cast hothers

/-- What is read from pieces is spelt like them. -/
theorem map_spelt_of_parsePieces (h : parsePieces ctx start pieces = .ok specs) :
    specs.map spelt = pieces := by
  induction pieces generalizing start specs with
  | nil =>
      obtain rfl := Except.ok.inj h
      rfl
  | cons piece rest ih =>
      obtain ⟨s, others, hs, hothers, rfl⟩ := parsePieces_cons_eq_ok.1 h
      rw [List.map_cons, ih hothers, (decomposes_of_parse hs).2.2.1]

/-- The places of specs follow each other from `start` on, to in front of the comma that would come
after the last. -/
theorem isChain_of_parsePieces (h : parsePieces ctx start pieces = .ok specs) :
    (∀ s ∈ specs.head?, s.start = start) ∧
      (specs.IsChain fun s next => next.start = s.stop + 1) ∧
      ∀ s ∈ specs.getLast?, s.stop + 1 = start + (lead pieces).length := by
  induction pieces generalizing start specs with
  | nil =>
      obtain rfl := Except.ok.inj h
      exact ⟨nofun, .nil, nofun⟩
  | cons piece rest ih =>
      obtain ⟨s, others, hs, hothers, rfl⟩ := parsePieces_cons_eq_ok.1 h
      obtain ⟨hstart, hstop, -⟩ := decomposes_of_parse hs
      obtain ⟨hhead, hchain, hlast⟩ := ih hothers
      have hlead : ((lead (piece :: rest)).length : Int) =
          piece.length + 1 + (lead rest).length := by
        rw [lead_cons, List.length_append, List.length_cons]
        push_cast
        ring
      refine ⟨fun first hfirst => ?_, List.isChain_cons.2 ⟨fun next hnext => ?_, hchain⟩,
        fun last h => ?_⟩
      · obtain rfl := Option.some.inj hfirst
        exact hstart
      · rw [hhead next hnext, hstop]
      · cases others with
        | nil =>
            obtain rfl : s = last := Option.some.inj h
            obtain rfl : rest = [] := (map_spelt_of_parsePieces hothers).symm
            rw [hlead, hstop, lead, List.flatMap_nil, List.length_nil]
            ring
        | cons next others =>
            rw [List.getLast?_cons_cons] at h
            rw [hlast last h, hlead]
            ring

/-- **What is read from a body is all of it, and there is no other way to read it.** From a body
that can be read comes

* one spec for each of the pieces between its commas, so that the specs as they are spelt, with
  commas between them, are the body again;
* with the specs their places, which follow each other with one comma between them from the
  beginning of the body to its end; at its place each spec is found as it is spelt;
* with each spec its parts, which are the only name, default without a colon and constraint that
  what is found there can be spelt from. -/
theorem specs_spell_body (h : parseBody ctx body = .ok specs) :
    specs.map spelt = splitAt ',' body ∧ [','].intercalate (specs.map spelt) = body ∧
    specs.head?.map (·.start) = some 0 ∧
    (specs.IsChain fun s next => next.start = s.stop + 1) ∧
    specs.getLast?.map (·.stop) = some (body.length : Int) ∧
    ∀ s ∈ specs, StandsIn body s ∧
      Decomposes s.spelt s.name.toList (s.default?.map String.toList)
        (s.constraint?.map String.toList) ∧
      ∀ name default? constraint?, Decomposes s.spelt name default? constraint? →
        name = s.name.toList ∧ default? = s.default?.map String.toList ∧
          constraint? = s.constraint?.map String.toList := by
  have hspelt := map_spelt_of_parsePieces h
  obtain ⟨hhead, hchain, hlast⟩ := isChain_of_parsePieces h
  have hsome : specs ≠ [] := by
    rintro rfl
    exact splitAt_ne_nil ',' body hspelt.symm
  refine ⟨hspelt, ?_, ?_, hchain, ?_, fun s hs => ⟨?_, ?_, ?_⟩⟩
  · rw [hspelt, intercalate_splitAt]
  · rw [List.head?_eq_some_head hsome, Option.map_some, hhead _ (List.head_mem_head? hsome)]
  · have hstop := hlast _ (List.getLast_mem_getLast? hsome)
    rw [lead_splitAt, List.length_append, List.length_singleton] at hstop
    rw [List.getLast?_eq_some_getLast hsome, Option.map_some, Option.some_inj]
    omega
  · exact standsIn_of_parsePieces [] rfl h s hs
  · obtain ⟨piece, first, last, hparse⟩ := exists_of_parsePieces h s hs
    obtain ⟨-, -, rfl, hdecomposes⟩ := decomposes_of_parse hparse
    exact hdecomposes
  · obtain ⟨piece, first, last, hparse⟩ := exists_of_parsePieces h s hs
    obtain ⟨-, -, rfl, hdecomposes⟩ := decomposes_of_parse hparse
    exact fun name default? constraint? => hdecomposes.unique

/-- An empty default, a default in front of a constraint with an equals sign and a colon, and a
constraint that begins with one. -/
theorem specs_spell_body_separators :
    let body := "q=,x=b=c:[^=]=[:c],y:=d?:e".toList
    ∃ specs, parseBody {} body = .ok specs ∧ specs.map spelt = splitAt ',' body ∧
      specs.head?.map (·.start) = some 0 ∧ specs.getLast?.map (·.stop) = some 26 ∧
      ∀ s ∈ specs, ∀ name default? constraint?, Decomposes s.spelt name default? constraint? →
        name = s.name.toList ∧ default? = s.default?.map String.toList ∧
          constraint? = s.constraint?.map String.toList := by
  intro body
  have hread : (parseBody {} body).toOption.isSome = true := by decide +kernel
  obtain ⟨specs, h⟩ := Option.isSome_iff_exists.1 hread
  rw [toOption_eq_some] at h
  obtain ⟨hspelt, -, hfirst, -, hlast, hparts⟩ := specs_spell_body h
  exact ⟨specs, h, hspelt, hfirst, hlast, fun s hs => (hparts s hs).2.2⟩

end PathRouter.VarSpec
