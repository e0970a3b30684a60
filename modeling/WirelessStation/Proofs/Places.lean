import WirelessStation.Bus.Tree

/-! # The places that paths name

A path is put together from its pieces (`joined_pieces`), so no two paths name one place
(`Place.ofPath?_injective`).  A path with one more part names a place if it named one before
(`Place.isSome_ofPath?_child`), and what lies below a place has a path that is below its path
(`Place.isBelow_of_prefix`). -/

namespace WirelessStation.Bus

/-! ### Pieces -/

theorem pieces_of_notMem {cs : List Char} (plain : '/' ∉ cs) : pieces cs = [cs] := by
  induction cs with
  | nil => rfl
  | cons c cs ih =>
    obtain ⟨first, later⟩ := not_or.1 (mt List.mem_cons.2 plain)
    rw [pieces, if_neg (Ne.symm first), ih later]

/-- Pieces put together with slashes between them. -/
def joined : List (List Char) → List Char
  | [] => []
  | [piece] => piece
  | piece :: rest => piece ++ '/' :: joined rest

theorem joined_cons {piece : List Char} {rest : List (List Char)} (more : rest ≠ []) :
    joined (piece :: rest) = piece ++ '/' :: joined rest := by
  cases rest with
  | nil => exact absurd rfl more
  | cons _ _ => rfl

theorem joined_pieces (cs : List Char) : joined (pieces cs) = cs := by
  induction cs with
  | nil => rfl
  | cons c cs ih =>
    rw [pieces]
    split
    next slash => rw [joined_cons (pieces_ne_nil cs), ih, slash, List.nil_append]
    next =>
      split
      next none => exact absurd none (pieces_ne_nil cs)
      next piece more parts =>
        rw [parts] at ih
        cases more with
        | nil => exact congrArg (c :: ·) ih
        | cons _ _ => exact congrArg (c :: ·) ih

theorem joined_append {a b : List (List Char)} (ha : a ≠ []) (hb : b ≠ []) :
    joined (a ++ b) = joined a ++ '/' :: joined b := by
  induction a with
  | nil => exact absurd rfl ha
  | cons piece rest ih =>
    cases rest with
    | nil => exact joined_cons hb
    | cons next more =>
      have front : joined (piece :: next :: more) = piece ++ '/' :: joined (next :: more) := rfl
      rw [List.cons_append, joined_cons (by simp), ih (by simp), front, List.append_assoc,
        List.cons_append]

theorem pieces_injective {cs ds : List Char} (same : pieces cs = pieces ds) : cs = ds := by
  rw [← joined_pieces cs, same, joined_pieces]

/-- A part of its own at the end of a path is the last piece of it. -/
theorem pieces_concat (cs : List Char) {part : List Char} (plain : '/' ∉ part) :
    pieces (cs ++ '/' :: part) = pieces cs ++ [part] := by
  rw [pieces_append_slash, pieces_of_notMem plain]

/-! ### Places -/

namespace Place

variable {path path' : String} {p : Place}

theorem pieces_of_root (h : ofPath? path = some []) : pieces path.toList = [[], []] := by
  unfold ofPath? at h
  split at h
  next root => exact root
  next =>
    split at h
    · cases h
    · cases h
  next => cases h

/-- A place below the root is its path, part by part. -/
theorem ofPath?_eq_some_iff (below : p ≠ []) :
    ofPath? path = some p ↔ pieces path.toList = [] :: p ∧ ∀ piece ∈ p, isPart piece = true := by
  unfold ofPath?
  split
  next root =>
    rw [root]
    constructor
    · intro same
      exact absurd (Option.some.inj same).symm below
    · rintro ⟨same, parts⟩
      obtain rfl := (List.cons.inj same).2
      cases parts [] (by simp)
  next piece more _ parts =>
    rw [parts]
    split
    next valid =>
      rw [Option.some.injEq, List.cons.injEq]
      constructor
      · rintro rfl
        exact ⟨⟨rfl, rfl⟩, List.all_eq_true.1 valid⟩
      · rintro ⟨⟨_, same⟩, _⟩
        exact same
    next invalid =>
      constructor
      · intro impossible
        cases impossible
      · rintro ⟨same, valid⟩
        obtain rfl := (List.cons.inj same).2
        exact absurd (List.all_eq_true.2 valid) invalid
  next _ other =>
    constructor
    · intro impossible
      cases impossible
    · rintro ⟨same, _⟩
      cases p with
      | nil => exact absurd rfl below
      | cons piece more => exact absurd same (other piece more)

/-- No two paths name one place. -/
theorem ofPath?_injective (h : ofPath? path = some p) (h' : ofPath? path' = some p) :
    path = path' := by
  have same : pieces path.toList = pieces path'.toList := by
    by_cases root : p = []
    · subst root
      rw [pieces_of_root h, pieces_of_root h']
    · rw [((ofPath?_eq_some_iff root).1 h).1, ((ofPath?_eq_some_iff root).1 h').1]
  exact String.toList_inj.1 (pieces_injective same)

/-! ### One below another -/

theorem eq_root (h : ofPath? path = some []) : path = "/" := by
  refine String.toList_inj.1 ?_
  rw [← joined_pieces path.toList, pieces_of_root h]
  rfl

theorem slash_not_mem_of_isPart {part : List Char} (valid : isPart part = true) : '/' ∉ part := by
  intro there
  have letter := List.all_eq_true.1 (Bool.and_eq_true_iff.1 valid).2 _ there
  exact absurd letter (by decide)

section child

variable {child : String} {part : List Char} (valid : isPart part = true)
  (same : child.toList = path.toList ++ '/' :: part)

include valid same

theorem pieces_child : pieces child.toList = pieces path.toList ++ [part] := by
  rw [same, pieces_concat _ (slash_not_mem_of_isPart valid)]

theorem ofPath?_child (root : path ≠ "/") (there : ofPath? path = some p) :
    ofPath? child = some (p ++ [part]) := by
  have below : p ≠ [] := by
    rintro rfl
    exact root (eq_root there)
  obtain ⟨parts, valid'⟩ := (ofPath?_eq_some_iff below).1 there
  refine (ofPath?_eq_some_iff (by simp)).2 ⟨?_, fun piece hp => ?_⟩
  · rw [pieces_child valid same, parts, List.cons_append]
  · rcases List.mem_append.1 hp with hp | hp
    · exact valid' piece hp
    · rw [List.mem_singleton.1 hp]
      exact valid

theorem exists_ofPath?_of_child {q : Place} (empty : path ≠ "") (there : ofPath? child = some q) :
    ∃ p, ofPath? path = some p := by
  have parts := pieces_child valid same
  have below : q ≠ [] := by
    rintro rfl
    rw [pieces_of_root there] at parts
    -- The path of the root has no part, but the child has one.
    have last := congrArg List.getLast? parts
    rw [List.getLast?_concat] at last
    rw [← Option.some.inj last] at valid
    cases valid
  obtain ⟨same', valid'⟩ := (ofPath?_eq_some_iff below).1 there
  rw [same'] at parts
  have whole := joined_pieces path.toList
  cases first : pieces path.toList with
  | nil => exact absurd first (pieces_ne_nil _)
  | cons piece p =>
    rw [first] at parts whole
    obtain ⟨rfl, rfl⟩ := List.cons.inj parts
    refine ⟨p, (ofPath?_eq_some_iff ?_).2 ⟨first, fun piece hp => ?_⟩⟩
    · rintro rfl
      exact empty (String.toList_inj.1 whole.symm)
    · exact valid' piece (List.mem_append_left _ hp)

/-- A path with one more part names a place if it named one before. -/
theorem isSome_ofPath?_child (empty : path ≠ "") (root : path ≠ "/") :
    (ofPath? child).isSome = (ofPath? path).isSome := by
  rw [Bool.eq_iff_iff, Option.isSome_iff_exists, Option.isSome_iff_exists]
  constructor
  · rintro ⟨q, there⟩
    exact exists_ofPath?_of_child valid same empty there
  · rintro ⟨p, there⟩
    exact ⟨p ++ [part], ofPath?_child valid same root there⟩

end child

/-- What lies below a place has a path below its path. -/
theorem isBelow_of_prefix {q : Place} (there : ofPath? path = some p)
    (there' : ofPath? path' = some q) (above : p <+: q) (apart : q ≠ p) : IsBelow path path' := by
  by_cases root : p = []
  · subst root
    exact .inl (eq_root there)
  · obtain ⟨rest, rfl⟩ := above
    have more : rest ≠ [] := by
      rintro rfl
      exact apart (List.append_nil p)
    have parts := ((ofPath?_eq_some_iff root).1 there).1
    have parts' := ((ofPath?_eq_some_iff (by simp [root])).1 there').1
    refine .inr ⟨joined rest, ?_⟩
    rw [← joined_pieces path'.toList, parts', ← List.cons_append, ← parts,
      joined_append (pieces_ne_nil _) more, joined_pieces]

end Place

end WirelessStation.Bus
