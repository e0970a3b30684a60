import Mathlib.Data.List.Find
import WirelessStation.Proofs.Places

/-! # The tree is an object server

Putting an object at a place of the tree adds it if its role is free there
(`Tree.find?_put_of_free`).  Taking one away leaves what is not below it (`Tree.find?_take_cases`):
the node goes only when nothing is left at it.  Read by paths, this is what a service relies on
(`Tree.lawful_server`). -/

namespace WirelessStation.Bus

namespace Tree

variable {t : Tree} {p q : Place} {o : Object} {role role' : Role} {path path' : String}

/-! ### At places -/

theorem role_of_find? (found : t.find? p role = some o) : o.role = role := by
  obtain ⟨x, here, rfl⟩ := Option.map_eq_some_iff.1 found
  have keys := List.find?_some here
  simp only [Bool.and_eq_true, beq_iff_eq] at keys
  exact keys.2

theorem put_of_taken (taken : (t.find? p o.role).isSome = true) : t.put p o = t :=
  if_pos taken

/-- An object that is put where its role is free is there, and nothing else has changed. -/
theorem find?_put_of_free (free : t.find? p o.role = none) (q : Place) (role : Role) :
    (t.put p o).find? q role = if q = p ∧ role = o.role then some o else t.find? q role := by
  by_cases here : q = p ∧ role = o.role
  · obtain ⟨rfl, rfl⟩ := here
    rw [if_pos ⟨rfl, rfl⟩, find?_put, free, Option.getD_none]
  · have put : t.put p o = { grown := p :: t.grown, objects := t.objects ++ [(p, o)] } :=
      if_neg (by simp [free])
    have other : [(p, o)].find? (fun x => x.1 == q && x.2.role == role) = none := by
      simp only [List.find?_eq_none, List.mem_singleton, Bool.and_eq_true, beq_iff_eq]
      rintro _ rfl same
      exact here ⟨same.1.symm, same.2.symm⟩
    rw [if_neg here, put, find?, List.find?_append, other, Option.or_none, find?]

/-- What is found when the objects with some keys were kept. -/
theorem find?_filter (grown : List Place) (keep : Place → Role → Bool) (q : Place) (role : Role) :
    (Tree.mk grown (t.objects.filter fun x => keep x.1 x.2.role)).find? q role =
      if keep q role then t.find? q role else none := by
  rw [find?, List.find?_filter]
  split
  next kept =>
    refine congrArg (Option.map Prod.snd) (List.find?_congr fun x _ => ?_)
    rw [Bool.eq_iff_iff, decide_eq_true_iff, Bool.and_eq_true, beq_iff_eq, beq_iff_eq]
    refine and_iff_right_of_imp ?_
    rintro ⟨rfl, rfl⟩
    exact kept
  next dropped =>
    rw [List.find?_eq_none.2, Option.map_none]
    rintro x _ found
    simp only [Bool.and_eq_true, beq_iff_eq, decide_eq_true_eq] at found
    obtain ⟨kept, rfl, rfl⟩ := found
    exact dropped kept

/-- The tree without the object in a role at a place, whose node may go then. -/
def without (p : Place) (role : Role) (t : Tree) : Tree :=
  { t with objects := t.objects.filter fun x => !(x.1 == p && x.2.role == role) }

theorem take_eq (p : Place) (role : Role) (t : Tree) :
    t.take p role =
      if (t.without p role).objects.any fun x => x.1 == p then t.without p role
      else (t.without p role).cut p := rfl

theorem find?_without (q : Place) (role' : Role) :
    (t.without p role).find? q role' =
      if q = p ∧ role' = role then none else t.find? q role' := by
  refine (find?_filter t.grown (fun q r => !(q == p && r == role)) q role').trans ?_
  by_cases key : q = p ∧ role' = role
  · simp [key]
  · simp [key]

theorem find?_cut (q : Place) (role : Role) :
    (t.cut p).find? q role = if p <+: q then none else t.find? q role := by
  refine (find?_filter _ (fun q _ => !p.isPrefixOf q) q role).trans ?_
  by_cases below : p <+: q
  · simp [List.isPrefixOf_iff_prefix, below]
  · simp [List.isPrefixOf_iff_prefix, below]

theorem find?_take_self (p : Place) (role : Role) (t : Tree) :
    (t.take p role).find? p role = none := by
  rw [take_eq]
  split
  · rw [find?_without, if_pos ⟨rfl, rfl⟩]
  · rw [find?_cut, if_pos (List.prefix_refl p)]

/-- Whatever is not found any more was the object in question or below it. -/
theorem find?_take_cases (p q : Place) (role role' : Role) (t : Tree) :
    (t.take p role).find? q role' = t.find? q role' ∨
      (t.take p role).find? q role' = none ∧ (q = p ∧ role' = role ∨ p <+: q ∧ q ≠ p) := by
  by_cases key : q = p ∧ role' = role
  · obtain ⟨rfl, rfl⟩ := key
    exact .inr ⟨find?_take_self q role' t, .inl ⟨rfl, rfl⟩⟩
  · have other : (t.without p role).find? q role' = t.find? q role' := by
      rw [find?_without, if_neg key]
    rw [take_eq]
    split
    next => exact .inl other
    next gone =>
      rw [find?_cut]
      split
      next below =>
        by_cases here : q = p
        · -- The node goes with nothing at it.
          refine .inl ?_
          rw [← other, here]
          refine Eq.symm (Option.map_eq_none_iff.2 (List.find?_eq_none.2 fun x listed found => ?_))
          refine gone (List.any_eq_true.2 ⟨x, listed, ?_⟩)
          exact (Bool.and_eq_true_iff.1 found).1
        · exact .inr ⟨rfl, .inr ⟨below, here⟩⟩
      next => exact .inl other

/-! ### At paths -/

theorem role_of_object? (there : t.object? path role = some o) : o.role = role := by
  obtain ⟨p, _, found⟩ := Option.bind_eq_some_iff.1 there
  exact role_of_find? found

theorem object?_eq (place : Place.ofPath? path = some p) (t : Tree) (role : Role) :
    t.object? path role = t.find? p role := by
  rw [object?, place, Option.bind_some]

theorem register_eq (place : Place.ofPath? path = some p) (o : Object) (t : Tree) :
    server.register path o t = (.ok (), t.put p o) := by
  simp only [server, register?, place, Option.map_some]

theorem withdraw_eq_of_none (absent : t.object? path role = none) :
    server.withdraw path role t = (.error "interface not found", t) := by
  have refused : t.withdraw? path role = none := by
    cases place : Place.ofPath? path with
    | none => rw [withdraw?, place, Option.bind_none]
    | some p =>
      rw [object?_eq place] at absent
      simp [withdraw?, place, absent]
  simp only [server, refused]

theorem withdraw_eq_of_some (there : t.object? path role = some o) :
    ∃ p, Place.ofPath? path = some p ∧ server.withdraw path role t = (.ok (), t.take p role) := by
  obtain ⟨p, place, found⟩ := Option.bind_eq_some_iff.1 there
  refine ⟨p, place, ?_⟩
  simp [server, withdraw?, place, found]

/-- Whatever is not found any more was the object in question or below it. -/
theorem object?_withdraw_cases (path path' : String) (role role' : Role) (t : Tree) :
    (server.withdraw path role t).2.object? path' role' = t.object? path' role' ∨
      (server.withdraw path role t).2.object? path' role' = none ∧
        (path' = path ∧ role' = role ∨ IsBelow path path') := by
  cases there : t.object? path role with
  | none =>
    rw [withdraw_eq_of_none there]
    exact .inl rfl
  | some o =>
    obtain ⟨p, place, withdrawn⟩ := withdraw_eq_of_some there
    rw [withdrawn]
    cases place' : Place.ofPath? path' with
    | none => exact .inl (by rw [object?, object?, place', Option.bind_none, Option.bind_none])
    | some q =>
      rw [object?_eq place', object?_eq place']
      rcases find?_take_cases p q role role' t with same | ⟨none, ⟨rfl, rfl⟩ | ⟨below, apart⟩⟩
      · exact .inl same
      · exact .inr ⟨none, .inl ⟨Place.ofPath?_injective place' place, rfl⟩⟩
      · exact .inr ⟨none, .inr (Place.isBelow_of_prefix place place' below apart)⟩

/-- An object that is registered where its role is free is there, and nothing else has changed. -/
theorem object?_register_of_free (path' : String) (role : Role)
    (place : Place.ofPath? path = some p) (free : t.object? path o.role = none) :
    (server.register path o t).2.object? path' role =
      if path' = path ∧ role = o.role then some o else t.object? path' role := by
  rw [register_eq place]
  rw [object?_eq place] at free
  cases place' : Place.ofPath? path' with
  | none =>
    have other : ¬(path' = path ∧ role = o.role) := by
      rintro ⟨rfl, _⟩
      cases place.symm.trans place'
    rw [if_neg other, object?, object?, place', Option.bind_none, Option.bind_none]
  | some q =>
    have same : q = p ↔ path' = path := by
      constructor
      · rintro rfl
        exact Place.ofPath?_injective place' place
      · rintro rfl
        exact Option.some.inj (place'.symm.trans place)
    rw [object?_eq place', object?_eq place', find?_put_of_free free]
    simp only [same]

theorem signals_of_some {m : Manager} {property : String} (there : t.object? path role = some o) :
    server.signals m t path role property =
      match o.read m property with
      | .ok value => [⟨path, role, property, value⟩]
      | .error _ => [] := by
  have announced : server.signals m t path role property =
      (t.announce m path role property).toOption.getD [] := rfl
  rw [announced, announce, there]
  simp only
  cases o.read m property with
  | ok _ => rfl
  | error _ => rfl

/-- The tree behaves as a service relies on. -/
theorem lawful_server : server.Lawful where
  object?_new path role := by
    cases place : Place.ofPath? path with
    | none => exact Option.bind_eq_none_iff.2 fun p there => (by cases place.symm.trans there)
    | some p => exact object?_eq place {} role
  role_eq := role_of_object?
  isPath_child empty root valid same := Place.isSome_ofPath?_child valid same empty root
  register_accepted t o valid := by
    obtain ⟨p, place⟩ := Option.isSome_iff_exists.1 valid
    rw [register_eq place]
  register_refused {path} t o invalid := by
    have unplaced : Place.ofPath? path = none :=
      Option.isNone_iff_eq_none.1 (Option.isSome_eq_false_iff.1 invalid)
    have refused : t.register? path o = none := by rw [register?, unplaced, Option.map_none]
    simp only [server, refused]
    exact ⟨⟨_, rfl⟩, fun _ _ => rfl⟩
  register_taken {t path o _} taken := by
    obtain ⟨p, place, found⟩ := Option.bind_eq_some_iff.1 taken
    rw [register_eq place, put_of_taken (Option.isSome_of_eq_some found)]
    exact fun _ _ => rfl
  register_free path' role valid free := by
    obtain ⟨p, place⟩ := Option.isSome_iff_exists.1 valid
    exact object?_register_of_free path' role place free
  withdraw_absent absent := by
    rw [withdraw_eq_of_none absent]
    exact fun _ _ => rfl
  withdraw_present {t path role _} there := by
    obtain ⟨p, place, withdrawn⟩ := withdraw_eq_of_some there
    rw [withdrawn]
    exact ⟨rfl, (object?_eq place _ role).trans (find?_take_self p role t)⟩
  withdraw_adds {t path path' role role' o} found := by
    rcases object?_withdraw_cases path path' role role' t with same | ⟨gone, _⟩
    · exact same.symm.trans found
    · cases gone.symm.trans found
  withdraw_leaves {t path path' role role'} apart other := by
    rcases object?_withdraw_cases path path' role role' t with same | ⟨_, ⟨rfl, rfl⟩ | below⟩
    · exact same
    · exact absurd rfl other
    · exact absurd below apart
  signals_of_none {m t path property role} absent := by
    have announced : server.signals m t path role property =
        (t.announce m path role property).toOption.getD [] := rfl
    have none : t.object? path role = none := absent
    rw [announced, announce, none]
    rfl
  signals_of_ok there read := by
    rw [signals_of_some there, read]
  signals_of_error there read := by
    rw [signals_of_some there, read]

end Tree

end WirelessStation.Bus
