import Mathlib.Data.List.Forall2

/-!
# Results and failures

How a computation that may fail comes to its result: what its steps were when it succeeded, and
which of them failed when it did not.
-/

namespace PciCatalog
namespace Result

variable {ε ε' α β : Type}

theorem bind_eq_ok_iff {x : Except ε α} {f : α → Except ε β} {b : β} :
    x >>= f = .ok b ↔ ∃ a, x = .ok a ∧ f a = .ok b := by
  cases x <;> simp [bind, Except.bind]

theorem bind_eq_error_iff {x : Except ε α} {f : α → Except ε β} {e : ε} :
    x >>= f = .error e ↔ x = .error e ∨ ∃ a, x = .ok a ∧ f a = .error e := by
  cases x <;> simp [bind, Except.bind]

/-- Computations with the same first step agree when they do behind each of its results. -/
theorem bind_congr_ok {x : Except ε α} {f g : α → Except ε β}
    (h : ∀ a, x = .ok a → f a = g a) : x >>= f = x >>= g := by
  cases x with
  | ok a => exact h a rfl
  | error e => rfl

theorem pure_eq_ok_iff {a b : α} : (pure a : Except ε α) = .ok b ↔ a = b := by
  simp [pure, Except.pure]

@[simp] theorem mapError_eq_ok_iff {x : Except ε α} {f : ε → ε'} {a : α} :
    x.mapError f = .ok a ↔ x = .ok a := by
  cases x with
  | ok b =>
    show Except.ok b = .ok a ↔ Except.ok b = .ok a
    rw [Except.ok.injEq, Except.ok.injEq]
  | error e =>
    show Except.error (f e) = .ok a ↔ Except.error e = .ok a
    exact ⟨nofun, nofun⟩

theorem map_eq_ok_iff {x : Except ε α} {f : α → β} {b : β} :
    x.map f = .ok b ↔ ∃ a, x = .ok a ∧ f a = b := by
  cases x <;> simp [Except.map]

theorem mapError_eq_error_iff {x : Except ε α} {f : ε → ε'} {e : ε'} :
    x.mapError f = .error e ↔ ∃ e', x = .error e' ∧ f e' = e := by
  cases x with
  | ok a => exact ⟨nofun, nofun⟩
  | error e' =>
    show Except.error (f e') = .error e ↔ ∃ e'', Except.error e' = .error e'' ∧ f e'' = e
    simp only [Except.error.injEq, exists_eq_left']

theorem map_eq_error_iff {x : Except ε α} {f : α → β} {e : ε} :
    x.map f = .error e ↔ x = .error e := by
  cases x <;> simp [Except.map]

/-- A computation over a list succeeds when it does so for every item. -/
theorem mapM_eq_ok_iff {f : α → Except ε β} {items : List α} {results : List β} :
    items.mapM f = .ok results ↔ items.map f = results.map .ok := by
  induction items generalizing results with
  | nil => simp [pure, Except.pure, eq_comm]
  | cons item rest ih =>
    rw [List.mapM_cons, bind_eq_ok_iff]
    constructor
    · rintro ⟨b, hitem, hrest⟩
      obtain ⟨others, hothers, hresults⟩ := bind_eq_ok_iff.1 hrest
      obtain rfl := pure_eq_ok_iff.1 hresults
      rw [List.map_cons, List.map_cons, hitem, ih.1 hothers]
    · intro h
      cases results with
      | nil => simp at h
      | cons b others =>
        rw [List.map_cons, List.map_cons, List.cons.injEq] at h
        exact ⟨b, h.1, bind_eq_ok_iff.2 ⟨others, ih.2 h.2, rfl⟩⟩

theorem mapM_eq_ok_iff_forall₂ {f : α → Except ε β} {items : List α} {results : List β} :
    items.mapM f = .ok results ↔ List.Forall₂ (fun a b => f a = .ok b) items results := by
  rw [mapM_eq_ok_iff, ← List.forall₂_map_right_iff, ← List.forall₂_map_left_iff,
    List.forall₂_eq_eq_eq]

/-- A computation over a list fails at the first item for which it does. -/
theorem mapM_eq_error_iff {f : α → Except ε β} {items : List α} {e : ε} :
    items.mapM f = .error e ↔ ∃ front item back, items = front ++ item :: back ∧
      (∀ other ∈ front, ∃ b, f other = .ok b) ∧ f item = .error e := by
  induction items with
  | nil => simp [pure, Except.pure]
  | cons item rest ih =>
    rw [List.mapM_cons, bind_eq_error_iff]
    constructor
    · rintro (h | ⟨b, hb, h⟩)
      · exact ⟨[], item, rest, rfl, by simp, h⟩
      · rcases bind_eq_error_iff.1 h with h | ⟨others, -, h⟩
        · obtain ⟨front, bad, back, rfl, hfront, hbad⟩ := ih.1 h
          exact ⟨item :: front, bad, back, rfl, List.forall_mem_cons.2 ⟨⟨b, hb⟩, hfront⟩, hbad⟩
        · contradiction
    · rintro ⟨front, bad, back, hitems, hfront, hbad⟩
      cases front with
      | nil =>
        obtain ⟨rfl, rfl⟩ := List.cons.inj hitems
        exact .inl hbad
      | cons first front =>
        obtain ⟨rfl, rfl⟩ := List.cons.inj hitems
        obtain ⟨⟨b, hb⟩, hfront⟩ := List.forall_mem_cons.1 hfront
        exact .inr ⟨b, hb, bind_eq_error_iff.2 (.inl (ih.2 ⟨front, bad, back, rfl, hfront, hbad⟩))⟩

theorem exists_ok_of_mapM {f : α → Except ε β} {items : List α}
    (h : ∀ item ∈ items, ∃ b, f item = .ok b) : ∃ results, items.mapM f = .ok results := by
  cases hmap : items.mapM f with
  | ok results => exact ⟨results, rfl⟩
  | error e =>
    obtain ⟨front, item, back, rfl, -, herror⟩ := mapM_eq_error_iff.1 hmap
    obtain ⟨b, hb⟩ := h item (by simp)
    rw [herror] at hb
    contradiction

theorem exists_mapM_iff {f : α → Except ε β} {items : List α} :
    (∃ results, items.mapM f = .ok results) ↔ ∀ item ∈ items, ∃ b, f item = .ok b := by
  refine ⟨?_, exists_ok_of_mapM⟩
  rintro ⟨results, h⟩ item hitem
  have hmem : f item ∈ items.map f := List.mem_map_of_mem hitem
  rw [mapM_eq_ok_iff.1 h] at hmem
  obtain ⟨b, -, hb⟩ := List.mem_map.1 hmem
  exact ⟨b, hb.symm⟩

/-- Each result of a computation over a list is the result for one of the items. -/
theorem exists_mem_of_mapM {f : α → Except ε β} {items : List α} {results : List β} {b : β}
    (h : items.mapM f = .ok results) (hb : b ∈ results) : ∃ item ∈ items, f item = .ok b := by
  have hmem : (.ok b : Except ε β) ∈ results.map .ok := List.mem_map_of_mem hb
  rwa [← mapM_eq_ok_iff.1 h, List.mem_map] at hmem

/-- What is done for each item of a list succeeds when it does so for every item. -/
theorem forM_eq_ok_iff {f : α → Except ε Unit} {items : List α} {done : Unit} :
    items.forM f = .ok done ↔ ∀ item ∈ items, f item = .ok () := by
  induction items with
  | nil => simp [List.forM, pure, Except.pure]
  | cons item rest ih =>
    rw [List.forM, bind_eq_ok_iff, ih, List.forall_mem_cons]
    exact ⟨fun ⟨_, hitem, hrest⟩ => ⟨hitem, hrest⟩, fun ⟨hitem, hrest⟩ => ⟨(), hitem, hrest⟩⟩

/-- What is done for each item of a list fails at the first item for which it does. -/
theorem forM_eq_error_iff {f : α → Except ε Unit} {items : List α} {e : ε} :
    items.forM f = .error e ↔ ∃ front item back, items = front ++ item :: back ∧
      (∀ other ∈ front, f other = .ok ()) ∧ f item = .error e := by
  induction items with
  | nil => simp [List.forM, pure, Except.pure]
  | cons item rest ih =>
    rw [List.forM, bind_eq_error_iff, ih]
    constructor
    · rintro (h | ⟨_, hitem, front, bad, back, rfl, hfront, hbad⟩)
      · exact ⟨[], item, rest, rfl, by simp, h⟩
      · exact ⟨item :: front, bad, back, rfl, List.forall_mem_cons.2 ⟨hitem, hfront⟩, hbad⟩
    · rintro ⟨front, bad, back, hitems, hfront, hbad⟩
      cases front with
      | nil =>
        obtain ⟨rfl, rfl⟩ := List.cons.inj hitems
        exact .inl hbad
      | cons first front =>
        obtain ⟨rfl, rfl⟩ := List.cons.inj hitems
        obtain ⟨hfirst, hfront⟩ := List.forall_mem_cons.1 hfront
        exact .inr ⟨(), hfirst, front, bad, back, rfl, hfront, hbad⟩

/-- A computation on what may be missing succeeds when it does so on what is there. -/
theorem option_mapM_eq_ok_iff {f : α → Except ε β} {item : Option α} {result : Option β} :
    item.mapM f = .ok result ↔ item.map f = result.map .ok := by
  cases item with
  | none => cases result <;> simp [pure, Except.pure]
  | some a =>
    have hsome : (some a).mapM f = (f a).map some := by
      cases h : f a <;> simp [Functor.map, Except.map, h]
    rw [hsome, map_eq_ok_iff, Option.map_some]
    cases result with
    | none => simp
    | some b => simp

/-- Whether a computation comes to a result unless something is `spoiled`, and fails with a certain
failure if it is. -/
structure Settles (spoiled : Prop) (failure : ε) (x : Except ε α) (a : α) : Prop where
  ok : ¬ spoiled → x = .ok a
  error : spoiled → x = .error failure

namespace Settles

variable {spoiled spoiled' : Prop} {failure : ε} {x : Except ε α} {a : α}

theorem pure (failure : ε) (a : α) : Settles False failure (.ok a) a :=
  ⟨fun _ => rfl, False.elim⟩

theorem congr (h : Settles spoiled failure x a) (hiff : spoiled ↔ spoiled') :
    Settles spoiled' failure x a :=
  ⟨fun hclean => h.ok (mt hiff.1 hclean), fun hspoiled => h.error (hiff.2 hspoiled)⟩

theorem eq_ok_iff (h : Settles spoiled failure x a) {b : α} : x = .ok b ↔ ¬ spoiled ∧ a = b := by
  by_cases hspoiled : spoiled
  · simp [h.error hspoiled, hspoiled]
  · simp [h.ok hspoiled, hspoiled]

theorem eq_error_iff (h : Settles spoiled failure x a) {e : ε} :
    x = .error e ↔ spoiled ∧ failure = e := by
  by_cases hspoiled : spoiled
  · simp [h.error hspoiled, hspoiled]
  · simp [h.ok hspoiled, hspoiled]

/-- A computation in steps is spoiled when one of the steps is. -/
theorem bind {f : α → Except ε β} {b : β} (h : Settles spoiled failure x a)
    (hnext : Settles spoiled' failure (f a) b) :
    Settles (spoiled ∨ spoiled') failure (x >>= f) b where
  ok hclean := by
    rw [not_or] at hclean
    exact bind_eq_ok_iff.2 ⟨a, h.ok hclean.1, hnext.ok hclean.2⟩
  error hspoiled := by
    by_cases hfirst : spoiled
    · exact bind_eq_error_iff.2 (.inl (h.error hfirst))
    · exact bind_eq_error_iff.2 (.inr ⟨a, h.ok hfirst, hnext.error (hspoiled.resolve_left hfirst)⟩)

theorem map (h : Settles spoiled failure x a) (f : α → β) :
    Settles spoiled failure (x >>= fun a => .ok (f a)) (f a) :=
  (h.bind (pure failure (f a))).congr (by simp)

/-- A computation over a list is spoiled when it is for one of the items. -/
theorem mapM {items : List α} {bad : α → Prop} {f : α → Except ε β} {g : α → β}
    (h : ∀ item ∈ items, Settles (bad item) failure (f item) (g item)) :
    Settles (∃ item ∈ items, bad item) failure (items.mapM f) (items.map g) := by
  induction items with
  | nil => exact (pure failure []).congr (by simp)
  | cons item rest ih =>
    rw [List.forall_mem_cons] at h
    rw [List.mapM_cons]
    apply (h.1.bind ((ih h.2).map (g item :: ·))).congr
    simp

end Settles
end Result
end PciCatalog
