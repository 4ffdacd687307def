import PciCatalog.Proofs.Result
import PciCatalog.Value

/-!
# Forms of nested values

A value has a form exactly when it is not nested more deeply than the levels allow and none of the
integers in it has more digits than the limit (`answers_shown`).  When both are wrong, the part that
comes first decides which of the two is told; what is told is true in any case.
-/

namespace PciCatalog

/-! ### What is wrong with a value -/

/-- Whether a scalar is not an integer with more digits than the limit. -/
def Scalar.IsShort : Scalar → Prop
  | .int n => (Nat.toDigits 10 n.natAbs).length ≤ Numeral.digitLimit
  | _ => True

namespace Value

mutual

/-- How many levels deep a value is nested. -/
def depth : Value → Nat
  | .scalar _ => 0
  | .list items => depthOfItems items
  | .pair first second => max (first.depth + 1) (second.depth + 1)
  -- The members of a set are shown as items of a list that is inside it.
  | .set members => if members = [] then 0 else 2
  | .mapping entries => depthOfEntries entries

/-- How many levels deep a list of items is nested. -/
def depthOfItems : List Value → Nat
  | [] => 0
  | item :: rest => max (item.depth + 1) (depthOfItems rest)

/-- How many levels deep a mapping with some entries is nested. -/
def depthOfEntries : List (Scalar × Value) → Nat
  | [] => 0
  | (_, value) :: rest => max (value.depth + 1) (depthOfEntries rest)

end

mutual

/-- The scalars in a value. -/
def scalars : Value → List Scalar
  | .scalar s => [s]
  | .list items => scalarsOfItems items
  | .pair first second => first.scalars ++ second.scalars
  | .set members => members
  | .mapping entries => scalarsOfEntries entries

/-- The scalars in the items of a list. -/
def scalarsOfItems : List Value → List Scalar
  | [] => []
  | item :: rest => item.scalars ++ scalarsOfItems rest

/-- The keys of a mapping and the scalars in its values. -/
def scalarsOfEntries : List (Scalar × Value) → List Scalar
  | [] => []
  | (key, value) :: rest => key :: (value.scalars ++ scalarsOfEntries rest)

end

/-- Whether none of the integers in a value has more digits than the limit. -/
def IsShort (v : Value) : Prop :=
  ∀ s ∈ v.scalars, s.IsShort

end Value

/-! ### What is told of it -/

namespace Unshown

/-- Whether a form comes out exactly when nothing is wrong, and what is told otherwise is true. -/
inductive Answers (deep long : Prop) {α : Type} : Except Unshown α → Prop
  | ok (a : α) (hdeep : ¬ deep) (hlong : ¬ long) : Answers deep long (.ok a)
  | tooDeep (hdeep : deep) : Answers deep long (.error .tooDeep)
  | tooLong (hlong : long) : Answers deep long (.error .tooLong)

namespace Answers

variable {α β : Type} {deep deep' long long' : Prop} {x : Except Unshown α}

theorem congr (h : Answers deep long x) (hdeep : deep ↔ deep') (hlong : long ↔ long') :
    Answers deep' long' x := by
  rwa [← propext hdeep, ← propext hlong]

theorem bind {f : α → Except Unshown β} (h : Answers deep long x)
    (hnext : ∀ a, Answers deep' long' (f a)) : Answers (deep ∨ deep') (long ∨ long') (x >>= f) := by
  cases h with
  | ok a hdeep hlong =>
    exact (hnext a).congr (or_iff_right hdeep).symm (or_iff_right hlong).symm
  | tooDeep hdeep => exact .tooDeep (.inl hdeep)
  | tooLong hlong => exact .tooLong (.inl hlong)

theorem map (h : Answers deep long x) (f : α → β) :
    Answers deep long (x >>= fun a => pure (f a)) :=
  (h.bind fun a => .ok (f a) not_false not_false).congr (or_iff_left not_false)
    (or_iff_left not_false)

theorem exists_ok_iff (h : Answers deep long x) : (∃ a, x = .ok a) ↔ ¬ deep ∧ ¬ long := by
  cases h with
  | ok a hdeep hlong => exact ⟨fun _ => ⟨hdeep, hlong⟩, fun _ => ⟨a, rfl⟩⟩
  | tooDeep hdeep => simp [hdeep]
  | tooLong hlong => simp [hlong]

/-- Where nothing is too long, what is wrong is told. -/
theorem eq_tooDeep_iff (h : Answers deep long x) (hlong : ¬ long) :
    x = .error .tooDeep ↔ deep := by
  cases h with
  | ok a hdeep => simpa using hdeep
  | tooDeep hdeep => simpa using hdeep
  | tooLong h => exact absurd h hlong

end Answers
end Unshown

open Unshown

theorem Scalar.answers_shown (s : Scalar) : Answers False (¬ s.IsShort) s.shown := by
  cases s with
  | int n =>
    unfold shown integerText IsShort
    dsimp only
    split
    · next hshort => exact .ok _ not_false (not_not.2 hshort)
    · next hlong => exact .tooLong hlong
  | bool b => cases b <;> exact .ok _ not_false (not_not.2 trivial)
  | null | real | text | date | other => exact .ok _ not_false (not_not.2 trivial)

theorem Scalar.answers_textForm (s : Scalar) : Answers False (¬ s.IsShort) s.textForm := by
  cases s with
  | text | date | other => exact .ok _ not_false (not_not.2 trivial)
  | null | bool | int | real => exact answers_shown _

namespace Value

/-- A part is one level further in than what it is part of. -/
theorem answers_inner (levels : Nat) {depth : Nat} {long : Prop}
    {form : Nat → Except Unshown (List Char)}
    (h : ∀ n, Answers (n < depth) long (form n)) :
    Answers (levels < depth + 1) long (inner levels form) := by
  cases levels with
  | zero => exact .tooDeep (Nat.succ_pos _)
  | succ n => exact (h n).congr Nat.succ_lt_succ_iff.symm Iff.rfl

theorem answers_inner_scalar (levels : Nat) (s : Scalar) :
    Answers (levels < 1) (¬ s.IsShort) (inner levels fun _ => s.shown) :=
  answers_inner levels fun n =>
    s.answers_shown.congr (iff_of_false not_false (Nat.not_lt_zero n)) Iff.rfl

theorem not_isShort_append_iff {front back : List Scalar} :
    (¬ ∀ s ∈ front ++ back, s.IsShort) ↔
      (¬ ∀ s ∈ front, s.IsShort) ∨ ¬ ∀ s ∈ back, s.IsShort := by
  rw [List.forall_mem_append, not_and_or]

theorem answers_mapM_members (levels : Nat) (members : List Scalar) :
    Answers (levels < if members = [] then 0 else 2) (¬ ∀ s ∈ members, s.IsShort)
      (members.mapM fun s => inner levels fun n => inner n fun _ => s.shown) := by
  induction members with
  | nil => exact .ok [] (Nat.not_lt_zero _) (by simp)
  | cons s rest ih =>
    rw [List.mapM_cons]
    have hfirst := answers_inner levels fun n => answers_inner_scalar n s
    apply (hfirst.bind fun part => ih.map fun parts => part :: parts).congr
    · split <;> simp
    · rw [List.forall_mem_cons, not_and_or]

mutual

theorem answers_shown (levels : Nat) :
    (v : Value) → Answers (levels < v.depth) (¬ v.IsShort) (v.shown levels)
  | .scalar s => by
    rw [shown, depth]
    apply s.answers_shown.congr (iff_of_false not_false (Nat.not_lt_zero _))
    simp [IsShort, scalars]
  | .list items => by
    rw [shown, depth]
    exact (answers_shownItems levels items).map _
  | .pair first second => by
    rw [shown, depth]
    have hfirst := answers_inner levels fun n => answers_shown n first
    have hsecond := answers_inner levels fun n => answers_shown n second
    apply (hfirst.bind fun a => hsecond.map fun b => bracketed '(' [a, b] ')').congr
    · omega
    · exact not_isShort_append_iff.symm
  | .set members => by
    rw [shown, depth, shownSet]
    exact (answers_mapM_members levels members).map _
  | .mapping entries => by
    rw [shown, depth]
    exact (answers_shownEntries levels entries).map _

theorem answers_shownItems (levels : Nat) : (items : List Value) →
    Answers (levels < depthOfItems items) (¬ ∀ s ∈ scalarsOfItems items, s.IsShort)
      (shownItems levels items)
  | [] => by
    rw [shownItems]
    exact .ok [] (Nat.not_lt_zero _) (by simp [scalarsOfItems])
  | item :: rest => by
    rw [shownItems, depthOfItems]
    have hfirst := answers_inner levels fun n => answers_shown n item
    apply (hfirst.bind fun first => (answers_shownItems levels rest).map fun others =>
      first :: others).congr
    · omega
    · exact not_isShort_append_iff.symm

theorem answers_shownEntries (levels : Nat) : (entries : List (Scalar × Value)) →
    Answers (levels < depthOfEntries entries) (¬ ∀ s ∈ scalarsOfEntries entries, s.IsShort)
      (shownEntries levels entries)
  | [] => by
    rw [shownEntries]
    exact .ok [] (Nat.not_lt_zero _) (by simp [scalarsOfEntries])
  | (key, value) :: rest => by
    rw [shownEntries, depthOfEntries]
    have hvalue := answers_inner levels fun n => answers_shown n value
    apply ((answers_inner_scalar levels key).bind fun key => hvalue.bind fun value =>
      (answers_shownEntries levels rest).map fun others =>
        (key ++ ':' :: ' ' :: value) :: others).congr
    · omega
    · rw [scalarsOfEntries, List.forall_mem_cons, not_and_or]
      exact or_congr Iff.rfl not_isShort_append_iff.symm

end

theorem answers_textForm (levels : Nat) (v : Value) :
    Answers (levels < v.depth) (¬ v.IsShort) (v.textForm levels) := by
  have hmap : ∀ x : Except Unshown (List Char), x.map String.ofList =
      x >>= fun text => pure (String.ofList text) := by
    intro x
    cases x <;> rfl
  cases v with
  | scalar s =>
    rw [textForm, hmap, depth]
    apply (s.answers_textForm.map _).congr (iff_of_false not_false (Nat.not_lt_zero _))
    simp [IsShort, scalars]
  | list | pair | set | mapping =>
    rw [textForm, hmap]
    · exact (answers_shown levels _).map _
    · nofun

/-- Whether a value is nested too deeply to be shown, and nothing else is wrong in front of the part
that is. -/
def IsTooDeep (levels : Nat) (v : Value) : Prop :=
  v.shown levels = .error .tooDeep

theorem isTooDeep_iff {levels : Nat} {v : Value} (hshort : v.IsShort) :
    v.IsTooDeep levels ↔ levels < v.depth :=
  (answers_shown levels v).eq_tooDeep_iff (not_not.2 hshort)

theorem not_isTooDeep_scalar (levels : Nat) (s : Scalar) : ¬ (Value.scalar s).IsTooDeep levels := by
  rw [IsTooDeep, shown]
  intro h
  have hanswers := s.answers_shown
  rw [h] at hanswers
  cases hanswers with
  | tooDeep hdeep => exact hdeep

theorem textForm_eq_tooDeep_iff {levels : Nat} {v : Value} :
    v.textForm levels = .error .tooDeep ↔ v.IsTooDeep levels := by
  cases v with
  | scalar s =>
    refine iff_of_false ?_ (not_isTooDeep_scalar levels s)
    rw [textForm, Result.map_eq_error_iff]
    intro h
    have hanswers := s.answers_textForm
    rw [h] at hanswers
    cases hanswers with
    | tooDeep hdeep => exact hdeep
  | list | pair | set | mapping =>
    rw [textForm, Result.map_eq_error_iff, IsTooDeep]
    nofun

end Value
end PciCatalog
