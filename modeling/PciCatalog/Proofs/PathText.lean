import PciCatalog.Files.Walk
import PciCatalog.Proofs.Splitting

/-!
# The text of a path

A path is written down and taken apart again at its slashes: the names to walk along are the parts
of the path, behind empty names for the slashes at the start.  Main statements:
`steps_toString` and `toString_child`.
-/

namespace PciCatalog
namespace Path

/-- Whether a text can be the name of a node: it is not empty and has no slash. -/
def IsName (name : String) : Prop :=
  name ≠ "" ∧ '/' ∉ name.toList

instance : DecidablePred IsName := fun name =>
  inferInstanceAs (Decidable (name ≠ "" ∧ '/' ∉ name.toList))

/-- A name starts with a character that is no slash. -/
theorem IsName.exists_cons {name : String} (h : IsName name) :
    ∃ c rest, name.toList = c :: rest ∧ c ≠ '/' := by
  obtain ⟨c, rest, hname⟩ := List.exists_cons_of_ne_nil (show name.toList ≠ [] by simpa using h.1)
  refine ⟨c, rest, hname, ?_⟩
  rintro rfl
  exact h.2 (by simp [hname])

/-- Whether the parts of a path can be names. -/
def Proper (p : Path) : Prop :=
  ∀ part ∈ p.parts, IsName part

theorem proper_ofString (text : String) : (ofString text).Proper := by
  intro part hpart
  simp only [ofString, List.mem_map, List.mem_filter, Bool.and_eq_true, decide_eq_true_eq] at hpart
  obtain ⟨field, ⟨hfield, hempty, -⟩, rfl⟩ := hpart
  constructor
  · intro h
    rw [← String.toList_inj, String.toList_ofList] at h
    exact hempty h
  · rw [String.toList_ofList]
    exact Text.not_mem_of_mem_fields hfield

theorem Proper.child {p : Path} (h : p.Proper) {name : String} (hname : IsName name) :
    (p.child name).Proper := by
  intro part hpart
  rcases List.mem_append.1 hpart with hpart | hpart
  · exact h part hpart
  · rw [List.mem_singleton.1 hpart]
    exact hname

/-- The path without slashes and parts is the only one that is not written as it is. -/
theorem toString_eq {p : Path} (h : p.slashes ≠ 0 ∨ p.parts ≠ []) :
    p.toString = String.ofList (List.replicate p.slashes '/') ++ "/".intercalate p.parts := by
  rw [toString, if_neg]
  rw [Bool.and_eq_true, not_and_or]
  simpa using h

/-- One more part stands behind a slash of its own, unless it is the only one. -/
theorem intercalate_concat (parts : List String) (name : String) :
    "/".intercalate (parts ++ [name]) =
      "/".intercalate parts ++ (if parts = [] then name else "/" ++ name) := by
  induction parts with
  | nil => simp
  | cons part others ih =>
    cases others with
    | nil => simp [String.append_assoc]
    | cons second others =>
      rw [if_neg (List.cons_ne_nil _ _)] at ih ⊢
      rw [List.cons_append, List.cons_append, String.intercalate_cons_cons, ← List.cons_append,
        ih, String.intercalate_cons_cons, String.append_assoc, String.append_assoc,
        String.append_assoc]

/-- The text of a path stands at the start of the text of a member. -/
theorem toString_child {p : Path} (h : p.slashes ≠ 0 ∨ p.parts ≠ []) (name : String) :
    (p.child name).toString =
      p.toString ++ (if p.parts = [] then name else "/" ++ name) := by
  have hchild : (p.child name).parts ≠ [] := by simp [child]
  rw [toString_eq h, toString_eq (.inr hchild), String.append_assoc, ← intercalate_concat]
  rfl

/-- Every character of a member's path stands in the path, in the name or between them. -/
theorem forall_mem_toString_child {property : Char → Prop} {p : Path} {name : String}
    (hslash : property '/') (hpath : ∀ c ∈ p.toString.toList, property c)
    (hname : ∀ c ∈ name.toList, property c) : ∀ c ∈ (p.child name).toString.toList, property c := by
  by_cases h : p.slashes ≠ 0 ∨ p.parts ≠ []
  · rw [toString_child h, String.toList_append, List.forall_mem_append]
    refine ⟨hpath, ?_⟩
    split
    · exact hname
    · rw [String.toList_append, List.forall_mem_append]
      exact ⟨by simpa using hslash, hname⟩
  · -- The path of the place itself is left out before a name.
    rw [not_or, not_not, not_not] at h
    rw [toString_eq (.inr (by simp [child])), child, h.1, h.2]
    simpa using hname

/-- A path is written with the characters of the text that names it, up to slashes and points. -/
theorem mem_toString_ofString {c : Char} (hslash : c ≠ '/') (hpoint : c ≠ '.') (text : String) :
    c ∈ (ofString text).toString.toList ↔ c ∈ text.toList := by
  have hparts : c ∈ ("/".intercalate (ofString text).parts).toList ↔ c ∈ text.toList := by
    have hsep : "/".toList = ['/'] := rfl
    rw [String.toList_intercalate, hsep, Text.mem_intercalate_iff hslash,
      ← Text.intercalate_fields '/' text.toList, Text.mem_intercalate_iff hslash]
    constructor
    · rintro ⟨part, hpart, hc⟩
      simp only [ofString, List.map_map, List.mem_map, List.mem_filter] at hpart
      obtain ⟨field, ⟨hfield, -⟩, rfl⟩ := hpart
      exact ⟨field, by simpa using hfield, by simpa using hc⟩
    · rintro ⟨field, hfield, hc⟩
      refine ⟨field, ?_, hc⟩
      -- A field with such a character is neither empty nor a point, so it is kept as a part.
      have hne : field ≠ [] := List.ne_nil_of_mem hc
      have hne' : field ≠ ['.'] := by
        rintro rfl
        exact hpoint (List.mem_singleton.1 hc)
      simp [ofString, hfield, hne, hne']
  by_cases h : (ofString text).slashes ≠ 0 ∨ (ofString text).parts ≠ []
  · rw [toString_eq h, String.toList_append, List.mem_append, hparts, String.toList_ofList,
      List.mem_replicate]
    simp [hslash]
  · rw [not_or, not_not, not_not] at h
    rw [h.2] at hparts
    rw [← hparts, toString, if_pos (by simp [h])]
    simp [hpoint]

/-- Slashes at the start of a text make empty fields. -/
theorem fields_replicate_append (count : Nat) (text : List Char) :
    Text.fields '/' (List.replicate count '/' ++ text) =
      List.replicate count [] ++ Text.fields '/' text := by
  induction count with
  | zero => rfl
  | succ count ih =>
    rw [List.replicate_succ, List.cons_append, Text.fields, if_pos rfl, ih]
    rfl

/-- The names to walk along are empty ones for the slashes at the start, and then the parts. -/
theorem steps_toString {p : Path} (hp : p.Proper) (h : p.parts ≠ []) :
    FileSystem.steps p.toString = List.replicate p.slashes "" ++ p.parts := by
  have hparts : Text.fields '/' (['/'].intercalate (p.parts.map String.toList)) =
      p.parts.map String.toList := by
    apply Text.fields_intercalate
    · simpa using h
    · simp only [List.mem_map]
      rintro text ⟨part, hpart, rfl⟩
      exact (hp part hpart).2
  have hsep : "/".toList = ['/'] := rfl
  rw [FileSystem.steps, toString_eq (.inr h), String.toList_append, String.toList_ofList,
    String.toList_intercalate, hsep, fields_replicate_append, hparts, List.map_append,
    List.map_replicate, List.map_map]
  simp [Function.comp_def]

/-- A path without parts has only empty names to walk along, or the name of the place itself. -/
theorem steps_toString_nil {p : Path} (h : p.parts = []) :
    FileSystem.steps p.toString =
      if p.slashes = 0 then ["."] else List.replicate (p.slashes + 1) "" := by
  split
  · next hslashes =>
    rw [toString, if_pos (by simp [hslashes, h])]
    rfl
  · next hslashes =>
    rw [FileSystem.steps, toString_eq (.inl hslashes), h, String.intercalate_nil,
      String.append_empty, String.toList_ofList, ← List.append_nil (List.replicate _ '/'),
      fields_replicate_append, List.map_append, List.map_replicate, List.replicate_succ']
    rfl

theorem toString_ne_empty {p : Path} (hp : p.Proper) : p.toString ≠ "" := by
  intro h
  -- An empty text has one step only, an empty name, and so has no path.
  have hsteps : FileSystem.steps p.toString = [""] := by
    rw [h]
    rfl
  by_cases hparts : p.parts = []
  · rw [steps_toString_nil hparts] at hsteps
    split at hsteps
    · simp at hsteps
    · next hslashes =>
      have hlength := congrArg List.length hsteps
      simp [hslashes] at hlength
  · rw [steps_toString hp hparts] at hsteps
    obtain ⟨part, hpart⟩ := List.exists_mem_of_ne_nil _ hparts
    have hempty : part ∈ List.replicate p.slashes "" ++ p.parts := List.mem_append_right _ hpart
    rw [hsteps, List.mem_singleton] at hempty
    exact (hp part hpart).1 hempty

/-- A path starts from the root when it has slashes at the start. -/
theorem startOf_toString {p : Path} (hp : p.Proper) (here : Place) :
    FileSystem.startOf p.toString here = if p.slashes = 0 then here else [] := by
  rw [FileSystem.startOf]
  by_cases hslashes : p.slashes = 0
  · rw [if_pos hslashes, if_neg]
    cases hparts : p.parts with
    | nil =>
      rw [toString, if_pos (by simp [hslashes, hparts])]
      decide
    | cons part others =>
      obtain ⟨c, rest, hpart, hslash⟩ := (hp part (by simp [hparts])).exists_cons
      have hhead : p.toString.toList.head? = some c := by
        rw [toString_eq (.inr (by simp [hparts])), hslashes, hparts]
        cases others <;> simp [hpart]
      rwa [hhead, Option.some_inj]
  · rw [if_neg hslashes, if_pos]
    obtain ⟨count, hcount⟩ := Nat.exists_eq_succ_of_ne_zero hslashes
    rw [toString_eq (.inl hslashes), hcount, List.replicate_succ]
    simp

end Path
end PciCatalog
