import PciCatalog.Proofs.Walking

/-!
# Reading a path

A text is read as a path without its empty parts and its points.  They do not matter for a walk that
arrives, and they only make the text longer, so a text that names a place is read as a path that
names the same place (`locate_ofString`).  The other direction does not hold: a slash at the end of
a text asks for a directory.  A path that was read is read again from its own text
(`Normal.ofString_toString`).
-/

namespace PciCatalog

/-! ### Less text -/

/-- Fewer texts make a shorter text. -/
theorem Text.intercalate_sublist (sep : List Char) {texts longer : List (List Char)}
    (h : texts.Sublist longer) : (sep.intercalate texts).Sublist (sep.intercalate longer) := by
  -- The separator goes with the text behind it, so a text that is left out takes one with it.
  induction h with
  | slnil => exact .slnil
  | @cons texts longer text h ih =>
    cases longer with
    | nil =>
      rw [List.sublist_nil.1 h]
      exact List.nil_sublist _
    | cons next rest =>
      rw [List.intercalate_cons_cons]
      exact ih.trans (List.sublist_append_right _ _)
  | @cons_cons texts longer text h ih =>
    cases texts with
    | nil =>
      cases longer with
      | nil => exact .refl _
      | cons next rest =>
        rw [List.intercalate_singleton, List.intercalate_cons_cons, List.append_assoc]
        exact List.sublist_append_left _ _
    | cons first others =>
      cases longer with
      | nil => exact absurd (List.sublist_nil.1 h) (by simp)
      | cons next rest =>
        rw [List.intercalate_cons_cons, List.intercalate_cons_cons]
        exact ih.append_left _

/-- A text with fewer characters takes no more bytes. -/
theorem utf8ByteSize_le_of_sublist {text longer : List Char} (h : text.Sublist longer) :
    (String.ofList text).utf8ByteSize ≤ (String.ofList longer).utf8ByteSize := by
  have hcons (c : Char) (rest : List Char) : (String.ofList (c :: rest)).utf8ByteSize =
      c.utf8Size + (String.ofList rest).utf8ByteSize := by
    rw [← List.singleton_append, String.ofList_append, String.utf8ByteSize_append,
      ← String.singleton_eq_ofList, String.utf8ByteSize_singleton]
  induction h with
  | slnil => exact Nat.le_refl _
  | cons c h ih =>
    rw [hcons]
    omega
  | cons_cons c h ih =>
    rw [hcons, hcons]
    omega

namespace Path

/-- The slashes at the start of a text. -/
theorem takeWhile_slash (text : List Char) :
    text.takeWhile (· == '/') = List.replicate (text.takeWhile (· == '/')).length '/' := by
  rw [List.eq_replicate_iff]
  refine ⟨rfl, fun c hc => ?_⟩
  simpa using List.mem_takeWhile_imp hc

/-- The fields of a text are empty ones for the slashes at its start, and then those of the rest. -/
theorem fields_eq (text : List Char) : Text.fields '/' text =
    List.replicate (text.takeWhile (· == '/')).length [] ++
      Text.fields '/' (text.dropWhile (· == '/')) := by
  conv_lhs => rw [← List.takeWhile_append_dropWhile (p := (· == '/')) (l := text),
    takeWhile_slash, fields_replicate_append]

theorem slashes_ofString_le (text : String) :
    (ofString text).slashes ≤ (text.toList.takeWhile (· == '/')).length := by
  rw [ofString]
  dsimp only
  split <;> omega

theorem slashes_ofString_eq_zero_iff (text : String) :
    (ofString text).slashes = 0 ↔ text.toList.head? ≠ some '/' := by
  rw [ofString]
  dsimp only
  cases text.toList with
  | nil => simp
  | cons c rest =>
    by_cases hc : c = '/'
    · simp only [hc, List.takeWhile_cons, beq_self_eq_true, if_true, List.length_cons]
      split <;> simp
    · simp [hc]

/-- Reading a text as a path leaves out characters of the text. -/
theorem toString_ofString_sublist {text : String}
    (h : (ofString text).slashes ≠ 0 ∨ (ofString text).parts ≠ []) :
    (ofString text).toString.toList.Sublist text.toList := by
  -- The slashes at the start give empty fields only, which are left out.
  have hfields : (Text.fields '/' text.toList).filter (fun part => part ≠ [] && part ≠ ['.']) =
      (Text.fields '/' (text.toList.dropWhile (· == '/'))).filter
        fun part => part ≠ [] && part ≠ ['.'] := by
    rw [fields_eq text.toList, List.filter_append, List.filter_replicate_of_neg (by simp),
      List.nil_append]
  have hparts : ("/".intercalate (ofString text).parts).toList.Sublist
      (text.toList.dropWhile (· == '/')) := by
    have hsep : "/".toList = ['/'] := rfl
    have hkept := Text.intercalate_sublist ['/'] (List.filter_sublist
      (p := fun part => part ≠ [] && part ≠ ['.'])
      (l := Text.fields '/' (text.toList.dropWhile (· == '/'))))
    rw [Text.intercalate_fields, ← hfields] at hkept
    rw [String.toList_intercalate, hsep, ofString, List.map_map]
    simpa [Function.comp_def] using hkept
  rw [toString_eq h, String.toList_append, String.toList_ofList]
  conv_rhs => rw [← List.takeWhile_append_dropWhile (p := (· == '/')) (l := text.toList)]
  refine List.Sublist.append ?_ hparts
  rw [takeWhile_slash]
  exact (List.replicate_sublist_replicate '/').2 (slashes_ofString_le text)

end Path

namespace FileSystem

variable {fs : FileSystem}

/-- A text that can be looked up can be looked up as a path. -/
theorem Nameable.ofString {text : String} (h : Nameable fs text) :
    Nameable fs (Path.ofString text).toString := by
  refine ⟨encodes_ofString_iff.2 h.encoded,
    Path.toString_ne_empty (Path.proper_ofString text), ?_⟩
  · by_cases hpath : (Path.ofString text).slashes ≠ 0 ∨ (Path.ofString text).parts ≠ []
    · have hle := utf8ByteSize_le_of_sublist (Path.toString_ofString_sublist hpath)
      rw [String.ofList_toList, String.ofList_toList] at hle
      exact Nat.le_trans hle h.short
    · rw [not_or, not_not, not_not] at hpath
      rw [Path.toString, if_pos (by simp [hpath])]
      decide

/-! ### Fewer names -/

/-- Names for a walk, and the same without some that lead nowhere. -/
inductive Trimmed : List String → List String → Prop
  | nil : Trimmed [] []
  | keep {name : String} {names kept : List String} (rest : Trimmed names kept) :
    Trimmed (name :: names) (name :: kept)
  | drop {name : String} {names kept : List String} (same : name = "" ∨ name = ".")
    (rest : Trimmed names kept) : Trimmed (name :: names) kept

theorem Trimmed.append_left {names kept : List String} (h : Trimmed names kept)
    (front : List String) : Trimmed (front ++ names) (front ++ kept) := by
  induction front with
  | nil => exact h
  | cons name front ih => exact .keep ih

theorem trimmed_filter (names : List String) :
    Trimmed names (names.filter fun name => name ≠ "" && name ≠ ".") := by
  induction names with
  | nil => exact .nil
  | cons name names ih =>
    rw [List.filter_cons]
    split
    · exact .keep ih
    · next hsame => exact .drop (by simpa [or_iff_not_imp_left] using hsame) ih

/-- A walk that arrives does so without the names that lead nowhere. -/
theorem Reaches.trimmed {links left : Nat} {here place : Place} {names kept : List String}
    (h : Reaches fs links here names left place) (htrimmed : Trimmed names kept) :
    Reaches fs links here kept left place := by
  induction h generalizing kept with
  | arrive =>
    cases htrimmed
    exact .arrive
  | stay directory same next ih =>
    cases htrimmed with
    | keep rest => exact .stay directory same (ih rest)
    | drop _ rest => exact ih rest
  | up search next ih =>
    cases htrimmed with
    | keep rest => exact .up search (ih rest)
    | drop same rest => exact absurd same (by decide)
  | enter search step found plain next ih =>
    cases htrimmed with
    | keep rest => exact .enter search step found plain (ih rest)
    | drop same rest => exact absurd same (by simp [step.ne_empty, step.ne_point])
  | follow search step found next ih =>
    -- The names of a link's target stand in front as they are; only those behind are trimmed.
    cases htrimmed with
    | keep rest => exact .follow search step found (ih (rest.append_left _))
    | drop same rest => exact absurd same (by simp [step.ne_empty, step.ne_point])

/-- The parts of a path are the names to walk along but for those that lead nowhere. -/
theorem parts_ofString (text : String) : (Path.ofString text).parts =
    (steps text).filter fun name => name ≠ "" && name ≠ "." := by
  rw [Path.ofString, steps, List.filter_map]
  refine congrArg (List.map String.ofList) (List.filter_congr fun field _ => ?_)
  have hempty : String.ofList field = "" ↔ field = [] := by
    rw [← String.toList_inj, String.toList_ofList, String.toList_empty]
  have hpoint : String.ofList field = "." ↔ field = ['.'] := by
    rw [← String.toList_inj, String.toList_ofList]
    rfl
  simp [hempty, hpoint]

/-- A text that starts without a slash has a first name. -/
theorem exists_steps_cons {text : String} (hempty : text ≠ "")
    (hslash : text.toList.head? ≠ some '/') :
    ∃ name rest, steps text = name :: rest ∧ name ≠ "" := by
  cases hfields : Text.fields '/' text.toList with
  | nil => exact absurd hfields (Text.fields_ne_nil _ _)
  | cons field rest =>
    refine ⟨_, _, by rw [steps, hfields, List.map_cons], fun hname => ?_⟩
    have hfield : field = [] := by simpa [← String.toList_inj] using hname
    have htext := Text.intercalate_fields '/' text.toList
    rw [hfields, hfield] at htext
    cases rest with
    | nil => exact hempty (String.toList_inj.1 (by simpa using htext.symm))
    | cons second others => exact hslash (by rw [← htext]; rfl)

/-- A text that names a place is read as a path that names it too. -/
theorem locate_ofString {text : String} {place : Place} (h : fs.locate text = .ok place) :
    fs.locate (Path.ofString text).toString = .ok place := by
  obtain ⟨hnameable, hwalk⟩ := locate_eq_ok_iff_walk.1 h
  have horigin : startOf text fs.workingDir = fs.origin (Path.ofString text) := by
    rw [startOf, origin]
    simp [Path.slashes_ofString_eq_zero_iff]
  obtain ⟨left, hreaches⟩ := exists_reaches_of_walk hwalk
  rw [horigin] at hreaches
  obtain ⟨name, rest, hsteps⟩ : ∃ name rest, steps text = name :: rest := by
    apply List.exists_cons_of_ne_nil
    rw [steps, ne_eq, List.map_eq_nil_iff]
    exact Text.fields_ne_nil _ _
  -- The names that reading leaves out do not lead anywhere else.
  refine (locate_eq_ok_iff (Path.proper_ofString text)).2 ⟨hnameable.ofString, ?_, ?_, ?_⟩
  · rw [hsteps] at hreaches
    exact hreaches.isDirectory
  · intro hslashes hparts
    rw [Path.slashes_ofString_eq_zero_iff] at hslashes
    obtain ⟨point, rest, hsteps, hpoint⟩ := exists_steps_cons hnameable.ne_empty hslashes
    rw [hsteps, origin, if_pos ((Path.slashes_ofString_eq_zero_iff text).2 hslashes)] at hreaches
    exact (hreaches.searchable hpoint).allowed
  · rw [parts_ofString]
    exact (hreaches.trimmed (trimmed_filter _)).walk_eq

end FileSystem

/-! ### Paths as texts name them -/

namespace Path

variable {p : Path}

/-- Whether a path has the form in which texts are read: at most two slashes at the start, and parts
that are names but no points. -/
structure Normal (p : Path) : Prop where
  slashes : p.slashes ≤ 2
  parts : ∀ part ∈ p.parts, IsName part ∧ part ≠ "."

theorem Normal.proper (h : p.Normal) : p.Proper :=
  fun part hpart => (h.parts part hpart).1

theorem normal_ofString (text : String) : (ofString text).Normal := by
  constructor
  · rw [ofString]
    dsimp only
    split <;> omega
  · intro part hpart
    refine ⟨proper_ofString text part hpart, ?_⟩
    rw [FileSystem.parts_ofString, List.mem_filter] at hpart
    simpa using And.right (by simpa using hpart.2)

/-- The text of a path starts with the slashes of the path. -/
theorem takeWhile_toString (hp : p.Proper) :
    p.toString.toList.takeWhile (· == '/') = List.replicate p.slashes '/' := by
  by_cases h : p.slashes ≠ 0 ∨ p.parts ≠ []
  · have hbody : ("/".intercalate p.parts).toList.takeWhile (· == '/') = [] := by
      cases hparts : p.parts with
      | nil => rfl
      | cons part others =>
        obtain ⟨c, rest, hpart, hc⟩ := (hp part (by simp [hparts])).exists_cons
        cases others <;> simp [hpart, hc]
    rw [toString_eq h, String.toList_append, String.toList_ofList,
      List.takeWhile_append_of_pos (by simp), hbody, List.append_nil]
  · rw [not_or, not_not, not_not] at h
    rw [toString, if_pos (by simp [h]), h.1]
    rfl

/-- The text of a path is read as the path. -/
theorem Normal.ofString_toString (h : p.Normal) : ofString p.toString = p := by
  have hslashes : (ofString p.toString).slashes = p.slashes := by
    have hle := h.slashes
    rw [ofString, takeWhile_toString h.proper, List.length_replicate]
    dsimp only
    split
    · next htwo => exact htwo.symm
    · next htwo =>
      have hne : p.slashes ≠ 2 := htwo
      omega
  -- Nothing is left out, since a normal path has no empty part and no point.
  have hparts : (ofString p.toString).parts = p.parts := by
    rw [FileSystem.parts_ofString]
    by_cases hnil : p.parts = []
    · rw [steps_toString_nil hnil, hnil]
      split <;> simp
    · rw [steps_toString h.proper hnil, List.filter_append,
        List.filter_replicate_of_neg (by simp), List.nil_append, List.filter_eq_self]
      intro part hpart
      simpa using ⟨(h.parts part hpart).1.1, (h.parts part hpart).2⟩
  cases p with
  | mk slashes parts => exact Path.mk.injEq .. ▸ ⟨hslashes, hparts⟩

end Path
end PciCatalog
