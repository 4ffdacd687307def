import PciCatalog.Proofs.Step

/-!
# Reading a line by looking back

What a line of a names file yields, without a running context: a device or subclass belongs to the
nearest candidate of the top level before it, a subsystem or programming interface also to the
nearest candidate behind one tab after that.  Main statement: running through the lines with a
context yields the same entry at every position.

The context keeps more than is looked at: a class section leaves the last vendor and device in it,
a vendor section the last class and subclass.  The invariant `Remembers` is therefore silent about
the fields of the other section.
-/

namespace PciCatalog

/-- `line` is the last candidate with a property among the lines before a place, and `between` are
the lines from there to that place. -/
structure Nearest (p : Line → Prop) (before : List (List Char)) (line : Line)
    (between : List (List Char)) : Prop where
  found : ∃ front text, before = front ++ text :: between ∧ Line.Reads text line ∧ p line
  last : ∀ text ∈ between, ∀ other, Line.Reads text other → ¬ p other

/-- The entry that a line yields behind the lines `before` it. -/
inductive Yields (before : List (List Char)) (text : List Char) : Entry → Prop
  | baseClass {ident name : String} (reads : Line.Reads text (.classLine ident name)) :
      Yields before text { kind := .baseClass, key := Ident.normalize ident, name }
  | vendor {ident name : String} (reads : Line.Reads text (.indented 0 ident name)) :
      Yields before text { kind := .vendor, key := Ident.normalize ident, name }
  | device {ident name vendor title : String} {between : List (List Char)}
      (reads : Line.Reads text (.indented 1 ident name))
      (top : Nearest Line.IsTopLevel before (.indented 0 vendor title) between)
      (known : Ident.normalize vendor ≠ "") :
      Yields before text
        { kind := .device, key := Ident.normalize ident, name,
          parent := some (Ident.normalize vendor) }
  | subclass {ident name code title : String} {between : List (List Char)}
      (reads : Line.Reads text (.indented 1 ident name))
      (top : Nearest Line.IsTopLevel before (.classLine code title) between)
      (known : Ident.normalize code ≠ "") :
      Yields before text
        { kind := .subclass, key := Ident.normalize code ++ Ident.normalize ident, name }
  | subsystem {ident name vendor title device label : String}
      {between after : List (List Char)} {subvendor subdevice : List Char}
      (reads : Line.Reads text (.indented 2 ident name))
      (top : Nearest Line.IsTopLevel before (.indented 0 vendor title) between)
      (known : Ident.normalize vendor ≠ "")
      (second : Nearest Line.IsSecondLevel between (.indented 1 device label) after)
      (knownDevice : Ident.normalize device ≠ "")
      (words : Text.words ident.toList = [subvendor, subdevice]) :
      Yields before text
        { kind := .subsystem, name,
          key := Ident.normalize (String.ofList subvendor) ++ ":" ++
            Ident.normalize (String.ofList subdevice),
          parent := some (Ident.normalize vendor ++ ":" ++ Ident.normalize device) }
  | progIf {ident name code title sub label : String} {between after : List (List Char)}
      (reads : Line.Reads text (.indented 2 ident name))
      (top : Nearest Line.IsTopLevel before (.classLine code title) between)
      (known : Ident.normalize code ≠ "")
      (second : Nearest Line.IsSecondLevel between (.indented 1 sub label) after) :
      Yields before text
        { kind := .progIf, name,
          key := Ident.normalize code ++ Ident.normalize sub ++ Ident.normalize ident }

namespace Nearest

variable {p : Line → Prop} {before between : List (List Char)} {line : Line}

/-- There is one nearest candidate at most. -/
theorem unique {other : Line} {rest : List (List Char)} (h : Nearest p before line between)
    (h' : Nearest p before other rest) : line = other ∧ between = rest := by
  obtain ⟨⟨front, text, hsplit, hreads, hp⟩, hlast⟩ := h
  obtain ⟨⟨front', text', hsplit', hreads', hp'⟩, hlast'⟩ := h'
  rw [hsplit, List.append_eq_append_iff] at hsplit'
  -- If the two stood on different lines, the later one would refute that the earlier is the last.
  rcases hsplit' with ⟨more, -, hmore⟩ | ⟨more, -, hmore⟩
  · cases more with
    | nil =>
      obtain ⟨rfl, rfl⟩ := List.cons.inj hmore
      exact ⟨hreads.unique hreads', rfl⟩
    | cons _ more =>
      obtain ⟨-, rfl⟩ := List.cons.inj hmore
      exact absurd hp' (hlast text' (by simp) other hreads')
  · cases more with
    | nil =>
      obtain ⟨rfl, rfl⟩ := List.cons.inj hmore
      exact ⟨hreads.unique hreads', rfl⟩
    | cons _ more =>
      obtain ⟨-, rfl⟩ := List.cons.inj hmore
      exact absurd hp (hlast' text (by simp) line hreads)

/-- A candidate with the property is the nearest one right behind it. -/
theorem here {text : List Char} (before : List (List Char)) (reads : Line.Reads text line)
    (hp : p line) : Nearest p (before ++ [text]) line [] :=
  ⟨⟨before, text, rfl, reads, hp⟩, by simp⟩

/-- A line without the property leaves the nearest candidate as it is. -/
theorem skip {text : List Char} (h : Nearest p before line between)
    (hskip : ∀ other, Line.Reads text other → ¬ p other) :
    Nearest p (before ++ [text]) line (between ++ [text]) := by
  obtain ⟨⟨front, found, rfl, hreads, hp⟩, hlast⟩ := h
  refine ⟨⟨front, found, by simp, hreads, hp⟩, ?_⟩
  rw [List.forall_mem_append, List.forall_mem_singleton]
  exact ⟨hlast, hskip⟩

/-- A nearest candidate is one of the lines. -/
theorem exists_reads (h : Nearest p before line between) :
    ∃ text ∈ before, Line.Reads text line ∧ p line := by
  obtain ⟨⟨front, text, rfl, hreads, hp⟩, -⟩ := h
  exact ⟨text, by simp, hreads, hp⟩

end Nearest

/-- What a context holds of the lines `between` the opening of a section and a place: the key of the
last candidate behind one tab, or nothing. -/
inductive Below (between : List (List Char)) (key : String → String) : String → Prop
  | none (empty : ∀ text ∈ between, ∀ other, Line.Reads text other → ¬ other.IsSecondLevel) :
      Below between key ""
  | last {ident name : String} {after : List (List Char)}
      (second : Nearest Line.IsSecondLevel between (.indented 1 ident name) after) :
      Below between key (key ident)

namespace Below

variable {between : List (List Char)} {key : String → String} {value : String}

theorem nil (key : String → String) : Below [] key "" :=
  .none (by simp)

theorem skip {text : List Char} (h : Below between key value)
    (hskip : ∀ other, Line.Reads text other → ¬ other.IsSecondLevel) :
    Below (between ++ [text]) key value := by
  cases h with
  | none empty =>
    apply Below.none
    rw [List.forall_mem_append, List.forall_mem_singleton]
    exact ⟨empty, hskip⟩
  | last second => exact .last (second.skip hskip)

end Below

/-- What a context remembers of the lines before a place. -/
inductive Remembers (before : List (List Char)) (c : Context) : Prop
  | start (noTop : ∀ text ∈ before, ∀ other, Line.Reads text other → ¬ other.IsTopLevel)
      (noSection : c.inClass = false) (noVendor : c.vendor = "")
  | vendor {ident name : String} {between : List (List Char)}
      (top : Nearest Line.IsTopLevel before (.indented 0 ident name) between)
      (vendorSection : c.inClass = false) (vendor : c.vendor = Ident.normalize ident)
      (device : c.vendor ≠ "" → Below between Ident.normalize c.device)
  | baseClass {ident name : String} {between : List (List Char)}
      (top : Nearest Line.IsTopLevel before (.classLine ident name) between)
      (classSection : c.inClass = true) (baseClass : c.baseClass = Ident.normalize ident)
      (orphan : c.baseClass = "" → c.subclass = "")
      (subclass : c.baseClass ≠ "" →
        Below between (fun sub => Ident.normalize ident ++ Ident.normalize sub) c.subclass)

namespace Below

variable {between : List (List Char)} {key : String → String} {value : String}

/-- The key is that of the nearest candidate behind one tab. -/
theorem eq_of_nearest {ident name : String} {after : List (List Char)} (h : Below between key value)
    (second : Nearest Line.IsSecondLevel between (.indented 1 ident name) after) :
    value = key ident := by
  cases h with
  | none empty =>
    obtain ⟨text, hmem, hreads, hsecond⟩ := second.exists_reads
    exact absurd hsecond (empty text hmem _ hreads)
  | last second' =>
    obtain ⟨hline, -⟩ := second.unique second'
    obtain ⟨-, rfl, -⟩ := Line.indented.inj hline
    rfl

/-- A key that is held comes from a candidate behind one tab. -/
theorem exists_nearest (h : Below between key value) (hvalue : value ≠ "") :
    ∃ ident name after, Nearest Line.IsSecondLevel between (.indented 1 ident name) after ∧
      value = key ident := by
  cases h with
  | none empty => exact absurd rfl hvalue
  | last second => exact ⟨_, _, _, second, rfl⟩

end Below

namespace Remembers

variable {before : List (List Char)} {c next : Context} {text : List Char} {entry : Entry}

/-- A line that opens no section, and stands right below the top level only in a section without a
key, leaves what is remembered as it is. -/
theorem skip (h : Remembers before c) (htop : ∀ other, Line.Reads text other → ¬ other.IsTopLevel)
    (hsecond : ∀ other, Line.Reads text other → other.IsSecondLevel →
      if c.inClass then c.baseClass = "" else c.vendor = "") :
    Remembers (before ++ [text]) c := by
  cases h with
  | start noTop noSection noVendor =>
    refine .start ?_ noSection noVendor
    rw [List.forall_mem_append, List.forall_mem_singleton]
    exact ⟨noTop, htop⟩
  | vendor top vendorSection vendor device =>
    refine .vendor (top.skip htop) vendorSection vendor ?_
    intro hknown
    apply (device hknown).skip
    intro other hreads hother
    simpa [vendorSection, hknown] using hsecond other hreads hother
  | baseClass top classSection baseClass orphan subclass =>
    refine .baseClass (top.skip htop) classSection baseClass orphan ?_
    intro hknown
    apply (subclass hknown).skip
    intro other hreads hother
    simpa [classSection, hknown] using hsecond other hreads hother

/-- A step keeps what is remembered true. -/
theorem step (h : Remembers before c) (hstep : c.Step text next entry) :
    Remembers (before ++ [text]) next := by
  cases hstep with
  | baseClass reads =>
    exact .baseClass (.here before reads trivial) rfl rfl (fun _ => rfl) fun _ => .nil _
  | vendor reads => exact .vendor (.here before reads rfl) rfl rfl fun _ => .nil _
  | subclass reads classSection known =>
    cases h with
    | start _ noSection => simp [classSection] at noSection
    | vendor _ vendorSection => simp [classSection] at vendorSection
    | baseClass top _ baseClass =>
      -- The section stays open, and the line is the nearest behind one tab from now on.
      refine .baseClass (top.skip ?_) classSection baseClass (fun hempty => absurd hempty known) ?_
      · intro other hother
        rw [← reads.unique hother]
        exact Nat.one_ne_zero
      · intro _
        rw [baseClass]
        exact .last (.here _ reads rfl)
  | device reads vendorSection known =>
    cases h with
    | start _ _ noVendor => exact absurd noVendor known
    | baseClass _ classSection => simp [vendorSection] at classSection
    | vendor top _ vendor =>
      refine .vendor (top.skip ?_) vendorSection vendor fun _ => .last (.here _ reads rfl)
      intro other hother
      rw [← reads.unique hother]
      exact Nat.one_ne_zero
  | progIf reads | subsystem reads =>
    -- Behind two tabs a line neither opens a section nor stands right below the top level.
    apply h.skip
    · intro other hother
      rw [← reads.unique hother]
      exact Nat.succ_ne_zero 1
    · intro other hother hsecond
      rw [← reads.unique hother] at hsecond
      exact absurd hsecond (Nat.succ_ne_self 1)

/-- Every line keeps what is remembered true. -/
theorem readLine (h : Remembers before c) (text : List Char) :
    Remembers (before ++ [text]) (c.readLine text).1 := by
  cases hentry : (c.readLine text).2 with
  | none =>
    rw [Context.readLine_fst_of_none hentry]
    exact h.skip (fun other => Context.not_isTopLevel_of_no_entry hentry)
      fun other => Context.key_eq_empty_of_no_entry hentry
  | some entry => exact h.step (Context.readLine_eq_some_iff.1 (Prod.ext rfl hentry))

/-- The context of every run from the start remembers the lines before. -/
theorem after (before : List (List Char)) : Remembers before (({} : Context).after before) := by
  induction before using List.reverseRecOn with
  | nil => exact .start (by simp) rfl rfl
  | append_singleton before text ih =>
    have hafter : ({} : Context).after (before ++ [text]) =
        ((({} : Context).after before).readLine text).1 := by
      simp [Context.after]
    rw [hafter]
    exact ih.readLine text

/-- Behind a vendor, the context holds that vendor and the last device below it. -/
theorem of_vendor {ident name : String} {between : List (List Char)} (h : Remembers before c)
    (top : Nearest Line.IsTopLevel before (.indented 0 ident name) between) :
    c.inClass = false ∧ c.vendor = Ident.normalize ident ∧
      (c.vendor ≠ "" → Below between Ident.normalize c.device) := by
  cases h with
  | start noTop =>
    obtain ⟨found, hmem, hreads, htop⟩ := top.exists_reads
    exact absurd htop (noTop found hmem _ hreads)
  | vendor top' vendorSection vendor device =>
    obtain ⟨hline, rfl⟩ := top.unique top'
    obtain ⟨-, rfl, -⟩ := Line.indented.inj hline
    exact ⟨vendorSection, vendor, device⟩
  | baseClass top' => cases (top.unique top').1

/-- Behind a class, the context holds that class and the last subclass below it. -/
theorem of_baseClass {ident name : String} {between : List (List Char)} (h : Remembers before c)
    (top : Nearest Line.IsTopLevel before (.classLine ident name) between) :
    c.inClass = true ∧ c.baseClass = Ident.normalize ident ∧
      (c.baseClass ≠ "" →
        Below between (fun sub => Ident.normalize ident ++ Ident.normalize sub) c.subclass) := by
  cases h with
  | start noTop =>
    obtain ⟨found, hmem, hreads, htop⟩ := top.exists_reads
    exact absurd htop (noTop found hmem _ hreads)
  | vendor top' => cases (top.unique top').1
  | baseClass top' classSection baseClass _ subclass =>
    obtain ⟨hline, rfl⟩ := top.unique top'
    obtain ⟨rfl, -⟩ := Line.classLine.inj hline
    exact ⟨classSection, baseClass, subclass⟩

/-- A step behind remembered lines makes an entry that looking back yields too. -/
theorem yields_of_step (h : Remembers before c) (hstep : c.Step text next entry) :
    Yields before text entry := by
  cases hstep with
  | baseClass reads => exact .baseClass reads
  | vendor reads => exact .vendor reads
  | subclass reads classSection known =>
    cases h with
    | start _ noSection => simp [classSection] at noSection
    | vendor _ vendorSection => simp [classSection] at vendorSection
    | baseClass top _ baseClass =>
      rw [baseClass] at known ⊢
      exact .subclass reads top known
  | device reads vendorSection known =>
    cases h with
    | start _ _ noVendor => exact absurd noVendor known
    | baseClass _ classSection => simp [vendorSection] at classSection
    | vendor top _ vendor =>
      rw [vendor] at known ⊢
      exact .device reads top known
  | progIf reads classSection known =>
    cases h with
    | start _ noSection => simp [classSection] at noSection
    | vendor _ vendorSection => simp [classSection] at vendorSection
    | baseClass top _ baseClass orphan subclass =>
      -- A class without a key has no subclass, so the code above is a key too.
      have hknown : c.baseClass ≠ "" := fun hempty => known (orphan hempty)
      obtain ⟨sub, label, after, second, hvalue⟩ := (subclass hknown).exists_nearest known
      rw [hvalue]
      exact .progIf reads top (baseClass ▸ hknown) second
  | subsystem reads vendorSection known knownDevice words =>
    cases h with
    | start _ _ noVendor => exact absurd noVendor known
    | baseClass _ classSection => simp [vendorSection] at classSection
    | vendor top _ vendor device =>
      obtain ⟨ident, label, after, second, hvalue⟩ := (device known).exists_nearest knownDevice
      rw [hvalue] at knownDevice ⊢
      rw [vendor] at known ⊢
      exact .subsystem reads top known second knownDevice words

/-- An entry that looking back yields is made by a step behind remembered lines. -/
theorem step_of_yields (h : Remembers before c) (hyields : Yields before text entry) :
    ∃ next, c.Step text next entry := by
  cases hyields with
  | baseClass reads => exact ⟨_, .baseClass reads⟩
  | vendor reads => exact ⟨_, .vendor reads⟩
  | device reads top known =>
    obtain ⟨vendorSection, vendor, -⟩ := h.of_vendor top
    rw [← vendor] at known ⊢
    exact ⟨_, .device reads vendorSection known⟩
  | subclass reads top known =>
    obtain ⟨classSection, baseClass, -⟩ := h.of_baseClass top
    rw [← baseClass] at known ⊢
    exact ⟨_, .subclass reads classSection known⟩
  | subsystem reads top known second knownDevice words =>
    obtain ⟨vendorSection, vendor, device⟩ := h.of_vendor top
    rw [← vendor] at known ⊢
    -- What is remembered is the nearest line, and this is the one that looking back finds.
    have hdevice := (device known).eq_of_nearest second
    rw [← hdevice] at knownDevice ⊢
    exact ⟨_, .subsystem reads vendorSection known knownDevice words⟩
  | progIf reads top known second =>
    obtain ⟨classSection, baseClass, subclass⟩ := h.of_baseClass top
    have hsubclass := (subclass (baseClass ▸ known)).eq_of_nearest second
    rw [← hsubclass]
    refine ⟨_, .progIf reads classSection ?_⟩
    rw [hsubclass]
    simp [known]

end Remembers

namespace Context

/-- The entry that the line at a position makes in a run from the context `c`. -/
def entryAt? (c : Context) (lines : List (List Char)) (k : Nat) : Option Entry :=
  lines[k]?.bind fun text => ((c.after (lines.take k)).readLine text).2

/-- A run makes the entries of its positions, in order. -/
theorem entries_eq_filterMap_entryAt? (c : Context) (lines : List (List Char)) :
    c.entries lines = (List.range lines.length).filterMap (c.entryAt? lines) := by
  induction lines generalizing c with
  | nil => rfl
  | cons text rest ih =>
    rw [entries_cons, ih, List.length_cons, List.range_succ_eq_map, List.filterMap_cons,
      List.filterMap_map]
    have hfirst : c.entryAt? (text :: rest) 0 = (c.readLine text).2 := rfl
    have hrest : c.entryAt? (text :: rest) ∘ Nat.succ = (c.readLine text).1.entryAt? rest := by
      funext k
      rfl
    rw [hfirst, hrest]
    cases (c.readLine text).2 <;> rfl

end Context

/-- Running through the lines of a names file and looking back from each line are the same: at every
position the run makes just the entry that the line yields behind the lines before it, and no other
entries. -/
theorem entries_eq_look_back (lines : List (List Char)) :
    ({} : Context).entries lines =
        (List.range lines.length).filterMap (({} : Context).entryAt? lines) ∧
      ∀ (k : Nat) (entry : Entry), ({} : Context).entryAt? lines k = some entry ↔
        ∃ text, lines[k]? = some text ∧ Yields (lines.take k) text entry := by
  refine ⟨Context.entries_eq_filterMap_entryAt? {} lines, ?_⟩
  intro k entry
  have hbefore := Remembers.after (lines.take k)
  rw [Context.entryAt?, Option.bind_eq_some_iff]
  constructor
  · rintro ⟨text, htext, hentry⟩
    obtain ⟨next, hstep⟩ := Context.readLine_snd_eq_some_iff.1 hentry
    exact ⟨text, htext, hbefore.yields_of_step hstep⟩
  · rintro ⟨text, htext, hyields⟩
    exact ⟨text, htext, Context.readLine_snd_eq_some_iff.2 (hbefore.step_of_yields hyields)⟩

end PciCatalog
