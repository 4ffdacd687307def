import PciCatalog.Proofs.Candidate

/-!
# What a line does in its context

All that reading one line can do: which entry it makes from which candidate, on what conditions on
the context, and what it leaves in the context.  Facts about runs of lines use this relation and do
not open the reader again.
-/

namespace PciCatalog
namespace Context

/-- A line that makes an entry, the context behind it and the entry. -/
inductive Step (c : Context) (text : List Char) : Context → Entry → Prop
  | baseClass {ident name : String} (reads : Line.Reads text (.classLine ident name)) :
      Step c text { c with baseClass := Ident.normalize ident, subclass := "", inClass := true }
        { kind := .baseClass, key := Ident.normalize ident, name }
  | vendor {ident name : String} (reads : Line.Reads text (.indented 0 ident name)) :
      Step c text { c with vendor := Ident.normalize ident, device := "", inClass := false }
        { kind := .vendor, key := Ident.normalize ident, name }
  | subclass {ident name : String} (reads : Line.Reads text (.indented 1 ident name))
      (classSection : c.inClass = true) (known : c.baseClass ≠ "") :
      Step c text { c with subclass := c.baseClass ++ Ident.normalize ident }
        { kind := .subclass, key := c.baseClass ++ Ident.normalize ident, name }
  | device {ident name : String} (reads : Line.Reads text (.indented 1 ident name))
      (vendorSection : c.inClass = false) (known : c.vendor ≠ "") :
      Step c text { c with device := Ident.normalize ident }
        { kind := .device, key := Ident.normalize ident, name, parent := some c.vendor }
  | progIf {ident name : String} (reads : Line.Reads text (.indented 2 ident name))
      (classSection : c.inClass = true) (known : c.subclass ≠ "") :
      Step c text c { kind := .progIf, key := c.subclass ++ Ident.normalize ident, name }
  | subsystem {ident name : String} {subvendor subdevice : List Char}
      (reads : Line.Reads text (.indented 2 ident name)) (vendorSection : c.inClass = false)
      (known : c.vendor ≠ "") (knownDevice : c.device ≠ "")
      (words : Text.words ident.toList = [subvendor, subdevice]) :
      Step c text c
        { kind := .subsystem, name,
          key := Ident.normalize (String.ofList subvendor) ++ ":" ++
            Ident.normalize (String.ofList subdevice),
          parent := some (c.vendor ++ ":" ++ c.device) }

/-- The key of a subsystem is made of the two words of its identifier. -/
theorem subsystemKey?_eq_some_iff {ident key : String} :
    subsystemKey? ident = some key ↔
      ∃ subvendor subdevice, Text.words ident.toList = [subvendor, subdevice] ∧
        key = Ident.normalize (String.ofList subvendor) ++ ":" ++
          Ident.normalize (String.ofList subdevice) := by
  unfold subsystemKey?
  constructor
  · intro h
    split at h
    · next subvendor subdevice hwords =>
      refine ⟨subvendor, subdevice, hwords, ?_⟩
      simpa [subsystemParent, Ident.normalize] using (Option.some.inj h).symm
    · contradiction
  · rintro ⟨subvendor, subdevice, hwords, rfl⟩
    rw [hwords]
    simp [subsystemParent, Ident.normalize]

theorem accept?_one (c : Context) (ident name : String) :
    c.accept? (.indented 1 ident name) =
      if c.inClass then c.acceptSubclass? ident name else c.acceptDevice? ident name := rfl

theorem accept?_two (c : Context) (ident name : String) :
    c.accept? (.indented 2 ident name) =
      if c.inClass then c.acceptProgIf? ident name else c.acceptSubsystem? ident name := rfl

/-! What an indented line asks of its context, and what it makes there. -/

section Accept

variable {c next : Context} {ident name : String} {entry : Entry}

theorem acceptSubclass?_eq_some_iff :
    c.acceptSubclass? ident name = some (next, entry) ↔ c.baseClass ≠ "" ∧
      next = { c with subclass := c.baseClass ++ Ident.normalize ident } ∧
      entry = { kind := .subclass, key := c.baseClass ++ Ident.normalize ident, name } := by
  simp [acceptSubclass?, @eq_comm _ next, @eq_comm _ entry]

theorem acceptDevice?_eq_some_iff :
    c.acceptDevice? ident name = some (next, entry) ↔ c.vendor ≠ "" ∧
      next = { c with device := Ident.normalize ident } ∧
      entry = { kind := .device, key := Ident.normalize ident, name, parent := some c.vendor } := by
  simp [acceptDevice?, @eq_comm _ next, @eq_comm _ entry]

theorem acceptProgIf?_eq_some_iff :
    c.acceptProgIf? ident name = some (next, entry) ↔ c.subclass ≠ "" ∧ next = c ∧
      entry = { kind := .progIf, key := c.subclass ++ Ident.normalize ident, name } := by
  simp [acceptProgIf?, @eq_comm _ next, @eq_comm _ entry]

theorem acceptSubsystem?_eq_some_iff :
    c.acceptSubsystem? ident name = some (next, entry) ↔ c.vendor ≠ "" ∧ c.device ≠ "" ∧
      ∃ subvendor subdevice, Text.words ident.toList = [subvendor, subdevice] ∧ next = c ∧
        entry =
          { kind := .subsystem, name,
            key := Ident.normalize (String.ofList subvendor) ++ ":" ++
              Ident.normalize (String.ofList subdevice),
            parent := some (c.vendor ++ ":" ++ c.device) } := by
  rw [acceptSubsystem?, Option.ite_none_left_eq_some, Option.map_eq_some_iff, Bool.or_eq_true,
    decide_eq_true_eq, decide_eq_true_eq, not_or, and_assoc]
  refine and_congr_right fun _ => and_congr_right fun _ => ?_
  constructor
  · rintro ⟨key, hkey, hmade⟩
    obtain ⟨rfl, rfl⟩ := Prod.mk.inj hmade
    obtain ⟨subvendor, subdevice, hwords, rfl⟩ := subsystemKey?_eq_some_iff.1 hkey
    exact ⟨subvendor, subdevice, hwords, rfl, rfl⟩
  · rintro ⟨subvendor, subdevice, hwords, rfl, rfl⟩
    exact ⟨_, subsystemKey?_eq_some_iff.2 ⟨subvendor, subdevice, hwords, rfl⟩, rfl⟩

end Accept

theorem readLine_eq_some_iff_accept? {c next : Context} {text : List Char} {entry : Entry} :
    c.readLine text = (next, some entry) ↔
      ∃ line, Line.Reads text line ∧ c.accept? line = some (next, entry) := by
  simp only [← Line.read?_eq_some_iff, readLine]
  cases Line.read? text with
  | none => simp
  | some line =>
    cases haccept : c.accept? line with
    | none => simp [haccept]
    | some result => simp [haccept, Prod.ext_iff]

/-- A line that is accepted makes a step. -/
theorem step_of_accept? {c next : Context} {text : List Char} {line : Line} {entry : Entry}
    (reads : Line.Reads text line) (haccept : c.accept? line = some (next, entry)) :
    c.Step text next entry := by
  match line, reads, haccept with
  | .classLine ident name, reads, haccept =>
    obtain ⟨rfl, rfl⟩ := Prod.mk.inj (Option.some.inj haccept)
    exact .baseClass reads
  | .indented 0 ident name, reads, haccept =>
    obtain ⟨rfl, rfl⟩ := Prod.mk.inj (Option.some.inj haccept)
    exact .vendor reads
  | .indented 1 ident name, reads, haccept =>
    rw [accept?_one] at haccept
    split at haccept
    · next hclass =>
      obtain ⟨hknown, rfl, rfl⟩ := acceptSubclass?_eq_some_iff.1 haccept
      exact .subclass reads hclass hknown
    · next hclass =>
      obtain ⟨hknown, rfl, rfl⟩ := acceptDevice?_eq_some_iff.1 haccept
      exact .device reads (by simpa using hclass) hknown
  | .indented 2 ident name, reads, haccept =>
    rw [accept?_two] at haccept
    split at haccept
    · next hclass =>
      obtain ⟨hknown, rfl, rfl⟩ := acceptProgIf?_eq_some_iff.1 haccept
      exact .progIf reads hclass hknown
    · next hclass =>
      obtain ⟨hknown, hdevice, _, _, hwords, rfl, rfl⟩ :=
        acceptSubsystem?_eq_some_iff.1 haccept
      exact .subsystem reads (by simpa using hclass) hknown hdevice hwords
  -- The reader passes on no line behind more than two tabs.
  | .indented (depth + 3) ident name, reads, _ => exact absurd reads.depth_le (by omega)

/-- The line of a step is accepted. -/
theorem Step.exists_accept? {c next : Context} {text : List Char} {entry : Entry}
    (h : c.Step text next entry) :
    ∃ line, Line.Reads text line ∧ c.accept? line = some (next, entry) := by
  cases h with
  | baseClass reads => exact ⟨_, reads, rfl⟩
  | vendor reads => exact ⟨_, reads, rfl⟩
  | subclass reads classSection known =>
    refine ⟨_, reads, ?_⟩
    rw [accept?_one, if_pos classSection]
    exact acceptSubclass?_eq_some_iff.2 ⟨known, rfl, rfl⟩
  | device reads vendorSection known =>
    refine ⟨_, reads, ?_⟩
    rw [accept?_one, if_neg (by simp [vendorSection])]
    exact acceptDevice?_eq_some_iff.2 ⟨known, rfl, rfl⟩
  | progIf reads classSection known =>
    refine ⟨_, reads, ?_⟩
    rw [accept?_two, if_pos classSection]
    exact acceptProgIf?_eq_some_iff.2 ⟨known, rfl, rfl⟩
  | subsystem reads vendorSection known knownDevice words =>
    refine ⟨_, reads, ?_⟩
    rw [accept?_two, if_neg (by simp [vendorSection])]
    exact acceptSubsystem?_eq_some_iff.2 ⟨known, knownDevice, _, _, words, rfl, rfl⟩

/-- Reading a line that makes an entry is a step. -/
theorem readLine_eq_some_iff {c next : Context} {text : List Char} {entry : Entry} :
    c.readLine text = (next, some entry) ↔ c.Step text next entry := by
  rw [readLine_eq_some_iff_accept?]
  exact ⟨fun ⟨_, reads, haccept⟩ => step_of_accept? reads haccept, Step.exists_accept?⟩

/-- A line makes an entry exactly when a step makes it. -/
theorem readLine_snd_eq_some_iff {c : Context} {text : List Char} {entry : Entry} :
    (c.readLine text).2 = some entry ↔ ∃ next, c.Step text next entry := by
  constructor
  · intro h
    exact ⟨(c.readLine text).1, readLine_eq_some_iff.1 (Prod.ext rfl h)⟩
  · rintro ⟨next, h⟩
    rw [readLine_eq_some_iff.2 h]

theorem not_step_of_no_entry {c : Context} {text : List Char} (h : (c.readLine text).2 = none)
    (next : Context) (entry : Entry) : ¬ c.Step text next entry := by
  intro hstep
  rw [readLine_eq_some_iff.2 hstep] at h
  contradiction

/-- A line that makes no entry opens no section. -/
theorem not_isTopLevel_of_no_entry {c : Context} {text : List Char} {line : Line}
    (h : (c.readLine text).2 = none) (hreads : Line.Reads text line) : ¬ line.IsTopLevel := by
  have hno := not_step_of_no_entry h
  intro htop
  cases line with
  | classLine ident name => exact hno _ _ (.baseClass hreads)
  | indented depth ident name =>
    obtain rfl : depth = 0 := htop
    exact hno _ _ (.vendor hreads)

/-- A line right below the top level makes no entry only in a section without a key. -/
theorem key_eq_empty_of_no_entry {c : Context} {text : List Char} {line : Line}
    (h : (c.readLine text).2 = none) (hreads : Line.Reads text line)
    (hsecond : line.IsSecondLevel) : if c.inClass then c.baseClass = "" else c.vendor = "" := by
  have hno := not_step_of_no_entry h
  cases line with
  | classLine ident name => exact hsecond.elim
  | indented depth ident name =>
    obtain rfl : depth = 1 := hsecond
    split
    · next hclass =>
      by_contra hknown
      exact hno _ _ (.subclass hreads hclass hknown)
    · next hclass =>
      by_contra hknown
      exact hno _ _ (.device hreads (by simpa using hclass) hknown)

end Context
end PciCatalog
