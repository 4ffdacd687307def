import PciCatalog.Database
import Mathlib.Data.List.Induction

/-!
# Look-ups read the last entry

A database that entries are added to is a summary of their history: every slot holds the name of the
last entry with that slot.  Main statement: each look-up answers with the name of the last entry of
the kind, parent and key that it asks for, whatever else was added and in however many runs.
-/

namespace PciCatalog

/-- The name of the last of some entries with a property. -/
def lastName? (p : Entry → Prop) [DecidablePred p] (history : List Entry) : Option String :=
  (history.filter fun e => p e).getLast?.map Entry.name

section LastName

variable (p : Entry → Prop) [DecidablePred p]

@[simp] theorem lastName?_nil : lastName? p [] = none := rfl

theorem lastName?_concat (front : List Entry) (e : Entry) :
    lastName? p (front ++ [e]) = if p e then some e.name else lastName? p front := by
  by_cases h : p e <;> simp [lastName?, h]

/-- An entry without the property does not count. -/
theorem lastName?_insert_of_not {e : Entry} (h : ¬ p e) (front back : List Entry) :
    lastName? p (front ++ e :: back) = lastName? p (front ++ back) := by
  simp [lastName?, h]

theorem lastName?_of_forall_not {history : List Entry} (h : ∀ e ∈ history, ¬ p e) :
    lastName? p history = none := by
  have hfilter : history.filter (fun e => decide (p e)) = [] :=
    List.filter_eq_nil_iff.2 fun e he => by simpa using h e he
  rw [lastName?, hfilter]
  rfl

theorem lastName?_congr {q : Entry → Prop} [DecidablePred q] (h : ∀ e, p e ↔ q e)
    (history : List Entry) : lastName? p history = lastName? q history := by
  unfold lastName?
  simp only [h]

theorem exists_mem_of_lastName? {history : List Entry} {name : String}
    (h : lastName? p history = some name) : ∃ e ∈ history, p e ∧ e.name = name := by
  obtain ⟨e, hlast, hname⟩ := Option.map_eq_some_iff.1 h
  have hmem := List.mem_of_getLast? hlast
  rw [List.mem_filter, decide_eq_true_eq] at hmem
  exact ⟨e, hmem.1, hmem.2, hname⟩

/-- When all entries with the property agree on the name, it is the last one's. -/
theorem lastName?_eq_of_agree {history : List Entry} {e : Entry} (he : e ∈ history) (hp : p e)
    (agree : ∀ e' ∈ history, p e' → e'.name = e.name) : lastName? p history = some e.name := by
  cases h : lastName? p history with
  | none =>
    rw [lastName?, Option.map_eq_none_iff, List.getLast?_eq_none_iff, List.filter_eq_nil_iff] at h
    exact absurd (decide_eq_true hp) (h e he)
  | some name =>
    obtain ⟨e', he', hp', rfl⟩ := exists_mem_of_lastName? p h
    rw [agree e' he' hp']

end LastName

namespace Entry

/-! An entry writes a slot when it has the kind, the key and, for devices and subsystems, the parent
of the slot. -/

theorem slot?_eq_vendor_iff {e : Entry} {key : String} :
    e.slot? = some (.vendor key) ↔ e.kind = .vendor ∧ e.key = key := by
  cases h : e.kind <;> simp [slot?, h]

theorem slot?_eq_device_iff {e : Entry} {parent key : String} :
    e.slot? = some (.device parent key) ↔
      e.kind = .device ∧ e.parent = some parent ∧ e.key = key := by
  cases h : e.kind <;> cases hp : e.parent <;> simp [slot?, h, hp]

theorem slot?_eq_subsystem_iff {e : Entry} {parent key : String} :
    e.slot? = some (.subsystem parent key) ↔
      e.kind = .subsystem ∧ e.parent = some parent ∧ e.key = key := by
  cases h : e.kind <;> cases hp : e.parent <;> simp [slot?, h, hp]

theorem slot?_eq_baseClass_iff {e : Entry} {key : String} :
    e.slot? = some (.baseClass key) ↔ e.kind = .baseClass ∧ e.key = key := by
  cases h : e.kind <;> simp [slot?, h]

theorem slot?_eq_subclass_iff {e : Entry} {key : String} :
    e.slot? = some (.subclass key) ↔ e.kind = .subclass ∧ e.key = key := by
  cases h : e.kind <;> simp [slot?, h]

theorem slot?_eq_progIf_iff {e : Entry} {key : String} :
    e.slot? = some (.progIf key) ↔ e.kind = .progIf ∧ e.key = key := by
  cases h : e.kind <;> simp [slot?, h]

/-- Only a device or subsystem without a parent has no slot. -/
theorem slot?_eq_none_iff {e : Entry} :
    e.slot? = none ↔ (e.kind = .device ∨ e.kind = .subsystem) ∧ e.parent = none := by
  cases h : e.kind <;> simp [slot?, h]

end Entry

namespace Database

/-- A slot holds the name of the last entry added to it, or else what it held before. -/
theorem find?_addAll (db : Database) (history : List Entry) (s : Slot) :
    (db.addAll history).find? s =
      (lastName? (fun e => e.slot? = some s) history).or (db.find? s) := by
  -- From the end of the history, since the entry added last decides.
  induction history using List.reverseRecOn with
  | nil => rfl
  | append_singleton front e ih =>
    rw [addAll_append, addAll_cons, addAll_nil, find?_add, ih, lastName?_concat]
    by_cases h : e.slot? = some s
    · rw [if_pos h, if_pos h, Option.some_or]
    · rw [if_neg h, if_neg h]

/-- In a database that started empty, a slot holds the name of the last entry added to it. -/
theorem find?_empty_addAll (history : List Entry) (s : Slot) :
    (empty.addAll history).find? s = lastName? (fun e => e.slot? = some s) history := by
  rw [find?_addAll]
  show (lastName? _ history).or (find? ∅ s) = _
  rw [find?_empty, Option.or_none]

/-- Adding several lists of entries is adding them as one. -/
theorem foldl_addAll (db : Database) (calls : List (List Entry)) :
    calls.foldl addAll db = db.addAll calls.flatten := by
  induction calls generalizing db with
  | nil => rfl
  | cons entries rest ih => rw [List.foldl_cons, ih, List.flatten_cons, addAll_append]

end Database

/-- A question that a database answers. -/
inductive Query where
  | vendor (vendor : String)
  | device (vendor device : String)
  | subsystem (vendor device subvendor subdevice : String)
  | classCode (code : String)

namespace Query

/-- The name that a database gives. -/
def answer (db : Database) : Query → String
  | vendor v => db.vendorName v
  | device v d => db.deviceName v d
  | subsystem v d sv sd => db.subsystemName v d sv sd
  | classCode code => db.className code

/-- Whether an entry of a kind has the first `count` characters of a code as its key. -/
def NamesClass (kind : Kind) (count : Nat) (code : String) (e : Entry) : Prop :=
  e.kind = kind ∧ count ≤ code.length ∧ e.key.toList = code.toList.take count

instance (kind : Kind) (count : Nat) (code : String) :
    DecidablePred (NamesClass kind count code) :=
  fun e => inferInstanceAs (Decidable (e.kind = kind ∧ _))

/-- Whether an entry has the kind, parent and key that are asked for. -/
def Concerns : Query → Entry → Prop
  | vendor v, e => e.kind = .vendor ∧ e.key = Ident.normalize v
  | device v d, e =>
    e.kind = .device ∧ e.parent = some (Ident.normalize v) ∧ e.key = Ident.normalize d
  | subsystem v d sv sd, e =>
    e.kind = .subsystem ∧ e.parent = some (Ident.normalize v ++ ":" ++ Ident.normalize d) ∧
      e.key = Ident.normalize sv ++ ":" ++ Ident.normalize sd
  | classCode code, e =>
    NamesClass .progIf 6 (Ident.normalize code) e ∨
      NamesClass .subclass 4 (Ident.normalize code) e ∨
      NamesClass .baseClass 2 (Ident.normalize code) e

/-- Whether a query looks into a slot before all others; a class code does so by its length. -/
inductive Probes : Query → Slot → Prop
  | vendor (v : String) : Probes (.vendor v) (.vendor (Ident.normalize v))
  | device (v d : String) : Probes (.device v d) (.device (Ident.normalize v) (Ident.normalize d))
  | subsystem (v d sv sd : String) :
      Probes (.subsystem v d sv sd) (.subsystem (Ident.normalize v ++ ":" ++ Ident.normalize d)
        (Ident.normalize sv ++ ":" ++ Ident.normalize sd))
  | baseClass (code : String) (length : (Ident.normalize code).toList.length = 2) :
      Probes (.classCode code) (.baseClass (Ident.normalize code))
  | subclass (code : String) (length : (Ident.normalize code).toList.length = 4) :
      Probes (.classCode code) (.subclass (Ident.normalize code))
  | progIf (code : String) (length : (Ident.normalize code).toList.length = 6) :
      Probes (.classCode code) (.progIf (Ident.normalize code))

/-! The slots by the keys that the identifiers of a query come to. -/

section Keys

variable {v d sv sd code key vendorKey deviceKey subvendorKey subdeviceKey : String}

theorem Probes.of_vendor (hv : Ident.normalize v = vendorKey) :
    Probes (.vendor v) (.vendor vendorKey) :=
  hv ▸ .vendor v

theorem Probes.of_device (hv : Ident.normalize v = vendorKey) (hd : Ident.normalize d = deviceKey) :
    Probes (.device v d) (.device vendorKey deviceKey) :=
  hv ▸ hd ▸ .device v d

theorem Probes.of_subsystem (hv : Ident.normalize v = vendorKey)
    (hd : Ident.normalize d = deviceKey) (hsv : Ident.normalize sv = subvendorKey)
    (hsd : Ident.normalize sd = subdeviceKey) :
    Probes (.subsystem v d sv sd)
      (.subsystem (vendorKey ++ ":" ++ deviceKey) (subvendorKey ++ ":" ++ subdeviceKey)) :=
  hv ▸ hd ▸ hsv ▸ hsd ▸ .subsystem v d sv sd

theorem Probes.of_baseClass (hcode : Ident.normalize code = key) (length : key.toList.length = 2) :
    Probes (.classCode code) (.baseClass key) := by
  subst hcode
  exact .baseClass code length

theorem Probes.of_subclass (hcode : Ident.normalize code = key) (length : key.toList.length = 4) :
    Probes (.classCode code) (.subclass key) := by
  subst hcode
  exact .subclass code length

theorem Probes.of_progIf (hcode : Ident.normalize code = key) (length : key.toList.length = 6) :
    Probes (.classCode code) (.progIf key) := by
  subst hcode
  exact .progIf code length

end Keys

end Query

namespace Database

open Query (NamesClass)

/-- What a class table holds for the first characters of a code is the name of the last entry with
that key. -/
theorem leading?_bind_find? {slot : String → Slot} {kind : Kind}
    (hslot : ∀ {e : Entry} {key : String}, e.slot? = some (slot key) ↔ e.kind = kind ∧ e.key = key)
    (count : Nat) (code : String) (history : List Entry) :
    ((leading? count code).bind fun key => (empty.addAll history).find? (slot key)) =
      lastName? (NamesClass kind count code) history := by
  unfold leading?
  by_cases hlength : count ≤ code.length
  · rw [if_pos hlength, Option.bind_some, find?_empty_addAll]
    apply lastName?_congr
    intro e
    rw [hslot, NamesClass, ← String.toList_inj, String.toList_ofList]
    simp [hlength]
  · -- A code that is too short has no key to look up, and no entry counts for it.
    rw [if_neg hlength, Option.bind_none]
    exact (lastName?_of_forall_not _ fun e _ h => hlength h.2.1).symm

/-- The answers of a database that was filled from empty, read from the entries added to it. -/
theorem vendorName_addAll (history : List Entry) (v : String) :
    (empty.addAll history).vendorName v =
      (lastName? (fun e => e.kind = .vendor ∧ e.key = Ident.normalize v) history).getD
        (Ident.normalize v) := by
  show ((empty.addAll history).find? (.vendor (Ident.normalize v))).getD _ = _
  rw [find?_empty_addAll, lastName?_congr _ fun e => Entry.slot?_eq_vendor_iff]

theorem deviceName_addAll (history : List Entry) (v d : String) :
    (empty.addAll history).deviceName v d =
      (lastName? (fun e => e.kind = .device ∧ e.parent = some (Ident.normalize v) ∧
        e.key = Ident.normalize d) history).getD (Ident.normalize d) := by
  show ((empty.addAll history).find? (.device (Ident.normalize v) (Ident.normalize d))).getD _ = _
  rw [find?_empty_addAll, lastName?_congr _ fun e => Entry.slot?_eq_device_iff]

theorem subsystemName_addAll (history : List Entry) (v d sv sd : String) :
    (empty.addAll history).subsystemName v d sv sd =
      (lastName? (fun e => e.kind = .subsystem ∧
        e.parent = some (Ident.normalize v ++ ":" ++ Ident.normalize d) ∧
        e.key = Ident.normalize sv ++ ":" ++ Ident.normalize sd) history).getD
        (Ident.normalize sd) := by
  show ((empty.addAll history).find? (.subsystem (Ident.normalize v ++ ":" ++ Ident.normalize d)
    (Ident.normalize sv ++ ":" ++ Ident.normalize sd))).getD _ = _
  rw [find?_empty_addAll, lastName?_congr _ fun e => Entry.slot?_eq_subsystem_iff]

theorem className?_addAll (history : List Entry) (code : String) :
    (empty.addAll history).className? code =
      (lastName? (NamesClass .progIf 6 code) history).or
        ((lastName? (NamesClass .subclass 4 code) history).or
          (lastName? (NamesClass .baseClass 2 code) history)) := by
  rw [← leading?_bind_find? Entry.slot?_eq_progIf_iff,
    ← leading?_bind_find? Entry.slot?_eq_subclass_iff,
    ← leading?_bind_find? Entry.slot?_eq_baseClass_iff]
  simp only [className?, Option.orElse_eq_orElse, Option.orElse_eq_or]
  rfl

theorem leading?_of_length_eq {count : Nat} {code : String} (h : code.toList.length = count) :
    leading? count code = some code := by
  rw [leading?, if_pos (h ▸ Nat.le_of_eq String.length_toList), List.take_of_length_le (by omega),
    String.ofList_toList]

theorem leading?_of_length_lt {count : Nat} {code : String} (h : code.toList.length < count) :
    leading? count code = none := by
  rw [String.length_toList] at h
  rw [leading?, if_neg (by omega)]

/-! A code of six, four or two digits that stands in the table for its length is answered by that
table. -/

section ClassName

variable {db : Database} {code name : String}

theorem className?_of_six (hlength : code.toList.length = 6) (h : db.progIfs[code]? = some name) :
    db.className? code = some name := by
  rw [className?, leading?_of_length_eq hlength]
  simp [h]

theorem className?_of_four (hlength : code.toList.length = 4)
    (h : db.subclasses[code]? = some name) : db.className? code = some name := by
  rw [className?, leading?_of_length_lt (by omega), leading?_of_length_eq hlength]
  simp [h]

theorem className?_of_two (hlength : code.toList.length = 2) (h : db.classes[code]? = some name) :
    db.className? code = some name := by
  rw [className?, leading?_of_length_lt (by omega), leading?_of_length_lt (by omega),
    leading?_of_length_eq hlength]
  simp [h]

end ClassName

/-- A query is answered with the name in the slot that it looks into. -/
theorem answer_of_probes {db : Database} {q : Query} {s : Slot} {name : String}
    (h : db.find? s = some name) (hq : q.Probes s) : q.answer db = name := by
  cases hq with
  | vendor v =>
    show (db.find? (.vendor _)).getD _ = name
    rw [h, Option.getD_some]
  | device v d =>
    show (db.find? (.device _ _)).getD _ = name
    rw [h, Option.getD_some]
  | subsystem v d sv sd =>
    show (db.find? (.subsystem _ _)).getD _ = name
    rw [h, Option.getD_some]
  | baseClass code length =>
    rw [Query.answer, className, className?_of_two length h, Option.getD_some]
  | subclass code length =>
    rw [Query.answer, className, className?_of_four length h, Option.getD_some]
  | progIf code length =>
    rw [Query.answer, className, className?_of_six length h, Option.getD_some]

/-- An entry that a query does not ask for does not change its answer. -/
theorem answer_insert_of_not_concerns {q : Query} {e : Entry} (h : ¬ q.Concerns e)
    (front back : List Entry) :
    q.answer (empty.addAll (front ++ e :: back)) = q.answer (empty.addAll (front ++ back)) := by
  cases q with
  | vendor v =>
    rw [Query.answer, Query.answer, vendorName_addAll, vendorName_addAll]
    congr 1
    apply lastName?_insert_of_not
    exact h
  | device v d =>
    rw [Query.answer, Query.answer, deviceName_addAll, deviceName_addAll]
    congr 1
    apply lastName?_insert_of_not
    exact h
  | subsystem v d sv sd =>
    rw [Query.answer, Query.answer, subsystemName_addAll, subsystemName_addAll]
    congr 1
    apply lastName?_insert_of_not
    exact h
  | classCode code =>
    -- A class code asks for entries of three kinds, and the entry is none of them.
    rw [Query.Concerns, not_or, not_or] at h
    simp only [Query.answer, className, className?_addAll]
    rw [lastName?_insert_of_not _ h.1, lastName?_insert_of_not _ h.2.1,
      lastName?_insert_of_not _ h.2.2]

/-- An entry without a slot leaves no trace. -/
theorem addAll_insert_of_slot?_eq_none {e : Entry} (h : e.slot? = none) (db : Database)
    (front back : List Entry) : db.addAll (front ++ e :: back) = db.addAll (front ++ back) := by
  rw [addAll_append, addAll_cons, add_of_slot?_eq_none h, ← addAll_append]

/-- Look-ups are exactly scoped and the last write wins.  In a database that some lists of entries
were added to, each look-up answers with the name of the last entry of the kind, parent and key
that it asks for, or else with its fallback; a class code is looked up by its first six, four and
two characters, the longest first.  No other entry has a say in an answer, and a device or subsystem
without a parent has none in the database at all. -/
theorem lookups_eq_last_names (calls : List (List Entry)) :
    (∀ v, (calls.foldl addAll empty).vendorName v =
      (lastName? (fun e => e.kind = .vendor ∧ e.key = Ident.normalize v) calls.flatten).getD
        (Ident.normalize v)) ∧
    (∀ v d, (calls.foldl addAll empty).deviceName v d =
      (lastName? (fun e => e.kind = .device ∧ e.parent = some (Ident.normalize v) ∧
        e.key = Ident.normalize d) calls.flatten).getD (Ident.normalize d)) ∧
    (∀ v d sv sd, (calls.foldl addAll empty).subsystemName v d sv sd =
      (lastName? (fun e => e.kind = .subsystem ∧
        e.parent = some (Ident.normalize v ++ ":" ++ Ident.normalize d) ∧
        e.key = Ident.normalize sv ++ ":" ++ Ident.normalize sd) calls.flatten).getD
        (Ident.normalize sd)) ∧
    (∀ code, (calls.foldl addAll empty).className code =
      ((lastName? (NamesClass .progIf 6 (Ident.normalize code)) calls.flatten).or
        ((lastName? (NamesClass .subclass 4 (Ident.normalize code)) calls.flatten).or
          (lastName? (NamesClass .baseClass 2 (Ident.normalize code)) calls.flatten))).getD
        ("Unknown class (" ++ Ident.normalize code ++ ")")) ∧
    (∀ (q : Query) (e : Entry) (front back : List Entry),
      calls.flatten = front ++ e :: back → ¬ q.Concerns e →
        q.answer (calls.foldl addAll empty) = q.answer (empty.addAll (front ++ back))) ∧
    (∀ (e : Entry) (front back : List Entry), calls.flatten = front ++ e :: back →
      (e.kind = .device ∨ e.kind = .subsystem) → e.parent = none →
        calls.foldl addAll empty = empty.addAll (front ++ back)) := by
  rw [foldl_addAll]
  refine ⟨vendorName_addAll _, deviceName_addAll _, subsystemName_addAll _, ?_, ?_, ?_⟩
  · intro code
    rw [className, className?_addAll]
  · intro q e front back hhistory hconcerns
    rw [hhistory]
    exact answer_insert_of_not_concerns hconcerns front back
  · intro e front back hhistory hkind hparent
    rw [hhistory]
    exact addAll_insert_of_slot?_eq_none (Entry.slot?_eq_none_iff.2 ⟨hkind, hparent⟩) _ front back

/-- A vendor that is named twice, and a device without a parent in between. -/
def renamedVendor : List (List Entry) :=
  [[⟨.vendor, "8086", "Intel", none⟩, ⟨.device, "1533", "I210", none⟩],
    [⟨.vendor, "8086", "Intel Corporation", none⟩]]

theorem lookups_of_renamedVendor :
    ¬ (Query.device "8086" "1533").Concerns ⟨.device, "1533", "I210", none⟩ ∧
      (renamedVendor.foldl addAll empty).vendorName "0x8086" = "Intel Corporation" ∧
      (renamedVendor.foldl addAll empty).deviceName "8086" "1533" =
        (empty.addAll [⟨.vendor, "8086", "Intel", none⟩,
          ⟨.vendor, "8086", "Intel Corporation", none⟩]).deviceName "8086" "1533" := by
  obtain ⟨hvendor, -, -, -, hother, -⟩ := lookups_eq_last_names renamedVendor
  have hconcerns : ¬ (Query.device "8086" "1533").Concerns ⟨.device, "1533", "I210", none⟩ := by
    simp [Query.Concerns]
  refine ⟨hconcerns, ?_, hother (.device "8086" "1533") _ [_] [_] rfl hconcerns⟩
  rw [hvendor]
  decide +kernel

end Database

end PciCatalog
