import PciCatalog.Proofs.Rearrangement

/-!
# When two databases are equal

A history of entries leaves one thing behind in each slot: the name that was written there last.
Main statement: two databases that were filled from empty are equal exactly when their histories
leave the same in every slot (`equal_iff_histories_agree`).  So the order in which different slots
were written has no say, nor have names that were replaced, entries without a slot, a second run of
the same entries, and the file that the entries come from.
-/

namespace PciCatalog

/-- The last entry of a history that writes a slot gives it a name. -/
def LastWrites (history : List Entry) (s : Slot) (name : String) : Prop :=
  ∃ front e back, history = front ++ e :: back ∧ e.slot? = some s ∧ e.name = name ∧
    s ∉ writtenSlots back

/-- Whether two histories leave the same in a slot: neither of them writes it, or the last name that
they write there is the same. -/
def AgreeOn (history other : List Entry) (s : Slot) : Prop :=
  (s ∉ writtenSlots history ∧ s ∉ writtenSlots other) ∨
    ∃ name, LastWrites history s name ∧ LastWrites other s name

section LastWritten

variable {history other : List Entry} {s : Slot}

theorem mem_writtenSlots_iff : s ∈ writtenSlots history ↔ ∃ e ∈ history, e.slot? = some s := by
  rw [writtenSlots, List.mem_filterMap]

/-- What is added later decides, and what was there before counts where it says nothing. -/
theorem lastName?_append (p : Entry → Prop) [DecidablePred p] (front back : List Entry) :
    lastName? p (front ++ back) = (lastName? p back).or (lastName? p front) := by
  rw [lastName?, lastName?, lastName?, List.filter_append, List.getLast?_append]
  cases (back.filter fun e => decide (p e)).getLast? <;> simp

theorem lastName?_eq_none_iff :
    lastName? (fun e => e.slot? = some s) history = none ↔ s ∉ writtenSlots history := by
  rw [lastName?, Option.map_eq_none_iff, List.getLast?_eq_none_iff, List.filter_eq_nil_iff,
    mem_writtenSlots_iff]
  simp

theorem lastName?_eq_some_iff {name : String} :
    lastName? (fun e => e.slot? = some s) history = some name ↔ LastWrites history s name := by
  constructor
  · intro h
    -- From the end of the history, up to the entry that decides.
    induction history using List.reverseRecOn with
    | nil => simp at h
    | append_singleton front e ih =>
      rw [lastName?_concat] at h
      split at h
      · next hslot => exact ⟨front, e, [], rfl, hslot, Option.some.inj h, by simp [writtenSlots]⟩
      · next hslot =>
        obtain ⟨earlier, d, between, rfl, hd, hname, hlast⟩ := ih h
        refine ⟨earlier, d, between ++ [e], by simp, hd, hname, ?_⟩
        rw [mem_writtenSlots_iff] at hlast ⊢
        simpa [hslot] using hlast
  · rintro ⟨front, e, back, rfl, hslot, rfl, hlast⟩
    rw [← List.singleton_append, ← List.append_assoc, lastName?_append,
      lastName?_eq_none_iff.2 hlast, Option.none_or, lastName?_concat, if_pos hslot]

theorem agreeOn_iff : AgreeOn history other s ↔
    lastName? (fun e => e.slot? = some s) history =
      lastName? (fun e => e.slot? = some s) other := by
  simp only [AgreeOn, ← lastName?_eq_none_iff, ← lastName?_eq_some_iff]
  constructor
  · rintro (⟨hnone, hnone'⟩ | ⟨name, hname, hname'⟩)
    · rw [hnone, hnone']
    · rw [hname, hname']
  · intro h
    rw [← h]
    cases lastName? (fun e => e.slot? = some s) history with
    | none => exact .inl ⟨rfl, rfl⟩
    | some name => exact .inr ⟨name, rfl, rfl⟩

end LastWritten

/-- Whether two loaded databases count as equal.  The files that they were read from do not matter
for that. -/
def LoadedDatabase.sameTables (loaded other : LoadedDatabase) : Bool :=
  loaded.database = other.database

namespace Database

theorem addAll_eq_iff {history other : List Entry} :
    empty.addAll history = empty.addAll other ↔ ∀ s, AgreeOn history other s := by
  simp only [agreeOn_iff]
  constructor
  · intro h s
    rw [← find?_empty_addAll, ← find?_empty_addAll, h]
  · exact addAll_eq_of_lastName?

/-- A name that is replaced later leaves no trace. -/
theorem addAll_insert_of_overwritten {e : Entry} {s : Slot} (hslot : e.slot? = some s)
    (front : List Entry) {back : List Entry} (hback : s ∈ writtenSlots back) :
    empty.addAll (front ++ e :: back) = empty.addAll (front ++ back) := by
  apply addAll_eq_of_lastName?
  intro t
  by_cases ht : e.slot? = some t
  · obtain rfl : s = t := Option.some.inj (hslot.symm.trans ht)
    have hwritten := mt lastName?_eq_none_iff.1 (not_not.2 hback)
    obtain ⟨name, hname⟩ := Option.ne_none_iff_exists'.1 hwritten
    rw [← List.singleton_append, ← List.append_assoc, lastName?_append _ (front ++ [e]) back,
      lastName?_append _ front back, hname, Option.some_or, Option.some_or]
  · exact lastName?_insert_of_not _ ht front back

/-- Entries in another order, in which those of one slot still stand as before, fill the same
database. -/
theorem addAll_eq_of_reordered {history other : List Entry}
    (h : Rearranged (fun a b => a.slot?.isSome ∧ a.slot? = b.slot?) history other) :
    empty.addAll history = empty.addAll other := by
  have hmake : ∀ entries : List Entry, entries.flatMap (fun e => [e]) = entries := by simp
  rw [← hmake history, ← hmake other]
  apply addAll_eq_of_rearranged fun e : Entry => [e]
  obtain ⟨order, hperm, hother, hkept⟩ := h
  refine ⟨order, hperm, hother, hkept.imp ?_⟩
  rintro i j hij ⟨s, hi, hj⟩
  rw [mem_writtenSlots_iff] at hi hj
  simp only [List.mem_singleton, exists_eq_left] at hi hj
  exact hij ⟨by rw [hi]; rfl, hi.trans hj.symm⟩

/-- Entries that were added can be added again without any effect. -/
theorem addAll_again (earlier history : List Entry) :
    ((empty.addAll earlier).addAll history).addAll history =
      (empty.addAll earlier).addAll history := by
  rw [← addAll_append empty earlier, ← addAll_append empty (earlier ++ history)]
  apply addAll_eq_of_lastName?
  intro s
  rw [lastName?_append, lastName?_append]
  cases lastName? (fun e => e.slot? = some s) history <;> simp

/-- Equality of databases is agreement of their histories.  Two databases that were filled from
empty are equal exactly when their histories leave the same in every slot; the files that they were
read from do not matter for that.  Entries of different slots may change places, a name that is
replaced later may be left out, and so may a device or subsystem without a parent; entries that were
added can be added again without any effect. -/
theorem equal_iff_histories_agree :
    (∀ history other : List Entry,
      empty.addAll history = empty.addAll other ↔ ∀ s, AgreeOn history other s) ∧
    (∀ (history other : List Entry) (source source' : Option Path),
      LoadedDatabase.sameTables ⟨empty.addAll history, source⟩
          ⟨empty.addAll other, source'⟩ = true ↔ ∀ s, AgreeOn history other s) ∧
    (∀ history other : List Entry,
      Rearranged (fun a b => a.slot?.isSome ∧ a.slot? = b.slot?) history other →
        empty.addAll history = empty.addAll other) ∧
    (∀ (front back : List Entry) (e : Entry) (s : Slot), e.slot? = some s →
      s ∈ writtenSlots back → empty.addAll (front ++ e :: back) = empty.addAll (front ++ back)) ∧
    (∀ (front back : List Entry) (e : Entry), (e.kind = .device ∨ e.kind = .subsystem) →
      e.parent = none → empty.addAll (front ++ e :: back) = empty.addAll (front ++ back)) ∧
    (∀ earlier history : List Entry, ((empty.addAll earlier).addAll history).addAll history =
      (empty.addAll earlier).addAll history) := by
  refine ⟨fun _ _ => addAll_eq_iff, ?_, fun _ _ => addAll_eq_of_reordered, ?_, ?_, addAll_again⟩
  · intro history other source source'
    rw [LoadedDatabase.sameTables, decide_eq_true_eq]
    exact addAll_eq_iff
  · intro front back e s hslot hback
    exact addAll_insert_of_overwritten hslot front hback
  · intro front back e hkind hparent
    exact addAll_insert_of_slot?_eq_none (Entry.slot?_eq_none_iff.2 ⟨hkind, hparent⟩) _ front back

/-- A vendor that is named twice, a device of it, and a device without a parent. -/
def renamedIntel : List Entry :=
  [⟨.vendor, "8086", "Intel", none⟩, ⟨.device, "1533", "I210", some "8086"⟩,
    ⟨.device, "1533", "I211", none⟩, ⟨.vendor, "8086", "Intel Corporation", none⟩]

/-- The names that last, in another order. -/
def lastingIntel : List Entry :=
  [⟨.vendor, "8086", "Intel Corporation", none⟩, ⟨.device, "1533", "I210", some "8086"⟩]

theorem renamedIntel_equals_lastingIntel :
    empty.addAll renamedIntel = empty.addAll lastingIntel ∧
      (∀ s, AgreeOn renamedIntel lastingIntel s) ∧
      LoadedDatabase.sameTables ⟨empty.addAll renamedIntel, some (Path.ofString "a")⟩
        ⟨empty.addAll lastingIntel, none⟩ = true := by
  obtain ⟨hequal, hsource, horder, hreplaced, hparentless, -⟩ := equal_iff_histories_agree
  have hfirst : empty.addAll renamedIntel = empty.addAll (renamedIntel.drop 1) :=
    hreplaced [] (renamedIntel.drop 1) _ (.vendor "8086") rfl (by decide)
  have hsecond : empty.addAll (renamedIntel.drop 1) = empty.addAll lastingIntel.reverse :=
    hparentless [_] [_] _ (.inl rfl) rfl
  have hthird : empty.addAll lastingIntel.reverse = empty.addAll lastingIntel :=
    horder _ _ ⟨[⟨1, by decide⟩, ⟨0, by decide⟩], by decide, rfl, by decide⟩
  have hall := hfirst.trans (hsecond.trans hthird)
  have hagree := (hequal _ _).1 hall
  exact ⟨hall, hagree, (hsource _ _ _ _).2 hagree⟩

end Database
end PciCatalog
