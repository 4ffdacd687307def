import PciCatalog.Proofs.WrittenLine

/-!
# Every catalog can be written

The plainest file of a catalog lists the vendors with all that belongs to them and then the classes,
one record a line.  It shows that the notion of a written catalog leaves no catalog out.
-/

namespace PciCatalog
namespace Catalog

def Device.records (v : Code 4) (d : Device) : List Record :=
  ⟨.device v d.code, d.name⟩ ::
    d.subsystems.map fun s => ⟨.subsystem v d.code s.subvendor s.subdevice, s.name⟩

def Vendor.records (v : Vendor) : List Record :=
  ⟨.vendor v.code, v.name⟩ :: v.devices.flatMap (Device.records v.code)

def Subclass.records (b : Code 2) (s : Subclass) : List Record :=
  ⟨.subclass b s.code, s.name⟩ :: s.progIfs.map fun p => ⟨.progIf b s.code p.code, p.name⟩

def BaseClass.records (b : BaseClass) : List Record :=
  ⟨.baseClass b.code, b.name⟩ :: b.subclasses.flatMap (Subclass.records b.code)

/-- The records of a catalog, each before those that stand below it. -/
def records (t : Catalog) : List Record :=
  t.vendors.flatMap Vendor.records ++ t.classes.flatMap BaseClass.records

/-- The identifier of a record in its own letter case. -/
def Position.ident : Position → List Char
  | vendor v => v.digits
  | device _ d => d.digits
  | subsystem _ _ sv sd => sv.digits ++ ' ' :: sd.digits
  | baseClass b => b.digits
  | subclass _ s => s.digits
  | progIf _ _ p => p.digits

def Record.line (r : Record) : List Char :=
  r.position.margin ++ (r.position.ident ++ (List.replicate 2 ' ' ++ (r.name.text ++ [])))

/-- The plainest file of a catalog. -/
def text (t : Catalog) : List Char :=
  Text.join (t.records.map fun r => (r.line, ['\n']))

theorem mem_records_iff {t : Catalog} {r : Record} : r ∈ t.records ↔ t.Has r := by
  simp only [records, Vendor.records, Device.records, BaseClass.records, Subclass.records,
    List.mem_append, List.mem_flatMap, List.mem_cons, List.mem_map]
  constructor
  · rintro (⟨v, hv, rfl | ⟨d, hd, rfl | ⟨s, hs, rfl⟩⟩⟩ | ⟨b, hb, rfl | ⟨s, hs, rfl | ⟨p, hp, rfl⟩⟩⟩)
    · exact .vendor hv
    · exact .device hv hd
    · exact .subsystem hv hd hs
    · exact .baseClass hb
    · exact .subclass hb hs
    · exact .progIf hb hs hp
  · intro h
    cases h with
    | vendor hv => exact .inl ⟨_, hv, .inl rfl⟩
    | device hv hd => exact .inl ⟨_, hv, .inr ⟨_, hd, .inl rfl⟩⟩
    | subsystem hv hd hs => exact .inl ⟨_, hv, .inr ⟨_, hd, .inr ⟨_, hs, rfl⟩⟩⟩
    | baseClass hb => exact .inr ⟨_, hb, .inl rfl⟩
    | subclass hb hs => exact .inr ⟨_, hb, .inr ⟨_, hs, .inl rfl⟩⟩
    | progIf hb hs hp => exact .inr ⟨_, hb, .inr ⟨_, hs, .inr ⟨_, hp, rfl⟩⟩⟩

theorem Position.spelledBy_ident (p : Position) : p.SpelledBy p.ident := by
  cases p with
  | subsystem v d sv sd => exact ⟨_, _, sv.spells_self, sd.spells_self, rfl⟩
  | vendor c | device _ c | baseClass c | subclass _ c | progIf _ _ c => exact c.spells_self

theorem Record.writtenAs_line (r : Record) : r.WrittenAs r.line :=
  ⟨r.position.ident, 0, 0, r.position.spelledBy_ident, rfl⟩

/-- The line of a record has no line end in it. -/
theorem Record.plain_line (r : Record) : Text.Plain r.line := by
  have hdigits {width : Nat} (code : Code width) : Text.Plain code.digits := by
    have hall : ∀ c ∈ hexDigits, c ≠ '\r' ∧ c ≠ '\n' := Text.forall_mem_of_all (by decide)
    exact fun c hc => hall c (code.hex c hc)
  have hmargin : Text.Plain r.position.margin := by
    cases r.position <;> simp [Position.margin, Text.Plain]
  have hident : Text.Plain r.position.ident := by
    cases r.position with
    | subsystem v d sv sd =>
      have hspace : Text.Plain [' '] := by simp [Text.Plain]
      exact Text.plain_append (hdigits sv) (Text.plain_append hspace (hdigits sd))
    | vendor c | device _ c | baseClass c | subclass _ c | progIf _ _ c => exact hdigits c
  have hspaces : Text.Plain (List.replicate 2 ' ') := by simp [Text.Plain]
  have hname : Text.Plain (r.name.text ++ []) := by
    rw [List.append_nil]
    exact r.name.plain
  exact Text.plain_append hmargin (Text.plain_append hident (Text.plain_append hspaces hname))

theorem Position.self_mem_path (p : Position) : p ∈ p.path := by
  cases p <;> exact List.mem_cons_self

/-- With a position, a path has the position that it stands below. -/
theorem Position.parent_mem_path {p q parent : Position} (hp : p ∈ q.path)
    (hparent : p.parent? = some parent) : parent ∈ q.path := by
  cases q <;> simp only [path, List.mem_cons, List.not_mem_nil, or_false] at hp
  case vendor | baseClass =>
    subst hp
    contradiction
  case device | subclass =>
    rcases hp with rfl | rfl
    · obtain rfl := Option.some.inj hparent
      simp [path]
    · contradiction
  case subsystem | progIf =>
    rcases hp with rfl | rfl | rfl
    · obtain rfl := Option.some.inj hparent
      simp [path]
    · obtain rfl := Option.some.inj hparent
      simp [path]
    · contradiction

/-- Some records continue a listing below a position when whatever may stand below the position may
stand behind them. -/
def Continues (top : Option Position) (front : List Record) : Prop :=
  ∀ back : List Record,
    (∀ last, Position.Under top last → Listing last back (back.map Record.line)) →
    ∀ last, Position.Under top last → Listing last (front ++ back) ((front ++ back).map Record.line)

theorem continues_nil (top : Option Position) : Continues top [] :=
  fun _ hback => hback

theorem Continues.append {top : Option Position} {front middle : List Record}
    (hfront : Continues top front) (hmiddle : Continues top middle) :
    Continues top (front ++ middle) := by
  intro back hback
  rw [List.append_assoc]
  exact hfront (middle ++ back) (hmiddle back hback)

theorem continues_flatMap {α : Type} {top : Option Position} {f : α → List Record} {xs : List α}
    (h : ∀ x ∈ xs, Continues top (f x)) : Continues top (xs.flatMap f) := by
  induction xs with
  | nil => exact continues_nil top
  | cons x xs ih =>
    rw [List.flatMap_cons]
    exact (h x List.mem_cons_self).append (ih fun y hy => h y (List.mem_cons_of_mem x hy))

/-- A record with what stands below it continues a listing below its parent. -/
theorem Continues.cons {top : Option Position} {r : Record} {below : List Record}
    (htop : r.position.parent? = top) (h : Continues (some r.position) below) :
    Continues top (r :: below) := by
  subst htop
  intro back hback last hlast
  refine .record hlast r.writtenAs_line (h back ?_ _ ?_)
  · -- Below the record is below its parent as well.
    intro last hlast
    apply hback
    intro parent hparent
    obtain ⟨q, hq, hmem⟩ := hlast r.position rfl
    exact ⟨q, hq, Position.parent_mem_path hmem hparent⟩
  · exact Position.under_of_mem r.position.self_mem_path

/-- Records without anything below them continue a listing below their common parent. -/
theorem continues_map {α : Type} {top : Option Position} {f : α → Record} {xs : List α}
    (h : ∀ x, (f x).position.parent? = top) : Continues top (xs.map f) := by
  rw [List.map_eq_flatMap]
  apply continues_flatMap
  intro x _
  exact Continues.cons (h x) (continues_nil _)

theorem continues_vendor (v : Vendor) : Continues none v.records := by
  refine Continues.cons (show _ = none from rfl) (continues_flatMap ?_)
  intro d _
  exact Continues.cons rfl (continues_map fun s => rfl)

theorem continues_baseClass (b : BaseClass) : Continues none b.records := by
  refine Continues.cons (show _ = none from rfl) (continues_flatMap ?_)
  intro s _
  exact Continues.cons rfl (continues_map fun p => rfl)

theorem listing_records (t : Catalog) : Listing none t.records (t.records.map Record.line) := by
  have hall : Continues none t.records :=
    (continues_flatMap fun v _ => continues_vendor v).append
      (continues_flatMap fun b _ => continues_baseClass b)
  have hlisting := hall [] (fun _ _ => .nil) none (fun _ h => nomatch h)
  rwa [List.append_nil] at hlisting

/-- Every catalog is written by its plainest file. -/
theorem written_text (t : Catalog) : t.Written t.text := by
  refine ⟨t.records, t.records.map Record.line, fun r => mem_records_iff, t.listing_records, ?_⟩
  have hlines : t.records.map Record.line =
      (t.records.map fun r => (r.line, ['\n'])).map Prod.fst := by simp
  rw [hlines]
  apply Text.hasLines_join
  intro p hp
  obtain ⟨r, -, rfl⟩ := List.mem_map.1 hp
  exact ⟨r.plain_line, List.mem_cons_self⟩

end Catalog
end PciCatalog
