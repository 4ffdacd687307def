import PciCatalog.Database.Loading
import PciCatalog.Device.Labels
import PciCatalog.Proofs.AddressForm
import PciCatalog.Proofs.NamedLines
import PciCatalog.Proofs.NumberText
import Mathlib.Algebra.Group.Int.Defs

/-!
# The names of a device

From the numbers of a device to the names in its labels: a number is shown as a text, the text is
normalized into a key, and the key is looked up in tables that were filled from the lines of a file.
Main statement: the labels carry the names that the last lines for these very numbers give, whatever
else the file holds.
-/

namespace PciCatalog

open Hexadecimal (ident)

/-- A device with addresses in the form of addresses, and with numbers that fit their fields. -/
structure Device.Proper (d : Device) : Prop where
  address : Address.accepts d.address = true
  parentAddress : ∀ parent ∈ d.parentAddress, Address.accepts parent = true
  vendorId : 0 ≤ d.vendorId ∧ d.vendorId ≤ 0xFFFF
  deviceId : 0 ≤ d.deviceId ∧ d.deviceId ≤ 0xFFFF
  subsystemVendor : 0 ≤ d.subsystemVendor ∧ d.subsystemVendor ≤ 0xFFFF
  subsystemDevice : 0 ≤ d.subsystemDevice ∧ d.subsystemDevice ≤ 0xFFFF
  classCode : 0 ≤ d.classCode ∧ d.classCode ≤ 0xFFFFFF

/-- The text of a number that fits a field is normalized into the digits of the number. -/
theorem Hexadecimal.normalize_marked_of_le {width : Nat} {n : Int} (hlow : 0 ≤ n)
    (hhigh : n < 16 ^ (width + 1)) :
    Ident.normalize (marked (width + 1) n) = ident (width + 1) n.toNat := by
  obtain ⟨m, rfl⟩ := Int.eq_ofNat_of_zero_le hlow
  rw [Int.toNat_natCast]
  exact normalize_marked_natCast (by exact_mod_cast hhigh)

namespace Database

variable (lines : List (List Char))

/-- The database that is filled from the lines of a file. -/
abbrev ofLines : Database := empty.addAll (({} : Context).entries lines)

theorem vendorName_ofLines (question : String) :
    ∃ found, LastNamed (NamesVendor lines (Ident.normalize question)) found ∧
      (ofLines lines).vendorName question = found.getD (Ident.normalize question) :=
  ⟨_, (lastNamed_entries _ lines).congr fun _ _ => namesVendor_iff.symm,
    vendorName_addAll _ question⟩

theorem deviceName_ofLines (vendor question : String) :
    ∃ found, LastNamed (NamesDevice lines (Ident.normalize vendor) (Ident.normalize question))
        found ∧
      (ofLines lines).deviceName vendor question = found.getD (Ident.normalize question) :=
  ⟨_, (lastNamed_entries _ lines).congr fun _ _ => namesDevice_iff.symm,
    deviceName_addAll _ vendor question⟩

theorem subsystemName_ofLines {vendor device subvendor question : String}
    (hvendor : ':' ∉ (Ident.normalize vendor).toList)
    (hdevice : ':' ∉ (Ident.normalize device).toList)
    (hsubvendor : ':' ∉ (Ident.normalize subvendor).toList)
    (hquestion : ':' ∉ (Ident.normalize question).toList) :
    ∃ found, LastNamed (NamesSubsystem lines (Ident.normalize vendor) (Ident.normalize device)
        (Ident.normalize subvendor) (Ident.normalize question)) found ∧
      (ofLines lines).subsystemName vendor device subvendor question =
        found.getD (Ident.normalize question) :=
  ⟨_, (lastNamed_entries _ lines).congr fun _ _ =>
      (namesSubsystem_iff hvendor hdevice hsubvendor hquestion).symm,
    subsystemName_addAll _ vendor device subvendor question⟩

/-- A code of six digits is looked up by all of them, by the first four and by the first two. -/
theorem className_ofLines {question : String} {n : Nat}
    (hcode : Ident.normalize question = ident 6 n) :
    ∃ progIf subclass baseClass, LastNamed (NamesProgIf lines (ident 6 n)) progIf ∧
      LastNamed (NamesSubclass lines (ident 4 (n / 0x100))) subclass ∧
      LastNamed (NamesBaseClass lines (ident 2 (n / 0x10000))) baseClass ∧
      (ofLines lines).className question =
        ((progIf.or subclass).or baseClass).getD ("Unknown class (" ++ ident 6 n ++ ")") := by
  have hlength : (ident 6 n).length = 6 := by
    rw [← String.length_toList, Hexadecimal.toList_ident, Hexadecimal.length_digits]
  -- An entry that a front of the code names has the digits of the front as its key.
  have hkey : ∀ (kind : Kind) (count rest : Nat), count + rest = 6 → ∀ e : Entry,
      Query.NamesClass kind count (ident 6 n) e ↔
        e.kind = kind ∧ e.key = ident count (n / 16 ^ rest) := by
    intro kind count rest hsum e
    have htake : (ident 6 n).toList.take count = (ident count (n / 16 ^ rest)).toList := by
      rw [Hexadecimal.toList_ident, Hexadecimal.toList_ident, ← hsum, Hexadecimal.take_digits]
    rw [Query.NamesClass, htake, String.toList_inj, hlength]
    have hcount : count ≤ 6 := by omega
    simp [hcount]
  refine ⟨_, _, _,
    (lastNamed_entries (fun e => e.kind = .progIf ∧ e.key = ident 6 n) lines).congr
      fun _ _ => namesProgIf_iff.symm,
    (lastNamed_entries (fun e => e.kind = .subclass ∧ e.key = ident 4 (n / 0x100)) lines).congr
      fun _ _ => namesSubclass_iff.symm,
    (lastNamed_entries (fun e => e.kind = .baseClass ∧ e.key = ident 2 (n / 0x10000)) lines).congr
      fun _ _ => namesBaseClass_iff.symm, ?_⟩
  have hprogIf : ∀ e, Query.NamesClass .progIf 6 (ident 6 n) e ↔
      e.kind = .progIf ∧ e.key = ident 6 n := by simpa using hkey .progIf 6 0 rfl
  have hsubclass : ∀ e, Query.NamesClass .subclass 4 (ident 6 n) e ↔
      e.kind = .subclass ∧ e.key = ident 4 (n / 0x100) := hkey .subclass 4 2 rfl
  have hbaseClass : ∀ e, Query.NamesClass .baseClass 2 (ident 6 n) e ↔
      e.kind = .baseClass ∧ e.key = ident 2 (n / 0x10000) := hkey .baseClass 2 4 rfl
  rw [className, hcode, className?_addAll, Option.or_assoc, lastName?_congr _ hprogIf,
    lastName?_congr _ hsubclass, lastName?_congr _ hbaseClass]

end Database

/-- The labels of a device come out when the addresses are addresses. -/
theorem Device.labels_eq (d : Device) (db : Option Database)
    (address : Address.accepts d.address = true)
    (parentAddress : ∀ parent ∈ d.parentAddress, Address.accepts parent = true) :
    ∃ own parent, d.labels db = .ok (addressLabels own parent ++ d.numberLabels ++
      match db with
      | some db => d.nameLabels db
      | none => []) := by
  obtain ⟨own, hown⟩ := Address.exists_parts_of_accepts address
  have hparent : ∃ parent, d.parentLocation = .ok parent := by
    unfold Device.parentLocation
    cases h : d.parentAddress with
    | none => exact ⟨_, rfl⟩
    | some above => exact Address.exists_parts_of_accepts (parentAddress above (by simp [h]))
  obtain ⟨parent, hparent⟩ := hparent
  refine ⟨own, parent, ?_⟩
  unfold Device.labels Device.location
  rw [hown, hparent]
  rfl

/-- The names among the labels of a device are found behind its addresses and numbers. -/
theorem Device.find?_nameLabels (d : Device) (db : Database) (own parent : Address.Parts) :
    let labels : Labels := addressLabels own parent ++ d.numberLabels ++ d.nameLabels db
    labels.find? "vendor_name" = some (db.vendorName d.vendorText) ∧
      labels.find? "device_name" = some (db.deviceName d.vendorText d.deviceText) ∧
      labels.find? "subsystem_vendor_name" = some (db.vendorName d.subsystemVendorText) ∧
      labels.find? "subsystem_device_name" = some (db.subsystemName d.vendorText d.deviceText
        d.subsystemVendorText d.subsystemDeviceText) ∧
      labels.find? "class_name" = some (db.className d.classText) :=
  ⟨rfl, rfl, rfl, rfl, rfl⟩

/-- The labels of a device carry the names of its numbers.  Whatever the content of a names file,
the labels of a proper device come out, and each name among them is that of the last line for the
numbers of the device: a vendor by its line, a device by a line under the vendor's, a subsystem by a
line under both, a class by a line with its full code, else with the first four digits, else with
the first two.  Without such a line, the number itself stands in the label. -/
theorem labels_name_numbers (content : List UInt8) (d : Device) (proper : d.Proper) :
    let lines := Database.linesOf content
    let vendor := ident 4 d.vendorId.toNat
    let device := ident 4 d.deviceId.toNat
    let subvendor := ident 4 d.subsystemVendor.toNat
    let subdevice := ident 4 d.subsystemDevice.toNat
    let code := ident 6 d.classCode.toNat
    ∃ labels, d.labels (some (Database.ofFile content)) = .ok labels ∧
      (∃ found, LastNamed (NamesVendor lines vendor) found ∧
        labels.find? "vendor_name" = some (found.getD vendor)) ∧
      (∃ found, LastNamed (NamesDevice lines vendor device) found ∧
        labels.find? "device_name" = some (found.getD device)) ∧
      (∃ found, LastNamed (NamesVendor lines subvendor) found ∧
        labels.find? "subsystem_vendor_name" = some (found.getD subvendor)) ∧
      (∃ found, LastNamed (NamesSubsystem lines vendor device subvendor subdevice) found ∧
        labels.find? "subsystem_device_name" = some (found.getD subdevice)) ∧
      ∃ progIf subclass baseClass, LastNamed (NamesProgIf lines code) progIf ∧
        LastNamed (NamesSubclass lines (ident 4 (d.classCode.toNat / 0x100))) subclass ∧
        LastNamed (NamesBaseClass lines (ident 2 (d.classCode.toNat / 0x10000))) baseClass ∧
        labels.find? "class_name" =
          some (((progIf.or subclass).or baseClass).getD ("Unknown class (" ++ code ++ ")")) := by
  intro lines vendor device subvendor subdevice code
  have hvendor : Ident.normalize d.vendorText = vendor :=
    Hexadecimal.normalize_marked_of_le proper.vendorId.1 (by have := proper.vendorId.2; omega)
  have hdevice : Ident.normalize d.deviceText = device :=
    Hexadecimal.normalize_marked_of_le proper.deviceId.1 (by have := proper.deviceId.2; omega)
  have hsubvendor : Ident.normalize d.subsystemVendorText = subvendor :=
    Hexadecimal.normalize_marked_of_le proper.subsystemVendor.1
      (by have := proper.subsystemVendor.2; omega)
  have hsubdevice : Ident.normalize d.subsystemDeviceText = subdevice :=
    Hexadecimal.normalize_marked_of_le proper.subsystemDevice.1
      (by have := proper.subsystemDevice.2; omega)
  have hcode : Ident.normalize d.classText = code :=
    Hexadecimal.normalize_marked_of_le proper.classCode.1 (by have := proper.classCode.2; omega)
  have hcolon : ∀ n, ':' ∉ (ident 4 n).toList := Hexadecimal.colon_not_mem_ident 4
  obtain ⟨own, parent, hlabels⟩ :=
    d.labels_eq (some (Database.ofFile content)) proper.address proper.parentAddress
  obtain ⟨hfindVendor, hfindDevice, hfindSubvendor, hfindSubsystem, hfindClass⟩ :=
    d.find?_nameLabels (Database.ofFile content) own parent
  refine ⟨_, hlabels, ?_, ?_, ?_, ?_, ?_⟩
  · rw [hfindVendor, ← hvendor]
    obtain ⟨found, hlast, hname⟩ := Database.vendorName_ofLines lines d.vendorText
    exact ⟨found, hlast, congrArg some hname⟩
  · rw [hfindDevice, ← hvendor, ← hdevice]
    obtain ⟨found, hlast, hname⟩ := Database.deviceName_ofLines lines d.vendorText d.deviceText
    exact ⟨found, hlast, congrArg some hname⟩
  · rw [hfindSubvendor, ← hsubvendor]
    obtain ⟨found, hlast, hname⟩ := Database.vendorName_ofLines lines d.subsystemVendorText
    exact ⟨found, hlast, congrArg some hname⟩
  · rw [hfindSubsystem, ← hvendor, ← hdevice, ← hsubvendor, ← hsubdevice]
    obtain ⟨found, hlast, hname⟩ := Database.subsystemName_ofLines lines
      (by rw [hvendor]; exact hcolon _) (by rw [hdevice]; exact hcolon _)
      (by rw [hsubvendor]; exact hcolon _) (by rw [hsubdevice]; exact hcolon _)
    exact ⟨found, hlast, congrArg some hname⟩
  · rw [hfindClass]
    obtain ⟨progIf, subclass, baseClass, hprogIf, hsubclass, hbaseClass, hname⟩ :=
      Database.className_ofLines lines hcode
    exact ⟨progIf, subclass, baseClass, hprogIf, hsubclass, hbaseClass, congrArg some hname⟩

/-- A network card, and a names file that renames its vendor and knows its subsystem and its
subclass. -/
def networkCard : Device where
  address := "0000:03:00.0"
  vendorId := 0x8086
  deviceId := 0x533
  subsystemVendor := 0x1028
  subsystemDevice := 0x1
  classCode := 0x20000
  parentAddress := some "0000:00:1C.4"

def networkNames : List UInt8 :=
  ("8086  Intel\n\t0x0533  I210\n\t\t1028 0001  Adapter\n" ++
    "C 02  Network\n\t00  Ethernet\n0X8086  Intel Corporation\n").toUTF8.data.toList

theorem labels_of_networkCard :
    networkCard.Proper ∧
      ∃ labels, networkCard.labels (some (Database.ofFile networkNames)) = .ok labels ∧
        (∃ found, LastNamed (NamesVendor (Database.linesOf networkNames) (ident 4 0x8086)) found ∧
          labels.find? "vendor_name" = some (found.getD (ident 4 0x8086))) ∧
        labels.find? "vendor_name" = some "Intel Corporation" ∧
        labels.find? "subsystem_vendor_name" = some "1028" ∧
        labels.find? "subsystem_device_name" = some "Adapter" ∧
        labels.find? "class_name" = some "Ethernet" := by
  have proper : networkCard.Proper :=
    ⟨by decide +kernel, by decide +kernel, by decide, by decide, by decide, by decide, by decide⟩
  obtain ⟨labels, hlabels, hvendor, -⟩ := labels_name_numbers networkNames networkCard proper
  obtain ⟨own, parent, heq⟩ := networkCard.labels_eq (some (Database.ofFile networkNames))
    proper.address proper.parentAddress
  obtain rfl := Except.ok.inj (hlabels.symm.trans heq)
  obtain ⟨hfindVendor, -, hfindSubvendor, hfindSubsystem, hfindClass⟩ :=
    networkCard.find?_nameLabels (Database.ofFile networkNames) own parent
  refine ⟨proper, _, hlabels, hvendor, hfindVendor.trans ?_, hfindSubvendor.trans ?_,
    hfindSubsystem.trans ?_, hfindClass.trans ?_⟩
  · decide +kernel
  · decide +kernel
  · decide +kernel
  · decide +kernel

end PciCatalog
