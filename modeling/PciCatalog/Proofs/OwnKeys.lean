import PciCatalog.Database.Loading
import PciCatalog.Proofs.NamedLines
import PciCatalog.Proofs.NormalForm

/-!
# Names are found by their own keys

Keys are normalized when they are stored and once more when they are asked for.  Main statement: all
keys in the tables of a names file are in lower case, and every name answers the queries by the keys
that it is stored under.  There is such a query for every name whose identifiers are regular.

A file may hold other identifiers, for its lines are not checked for digits or lengths: the keys
made of them stand in the tables and are counted, but a query does not reach them.  The file
`oddNames` has three of them.
-/

namespace PciCatalog

namespace Text

theorem isWord_of_mem_wordsFrom {word text : List Char} (hword : ∀ c ∈ word, isBlank c = false) :
    ∀ w ∈ wordsFrom word text, IsWord w := by
  -- An unfinished word that is not empty becomes a word at the next blank or at the end.
  have hfinished : ¬ word.isEmpty = true → IsWord word.reverse := by
    intro hne
    exact ⟨by simpa using hne, fun c hc => hword c (List.mem_reverse.1 hc)⟩
  induction text generalizing word with
  | nil =>
    intro w hw
    rw [wordsFrom] at hw
    split at hw
    · simp at hw
    · next hne =>
      rw [List.mem_singleton.1 hw]
      exact hfinished hne
  | cons c rest ih =>
    rw [wordsFrom]
    split
    · split
      · exact ih (by simp) (by simp)
      · next hne =>
        rw [List.forall_mem_cons]
        exact ⟨hfinished hne, ih (by simp) (by simp)⟩
    · next hblank =>
      have hlonger : ∀ d ∈ c :: word, isBlank d = false :=
        List.forall_mem_cons.2 ⟨by simpa using hblank, hword⟩
      exact ih hlonger fun _ => ⟨by simp, fun d hd => hlonger d (List.mem_reverse.1 hd)⟩

theorem isWord_of_mem_words {text : List Char} : ∀ w ∈ words text, IsWord w :=
  isWord_of_mem_wordsFrom (by simp)

end Text

namespace Line

theorem HasParts.ident_not_blank {body : List Char} {ident name : String}
    (h : HasParts body ident name) : Text.trim ident.toList ≠ [] := by
  obtain ⟨before, after, -, ⟨c, hc, hblank⟩, rfl, -⟩ := h
  rw [String.toList_ofList, (Text.trimmed_trim before).trim_eq, ne_eq, Text.trim_eq_nil_iff]
  intro hall
  rw [hall c hc] at hblank
  contradiction

/-- The identifier of a line. -/
def ident : Line → String
  | .classLine ident _ | .indented _ ident _ => ident

theorem Reads.ident_not_blank {text : List Char} {line : Line} (h : Reads text line) :
    Text.trim line.ident.toList ≠ [] := by
  unfold Reads at h
  generalize Text.dropTail isLineEnd text = stripped at h
  cases h with
  | classLine parts => exact parts.ident_not_blank
  | indented shallow exact noComment noClass parts => exact parts.ident_not_blank

end Line

theorem LineAt.ident_not_blank {lines : List (List Char)} {k : Nat} {line : Line}
    (h : LineAt lines k line) : Text.trim line.ident.toList ≠ [] := by
  obtain ⟨text, -, hreads⟩ := h
  exact hreads.ident_not_blank

theorem Nearest.ident_not_blank {p : Line → Prop} {before between : List (List Char)} {line : Line}
    (h : Nearest p before line between) : Text.trim line.ident.toList ≠ [] := by
  obtain ⟨text, -, hreads, -⟩ := h.exists_reads
  exact hreads.ident_not_blank

namespace Slot

/-- The keys that the name in a slot is stored under. -/
def keys : Slot → List String
  | vendor key | baseClass key | subclass key | progIf key => [key]
  | device parent key | subsystem parent key => [parent, key]

/-- Whether the name in a slot is found by a class code. -/
def IsCode : Slot → Prop
  | vendor _ | device _ _ | subsystem _ _ => False
  | baseClass _ | subclass _ | progIf _ => True

/-- The queries by the keys that a name is stored under.  A key can be asked for if it is its own
normal form; a class code must also have as many characters as the codes that its table is asked
for. -/
inductive AskedByKeys : Slot → Query → Prop
  | vendor {v : String} (hv : Ident.normalize v = v) : AskedByKeys (.vendor v) (.vendor v)
  | device {v d : String} (hv : Ident.normalize v = v) (hd : Ident.normalize d = d) :
      AskedByKeys (.device v d) (.device v d)
  | subsystem {v d sv sd : String} (hv : Ident.normalize v = v) (hd : Ident.normalize d = d)
      (hsv : Ident.normalize sv = sv) (hsd : Ident.normalize sd = sd) :
      AskedByKeys (.subsystem (v ++ ":" ++ d) (sv ++ ":" ++ sd)) (.subsystem v d sv sd)
  | baseClass {code : String} (hcode : Ident.normalize code = code)
      (length : code.toList.length = 2) : AskedByKeys (.baseClass code) (.classCode code)
  | subclass {code : String} (hcode : Ident.normalize code = code)
      (length : code.toList.length = 4) : AskedByKeys (.subclass code) (.classCode code)
  | progIf {code : String} (hcode : Ident.normalize code = code)
      (length : code.toList.length = 6) : AskedByKeys (.progIf code) (.classCode code)

/-- Identifiers whose keys can be asked for: they are regular, and each has two characters in its
normal form if it is a part of a class code. -/
def RegularFor (s : Slot) (idents : List String) : Prop :=
  (∀ ident ∈ idents, Ident.Regular ident.toList) ∧
    (s.IsCode → ∀ ident ∈ idents, (Ident.normalize ident).toList.length = 2)

theorem AskedByKeys.probes {s : Slot} {q : Query} (h : s.AskedByKeys q) : q.Probes s := by
  cases h with
  | vendor hv => exact .of_vendor hv
  | device hv hd => exact .of_device hv hd
  | subsystem hv hd hsv hsd => exact .of_subsystem hv hd hsv hsd
  | baseClass hcode length => exact .of_baseClass hcode length
  | subclass hcode length => exact .of_subclass hcode length
  | progIf hcode length => exact .of_progIf hcode length

end Slot

/-- The line at a position gives its name to a slot, and the keys of the slot are made of
identifiers: that of the line, or the two words of it, behind those of the lines that it stands
under. -/
inductive MadeFrom (lines : List (List Char)) (k : Nat) (name : String) :
    Slot → List String → Prop
  | vendor {ident : String} (line : LineAt lines k (.indented 0 ident name)) :
      MadeFrom lines k name (.vendor (Ident.normalize ident)) [ident]
  | device {ident vendor title : String} {between : List (List Char)}
      (line : LineAt lines k (.indented 1 ident name))
      (top : Nearest Line.IsTopLevel (lines.take k) (.indented 0 vendor title) between) :
      MadeFrom lines k name (.device (Ident.normalize vendor) (Ident.normalize ident))
        [vendor, ident]
  | subsystem {ident vendor title device label : String} {between after : List (List Char)}
      {first second : List Char} (line : LineAt lines k (.indented 2 ident name))
      (top : Nearest Line.IsTopLevel (lines.take k) (.indented 0 vendor title) between)
      (below : Nearest Line.IsSecondLevel between (.indented 1 device label) after)
      (words : Text.words ident.toList = [first, second]) :
      MadeFrom lines k name
        (.subsystem (Ident.normalize vendor ++ ":" ++ Ident.normalize device)
          (Ident.normalize (String.ofList first) ++ ":" ++ Ident.normalize (String.ofList second)))
        [vendor, device, String.ofList first, String.ofList second]
  | baseClass {ident : String} (line : LineAt lines k (.classLine ident name)) :
      MadeFrom lines k name (.baseClass (Ident.normalize ident)) [ident]
  | subclass {ident code title : String} {between : List (List Char)}
      (line : LineAt lines k (.indented 1 ident name))
      (top : Nearest Line.IsTopLevel (lines.take k) (.classLine code title) between) :
      MadeFrom lines k name (.subclass (Ident.normalize code ++ Ident.normalize ident))
        [code, ident]
  | progIf {ident code title sub label : String} {between after : List (List Char)}
      (line : LineAt lines k (.indented 2 ident name))
      (top : Nearest Line.IsTopLevel (lines.take k) (.classLine code title) between)
      (below : Nearest Line.IsSecondLevel between (.indented 1 sub label) after) :
      MadeFrom lines k name
        (.progIf (Ident.normalize code ++ Ident.normalize sub ++ Ident.normalize ident))
        [code, sub, ident]

namespace MadeFrom

variable {lines : List (List Char)} {k : Nat} {name : String} {s : Slot} {idents : List String}

/-- Every name in the tables of a file is made from a line. -/
theorem exists_of_find?
    (h : (Database.empty.addAll (({} : Context).entries lines)).find? s = some name) :
    ∃ k idents, MadeFrom lines k name s idents := by
  obtain ⟨k, text, htext, e, hyields, hslot, rfl⟩ := exists_namesEntry h
  cases hyields with
  | vendor reads =>
    obtain rfl := Option.some.inj hslot
    exact ⟨_, _, .vendor ⟨text, htext, reads⟩⟩
  | baseClass reads =>
    obtain rfl := Option.some.inj hslot
    exact ⟨_, _, .baseClass ⟨text, htext, reads⟩⟩
  | device reads top =>
    obtain rfl := Option.some.inj hslot
    exact ⟨_, _, .device ⟨text, htext, reads⟩ top⟩
  | subclass reads top =>
    obtain rfl := Option.some.inj hslot
    exact ⟨_, _, .subclass ⟨text, htext, reads⟩ top⟩
  | subsystem reads top known second knownDevice words =>
    obtain rfl := Option.some.inj hslot
    exact ⟨_, _, .subsystem ⟨text, htext, reads⟩ top second words⟩
  | progIf reads top known second =>
    obtain rfl := Option.some.inj hslot
    exact ⟨_, _, .progIf ⟨text, htext, reads⟩ top second⟩

/-- Identifiers on lines are not blank. -/
theorem ident_not_blank (h : MadeFrom lines k name s idents) :
    ∀ ident ∈ idents, Text.trim ident.toList ≠ [] := by
  cases h with
  | vendor line | baseClass line => exact List.forall_mem_singleton.2 line.ident_not_blank
  | device line top | subclass line top =>
    rw [List.forall_mem_cons, List.forall_mem_singleton]
    exact ⟨top.ident_not_blank, line.ident_not_blank⟩
  | @subsystem _ _ _ _ _ _ _ first second line top below words =>
    -- The line itself gives two identifiers here, its words.
    have hword : ∀ w ∈ [first, second], Text.trim (String.ofList w).toList ≠ [] := by
      intro w hw
      rw [← words] at hw
      have hisWord := Text.isWord_of_mem_words w hw
      rw [String.toList_ofList, hisWord.trimmed.trim_eq]
      exact hisWord.1
    rw [List.forall_mem_cons, List.forall_mem_singleton] at hword
    rw [List.forall_mem_cons, List.forall_mem_cons, List.forall_mem_cons,
      List.forall_mem_singleton]
    exact ⟨top.ident_not_blank, below.ident_not_blank, hword⟩
  | progIf line top below =>
    rw [List.forall_mem_cons, List.forall_mem_cons, List.forall_mem_singleton]
    exact ⟨top.ident_not_blank, below.ident_not_blank, line.ident_not_blank⟩

/-- Keys are in lower case, whatever identifiers they are made of. -/
theorem settled_keys (h : MadeFrom lines k name s idents) :
    ∀ key ∈ s.keys, ∀ c ∈ key.toList, Text.Settled c := by
  have hone : ∀ ident : String, ∀ c ∈ (Ident.normalize ident).toList, Text.Settled c := by
    intro ident
    rw [Ident.toList_normalize]
    exact Ident.settled_of_mem_normalForm
  have happend : ∀ {a b : String}, (∀ c ∈ a.toList, Text.Settled c) →
      (∀ c ∈ b.toList, Text.Settled c) → ∀ c ∈ (a ++ b).toList, Text.Settled c := by
    intro a b ha hb
    rw [String.toList_append, List.forall_mem_append]
    exact ⟨ha, hb⟩
  -- The colon is the only character of a key that no normal form brings in.
  have hcolon : ∀ c ∈ (":" : String).toList, Text.Settled c :=
    Text.forall_mem_of_all (by decide +kernel)
  cases h with
  | vendor | baseClass => exact List.forall_mem_singleton.2 (hone _)
  | device =>
    rw [Slot.keys, List.forall_mem_cons, List.forall_mem_singleton]
    exact ⟨hone _, hone _⟩
  | subsystem =>
    rw [Slot.keys, List.forall_mem_cons, List.forall_mem_singleton]
    exact ⟨happend (happend (hone _) hcolon) (hone _), happend (happend (hone _) hcolon) (hone _)⟩
  | subclass => exact List.forall_mem_singleton.2 (happend (hone _) (hone _))
  | progIf => exact List.forall_mem_singleton.2 (happend (happend (hone _) (hone _)) (hone _))

/-- Regular identifiers have plain normal forms. -/
theorem plain_normalize (h : MadeFrom lines k name s idents)
    (hregular : ∀ ident ∈ idents, Ident.Regular ident.toList) :
    ∀ ident ∈ idents, Ident.Plain (Ident.normalize ident).toList := by
  intro ident hident
  rw [Ident.toList_normalize]
  exact .of_regular (h.ident_not_blank ident hident) (hregular ident hident)

/-- Keys that are made of regular identifiers are plain. -/
theorem plain_keys (h : MadeFrom lines k name s idents) (hregular : s.RegularFor idents) :
    ∀ key ∈ s.keys, Ident.Plain key.toList := by
  have hplain := h.plain_normalize hregular.1
  have hlength := hregular.2
  have hjoin : ∀ {a b : String}, Ident.Plain a.toList → Ident.Plain b.toList →
      Ident.Plain (a ++ ":" ++ b).toList := by
    intro a b ha hb
    simpa using ha.join hb
  cases h with
  | vendor | baseClass =>
    rw [List.forall_mem_singleton] at hplain
    exact List.forall_mem_singleton.2 hplain
  | device =>
    rw [List.forall_mem_cons, List.forall_mem_singleton] at hplain
    rw [Slot.keys, List.forall_mem_cons, List.forall_mem_singleton]
    exact hplain
  | subsystem =>
    rw [List.forall_mem_cons, List.forall_mem_cons, List.forall_mem_cons,
      List.forall_mem_singleton] at hplain
    obtain ⟨hvendor, hdevice, hfirst, hsecond⟩ := hplain
    rw [Slot.keys, List.forall_mem_cons, List.forall_mem_singleton]
    exact ⟨hjoin hvendor hdevice, hjoin hfirst hsecond⟩
  | subclass =>
    -- Parts of two characters are long enough that no mark comes about where they meet.
    have hcode := hlength trivial _ List.mem_cons_self
    rw [List.forall_mem_cons, List.forall_mem_singleton] at hplain
    rw [Slot.keys, List.forall_mem_singleton, String.toList_append]
    exact hplain.1.append hplain.2 (by omega)
  | progIf =>
    have hcode := hlength trivial _ List.mem_cons_self
    rw [List.forall_mem_cons, List.forall_mem_cons, List.forall_mem_singleton] at hplain
    rw [Slot.keys, List.forall_mem_singleton, String.toList_append, String.toList_append]
    refine (hplain.1.append hplain.2.1 (by omega)).append hplain.2.2 ?_
    rw [List.length_append]
    omega

/-- A name that is made of regular identifiers can be asked for. -/
theorem exists_askedByKeys (h : MadeFrom lines k name s idents) (hregular : s.RegularFor idents) :
    ∃ q, s.AskedByKeys q := by
  have hplain := h.plain_normalize hregular.1
  have hkeys := h.plain_keys hregular
  have hlength := hregular.2
  -- A class code is as long as its parts together, two characters for each of them.
  cases h with
  | vendor =>
    rw [List.forall_mem_singleton] at hplain
    exact ⟨_, .vendor hplain.normalize_eq⟩
  | device =>
    rw [List.forall_mem_cons, List.forall_mem_singleton] at hplain
    exact ⟨_, .device hplain.1.normalize_eq hplain.2.normalize_eq⟩
  | subsystem =>
    rw [List.forall_mem_cons, List.forall_mem_cons, List.forall_mem_cons,
      List.forall_mem_singleton] at hplain
    obtain ⟨hvendor, hdevice, hfirst, hsecond⟩ := hplain
    exact ⟨_, .subsystem hvendor.normalize_eq hdevice.normalize_eq hfirst.normalize_eq
      hsecond.normalize_eq⟩
  | baseClass =>
    have hcode := hlength trivial
    rw [List.forall_mem_singleton] at hcode
    exact ⟨_, .baseClass (List.forall_mem_singleton.1 hkeys).normalize_eq hcode⟩
  | subclass =>
    have hcode := hlength trivial
    rw [List.forall_mem_cons, List.forall_mem_singleton] at hcode
    refine ⟨_, .subclass (List.forall_mem_singleton.1 hkeys).normalize_eq ?_⟩
    rw [String.toList_append, List.length_append, hcode.1, hcode.2]
  | progIf =>
    have hcode := hlength trivial
    rw [List.forall_mem_cons, List.forall_mem_cons, List.forall_mem_singleton] at hcode
    refine ⟨_, .progIf (List.forall_mem_singleton.1 hkeys).normalize_eq ?_⟩
    rw [String.toList_append, String.toList_append, List.length_append, List.length_append,
      hcode.1, hcode.2.1, hcode.2.2]

end MadeFrom

namespace Database

/-- Every name can be found by its own keys as far as its identifiers are regular.  Whatever the
content of a names file, for every name in a slot of its tables: the keys of the slot are in lower
case; every query by these very keys is answered with the name; and the keys are made of identifiers
on the lines.  Whenever these are regular, no key is empty, has a mark or differs from its normal
form, and there is a query by the keys. -/
theorem stored_names_answer_their_keys (content : List UInt8) (s : Slot) (name : String)
    (h : (ofFile content).find? s = some name) :
    (∀ key ∈ s.keys, Text.lower key.toList = key.toList) ∧
      (∀ q, s.AskedByKeys q → q.answer (ofFile content) = name) ∧
      (∃ k idents, MadeFrom (linesOf content) k name s idents) ∧
      ∀ k idents, MadeFrom (linesOf content) k name s idents → s.RegularFor idents →
        (∀ key ∈ s.keys, key ≠ "" ∧ ¬ Ident.Marked key.toList ∧ Ident.normalize key = key) ∧
        ∃ q, s.AskedByKeys q ∧ q.answer (ofFile content) = name := by
  obtain ⟨k, idents, hmade⟩ := MadeFrom.exists_of_find? h
  have hanswer : ∀ q, s.AskedByKeys q → q.answer (ofFile content) = name :=
    fun q hq => answer_of_probes h hq.probes
  refine ⟨?_, hanswer, ⟨k, idents, hmade⟩, ?_⟩
  · intro key hkey
    exact Text.lower_eq_self_iff.2 (hmade.settled_keys key hkey)
  · intro k idents hmade hregular
    obtain ⟨q, hq⟩ := hmade.exists_askedByKeys hregular
    refine ⟨?_, q, hq, hanswer q hq⟩
    intro key hkey
    have hplain := hmade.plain_keys hregular key hkey
    refine ⟨?_, hplain.unmarked, hplain.normalize_eq⟩
    rintro rfl
    exact hplain.nonempty rfl

/-- A class and its subclass. -/
def networkClass : List UInt8 :=
  "C 02  Network\n\t0x0A  Ethernet\n".toUTF8.data.toList

theorem ethernet_answers_its_key :
    (ofFile networkClass).find? (.subclass "020a") = some "Ethernet" ∧
      Text.lower "020a".toList = "020a".toList ∧ Ident.normalize "020a" = "020a" ∧
      (ofFile networkClass).className "020a" = "Ethernet" := by
  have hfind : (ofFile networkClass).find? (.subclass "020a") = some "Ethernet" := by
    decide +kernel
  have hlines : linesOf networkClass = ["C 02  Network".toList, "\t0x0A  Ethernet".toList] := by
    decide +kernel
  have hclass : Line.Reads "C 02  Network".toList (.classLine "02" "Network") :=
    Line.read?_eq_some_iff.1 (by decide +kernel)
  have hsubclass : Line.Reads "\t0x0A  Ethernet".toList (.indented 1 "0x0A" "Ethernet") :=
    Line.read?_eq_some_iff.1 (by decide +kernel)
  have hkey : Ident.normalize "02" ++ Ident.normalize "0x0A" = "020a" := by decide +kernel
  have hmade : MadeFrom (linesOf networkClass) 1 "Ethernet" (.subclass "020a") ["02", "0x0A"] := by
    rw [hlines, ← hkey]
    exact .subclass ⟨_, rfl, hsubclass⟩ (.here [] hclass trivial)
  have hregular : (Slot.subclass "020a").RegularFor ["02", "0x0A"] := by
    have hplain : Text.lower (Text.trim "02".toList) = ['0', '2'] := by decide +kernel
    have hmarked : Text.lower (Text.trim "0x0A".toList) = ['0', 'x', '0', 'a'] := by
      decide +kernel
    refine ⟨List.forall_mem_cons.2 ⟨?_, List.forall_mem_singleton.2 ?_⟩, ?_⟩
    · intro rest hrest
      rw [hplain] at hrest
      simp at hrest
    · intro rest hrest
      rw [hmarked] at hrest
      obtain rfl : ['0', 'a'] = rest := by simpa using hrest
      exact ⟨by decide, by simp [Text.isBlank], by decide⟩
    · intro _
      decide +kernel
  obtain ⟨hlower, hanswer, -, hown⟩ := stored_names_answer_their_keys networkClass _ _ hfind
  obtain ⟨hkeys, -⟩ := hown 1 ["02", "0x0A"] hmade hregular
  have hnormal := (hkeys "020a" List.mem_cons_self).2.2
  exact ⟨hfind, hlower "020a" List.mem_cons_self, hnormal,
    hanswer (.classCode "020a") (.subclass hnormal (by decide))⟩

/-- A class code that is too long, a second mark behind the mark of a vendor, and a mark without
anything behind it. -/
def oddNames : List UInt8 :=
  "C 0200  Network controller\n0x0x8086  Intel\n0x  Nothing\n".toUTF8.data.toList

/-- Names without a way to ask for them by their keys: the class code is its own normal form but is
looked up in other tables, the key with a mark is no normal form, and one key is empty. -/
theorem names_that_no_key_asks_for :
    ((ofFile oddNames).find? (.baseClass "0200") = some "Network controller" ∧
      Ident.normalize "0200" = "0200" ∧
      (ofFile oddNames).className "0200" = "Unknown class (0200)") ∧
    ((ofFile oddNames).find? (.vendor "0x8086") = some "Intel" ∧
      Ident.Marked "0x8086".toList ∧ Ident.normalize "0x8086" ≠ "0x8086" ∧
      (ofFile oddNames).vendorName "0x8086" = "8086") ∧
    (ofFile oddNames).find? (.vendor "") = some "Nothing" := by
  decide +kernel

end Database
end PciCatalog
