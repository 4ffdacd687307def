import PciCatalog.Proofs.CutLines
import PciCatalog.Proofs.Splitting

/-!
# Lines before and after decoding

A names file is cut into lines while it is still bytes.  Nothing is lost by this order: a broken
sequence ends at the first byte of ASCII at the latest, so the line ends of the bytes are those of
the text.  Main statements: a character of ASCII in a text comes from its own byte, with the text on
both sides from the bytes on both sides (`exists_append_of_decodeLossy`), and the lines of a file
are the same when it is decoded first (`linesOf_eq_textLines`).
-/

namespace PciCatalog
namespace Text

/-- Whether a text has no line end in it. -/
def Plain (line : List Char) : Prop :=
  ∀ c ∈ line, c ≠ '\r' ∧ c ≠ '\n'

instance : DecidablePred Plain :=
  fun line => List.decidableBAll (fun c => c ≠ '\r' ∧ c ≠ '\n') line

theorem plain_append {front back : List Char} (hfront : Plain front) (hback : Plain back) :
    Plain (front ++ back) := by
  intro c hc
  rcases List.mem_append.1 hc with hc | hc
  · exact hfront c hc
  · exact hback c hc

/-- The line ends LF, CR LF and CR. -/
def lineEnds : List (List Char) := [['\n'], ['\r', '\n'], ['\r']]

/-! ### Bytes of ASCII -/

/-- An open sequence that no byte of ASCII continues and that comes to no character of ASCII. -/
structure PartialChar.Wide (p : PartialChar) : Prop where
  low : 0x80 ≤ p.low
  bits : 2 ≤ p.bits ∨ 2 ≤ p.missing ∧ (1 ≤ p.bits ∨ 0x90 ≤ p.low ∧ p.high ≤ 0xBF)

namespace PartialChar.Wide

variable {p : PartialChar} {b : UInt8}

/-- A wide sequence stays wide. -/
theorem two_le_extend (h : p.Wide) (hb : p.admits b = true) : 2 ≤ p.extend b := by
  rw [extend]
  rcases h.bits with hbits | ⟨-, hbits | ⟨hlow, hhigh⟩⟩
  · omega
  · omega
  · simp only [admits, Bool.and_eq_true, decide_eq_true_eq] at hb
    have hlow' : 0x90 ≤ b.toNat := UInt8.le_trans hlow hb.1
    have hhigh' : b.toNat ≤ 0xBF := UInt8.le_trans hb.2 hhigh
    omega

/-- The last byte of a wide sequence makes it a character past ASCII. -/
theorem le_extend (h : p.Wide) (hmissing : p.missing ≤ 1) (b : UInt8) : 0x80 ≤ p.extend b := by
  have hbits : 2 ≤ p.bits := h.bits.resolve_right fun hopen => by omega
  rw [extend]
  omega

end PartialChar.Wide

/-- Every lead byte opens a wide sequence: overlong forms are excluded. -/
theorem wide_of_leadByte {b : UInt8} {p : PartialChar} (h : leadByte b = .opens p) : p.Wide := by
  have all : ∀ n : Fin 256,
      (match leadByte (UInt8.ofNat n) with
        | .opens q => decide (2 ≤ q.bits ∨
            2 ≤ q.missing ∧ (1 ≤ q.bits ∨ 0x90 ≤ q.low ∧ q.high ≤ 0xBF))
        | _ => true) = true := by decide +kernel
  have hb := all ⟨b.toNat, b.toNat_lt⟩
  simp only [UInt8.ofNat_toNat, h, decide_eq_true_eq] at hb
  exact ⟨low_of_leadByte h, hb⟩

/-- Only bytes of ASCII are characters by themselves. -/
theorem leadByte_ne_single {b : UInt8} (h : ¬ b < 0x80) (c : Char) : leadByte b ≠ .single c := by
  rw [leadByte, if_neg h]
  repeat' split
  all_goals simp

/-- A character of ASCII other than NUL. -/
def IsAscii (c : Char) : Prop :=
  0 < c.toNat ∧ c.toNat < 0x80

instance : DecidablePred IsAscii := fun c =>
  inferInstanceAs (Decidable (0 < c.toNat ∧ c.toNat < 0x80))

/-- A number past ASCII is the code of no character of ASCII, nor are those that are no codes. -/
theorem ofNat_ne {c : Char} (hc : IsAscii c) {n : Nat} (h : 0x80 ≤ n) : Char.ofNat n ≠ c := by
  rintro rfl
  by_cases hvalid : n.isValidChar
  · have hcode : (Char.ofNat n).toNat = n := by
      rw [Char.ofNat, dif_pos hvalid]
      rfl
    rw [IsAscii, hcode] at hc
    omega
  · have hcode : (Char.ofNat n).toNat = 0 := by
      rw [Char.ofNat, dif_neg hvalid]
      rfl
    rw [IsAscii, hcode] at hc
    omega

variable {p : Option PartialChar} (hp : ∀ q ∈ p, q.Wide) {b : UInt8}

include hp

/-- A byte of ASCII breaks off what is open and is read for itself. -/
theorem decodeFrom_cons_ascii (hb : b < 0x80) (rest : List UInt8) :
    decodeFrom p (b :: rest) = decodeFrom p [] ++ some (Char.ofNat b.toNat) :: decode rest := by
  rw [← decode_cons_ascii rest hb, ← decodeFrom_append_ascii p [] rest hb fun q hq => (hp q hq).low]
  rfl

/-- Any other byte is read to no character of ASCII, whether it opens a sequence, continues one,
ends one or breaks one off. -/
theorem decodeFrom_cons_wide (hb : ¬ b < 0x80) :
    ∃ out next, (∀ c, IsAscii c → some c ∉ out) ∧ (∀ q ∈ next, PartialChar.Wide q) ∧
      ∀ rest, decodeFrom p (b :: rest) = out ++ decodeFrom next rest := by
  have hclosed : ∃ out next, (∀ c, IsAscii c → some c ∉ out) ∧
      (∀ q ∈ next, PartialChar.Wide q) ∧
        ∀ rest, decodeFrom none (b :: rest) = out ++ decodeFrom next rest := by
    cases hlead : leadByte b with
    | single c => exact absurd hlead (leadByte_ne_single hb c)
    | opens q =>
      refine ⟨[], some q, by simp, ?_, fun rest => decodeFrom_of_opens rest hlead⟩
      rintro _ ⟨⟩
      exact wide_of_leadByte hlead
    | damaged =>
      exact ⟨[none], none, by simp, by simp, fun rest => decodeFrom_of_damaged rest hlead⟩
  cases p with
  | none => exact hclosed
  | some q =>
    have hq := hp q rfl
    cases hadmits : q.admits b with
    | true =>
      by_cases hlast : q.missing ≤ 1
      · refine ⟨[some (Char.ofNat (q.extend b))], none, ?_, by simp,
          fun rest => decodeFrom_of_ends rest hadmits hlast⟩
        intro c hc hmem
        exact ofNat_ne hc (hq.le_extend hlast b) (Option.some.inj (List.mem_singleton.1 hmem)).symm
      · refine ⟨[], some ⟨q.extend b, q.missing - 1, 0x80, 0xBF⟩, by simp, ?_,
          fun rest => decodeFrom_of_continues rest hadmits hlast⟩
        rintro _ ⟨⟩
        exact ⟨UInt8.le_refl 0x80, .inl (hq.two_le_extend hadmits)⟩
    | false =>
      -- The byte that breaks the sequence off opens the next one.
      obtain ⟨out, next, hout, hnext, hdecode⟩ := hclosed
      refine ⟨none :: out, next, by simpa using hout, hnext, ?_⟩
      intro rest
      rw [decodeFrom_of_breaks rest hadmits, hdecode, List.cons_append]

omit hp

/-- An element that is not in a front stands behind it. -/
theorem exists_append_of_not_mem {α : Type} {front rest x y : List α} {a : α}
    (h : front ++ rest = x ++ a :: y) (ha : a ∉ front) :
    ∃ z, x = front ++ z ∧ rest = z ++ a :: y := by
  rcases List.append_eq_append_iff.1 h with ⟨z, hx, hrest⟩ | ⟨z, hfront, hy⟩
  · exact ⟨z, hx, hrest⟩
  · cases z with
    | nil => exact ⟨[], by simpa using hfront.symm, by simpa using hy.symm⟩
    | cons d z =>
      obtain ⟨rfl, -⟩ := List.cons.inj hy
      exact absurd (by simp [hfront]) ha

include hp

/-- A character of ASCII among what bytes are decoded to comes from its own byte.  What is decoded
before it is decoded from the bytes before, and what is decoded behind it from the bytes behind. -/
theorem exists_append_of_decodeFrom {bytes : List UInt8} {x y : List (Option Char)} {c : Char}
    (hc : IsAscii c) (h : decodeFrom p bytes = x ++ some c :: y) :
    ∃ front b rest, bytes = front ++ b :: rest ∧ Char.ofNat b.toNat = c ∧ b < 0x80 ∧
      decodeFrom p front = x ∧ decode rest = y := by
  have hempty : some c ∉ decodeFrom p [] := by
    cases p <;> simp [decodeFrom]
  -- The induction runs over the bytes, with any sequence open in front of them: what a byte past
  -- ASCII emits belongs to the front, since the character is not in it.
  induction bytes generalizing p x with
  | nil =>
    rw [h] at hempty
    simp at hempty
  | cons b bytes ih =>
    have hnone : ∀ q ∈ (none : Option PartialChar), q.Wide := by simp
    by_cases hb : b < 0x80
    · rw [decodeFrom_cons_ascii hp hb] at h
      obtain ⟨z, rfl, hrest⟩ := exists_append_of_not_mem h hempty
      cases z with
      | nil =>
        obtain ⟨hd, hy⟩ := List.cons.inj hrest
        exact ⟨[], b, bytes, rfl, Option.some.inj hd, hb, by simp, hy⟩
      | cons d z =>
        obtain ⟨rfl, hbehind⟩ := List.cons.inj hrest
        obtain ⟨front, b', rest, rfl, hb', hlow, rfl, hy⟩ := ih hnone hbehind (by simp [decodeFrom])
        exact ⟨b :: front, b', rest, rfl, hb', hlow, decodeFrom_cons_ascii hp hb front, hy⟩
    · obtain ⟨out, next, hout, hnext, hdecode⟩ := decodeFrom_cons_wide hp hb
      rw [hdecode] at h
      obtain ⟨z, rfl, hrest⟩ := exists_append_of_not_mem h (hout c hc)
      obtain ⟨front, b', rest, rfl, hb', hlow, rfl, hy⟩ :=
        ih hnext hrest (by cases next <;> simp [decodeFrom])
      exact ⟨b :: front, b', rest, rfl, hb', hlow, hdecode front, hy⟩

omit hp

/-- A decoded text has a character where there are bytes or an open sequence. -/
theorem decodeFrom_ne_nil {bytes : List UInt8} (h : p ≠ none ∨ bytes ≠ []) :
    decodeFrom p bytes ≠ [] := by
  -- A sequence that is left open at the end counts as one ill-formed part.
  induction bytes generalizing p with
  | nil =>
    cases p with
    | none => simp at h
    | some q => simp [decodeFrom]
  | cons b bytes ih =>
    have hopens : ∀ q, decodeFrom (some q) bytes ≠ [] := fun q => ih (.inl (by simp))
    cases p with
    | none =>
      rw [decodeFrom]
      split <;> simp [hopens]
    | some q =>
      rw [decodeFrom]
      repeat' split
      all_goals simp [hopens]

/-! ### The text of some bytes -/

variable {bytes : List UInt8}

theorem decodeLossy_eq_nil_iff : decodeLossy bytes = [] ↔ bytes = [] := by
  constructor
  · intro h
    by_contra hne
    exact decodeFrom_ne_nil (.inr hne) (List.map_eq_nil_iff.1 h)
  · rintro rfl
    rfl

/-- The text of bytes around a byte of ASCII is that of the bytes on both sides with the character
between them. -/
theorem decodeLossy_append_ascii (front : List UInt8) {b : UInt8} (hb : b < 0x80)
    (rest : List UInt8) : decodeLossy (front ++ b :: rest) =
      decodeLossy front ++ Char.ofNat b.toNat :: decodeLossy rest := by
  have hdecode : decode (front ++ b :: rest) = decode front ++ decode (b :: rest) :=
    decodeFrom_append_ascii none front rest hb (by simp)
  rw [decodeLossy, hdecode, decode_cons_ascii rest hb, List.map_append]
  rfl

/-- A character of ASCII in a text comes from its own byte.  The text before it is that of the bytes
before, and the text behind it that of the bytes behind. -/
theorem exists_append_of_decodeLossy {x y : List Char} {c : Char} (hc : IsAscii c)
    (h : decodeLossy bytes = x ++ c :: y) :
    ∃ front rest, bytes = front ++ UInt8.ofNat c.toNat :: rest ∧ decodeLossy front = x ∧
      decodeLossy rest = y := by
  obtain ⟨outBefore, outBehind, hdecode, hx, hbehind⟩ := List.map_eq_append_iff.1 h
  obtain ⟨o, out, rfl, ho, hy⟩ := List.map_eq_cons_iff.1 hbehind
  have hchar : o = some c := by
    cases o with
    | some d => exact congrArg some ho
    | none =>
      -- The mark of damage is past ASCII.
      have hmark : '\uFFFD' = c := ho
      rw [← hmark] at hc
      exact absurd hc.2 (by decide)
  rw [hchar] at hdecode
  obtain ⟨front, b, rest, rfl, hb, hlow, hfront, hrest⟩ :=
    exists_append_of_decodeFrom (p := none) (by simp) hc hdecode
  have hbyte : UInt8.ofNat c.toNat = b := by
    have hall : ∀ n : Fin 0x80, UInt8.ofNat (Char.ofNat n).toNat = UInt8.ofNat n := by decide
    rw [← hb, hall ⟨b.toNat, hlow⟩, UInt8.ofNat_toNat]
  rw [hbyte]
  refine ⟨front, rest, rfl, ?_, ?_⟩
  · rw [decodeLossy, decode, hfront, hx]
  · rw [decodeLossy, hrest, hy]

/-- A text has the characters of ASCII that the bytes have. -/
theorem mem_of_mem_decodeLossy {c : Char} (hc : IsAscii c) (h : c ∈ decodeLossy bytes) :
    UInt8.ofNat c.toNat ∈ bytes := by
  obtain ⟨x, y, hxy⟩ := List.append_of_mem h
  obtain ⟨front, rest, rfl, -, -⟩ := exists_append_of_decodeLossy hc hxy
  simp

/-- A text starts with a character of ASCII when the bytes start with it. -/
theorem head?_of_decodeLossy {c : Char} (hc : IsAscii c)
    (h : (decodeLossy bytes).head? = some c) : bytes.head? = some (UInt8.ofNat c.toNat) := by
  obtain ⟨y, hy⟩ := List.head?_eq_some_iff.1 h
  obtain ⟨front, rest, rfl, hfront, -⟩ := @exists_append_of_decodeLossy bytes [] y c hc hy
  obtain rfl := decodeLossy_eq_nil_iff.1 hfront
  rfl

/-- Damage brings no line ends. -/
theorem plain_decodeLossy (h : PlainBytes bytes) : Plain (decodeLossy bytes) := by
  intro c hc
  constructor
  · rintro rfl
    exact (h _ (mem_of_mem_decodeLossy (by decide) hc)).2 rfl
  · rintro rfl
    exact (h _ (mem_of_mem_decodeLossy (by decide) hc)).1 rfl

/-! ### Lines of decoded bytes -/

/-- The lines of a text: the pieces between the line feeds that its line ends are replaced by.  A
line end at the end of the text opens no further line. -/
def textLines (text : List Char) : List (List Char) :=
  let pieces := fields '\n' (unifyLineEnds text)
  if pieces.getLast? = some [] then pieces.dropLast else pieces

/-- A text without line ends is kept, whatever follows. -/
theorem unifyLineEnds_append {line : List Char} (plain : Plain line) (rest : List Char) :
    unifyLineEnds (line ++ rest) = line ++ unifyLineEnds rest := by
  induction line with
  | nil => rfl
  | cons c line ih =>
    rw [Plain, List.forall_mem_cons] at plain
    have hcr : ∀ tail, c = '\r' → line ++ rest = '\n' :: tail → False :=
      fun _ hc _ => plain.1.1 hc
    rw [List.cons_append, unifyLineEnds.eq_3 _ _ hcr, if_neg plain.1.1, ih plain.2,
      List.cons_append]

/-- Each line end becomes a line feed. -/
theorem unifyLineEnds_ending {ending rest : List Char} (ends : ending ∈ lineEnds)
    (whole : ending = ['\r'] → rest.head? ≠ some '\n') :
    unifyLineEnds (ending ++ rest) = '\n' :: unifyLineEnds rest := by
  simp only [lineEnds, List.mem_cons, List.not_mem_nil, or_false] at ends
  rcases ends with rfl | rfl | rfl
  · rfl
  · rfl
  · have hcrlf : ∀ tail, '\r' = '\r' → rest = '\n' :: tail → False := by
      rintro tail - rfl
      exact whole rfl rfl
    rw [List.singleton_append, unifyLineEnds.eq_3 _ _ hcrlf, if_pos rfl]

theorem textLines_last {line : List Char} (plain : Plain line) (nonempty : line ≠ []) :
    textLines line = [line] := by
  have hunify := unifyLineEnds_append plain []
  rw [List.append_nil] at hunify
  have hfeed : '\n' ∉ line := fun hmem => (plain _ hmem).2 rfl
  rw [textLines, hunify]
  simp [unifyLineEnds, fields_of_not_mem hfeed, nonempty]

theorem textLines_cons {line ending rest : List Char} (plain : Plain line)
    (ends : ending ∈ lineEnds) (whole : ending = ['\r'] → rest.head? ≠ some '\n') :
    textLines (line ++ ending ++ rest) = line :: textLines rest := by
  have hfeed : '\n' ∉ line := fun hmem => (plain _ hmem).2 rfl
  obtain ⟨first, others, hpieces⟩ :=
    List.exists_cons_of_ne_nil (fields_ne_nil '\n' (unifyLineEnds rest))
  rw [textLines, textLines, List.append_assoc, unifyLineEnds_append plain,
    unifyLineEnds_ending ends whole, fields_append_cons, fields_of_not_mem hfeed, hpieces,
    List.singleton_append]
  rw [List.getLast?_cons_cons, List.dropLast_cons_cons]
  split <;> rfl

/-- A line end is decoded to the same line end. -/
theorem decodeLossy_ending {ending : List UInt8} (ends : ending ∈ byteLineEnds) :
    ∃ chars ∈ lineEnds, (chars = ['\r'] → ending = [13]) ∧ ∀ front rest,
      decodeLossy (front ++ ending ++ rest) = decodeLossy front ++ chars ++ decodeLossy rest := by
  have hlf : ∀ front rest, decodeLossy (front ++ 10 :: rest) =
      decodeLossy front ++ '\n' :: decodeLossy rest :=
    fun front rest => decodeLossy_append_ascii front (by decide) rest
  have hcr : ∀ front rest, decodeLossy (front ++ 13 :: rest) =
      decodeLossy front ++ '\r' :: decodeLossy rest :=
    fun front rest => decodeLossy_append_ascii front (by decide) rest
  simp only [byteLineEnds, List.mem_cons, List.not_mem_nil, or_false] at ends
  rcases ends with rfl | rfl | rfl
  · exact ⟨['\n'], by simp [lineEnds], by simp, fun front rest => by simp [hlf]⟩
  · refine ⟨['\r', '\n'], by simp [lineEnds], by simp, fun front rest => ?_⟩
    have hfeed : decodeLossy (10 :: rest) = '\n' :: decodeLossy rest := hlf [] rest
    simp [hcr, hfeed]
  · exact ⟨['\r'], by simp [lineEnds], by simp, fun front rest => by simp [hcr]⟩

/-- Lines that bytes are cut into are decoded to the lines of the text. -/
theorem CutInto.map_decodeLossy {lines : List (List UInt8)} (h : CutInto bytes lines) :
    lines.map decodeLossy = textLines (decodeLossy bytes) := by
  induction h with
  | nil => rfl
  | last plain nonempty =>
    exact (textLines_last (plain_decodeLossy plain) (mt decodeLossy_eq_nil_iff.1 nonempty)).symm
  | @cons line ending rest lines plain ends whole others ih =>
    obtain ⟨chars, hchars, hcr, hdecode⟩ := decodeLossy_ending ends
    have hwhole : chars = ['\r'] → (decodeLossy rest).head? ≠ some '\n' := by
      intro h hfeed
      exact whole (hcr h) (head?_of_decodeLossy (by decide) hfeed)
    rw [List.map_cons, ih, hdecode, textLines_cons (plain_decodeLossy plain) hchars hwhole]

end Text

/-- The lines of a names file are those of its text: cutting and decoding change places. -/
theorem Database.linesOf_eq_textLines (content : List UInt8) :
    Database.linesOf content = Text.textLines (Text.decodeLossy content) :=
  (Text.cutInto_iff.2 rfl).map_decodeLossy

end PciCatalog
