/-!
# UTF-8

Decoding as a machine over bytes: it emits a character for each well-formed sequence and one damage
mark for each maximal ill-formed part.  The lossy reading shows a mark as U+FFFD, the strict reading
refuses a text that has one.
-/

namespace PciCatalog
namespace Text

/-- A sequence that has begun: the bits read so far, the number of bytes still missing, and the
closed range that the next byte has to lie in. -/
structure PartialChar where
  bits : Nat
  missing : Nat
  low : UInt8
  high : UInt8
  deriving DecidableEq, Repr

namespace PartialChar

/-- Whether the byte continues the sequence. -/
def admits (p : PartialChar) (b : UInt8) : Bool :=
  p.low ≤ b && b ≤ p.high

/-- The bits together with those of a continuation byte. -/
def extend (p : PartialChar) (b : UInt8) : Nat :=
  p.bits * 64 + b.toNat % 64

end PartialChar

/-- What a byte means when no sequence is open. -/
inductive LeadByte where
  | single (c : Char)
  | opens (p : PartialChar)
  | damaged
  deriving DecidableEq, Repr

/-- The meaning of a byte at the start of a sequence; the ranges for the second byte exclude
overlong forms, surrogates and code points past U+10FFFF. -/
def leadByte (b : UInt8) : LeadByte :=
  if b < 0x80 then .single (Char.ofNat b.toNat)
  else if b < 0xC2 then .damaged
  else if b < 0xE0 then .opens ⟨b.toNat % 32, 1, 0x80, 0xBF⟩
  else if b = 0xE0 then .opens ⟨0, 2, 0xA0, 0xBF⟩
  else if b = 0xED then .opens ⟨13, 2, 0x80, 0x9F⟩
  else if b < 0xF0 then .opens ⟨b.toNat % 16, 2, 0x80, 0xBF⟩
  else if b = 0xF0 then .opens ⟨0, 3, 0x90, 0xBF⟩
  else if b < 0xF4 then .opens ⟨b.toNat % 8, 3, 0x80, 0xBF⟩
  else if b = 0xF4 then .opens ⟨4, 3, 0x80, 0x8F⟩
  else .damaged

/-- The characters of the bytes that follow an open sequence, `none` for each damaged part. -/
def decodeFrom : Option PartialChar → List UInt8 → List (Option Char)
  | none, [] => []
  | some _, [] => [none]
  | none, b :: rest =>
    match leadByte b with
    | .single c => some c :: decodeFrom none rest
    | .opens p => decodeFrom (some p) rest
    | .damaged => none :: decodeFrom none rest
  | some p, b :: rest =>
    if p.admits b then
      if p.missing ≤ 1 then
        some (Char.ofNat (p.extend b)) :: decodeFrom none rest
      else
        decodeFrom (some ⟨p.extend b, p.missing - 1, 0x80, 0xBF⟩) rest
    else
      none :: match leadByte b with
        | .single c => some c :: decodeFrom none rest
        | .opens q => decodeFrom (some q) rest
        | .damaged => none :: decodeFrom none rest

/-- The characters of some bytes, `none` for each maximal ill-formed part. -/
def decode (bytes : List UInt8) : List (Option Char) :=
  decodeFrom none bytes

/-- The text of some bytes, with U+FFFD for each maximal ill-formed part. -/
def decodeLossy (bytes : List UInt8) : List Char :=
  (decode bytes).map (·.getD '\uFFFD')

/-- The text of some bytes, if they are well-formed. -/
def decodeStrict? (bytes : List UInt8) : Option (List Char) :=
  (decode bytes).mapM id

example : decodeLossy [0x41, 0xE2, 0x82, 0x42] = ['A', '\uFFFD', 'B'] := by decide +kernel

example : decodeStrict? [0xC3, 0xA9] = some ['é'] := by decide +kernel

@[simp] theorem decode_nil : decode [] = [] := rfl

/-! One byte at a time: what it is when no sequence is open, and what it does to an open one, which
it ends, continues or breaks off. -/

section Byte

variable {p : PartialChar} {b : UInt8} (rest : List UInt8)

theorem decodeFrom_none_cons : decodeFrom none (b :: rest) =
    match leadByte b with
    | .single c => some c :: decodeFrom none rest
    | .opens q => decodeFrom (some q) rest
    | .damaged => none :: decodeFrom none rest := rfl

/-- A byte that breaks a sequence off is read for itself. -/
theorem decodeFrom_some_cons : decodeFrom (some p) (b :: rest) =
    if p.admits b then
      if p.missing ≤ 1 then some (Char.ofNat (p.extend b)) :: decodeFrom none rest
      else decodeFrom (some ⟨p.extend b, p.missing - 1, 0x80, 0xBF⟩) rest
    else none :: decodeFrom none (b :: rest) := rfl

theorem decodeFrom_of_single {c : Char} (h : leadByte b = .single c) :
    decodeFrom none (b :: rest) = some c :: decodeFrom none rest := by
  rw [decodeFrom_none_cons, h]

theorem decodeFrom_of_opens (h : leadByte b = .opens p) :
    decodeFrom none (b :: rest) = decodeFrom (some p) rest := by
  rw [decodeFrom_none_cons, h]

theorem decodeFrom_of_damaged (h : leadByte b = .damaged) :
    decodeFrom none (b :: rest) = none :: decodeFrom none rest := by
  rw [decodeFrom_none_cons, h]

theorem decodeFrom_of_ends (h : p.admits b = true) (hlast : p.missing ≤ 1) :
    decodeFrom (some p) (b :: rest) = some (Char.ofNat (p.extend b)) :: decodeFrom none rest := by
  rw [decodeFrom_some_cons, if_pos h, if_pos hlast]

theorem decodeFrom_of_continues (h : p.admits b = true) (hmore : ¬ p.missing ≤ 1) :
    decodeFrom (some p) (b :: rest) =
      decodeFrom (some ⟨p.extend b, p.missing - 1, 0x80, 0xBF⟩) rest := by
  rw [decodeFrom_some_cons, if_pos h, if_neg hmore]

theorem decodeFrom_of_breaks (h : p.admits b = false) :
    decodeFrom (some p) (b :: rest) = none :: decodeFrom none (b :: rest) := by
  rw [decodeFrom_some_cons, h, if_neg Bool.false_ne_true]

end Byte

/-- A byte of ASCII is its own character, whatever follows. -/
theorem decode_cons_ascii {b : UInt8} (rest : List UInt8) (h : b < 0x80) :
    decode (b :: rest) = some (Char.ofNat b.toNat) :: decode rest :=
  decodeFrom_of_single rest (if_pos h)

/-- No range for a second byte holds a byte of ASCII. -/
theorem low_of_leadByte {b : UInt8} {p : PartialChar} (h : leadByte b = .opens p) :
    0x80 ≤ p.low := by
  have all : ∀ n : Fin 256,
      (match leadByte (UInt8.ofNat n) with
        | .opens q => decide (0x80 ≤ q.low)
        | _ => true) = true := by decide +kernel
  have hb := all ⟨b.toNat, b.toNat_lt⟩
  simpa only [UInt8.ofNat_toNat, h, decide_eq_true_eq] using hb

/-- Before a byte of ASCII the bytes decode as they do alone. -/
theorem decodeFrom_append_ascii (p : Option PartialChar) (front : List UInt8) {b : UInt8}
    (rest : List UInt8) (h : b < 0x80) (low : ∀ q, p = some q → 0x80 ≤ q.low) :
    decodeFrom p (front ++ b :: rest) = decodeFrom p front ++ decode (b :: rest) := by
  induction front generalizing p with
  | nil =>
    cases p with
    | none => rfl
    | some q =>
      have hno : q.admits b = false := by
        simp only [PartialChar.admits, Bool.and_eq_false_iff, decide_eq_false_iff_not]
        left
        intro hle
        exact UInt8.lt_irrefl b (UInt8.lt_of_lt_of_le h (UInt8.le_trans (low q rfl) hle))
      exact decodeFrom_of_breaks rest hno
  | cons x front ih =>
    rw [List.cons_append]
    -- The first byte is read for itself also when it breaks off what is open.
    have hclosed : decodeFrom none (x :: (front ++ b :: rest)) =
        decodeFrom none (x :: front) ++ decode (b :: rest) := by
      cases hx : leadByte x with
      | single c =>
        rw [decodeFrom_of_single _ hx, decodeFrom_of_single _ hx, ih none (by simp),
          List.cons_append]
      | opens q =>
        rw [decodeFrom_of_opens _ hx, decodeFrom_of_opens _ hx]
        exact ih (some q) (by rintro _ ⟨rfl⟩; exact low_of_leadByte hx)
      | damaged =>
        rw [decodeFrom_of_damaged _ hx, decodeFrom_of_damaged _ hx, ih none (by simp),
          List.cons_append]
    cases p with
    | none => exact hclosed
    | some q =>
      cases hq : q.admits x with
      | false =>
        rw [decodeFrom_of_breaks _ hq, decodeFrom_of_breaks _ hq, hclosed, List.cons_append]
      | true =>
        by_cases hlast : q.missing ≤ 1
        · rw [decodeFrom_of_ends _ hq hlast, decodeFrom_of_ends _ hq hlast, ih none (by simp),
            List.cons_append]
        · rw [decodeFrom_of_continues _ hq hlast, decodeFrom_of_continues _ hq hlast]
          exact ih _ (by rintro _ ⟨rfl⟩; exact UInt8.le_refl 0x80)

end Text
end PciCatalog
