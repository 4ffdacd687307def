import PciCatalog.Proofs.JsonGrammar
import PciCatalog.Proofs.NumberReading

/-!
# A report and its text

The text of a report gives the report back: two reports with one text are one report (`render_inj`).
Each kind of value starts in its own way, texts end at a quote that no escape contains, and numbers
end where a comma or a line feed stands.  Of doubles this is asked beforehand, since one that is too
fine for seventeen digits shares its text with another.
-/

namespace PciCatalog
namespace Json

variable {back back' : List Char} {depth : Nat}

/-! ### Texts -/

theorem escapeUnit_append_inj {m n : Nat} (hm : m < 0x10000) (hn : n < 0x10000)
    (h : escapeUnit m ++ back = escapeUnit n ++ back') : m = n ∧ back = back' := by
  have hpadded : ∀ {n : Nat}, n < 0x10000 →
      Hexadecimal.padded 4 n = Hexadecimal.digits 4 n := fun h => Hexadecimal.padded_natCast h
  rw [escapeUnit, escapeUnit, List.cons_append, List.cons_append, List.cons_append,
    List.cons_append, List.cons.injEq, List.cons.injEq] at h
  obtain ⟨hunit, hback⟩ := List.append_inj h.2.2 (by simp [hpadded hm, hpadded hn])
  exact ⟨Int.ofNat_inj.1 (Hexadecimal.padded_inj.1 hunit), hback⟩

/-- The escape of a character does not start with the one of another: the units of a surrogate pair
are no characters. -/
theorem escapeCode_append_inj {c d : Char}
    (h : escapeCode c.toNat ++ back = escapeCode d.toNat ++ back') : c = d ∧ back = back' := by
  have hc : (c.toNat < 0xD800 ∨ 0xDFFF < c.toNat) ∧ c.toNat < 0x110000 := Text.toNat_of_char c
  have hd : (d.toNat < 0xD800 ∨ 0xDFFF < d.toNat) ∧ d.toNat < 0x110000 := Text.toNat_of_char d
  have hchar : c.toNat = d.toNat → c = d := Char.toNat_inj.1
  unfold escapeCode at h
  split at h <;> split at h
  · next hlow hlow' =>
    obtain ⟨hunit, hback⟩ := escapeUnit_append_inj hlow hlow' h
    exact ⟨hchar hunit, hback⟩
  · next hlow _ =>
    rw [List.append_assoc] at h
    have hunit := (escapeUnit_append_inj hlow (by omega) h).1
    omega
  · next _ hlow =>
    rw [List.append_assoc] at h
    have hunit := (escapeUnit_append_inj (by omega) hlow h).1
    omega
  · rw [List.append_assoc, List.append_assoc] at h
    obtain ⟨hfirst, h⟩ := escapeUnit_append_inj (by omega) (by omega) h
    obtain ⟨hsecond, hback⟩ := escapeUnit_append_inj (by omega) (by omega) h
    exact ⟨hchar (by omega), hback⟩

/-- The escape of a code point is told from the short ones by its second character. -/
theorem exists_escapeCode (n : Nat) : ∃ rest, escapeCode n = '\\' :: 'u' :: rest := by
  unfold escapeCode
  split
  · exact ⟨Hexadecimal.padded 4 n, by rw [escapeUnit]⟩
  · rw [escapeUnit, List.cons_append, List.cons_append]
    exact ⟨_, rfl⟩

theorem escapeChar_append_inj {c d : Char}
    (h : escapeChar c ++ back = escapeChar d ++ back') : c = d ∧ back = back' := by
  have hinj : ∀ p ∈ shortEscapes, ∀ q ∈ shortEscapes, p.2 = q.2 → p.1 = q.1 := by decide
  have hunit : ∀ p ∈ shortEscapes, p.2 ≠ 'u' := by decide
  rcases escapeChar_cases c with ⟨e, he, hc⟩ | ⟨-, -, -, hplain, hc⟩ | hc <;>
    rcases escapeChar_cases d with ⟨e', he', hd⟩ | ⟨-, -, -, hplain', hd⟩ | hd
  · rw [hc, hd] at h
    obtain ⟨heq, hback⟩ : e = e' ∧ back = back' := by simpa using h
    exact ⟨hinj _ he _ he' heq, hback⟩
  · rw [hc, hd] at h
    exact absurd (List.cons.inj h).1.symm hplain'
  · obtain ⟨rest, hrest⟩ := exists_escapeCode d.toNat
    rw [hc, hd, hrest] at h
    exact absurd (List.cons.inj (List.cons.inj h).2).1 (hunit _ he)
  · rw [hc, hd] at h
    exact absurd (List.cons.inj h).1 hplain
  · rw [hc, hd] at h
    simpa using h
  · obtain ⟨rest, hrest⟩ := exists_escapeCode d.toNat
    rw [hc, hd, hrest] at h
    exact absurd (List.cons.inj h).1 hplain
  · obtain ⟨rest, hrest⟩ := exists_escapeCode c.toNat
    rw [hc, hd, hrest] at h
    exact absurd (List.cons.inj (List.cons.inj h).2).1.symm (hunit _ he')
  · obtain ⟨rest, hrest⟩ := exists_escapeCode c.toNat
    rw [hc, hd, hrest] at h
    exact absurd (List.cons.inj h).1.symm hplain'
  · rw [hc, hd] at h
    exact escapeCode_append_inj h

/-- No character is written with a quote in front. -/
theorem head?_escapeChar_append (c : Char) (rest : List Char) :
    (escapeChar c ++ rest).head? ≠ some '"' := by
  rcases escapeChar_cases c with ⟨e, -, hc⟩ | ⟨-, -, hquote, -, hc⟩ | hc
  · simp [hc]
  · simpa [hc] using hquote
  · obtain ⟨_, hrest⟩ := exists_escapeCode c.toNat
    simp [hc, hrest]

theorem flatMap_escapeChar_append_inj {s t : List Char}
    (h : s.flatMap escapeChar ++ '"' :: back = t.flatMap escapeChar ++ '"' :: back') :
    s = t ∧ back = back' := by
  induction s generalizing t with
  | nil =>
    cases t with
    | nil => simpa using h
    | cons d t =>
      rw [List.flatMap_cons, List.append_assoc] at h
      exact absurd (congrArg List.head? h).symm (head?_escapeChar_append d _)
  | cons c s ih =>
    rw [List.flatMap_cons, List.append_assoc] at h
    cases t with
    | nil => exact absurd (congrArg List.head? h) (head?_escapeChar_append c _)
    | cons d t =>
      rw [List.flatMap_cons, List.append_assoc] at h
      obtain ⟨rfl, hrest⟩ := escapeChar_append_inj h
      obtain ⟨rfl, hback⟩ := ih hrest
      exact ⟨rfl, hback⟩

theorem quoted_append_inj {s t : String} (h : quoted s ++ back = quoted t ++ back') :
    s = t ∧ back = back' := by
  simp only [quoted, List.cons_append, List.append_assoc, List.nil_append, List.cons.injEq,
    true_and] at h
  obtain ⟨htext, hback⟩ := flatMap_escapeChar_append_inj h
  exact ⟨String.toList_injective htext, hback⟩

/-! ### Numbers and words -/

theorem toDigits_inj {m n : Nat} (h : Nat.toDigits 10 m = Nat.toDigits 10 n) : m = n := by
  have hread := Nat.ofDigitChars_toDigits (b := 10) (n := m) (by decide) (by decide)
  rw [h, Nat.ofDigitChars_toDigits (by decide) (by decide)] at hread
  exact hread.symm

theorem intText_inj {m n : Int} (h : intText m = intText n) : m = n := by
  have hsign : ∀ k l : Nat, Nat.toDigits 10 k ≠ '-' :: Nat.toDigits 10 l := by
    intro k l heq
    have hdigit := forall_mem_decimal_digits k '-' (by simp [heq])
    exact absurd hdigit (by decide)
  unfold intText at h
  split at h <;> split at h
  · have habs := toDigits_inj (List.cons.inj h).2
    omega
  · exact absurd h.symm (hsign _ _)
  · exact absurd h (hsign _ _)
  · have habs := toDigits_inj h
    omega

/-- A double is not written like an integer or like a word in small letters. -/
theorem exists_mem_realText (x : Binary64) : ∃ c ∈ realText x, c ∈ ['.', 'e', 'I', 'N'] := by
  cases x with
  | finite negative units =>
    show ∃ c ∈ (if negative then ['-'] else []) ++
      (Decimal.shortest units).layout Binary64.exactStyle, c ∈ ['.', 'e', 'I', 'N']
    have hlayout : ∀ d : Decimal, '.' ∈ d.layout Binary64.exactStyle ∨
        'e' ∈ d.layout Binary64.exactStyle := by
      intro d
      unfold Decimal.layout Decimal.exponentMark
      dsimp only
      -- Without an exponent there is always a point.
      split
      · split
        · simp
        split <;> simp [Binary64.exactStyle]
      · split <;> simp
    rcases hlayout (Decimal.shortest units) with h | h
    · exact ⟨_, List.mem_append_right _ h, by decide⟩
    · exact ⟨_, List.mem_append_right _ h, by decide⟩
  | infinite negative => cases negative <;> exact ⟨'I', by decide, by decide⟩
  | nan => exact ⟨'N', by decide, by decide⟩

/-- The character that values of some kind start with; numbers and words have none of their own. -/
def opening? : Json → Option Char
  | .text _ => some '"'
  | .list _ => some '['
  | .object _ => some '{'
  | _ => none

/-- Whether two lists of doubles have no two different ones with one text. -/
def Told (xs ys : List Binary64) : Prop :=
  ∀ x ∈ xs, ∀ y ∈ ys, realText x = realText y → x = y

/-- Two numbers or words with one text are the same. -/
theorem eq_of_write_eq {j k : Json} (hj : j.opening? = none) (hk : k.opening? = none)
    (htold : Told j.reals k.reals) (h : j.write depth = k.write depth) : j = k := by
  have hint : ∀ (n : Int) (x : Binary64), intText n ≠ realText x := by
    intro n x heq
    obtain ⟨c, hc, hmark⟩ := exists_mem_realText x
    have hdigit := forall_mem_intText n c (heq ▸ hc)
    have hall : ∀ c ∈ ['.', 'e', 'I', 'N'], ¬ (c.isDigit = true ∨ c = '-') := by
      simp [Char.isDigit]
    exact hall c hmark hdigit
  have hnullInt : ∀ n : Int, "null".toList ≠ intText n := by
    intro n heq
    exact absurd (forall_mem_intText n 'n' (heq ▸ by decide)) (by decide)
  have hnullReal : ∀ x : Binary64, "null".toList ≠ realText x := by
    intro x heq
    exact absurd (forall_mem_realText x 'u' (heq ▸ by decide)) (by decide)
  cases j with
  | text | list | object => contradiction
  | null =>
    cases k with
    | text | list | object => contradiction
    | null => rfl
    | int n => exact absurd h (hnullInt n)
    | real y => exact absurd h (hnullReal y)
  | int m =>
    cases k with
    | text | list | object => contradiction
    | null => exact absurd h.symm (hnullInt m)
    | int n => rw [intText_inj h]
    | real y => exact absurd h (hint m y)
  | real x =>
    cases k with
    | text | list | object => contradiction
    | null => exact absurd h.symm (hnullReal x)
    | int n => exact absurd h.symm (hint n x)
    | real y => rw [htold x (by simp [reals]) y (by simp [reals]) h]

/-! ### Values -/

/-- Whether what stands behind a value cannot be a part of it. -/
def Closes (back : List Char) : Prop :=
  ∀ c, back.head? = some c → c = ',' ∨ c = '\n'

/-- A character that a number or a word can have. -/
def IsInner (c : Char) : Prop :=
  c ≠ ',' ∧ c ≠ '\n' ∧ c ≠ '"' ∧ c ≠ '[' ∧ c ≠ '{'

theorem isInner_of_isNumeric {c : Char} (h : IsNumeric c) : IsInner c := by
  refine ⟨?_, ?_, ?_, ?_, ?_⟩ <;> rintro rfl <;> exact absurd h (by decide)

theorem forall_mem_inner {j : Json} (hj : j.opening? = none) :
    ∀ c ∈ j.write depth, IsInner c := by
  cases j with
  | text | list | object => contradiction
  | null =>
    rw [write]
    unfold IsInner
    exact Text.forall_mem_of_all (by decide)
  | int n =>
    intro c hc
    refine isInner_of_isNumeric ((forall_mem_intText n c hc).imp_right ?_)
    rintro rfl
    decide
  | real x =>
    intro c hc
    have hword : ∀ c ∈ "InfinityNaN".toList, IsInner c := by
      unfold IsInner
      exact Text.forall_mem_of_all (by decide)
    exact (forall_mem_realText x c hc).elim isInner_of_isNumeric (hword c)

theorem takeWhile_of_closes {front : List Char} (hfront : ∀ c ∈ front, IsInner c)
    (hback : Closes back) :
    (front ++ back).takeWhile (fun c => c ≠ ',' ∧ c ≠ '\n') = front := by
  rw [List.takeWhile_append_of_pos (fun c hc => by simp [(hfront c hc).1, (hfront c hc).2.1])]
  cases back with
  | nil => simp
  | cons c rest =>
    have hc := hback c rfl
    rw [List.takeWhile_cons, if_neg (by rcases hc with rfl | rfl <;> decide), List.append_nil]

/-- What a value starts with tells its kind. -/
theorem exists_head_write (depth : Nat) (j : Json) : ∃ c rest, j.write depth = c :: rest ∧
    j.opening? = if c ∈ ['"', '[', '{'] then some c else none := by
  have hnone : j.opening? = none → ∃ c rest, j.write depth = c :: rest ∧
      j.opening? = if c ∈ ['"', '[', '{'] then some c else none := by
    intro hj
    have hne : j.write depth ≠ [] := by
      cases j with
      | text | list | object => contradiction
      | null => simp [write]
      | int n =>
        rw [write, intText]
        split
        · simp
        · exact Nat.toDigits_ne_nil
      | real x =>
        rw [write]
        obtain ⟨c, hc, -⟩ := exists_mem_realText x
        exact List.ne_nil_of_mem hc
    obtain ⟨c, rest, heq⟩ := List.exists_cons_of_ne_nil hne
    have hinner : IsInner c := forall_mem_inner hj c (heq ▸ List.mem_cons_self)
    refine ⟨c, rest, heq, ?_⟩
    rw [hj, if_neg]
    simpa using hinner.2.2
  cases j with
  | null | int | real => exact hnone rfl
  | text s => exact ⟨_, _, rfl, rfl⟩
  | list items => cases items <;> exact ⟨_, _, by rw [write], rfl⟩
  | object members => cases members <;> exact ⟨_, _, by rw [write], rfl⟩

theorem opening?_eq {j k : Json} (h : j.write depth ++ back = k.write depth ++ back') :
    j.opening? = k.opening? := by
  obtain ⟨c, rest, hj, hopening⟩ := exists_head_write depth j
  obtain ⟨d, rest', hk, hopening'⟩ := exists_head_write depth k
  rw [hj, hk] at h
  rw [hopening, hopening', (List.cons.inj h).1]

theorem closes_newLine_append (depth : Nat) (rest : List Char) :
    Closes (newLine depth ++ rest) := by
  intro c hc
  exact .inr (Option.some.inj hc).symm

theorem closes_writeItems_append (items : List Json) (hback : Closes back) :
    Closes (writeItems depth items ++ back) := by
  cases items with
  | nil => exact hback
  | cons item rest =>
    intro c hc
    rw [writeItems] at hc
    exact .inl (Option.some.inj hc).symm

theorem closes_writeMembers_append (members : List (String × Json)) (hback : Closes back) :
    Closes (writeMembers depth members ++ back) := by
  cases members with
  | nil => exact hback
  | cons member rest =>
    intro c hc
    rw [writeMembers] at hc
    exact .inl (Option.some.inj hc).symm

theorem Told.left {xs xs' ys ys' : List Binary64} (h : Told (xs ++ xs') (ys ++ ys')) :
    Told xs ys :=
  fun x hx y hy => h x (List.mem_append_left _ hx) y (List.mem_append_left _ hy)

theorem Told.right {xs xs' ys ys' : List Binary64} (h : Told (xs ++ xs') (ys ++ ys')) :
    Told xs' ys' :=
  fun x hx y hy => h x (List.mem_append_right _ hx) y (List.mem_append_right _ hy)

/-- A number or a word is told by its text, whatever follows it. -/
theorem write_append_inj_of_plain {j k : Json} (hj : j.opening? = none) (hk : k.opening? = none)
    (hback : Closes back) (hback' : Closes back') (htold : Told j.reals k.reals)
    (h : j.write depth ++ back = k.write depth ++ back') : j = k ∧ back = back' := by
  have htext := congrArg (List.takeWhile fun c => c ≠ ',' ∧ c ≠ '\n') h
  rw [takeWhile_of_closes (forall_mem_inner hj) hback,
    takeWhile_of_closes (forall_mem_inner hk) hback'] at htext
  rw [htext] at h
  exact ⟨eq_of_write_eq hj hk htold htext, List.append_cancel_left h⟩

mutual

/-- A value is told by its text, whatever follows it. -/
theorem write_append_inj (depth : Nat) (j k : Json) {back back' : List Char}
    (hback : Closes back) (hback' : Closes back') (htold : Told j.reals k.reals)
    (h : j.write depth ++ back = k.write depth ++ back') : j = k ∧ back = back' := by
  have hopening := opening?_eq h
  match j with
  | .null | .int _ | .real _ =>
    exact write_append_inj_of_plain rfl hopening.symm hback hback' htold h
  | .text s =>
    cases k with
    | null | int | real | list | object => simp [opening?] at hopening
    | text t =>
      rw [write, write] at h
      obtain ⟨rfl, hrest⟩ := quoted_append_inj h
      exact ⟨rfl, hrest⟩
  | .list [] =>
    cases k with
    | null | int | real | text | object => simp [opening?] at hopening
    | list items =>
      cases items with
      | nil => simpa [write] using h
      | cons item rest => simp [write, newLine] at h
  | .list (item :: rest) =>
    cases k with
    | null | int | real | text | object => simp [opening?] at hopening
    | list items =>
      cases items with
      | nil => simp [write, newLine] at h
      | cons item' rest' =>
        simp only [write, List.cons_append, List.append_assoc, List.cons.injEq, true_and,
          List.append_cancel_left_eq] at h
        obtain ⟨rfl, hrest⟩ := write_append_inj (depth + 1) item item'
          (closes_writeItems_append rest (closes_newLine_append _ _))
          (closes_writeItems_append rest' (closes_newLine_append _ _)) htold.left h
        obtain ⟨rfl, hback⟩ := writeItems_append_inj (depth + 1) depth rest rest' htold.right hrest
        exact ⟨rfl, by simpa using hback⟩
  | .object [] =>
    cases k with
    | null | int | real | text | list => simp [opening?] at hopening
    | object members =>
      cases members with
      | nil => simpa [write] using h
      | cons member rest => simp [write, newLine] at h
  | .object ((key, value) :: rest) =>
    cases k with
    | null | int | real | text | list => simp [opening?] at hopening
    | object members =>
      cases members with
      | nil => simp [write, newLine] at h
      | cons member rest' =>
        obtain ⟨key', value'⟩ := member
        simp only [write, List.cons_append, List.append_assoc, List.cons.injEq, true_and,
          List.append_cancel_left_eq] at h
        obtain ⟨rfl, hvalue⟩ := quoted_append_inj h
        simp only [List.cons.injEq, true_and] at hvalue
        obtain ⟨rfl, hrest⟩ := write_append_inj (depth + 1) value value'
          (closes_writeMembers_append rest (closes_newLine_append _ _))
          (closes_writeMembers_append rest' (closes_newLine_append _ _)) htold.left hvalue
        obtain ⟨rfl, hback⟩ :=
          writeMembers_append_inj (depth + 1) depth rest rest' htold.right hrest
        exact ⟨rfl, by simpa using hback⟩

theorem writeItems_append_inj (depth last : Nat) (items others : List Json)
    {back back' : List Char} (htold : Told (realsOfItems items) (realsOfItems others))
    (h : writeItems depth items ++ (newLine last ++ back) =
      writeItems depth others ++ (newLine last ++ back')) : items = others ∧ back = back' := by
  match items with
  | [] =>
    cases others with
    | nil => exact ⟨rfl, by simpa [writeItems] using h⟩
    | cons item' rest' => simp [writeItems, newLine] at h
  | item :: rest =>
    cases others with
    | nil => simp [writeItems, newLine] at h
    | cons item' rest' =>
      simp only [writeItems, List.cons_append, List.append_assoc, List.cons.injEq, true_and,
        List.append_cancel_left_eq] at h
      obtain ⟨rfl, hrest⟩ := write_append_inj depth item item'
        (closes_writeItems_append rest (closes_newLine_append _ _))
        (closes_writeItems_append rest' (closes_newLine_append _ _)) htold.left h
      obtain ⟨rfl, hback⟩ := writeItems_append_inj depth last rest rest' htold.right hrest
      exact ⟨rfl, hback⟩

theorem writeMembers_append_inj (depth last : Nat) (members others : List (String × Json))
    {back back' : List Char} (htold : Told (realsOfMembers members) (realsOfMembers others))
    (h : writeMembers depth members ++ (newLine last ++ back) =
      writeMembers depth others ++ (newLine last ++ back')) : members = others ∧ back = back' := by
  match members with
  | [] =>
    cases others with
    | nil => exact ⟨rfl, by simpa [writeMembers] using h⟩
    | cons member rest' => simp [writeMembers, newLine] at h
  | (key, value) :: rest =>
    cases others with
    | nil => simp [writeMembers, newLine] at h
    | cons member rest' =>
      obtain ⟨key', value'⟩ := member
      simp only [writeMembers, List.cons_append, List.append_assoc, List.cons.injEq, true_and,
        List.append_cancel_left_eq] at h
      obtain ⟨rfl, hvalue⟩ := quoted_append_inj h
      simp only [List.cons.injEq, true_and] at hvalue
      obtain ⟨rfl, hrest⟩ := write_append_inj depth value value'
        (closes_writeMembers_append rest (closes_newLine_append _ _))
        (closes_writeMembers_append rest' (closes_newLine_append _ _)) htold.left hvalue
      obtain ⟨rfl, hback⟩ := writeMembers_append_inj depth last rest rest' htold.right hrest
      exact ⟨rfl, hback⟩

end

/-- Two reports with one text are one report, if their doubles are told apart by their texts. -/
theorem render_inj {j k : Json} (htold : Told j.reals k.reals) : j.render = k.render ↔ j = k := by
  constructor
  · intro h
    have htext : j.write 0 = k.write 0 := String.ofList_injective h
    have hnil : Closes [] := by
      intro c hc
      contradiction
    refine (write_append_inj 0 j k hnil hnil htold ?_).1
    rw [htext]
  · rintro rfl
    rfl

theorem reals_list_eq_nil {items : List Json} (h : ∀ item ∈ items, item.reals = []) :
    (list items).reals = [] := by
  rw [reals]
  induction items with
  | nil => rfl
  | cons item items ih =>
    rw [List.forall_mem_cons] at h
    rw [realsOfItems, h.1, ih h.2, List.append_nil]

theorem reals_object_eq_nil {members : List (String × Json)}
    (h : ∀ member ∈ members, member.2.reals = []) : (object members).reals = [] := by
  rw [reals]
  induction members with
  | nil => rfl
  | cons member members ih =>
    rw [List.forall_mem_cons] at h
    rw [realsOfMembers, h.1, ih h.2, List.append_nil]

/-- A report without doubles is told by the line that is printed of it. -/
theorem eq_of_render_line {j k : Json} (hj : j.reals = [])
    (h : j.render ++ "\n" = k.render ++ "\n") : j = k := by
  refine (render_inj ?_).1 (String.append_left_inj "\n" |>.1 h)
  rw [hj]
  intro x hx
  contradiction

end Json
end PciCatalog
