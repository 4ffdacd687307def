import PciCatalog.Proofs.JsonGrammar

/-!
# Words for doubles in a report

The grammar of JSON has no rule for the words that stand for the doubles that are not finite.  Their
first letters stand outside of quotes, where a JSON text has none of them.  Main statement: a report
is JSON exactly when its doubles are finite.
-/

namespace PciCatalog

mutual

/-- The characters of a text that stand outside of quotes. -/
def outside : List Char → List Char
  | [] => []
  | c :: rest => if c = '"' then afterQuote rest else c :: outside rest

/-- The same behind a quote that is still open; a backslash hides the character after it. -/
def afterQuote : List Char → List Char
  | [] => []
  | ['\\'] => []
  | '\\' :: _ :: rest => afterQuote rest
  | c :: rest => if c = '"' then outside rest else afterQuote rest

end

theorem outside_cons {c : Char} (h : c ≠ '"') (rest : List Char) :
    outside (c :: rest) = c :: outside rest := by
  rw [outside, if_neg h]

theorem outside_append_of_forall {text : List Char} (h : ∀ c ∈ text, c ≠ '"') (rest : List Char) :
    outside (text ++ rest) = text ++ outside rest := by
  induction text with
  | nil => rfl
  | cons c text ih =>
    rw [List.forall_mem_cons] at h
    rw [List.cons_append, outside_cons h.1, ih h.2, List.cons_append]

theorem afterQuote_cons {c : Char} (hquote : c ≠ '"') (hbackslash : c ≠ '\\')
    (rest : List Char) : afterQuote (c :: rest) = afterQuote rest := by
  rw [afterQuote, if_neg hquote]
  · rintro rfl
    exact absurd rfl hbackslash
  · rintro _ _ rfl
    exact absurd rfl hbackslash

theorem afterQuote_append_of_forall {text : List Char}
    (h : ∀ c ∈ text, Address.isHexDigit c = true) (rest : List Char) :
    afterQuote (text ++ rest) = afterQuote rest := by
  induction text with
  | nil => rfl
  | cons c text ih =>
    rw [List.forall_mem_cons] at h
    have hquote : c ≠ '"' := by
      rintro rfl
      exact absurd h.1 (by decide)
    have hbackslash : c ≠ '\\' := by
      rintro rfl
      exact absurd h.1 (by decide)
    rw [List.cons_append, afterQuote_cons hquote hbackslash, ih h.2]

/-- Behind an open quote, the first quote that is not hidden closes it. -/
theorem afterQuote_append {text : List Char} (h : JsonGrammar.Inside text) (rest : List Char) :
    afterQuote (text ++ '"' :: rest) = outside rest := by
  induction h with
  | nil => simp [afterQuote]
  | plain printed notQuote notBackslash next ih =>
    rw [List.cons_append, afterQuote_cons notQuote notBackslash, ih]
  | escape short next ih => rw [List.cons_append, List.cons_append, afterQuote, ih]
  | unit length hex next ih =>
    rw [List.cons_append, List.cons_append, afterQuote, List.append_assoc,
      afterQuote_append_of_forall hex, ih]

/-- A quoted text leaves nothing outside of quotes. -/
theorem outside_quoted {text : List Char} (h : JsonGrammar.Inside text) (rest : List Char) :
    outside ('"' :: (text ++ ['"']) ++ rest) = outside rest := by
  rw [List.cons_append, List.append_assoc, List.singleton_append, outside, if_pos rfl,
    afterQuote_append h]

/-- A text that ends outside of quotes. -/
def Balanced (text : List Char) : Prop :=
  ∀ rest, outside (text ++ rest) = outside text ++ outside rest

/-- No quote, and no letter that starts the word for a double that is not finite. -/
def IsBare (c : Char) : Prop :=
  c ≠ '"' ∧ c ≠ 'N' ∧ c ≠ 'I'

instance : DecidablePred IsBare := fun c =>
  inferInstanceAs (Decidable (c ≠ '"' ∧ c ≠ 'N' ∧ c ≠ 'I'))

/-- A text that ends outside of quotes and whose characters there, if they are all bare, tell that
something holds. -/
structure Tells (text : List Char) (fact : Prop) : Prop where
  balanced : Balanced text
  fact_of_bare : (∀ c ∈ outside text, IsBare c) → fact

/-- A text that ends outside of quotes and has only bare characters there. -/
structure Wordless (text : List Char) : Prop where
  balanced : Balanced text
  bare : ∀ c ∈ outside text, IsBare c

section Outside

variable {front back text : List Char} {fact other : Prop}

theorem Balanced.append (hfront : Balanced front) (hback : Balanced back) :
    Balanced (front ++ back) := by
  intro rest
  rw [List.append_assoc, hfront, hback, hfront, List.append_assoc]

theorem balanced_of_forall (h : ∀ c ∈ text, c ≠ '"') : Balanced text := by
  intro rest
  have htext := outside_append_of_forall h []
  rw [List.append_nil] at htext
  rw [outside_append_of_forall h, htext, outside, List.append_nil]

theorem Wordless.append (hfront : Wordless front) (hback : Wordless back) :
    Wordless (front ++ back) where
  balanced := hfront.balanced.append hback.balanced
  bare := by
    rw [hfront.balanced, List.forall_mem_append]
    exact ⟨hfront.bare, hback.bare⟩

theorem wordless_of_forall (text : List Char) (h : ∀ c ∈ text, IsBare c) : Wordless text where
  balanced := balanced_of_forall fun c hc => (h c hc).1
  bare := by
    have htext := outside_append_of_forall (fun c hc => (h c hc).1) []
    rw [List.append_nil, outside, List.append_nil] at htext
    rw [htext]
    exact h

theorem wordless_of_all (text : List Char) (h : text.all (fun c => decide (IsBare c)) = true) :
    Wordless text :=
  wordless_of_forall text (Text.forall_mem_of_all h)

theorem IsBare.wordless {c : Char} (h : IsBare c) : Wordless [c] :=
  wordless_of_forall [c] (List.forall_mem_singleton.mpr h)

theorem wordless_quoted (h : JsonGrammar.Inside text) : Wordless ('"' :: (text ++ ['"'])) := by
  have hnone := outside_quoted h []
  rw [List.append_nil, outside] at hnone
  exact ⟨fun rest => by rw [outside_quoted h, hnone, List.nil_append], by simp [hnone]⟩

theorem Tells.append (hfront : Tells front fact) (hback : Tells back other) :
    Tells (front ++ back) (fact ∧ other) where
  balanced := hfront.balanced.append hback.balanced
  fact_of_bare := by
    rw [hfront.balanced, List.forall_mem_append]
    exact fun h => ⟨hfront.fact_of_bare h.1, hback.fact_of_bare h.2⟩

theorem Tells.of_imp (h : Tells text fact) (himp : fact → other) : Tells text other :=
  ⟨h.balanced, fun hbare => himp (h.fact_of_bare hbare)⟩

theorem Wordless.tells (h : Wordless text) (hfact : fact) : Tells text fact :=
  ⟨h.balanced, fun _ => hfact⟩

theorem Wordless.tells_append (hfront : Wordless front) (hback : Tells back fact) :
    Tells (front ++ back) fact :=
  ((hfront.tells trivial).append hback).of_imp And.right

theorem Tells.append_wordless (hfront : Tells front fact) (hback : Wordless back) :
    Tells (front ++ back) fact :=
  (hfront.append (hback.tells trivial)).of_imp And.left

end Outside

namespace JsonGrammar

theorem isBare_of_isDigit {c : Char} (h : c.isDigit = true) : IsBare c := by
  refine ⟨?_, ?_, ?_⟩ <;> (rintro rfl; contradiction)

variable {text : List Char}

theorem Digits.wordless (h : Digits text) : Wordless text :=
  wordless_of_forall _ fun c hc => isBare_of_isDigit (h.digit c hc)

theorem Blanks.wordless (h : Blanks text) : Wordless text := by
  have hall : ∀ c ∈ [' ', '\t', '\n', '\r'], IsBare c := Text.forall_mem_of_all (by decide)
  exact wordless_of_forall _ fun c hc => hall c (h c hc)

theorem Whole.wordless (h : Whole text) : Wordless text := by
  cases h with
  | zero => exact wordless_of_all _ (by decide)
  | nonzero digits first => exact digits.wordless

theorem Fraction.wordless (h : Fraction text) : Wordless text := by
  cases h with
  | absent => exact wordless_of_forall _ (by simp)
  | point digits => exact (wordless_of_all ['.'] (by decide)).append digits.wordless

theorem wordless_sign {sign : List Char} (h : sign ∈ [[], ['+'], ['-']]) : Wordless sign := by
  simp only [List.mem_cons, List.not_mem_nil, or_false] at h
  obtain rfl | rfl | rfl := h
  · exact wordless_of_all _ rfl
  · exact wordless_of_all _ (by decide)
  · exact wordless_of_all _ (by decide)

theorem Exponent.wordless (h : Exponent text) : Wordless text := by
  have hletters : ∀ c ∈ ['e', 'E'], IsBare c := Text.forall_mem_of_all (by decide)
  cases h with
  | absent => exact wordless_of_forall _ (by simp)
  | mark letter signed digits =>
    exact (hletters _ letter).wordless.append
      ((wordless_sign signed).append digits.wordless)

theorem Number.wordless (h : Number text) : Wordless text := by
  obtain ⟨signed, first, second, third⟩ := h
  exact (wordless_sign (by grind)).append
    (first.wordless.append (second.wordless.append third.wordless))

/-- Outside of quotes, no text of the grammar has a letter of the words for other doubles. -/
theorem Derives.wordless {phrase : Phrase} (h : Derives phrase text) : Wordless text := by
  have hmark : ∀ mark ∈ ['[', ']', '{', '}', ',', ':'], Wordless [mark] := by
    have hall : ∀ mark ∈ ['[', ']', '{', '}', ',', ':'], IsBare mark :=
      Text.forall_mem_of_all (by decide)
    exact fun mark hmark => (hall mark hmark).wordless
  -- One case for each rule: the marks of the grammar are bare, and texts are between quotes.
  induction h with
  | null => exact wordless_of_all _ (by decide)
  | yes => exact wordless_of_all _ (by decide)
  | no => exact wordless_of_all _ (by decide)
  | number number => exact number.wordless
  | string inside => exact wordless_quoted inside
  | emptyList blank =>
    exact (hmark '[' (by simp)).append (blank.wordless.append (hmark ']' (by simp)))
  | list elements ih => exact (hmark '[' (by simp)).append (ih.append (hmark ']' (by simp)))
  | emptyObject blank =>
    exact (hmark '{' (by simp)).append (blank.wordless.append (hmark '}' (by simp)))
  | object members ih =>
    exact (hmark '{' (by simp)).append (ih.append (hmark '}' (by simp)))
  | padded front inner back ih => exact front.wordless.append (ih.append back.wordless)
  | lastElement element ih => exact ih
  | moreElements element others ih ihOthers =>
    exact ih.append ((hmark ',' (by simp)).append ihOthers)
  | keyed front inside back element ih =>
    have hkey := (wordless_quoted inside).append
      (back.wordless.append ((hmark ':' (by simp)).append ih))
    simpa using front.wordless.append hkey
  | lastMember member ih => exact ih
  | moreMembers member others ih ihOthers =>
    exact ih.append ((hmark ',' (by simp)).append ihOthers)

end JsonGrammar

namespace Json

open JsonGrammar (Blanks)

theorem wordless_newLine (depth : Nat) : Wordless (newLine depth) :=
  Blanks.wordless (blanks_newLine depth)

theorem wordless_quoted_key (key : String) : Wordless (quoted key) :=
  wordless_quoted (inside_flatMap_escapeChar key.toList)

theorem wordless_key (key : String) : Wordless (quoted key ++ [':', ' ']) :=
  (wordless_quoted_key key).append (wordless_of_all _ (by decide))

/-- A word without quotes that has a letter which is not bare never has only bare characters. -/
theorem tells_word (word : List Char) (hplain : word.all (fun c => decide (c ≠ '"')) = true)
    (hletter : ∃ c ∈ word, ¬ IsBare c) {fact : Prop} : Tells word fact where
  balanced := balanced_of_forall (Text.forall_mem_of_all hplain)
  fact_of_bare := by
    obtain ⟨c, hc, hbare⟩ := hletter
    have hword := outside_append_of_forall (Text.forall_mem_of_all hplain) []
    rw [List.append_nil, outside, List.append_nil] at hword
    rw [hword]
    exact fun h => absurd (h c hc) hbare

/-- The word for a double that is not finite stands outside of quotes. -/
theorem tells_realText (x : Binary64) : Tells (realText x) (x.isFinite = true) := by
  cases x with
  | finite negative units => exact (number_realText negative units).wordless.tells rfl
  | infinite negative =>
    cases negative
    · exact tells_word "Infinity".toList (by decide) ⟨'I', by decide, by decide⟩
    · exact tells_word "-Infinity".toList (by decide) ⟨'I', by decide, by decide⟩
  | nan => exact tells_word "NaN".toList (by decide) ⟨'N', by decide, by decide⟩

mutual

/-- The text of a value tells whether its doubles are finite. -/
theorem tells_write (depth : Nat) (j : Json) :
    Tells (j.write depth) (∀ x ∈ j.reals, x.isFinite = true) := by
  -- The recursion is that of the writer; what it puts between the parts of a value is wordless.
  match j with
  | .null => exact (wordless_of_all "null".toList (by decide)).tells (by simp [reals])
  | .int n => exact (JsonGrammar.number_intText n).wordless.tells (by simp [reals])
  | .real x => exact (tells_realText x).of_imp (by simp [reals])
  | .text s => exact (wordless_quoted_key s).tells (by simp [reals])
  | .list [] =>
    exact (wordless_of_all ['[', ']'] (by decide)).tells
      (by simp [reals, realsOfItems])
  | .list (item :: rest) =>
    have hopen : Wordless ('[' :: newLine (depth + 1)) :=
      (wordless_of_all ['['] (by decide)).append (wordless_newLine _)
    have hclose : Wordless (newLine depth ++ [']']) :=
      (wordless_newLine _).append (wordless_of_all _ (by decide))
    have hitems := (tells_write (depth + 1) item).append (tells_writeItems (depth + 1) rest)
    rw [reals, realsOfItems, List.forall_mem_append]
    simpa [write] using hopen.tells_append (hitems.append_wordless hclose)
  | .object [] =>
    exact (wordless_of_all ['{', '}'] (by decide)).tells
      (by simp [reals, realsOfMembers])
  | .object ((key, value) :: rest) =>
    have hopen : Wordless ('{' :: newLine (depth + 1)) :=
      (wordless_of_all ['{'] (by decide)).append (wordless_newLine _)
    have hclose : Wordless (newLine depth ++ ['}']) :=
      (wordless_newLine _).append (wordless_of_all _ (by decide))
    have hmembers := (tells_write (depth + 1) value).append (tells_writeMembers (depth + 1) rest)
    rw [reals, realsOfMembers, List.forall_mem_append]
    simpa [write] using
      (hopen.append (wordless_key key)).tells_append (hmembers.append_wordless hclose)

theorem tells_writeItems (depth : Nat) (items : List Json) :
    Tells (writeItems depth items) (∀ x ∈ realsOfItems items, x.isFinite = true) := by
  match items with
  | [] => exact (wordless_of_forall _ (by simp [writeItems])).tells (by simp [realsOfItems])
  | item :: rest =>
    have hcomma : Wordless (',' :: newLine depth) :=
      (wordless_of_all [','] (by decide)).append (wordless_newLine _)
    have hitems := (tells_write depth item).append (tells_writeItems depth rest)
    rw [realsOfItems, List.forall_mem_append]
    simpa [writeItems] using hcomma.tells_append hitems

theorem tells_writeMembers (depth : Nat) (members : List (String × Json)) :
    Tells (writeMembers depth members) (∀ x ∈ realsOfMembers members, x.isFinite = true) := by
  match members with
  | [] => exact (wordless_of_forall _ (by simp [writeMembers])).tells (by simp [realsOfMembers])
  | (key, value) :: rest =>
    have hcomma : Wordless (',' :: newLine depth) :=
      (wordless_of_all [','] (by decide)).append (wordless_newLine _)
    have hmembers := (tells_write depth value).append (tells_writeMembers depth rest)
    rw [realsOfMembers, List.forall_mem_append]
    simpa [writeMembers] using (hcomma.append (wordless_key key)).tells_append hmembers

end

/-- Whether all doubles in a value are finite. -/
def Finite (j : Json) : Prop :=
  ∀ x ∈ j.reals, x.isFinite = true

/-- A report for other programs is JSON exactly when its doubles are finite. -/
theorem isJson_render_iff (j : Json) : IsJson (j.render ++ "\n").toList ↔ j.Finite := by
  have htext : (j.render ++ "\n").toList = [] ++ (j.write 0 ++ ['\n']) := by
    rw [String.toList_append, render, String.toList_ofList]
    rfl
  have hend : Blanks ['\n'] := by
    rw [Blanks]
    exact Text.forall_mem_of_all (by decide)
  rw [htext]
  constructor
  · -- What the grammar derives has no letters of the words outside of quotes, and there they would
    -- stand.
    intro h
    have hbare := h.wordless.bare
    rw [List.nil_append, (tells_write 0 j).balanced, List.forall_mem_append] at hbare
    exact (tells_write 0 j).fact_of_bare hbare.1
  · intro h
    exact .padded (by simp [Blanks]) (derives_write 0 j h) hend

end Json

end PciCatalog
