import EntryStore.Json.Strings
import EntryStore.Proofs.Outcome

/-!
# Strings read back

`SpellsChars` says which texts stand for the content of a string: each character may stand for
itself or be escaped.  A string is read as the content that it spells, and nothing else is read as
a string; what is written for a string is one of the texts that spell it.
-/

namespace EntryStore.Json

variable {c : Char} {text rest : List Char} {fuel : Nat}

/-- The texts that stand for a character in a string: the character itself where that is
possible, or an escape. -/
inductive SpellsChar : Char → List Char → Prop where
  | plain {c : Char} : c ≠ '"' → c ≠ '\\' → ¬ c.toNat < 32 → SpellsChar c [c]
  | short {letter c : Char} : shortEscape? letter = some c → SpellsChar c ['\\', letter]
  | code {c₁ c₂ c₃ c₄ : Char} {unit : Nat} : hexQuad? c₁ c₂ c₃ c₄ = some unit →
      isLeading unit = false → isTrailing unit = false →
      SpellsChar (Char.ofNat unit) ['\\', 'u', c₁, c₂, c₃, c₄]
  /-- a character beyond the first 2¹⁶ takes two units -/
  | pair {c₁ c₂ c₃ c₄ d₁ d₂ d₃ d₄ : Char} {first second : Nat} :
      hexQuad? c₁ c₂ c₃ c₄ = some first → isLeading first = true →
      hexQuad? d₁ d₂ d₃ d₄ = some second → isTrailing second = true →
      SpellsChar (Char.ofNat ((first - 0xD800) * 0x400 + (second - 0xDC00) + 0x10000))
        ['\\', 'u', c₁, c₂, c₃, c₄, '\\', 'u', d₁, d₂, d₃, d₄]

/-- The texts that stand for the content of a string. -/
inductive SpellsChars : List Char → List Char → Prop where
  | nil : SpellsChars [] []
  | cons {c : Char} {content first others : List Char} :
      SpellsChar c first → SpellsChars content others → SpellsChars (c :: content) (first ++ others)

/-! ## Characters -/

theorem hexQuad_of_some {c₁ c₂ c₃ c₄ : Char} {unit : Nat}
    (quad : hexQuad? c₁ c₂ c₃ c₄ = some unit) (rest : List Char) :
    hexQuad (c₁ :: c₂ :: c₃ :: c₄ :: rest) = .ok (unit, rest) := by
  have long : ¬ Text.byteLength (c₁ :: c₂ :: c₃ :: c₄ :: rest) < 4 := by
    have first := c₁.utf8Size_pos
    have second := c₂.utf8Size_pos
    have third := c₃.utf8Size_pos
    have fourth := c₄.utf8Size_pos
    simp only [Text.byteLength]
    omega
  simp only [hexQuad, if_neg long, quad]

theorem escape_of_short {letter : Char} (short : shortEscape? letter = some c)
    (rest : List Char) : escape (letter :: rest) = .ok (c, rest) := by
  unfold escape
  split
  case h_1 same => cases same
  case h_2 same =>
    cases same
    cases short
  case h_3 same =>
    cases same
    rw [short]

theorem not_leading_of_trailing {unit : Nat} (trailing : isTrailing unit = true) :
    isLeading unit = false := by
  simp only [isTrailing, isLeading, Bool.and_eq_true, decide_eq_true_eq, Bool.and_eq_false_iff,
    decide_eq_false_iff_not] at trailing ⊢
  omega

theorem not_trailing_of_leading {unit : Nat} (leading : isLeading unit = true) :
    isTrailing unit = false := by
  cases trailing : isTrailing unit with
  | false => rfl
  | true =>
      rw [not_leading_of_trailing trailing] at leading
      cases leading

theorem unicodeEscape_code {c₁ c₂ c₃ c₄ : Char} {unit : Nat}
    (quad : hexQuad? c₁ c₂ c₃ c₄ = some unit) (leading : isLeading unit = false)
    (trailing : isTrailing unit = false) (rest : List Char) :
    unicodeEscape (c₁ :: c₂ :: c₃ :: c₄ :: rest) = .ok (Char.ofNat unit, rest) := by
  unfold unicodeEscape
  rw [hexQuad_of_some quad]
  simp only [bind, Except.bind, leading, trailing, Bool.false_eq_true, if_false]
  rfl

theorem unicodeEscape_pair {c₁ c₂ c₃ c₄ d₁ d₂ d₃ d₄ : Char} {first second : Nat}
    (quad : hexQuad? c₁ c₂ c₃ c₄ = some first) (leading : isLeading first = true)
    (quad' : hexQuad? d₁ d₂ d₃ d₄ = some second) (trailing : isTrailing second = true)
    (rest : List Char) :
    unicodeEscape (c₁ :: c₂ :: c₃ :: c₄ :: '\\' :: 'u' :: d₁ :: d₂ :: d₃ :: d₄ :: rest) =
      .ok (Char.ofNat ((first - 0xD800) * 0x400 + (second - 0xDC00) + 0x10000), rest) := by
  unfold unicodeEscape
  rw [hexQuad_of_some quad]
  simp only [bind, Except.bind, not_trailing_of_leading leading, leading, Bool.false_eq_true,
    if_false, if_true, pairMark, hexQuad_of_some quad', trailing]
  rfl

/-- A character behind a backslash is the one that the escape stands for. -/
theorem stringTail_escape {escaped after : List Char} (read : escape escaped = .ok (c, after)) :
    stringTail (fuel + 1) ('\\' :: escaped) =
      (stringTail fuel after).map fun (tail, rest) => (c :: tail, rest) := by
  change (escape escaped >>= _) = _
  rw [read]
  rfl

/-- A character that needs no escape stands for itself. -/
theorem stringTail_plain (quote : c ≠ '"') (backslash : c ≠ '\\') (printable : ¬ c.toNat < 32) :
    stringTail (fuel + 1) (c :: rest) =
      (stringTail fuel rest).map fun (tail, rest) => (c :: tail, rest) := by
  rw [stringTail, if_neg printable]
  · rfl
  · exact quote
  · exact backslash

/-- A character is read from each text that spells it. -/
theorem stringTail_of_spellsChar (spelled : SpellsChar c text) (rest : List Char) (fuel : Nat) :
    stringTail (fuel + 1) (text ++ rest) =
      (stringTail fuel rest).map fun (tail, rest) => (c :: tail, rest) := by
  cases spelled with
  | plain quote backslash printable => exact stringTail_plain quote backslash printable
  | short short => exact stringTail_escape (escape_of_short short rest)
  | code quad leading trailing =>
      exact stringTail_escape (unicodeEscape_code quad leading trailing rest)
  | pair quad leading quad' trailing =>
      exact stringTail_escape (unicodeEscape_pair quad leading quad' trailing rest)

theorem hexDigit?_digitChar {digit : Nat} (small : digit < 16) :
    Text.hexDigit? (Nat.digitChar digit) = some digit := by
  revert digit
  decide

/-- A control character has the code that is written for it. -/
theorem hexQuad?_control (control : c.toNat < 32) :
    hexQuad? '0' '0' (Nat.digitChar (c.toNat / 16)) (Nat.digitChar (c.toNat % 16)) =
      some c.toNat := by
  have zero : Text.hexDigit? '0' = some 0 := rfl
  have high : Text.hexDigit? (Nat.digitChar (c.toNat / 16)) = some (c.toNat / 16) :=
    hexDigit?_digitChar (by omega)
  have low : Text.hexDigit? (Nat.digitChar (c.toNat % 16)) = some (c.toNat % 16) :=
    hexDigit?_digitChar (by omega)
  simp only [hexQuad?, zero, high, low, Option.bind_eq_bind, Option.bind_some]
  exact congrArg some (by omega)

/-- What is written for a character spells it. -/
theorem spellsChar_escapeChar (c : Char) : SpellsChar c (escapeChar c) := by
  unfold escapeChar
  split
  · exact .short rfl
  · exact .short rfl
  · exact .short rfl
  · exact .short rfl
  · exact .short rfl
  · next quote backslash _ _ _ =>
      split
      · next backspace =>
          have same : Char.ofNat 8 = c := backspace ▸ Char.ofNat_toNat c
          exact same ▸ .short rfl
      · split
        · next feed =>
            have same : Char.ofNat 12 = c := feed ▸ Char.ofNat_toNat c
            exact same ▸ .short rfl
        · split
          · next control =>
              have leading : isLeading c.toNat = false := by simp [isLeading]; omega
              have trailing : isTrailing c.toNat = false := by simp [isTrailing]; omega
              have spelled := SpellsChar.code (hexQuad?_control control) leading trailing
              rwa [Char.ofNat_toNat] at spelled
          · next printable => exact .plain quote backslash printable

/-! ## Strings -/

theorem length_pos_of_spellsChar (spelled : SpellsChar c text) : 0 < text.length := by
  cases spelled <;> exact Nat.zero_lt_succ _

theorem length_le_of_spellsChars {content : List Char} (spelled : SpellsChars content text) :
    content.length ≤ text.length := by
  induction spelled with
  | nil => exact Nat.le_refl _
  | cons first _ ih =>
      have positive := length_pos_of_spellsChar first
      rw [List.length_append, List.length_cons]
      omega

theorem spellsChars_flatMap_escapeChar (content : List Char) :
    SpellsChars content (content.flatMap escapeChar) := by
  induction content with
  | nil => exact .nil
  | cons c content ih => exact .cons (spellsChar_escapeChar c) ih

/-- Reading a string stops at its closing quote. -/
theorem stringTail_of_spellsChars {content : List Char} (spelled : SpellsChars content text)
    (rest : List Char) {fuel : Nat} (enough : content.length < fuel) :
    stringTail fuel (text ++ '"' :: rest) = .ok (content, rest) := by
  induction spelled generalizing fuel with
  | nil =>
      obtain ⟨fuel, rfl⟩ := Nat.exists_eq_add_one_of_ne_zero (Nat.ne_of_gt enough)
      rfl
  | cons first _ ih =>
      obtain ⟨fuel, rfl⟩ := Nat.exists_eq_add_one_of_ne_zero (Nat.ne_zero_of_lt enough)
      rw [List.append_assoc, stringTail_of_spellsChar first, ih (Nat.lt_of_succ_lt_succ enough)]
      rfl

/-- A string is read behind its opening quote. -/
theorem stringBody_of_spellsChars {content : String} (spelled : SpellsChars content.toList text)
    (rest : List Char) : stringBody (text ++ '"' :: rest) = .ok (content, rest) := by
  have enough : content.toList.length < (text ++ '"' :: rest).length + 1 := by
    have short := length_le_of_spellsChars spelled
    rw [List.length_append]
    omega
  unfold stringBody
  rw [stringTail_of_spellsChars spelled rest enough]
  exact congrArg (fun content => Except.ok (content, rest)) String.ofList_toList

/-! ## What is read is spelled -/

theorem some_of_hexQuad {unit : Nat} (read : hexQuad text = .ok (unit, rest)) :
    ∃ c₁ c₂ c₃ c₄, text = c₁ :: c₂ :: c₃ :: c₄ :: rest ∧ hexQuad? c₁ c₂ c₃ c₄ = some unit := by
  unfold hexQuad at read
  split at read
  · cases read
  · split at read
    · next c₁ c₂ c₃ c₄ others _ =>
        split at read
        · next value quad =>
            cases read
            exact ⟨c₁, c₂, c₃, c₄, rfl, quad⟩
        · cases read
    · cases read

theorem eq_cons_of_pairMark {mark : Char} (read : pairMark mark text = .ok rest) :
    text = mark :: rest := by
  unfold pairMark at read
  split at read
  · cases read
  · split at read
    · next same =>
        cases read
        rw [same]
    · cases read

theorem spellsChar_of_unicodeEscape (read : unicodeEscape text = .ok (c, rest)) :
    ∃ code, text = code ++ rest ∧ SpellsChar c ('\\' :: 'u' :: code) := by
  obtain ⟨⟨unit, behind⟩, first, later⟩ := Outcome.bind_eq_ok_iff.mp read
  obtain ⟨c₁, c₂, c₃, c₄, rfl, quad⟩ := some_of_hexQuad first
  simp only at later
  split at later
  · cases later
  · next notTrailing =>
      split at later
      · next leading =>
          obtain ⟨marked, backslash, later⟩ := Outcome.bind_eq_ok_iff.mp later
          obtain ⟨unmarked, letter, later⟩ := Outcome.bind_eq_ok_iff.mp later
          obtain ⟨⟨second, last⟩, other, ends⟩ := Outcome.bind_eq_ok_iff.mp later
          obtain ⟨d₁, d₂, d₃, d₄, rfl, quad'⟩ := some_of_hexQuad other
          obtain rfl := eq_cons_of_pairMark letter
          obtain rfl := eq_cons_of_pairMark backslash
          simp only at ends
          split at ends
          · next trailing =>
              obtain ⟨rfl, rfl⟩ := Prod.mk.inj (Except.ok.inj ends)
              exact ⟨[c₁, c₂, c₃, c₄, '\\', 'u', d₁, d₂, d₃, d₄], rfl,
                .pair quad leading quad' trailing⟩
          · cases ends
      · next notLeading =>
          cases later
          exact ⟨[c₁, c₂, c₃, c₄], rfl,
            .code quad (eq_false_of_ne_true notLeading) (eq_false_of_ne_true notTrailing)⟩

theorem spellsChar_of_escape (read : escape text = .ok (c, rest)) :
    ∃ code, text = code ++ rest ∧ SpellsChar c ('\\' :: code) := by
  unfold escape at read
  split at read
  · cases read
  · next others =>
      obtain ⟨code, rfl, spelled⟩ := spellsChar_of_unicodeEscape read
      exact ⟨'u' :: code, rfl, spelled⟩
  · next letter others _ =>
      split at read
      · next plain short =>
          cases read
          exact ⟨[letter], rfl, .short short⟩
      · cases read

/-- What is read up to a closing quote spells what has been read. -/
theorem spellsChars_of_stringTail {content : List Char}
    (read : stringTail fuel text = .ok (content, rest)) :
    ∃ body, text = body ++ '"' :: rest ∧ SpellsChars content body := by
  fun_induction stringTail fuel text generalizing content rest with
  | case1 => cases read
  | case2 => cases read
  | case3 =>
      cases read
      exact ⟨[], rfl, .nil⟩
  | case4 fuel escaped ih =>
      obtain ⟨⟨c, behind⟩, first, read⟩ := Outcome.bind_eq_ok_iff.mp read
      obtain ⟨⟨tail, last⟩, others, read⟩ := Outcome.bind_eq_ok_iff.mp read
      cases read
      obtain ⟨code, rfl, spelled⟩ := spellsChar_of_escape first
      obtain ⟨body, rfl, spelledTail⟩ := ih _ others
      refine ⟨('\\' :: code) ++ body, ?_, .cons spelled spelledTail⟩
      rw [List.append_assoc, List.cons_append]
  | case5 => cases read
  | case6 fuel c others quote backslash printable ih =>
      obtain ⟨⟨tail, last⟩, read', read⟩ := Outcome.bind_eq_ok_iff.mp read
      cases read
      obtain ⟨body, rfl, spelled⟩ := ih read'
      exact ⟨[c] ++ body, rfl, .cons (.plain quote backslash printable) spelled⟩

theorem spellsChars_of_stringBody {content : String}
    (read : stringBody text = .ok (content, rest)) :
    ∃ body, text = body ++ '"' :: rest ∧ SpellsChars content.toList body := by
  obtain ⟨⟨chars, behind⟩, tail, read⟩ := Outcome.bind_eq_ok_iff.mp read
  cases read
  rw [String.toList_ofList]
  exact spellsChars_of_stringTail tail

end EntryStore.Json
