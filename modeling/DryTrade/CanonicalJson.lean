import DryTrade.DecimalText

/-!
# Canonical JSON

Compact JSON text, in ASCII: no blanks between the tokens, every other character escaped.
A text determines the value it was written for, because no encoding continues another one.

## Main definitions

* `Json`, `Json.encode` — values and their text.
* `PrefixFree` — a code none of whose words continues another one.

## Main results

* `prefixFree_escape` — escaped characters are a prefix code.
* `Json.encode_injective` — equal texts are texts of equal values.
-/

namespace DryTrade

/-- A JSON value; the fields of an object are listed in the order they are written in. -/
inductive Json
  | null
  | bool (b : Bool)
  | int (n : ℤ)
  | str (s : String)
  | arr (items : List Json)
  | obj (fields : List (String × Json))

/-- A value that may be missing. -/
def Json.ofOption {α : Type} (f : α → Json) : Option α → Json
  | none => .null
  | some a => f a

theorem Json.ofOption_str_eq_iff {α : Type} {f : α → String} {a b : Option α} :
    ofOption (.str <| f ·) a = ofOption (.str <| f ·) b ↔ a.map f = b.map f := by
  cases a <;> cases b <;> simp [ofOption]

/-! ### Prefix codes -/

section

variable {α β : Type} {code : α → List β}

/-- No code word continues another one. -/
def PrefixFree (code : α → List β) : Prop :=
  ∀ {a a' : α} {r r' : List β}, code a ++ r = code a' ++ r' → a = a' ∧ r = r'

/-- A sequence of code words that ends at a mark is decoded in one way. -/
theorem PrefixFree.flatMap (h : PrefixFree code) {mark : β}
    (hstart : ∀ a, ∃ b w, code a = b :: w ∧ b ≠ mark) {l l' : List α} {r r' : List β}
    (heq : l.flatMap code ++ mark :: r = l'.flatMap code ++ mark :: r') : l = l' ∧ r = r' := by
  induction l generalizing l' with
  | nil =>
    cases l' with
    | nil => exact ⟨rfl, (List.cons.inj heq).2⟩
    | cons a l' =>
      obtain ⟨b, w, hw, hb⟩ := hstart a
      rw [List.flatMap_cons, hw] at heq
      exact absurd (List.cons.inj heq).1.symm hb
  | cons a l ih =>
    cases l' with
    | nil =>
      obtain ⟨b, w, hw, hb⟩ := hstart a
      rw [List.flatMap_cons, hw] at heq
      exact absurd (List.cons.inj heq).1 hb
    | cons a' l' =>
      rw [List.flatMap_cons, List.flatMap_cons, List.append_assoc, List.append_assoc] at heq
      obtain ⟨rfl, hrest⟩ := h heq
      obtain ⟨rfl, hr⟩ := ih hrest
      exact ⟨rfl, hr⟩

end

/-! ### Strings -/

/-- Four hexadecimal digits. -/
def hex4 (n : ℕ) : List Char :=
  [Nat.digitChar (n / 4096 % 16), Nat.digitChar (n / 256 % 16), Nat.digitChar (n / 16 % 16),
    Nat.digitChar (n % 16)]

/-- The letter of a short escape. -/
def shortEscape (c : Char) : Option Char :=
  match c with
  | '"' => some '"'
  | '\\' => some '\\'
  | '\n' => some 'n'
  | '\r' => some 'r'
  | '\t' => some 't'
  | '\x08' => some 'b'
  | '\x0c' => some 'f'
  | _ => none

/-- One character of a string, in ASCII; above the basic plane it is written as two surrogates. -/
def escape (c : Char) : List Char :=
  match shortEscape c with
  | some x => ['\\', x]
  | none =>
    if 0x20 ≤ c.toNat ∧ c.toNat ≤ 0x7e then [c]
    else if c.toNat < 0x10000 then '\\' :: 'u' :: hex4 c.toNat
    else '\\' :: 'u' :: (hex4 (0xd800 + (c.toNat - 0x10000) / 0x400) ++
      '\\' :: 'u' :: hex4 (0xdc00 + (c.toNat - 0x10000) % 0x400))

theorem digitChar_injective {m n : ℕ} (hm : m < 16) (hn : n < 16)
    (h : Nat.digitChar m = Nat.digitChar n) : m = n := by
  have hall : ∀ a < 16, ∀ b < 16, Nat.digitChar a = Nat.digitChar b → a = b := by decide
  exact hall m hm n hn h

theorem hex4_injective {m n : ℕ} (hm : m < 65536) (hn : n < 65536) {r r' : List Char}
    (h : hex4 m ++ r = hex4 n ++ r') : m = n ∧ r = r' := by
  simp only [hex4, List.cons_append, List.nil_append, List.cons.injEq] at h
  obtain ⟨h1, h2, h3, h4, hr⟩ := h
  have hmod : ∀ k : ℕ, k % 16 < 16 := fun k => Nat.mod_lt k (by decide)
  have e1 := digitChar_injective (hmod _) (hmod _) h1
  have e2 := digitChar_injective (hmod _) (hmod _) h2
  have e3 := digitChar_injective (hmod _) (hmod _) h3
  have e4 := digitChar_injective (hmod _) (hmod _) h4
  exact ⟨by omega, hr⟩

/-- The short escapes are told apart by their letters, none of which is `u`. -/
theorem shortEscape_injective {c c' x : Char} (h : shortEscape c = some x)
    (h' : shortEscape c' = some x) : c = c' := by
  unfold shortEscape at h h'
  split at h <;> cases h <;> split at h' <;> first | rfl | cases h'

theorem shortEscape_ne_u {c x : Char} (h : shortEscape c = some x) : x ≠ 'u' := by
  unfold shortEscape at h
  split at h <;> cases h <;> decide

/-- The forms of an escaped character. -/
theorem escape_cases (c : Char) :
    (∃ x, shortEscape c = some x ∧ escape c = ['\\', x]) ∨
    (c ≠ '\\' ∧ c ≠ '"' ∧ escape c = [c]) ∨
    (c.toNat < 0x10000 ∧ escape c = '\\' :: 'u' :: hex4 c.toNat) ∨
    (0x10000 ≤ c.toNat ∧ escape c = '\\' :: 'u' ::
      (hex4 (0xd800 + (c.toNat - 0x10000) / 0x400) ++
        '\\' :: 'u' :: hex4 (0xdc00 + (c.toNat - 0x10000) % 0x400))) := by
  cases hs : shortEscape c with
  | some x => exact .inl ⟨x, rfl, by rw [escape, hs]⟩
  | none =>
    have hback : c ≠ '\\' := by
      rintro rfl
      cases hs
    have hquote : c ≠ '"' := by
      rintro rfl
      cases hs
    by_cases hplain : 0x20 ≤ c.toNat ∧ c.toNat ≤ 0x7e
    · exact .inr (.inl ⟨hback, hquote, by rw [escape, hs]; exact if_pos hplain⟩)
    · by_cases hbasic : c.toNat < 0x10000
      · exact .inr (.inr (.inl ⟨hbasic, by
          rw [escape, hs]
          dsimp only
          rw [if_neg hplain, if_pos hbasic]⟩))
      · exact .inr (.inr (.inr ⟨not_lt.mp hbasic, by
          rw [escape, hs]
          dsimp only
          rw [if_neg hplain, if_neg hbasic]⟩))

/-- A character is no surrogate. -/
theorem toNat_not_surrogate (c : Char) : c.toNat < 0xd800 ∨ 0xdfff < c.toNat ∧ c.toNat < 0x110000 := by
  have h := c.valid
  unfold UInt32.isValidChar Nat.isValidChar at h
  change c.val.toNat < 0xd800 ∨ 0xdfff < c.val.toNat ∧ c.val.toNat < 0x110000
  omega

theorem eq_of_toNat {c c' : Char} (h : c.toNat = c'.toNat) : c = c' :=
  Char.ext (UInt32.toNat_inj.mp h)

/-- **Escaped characters are a prefix code.** -/
theorem prefixFree_escape : PrefixFree escape := by
  intro c c' r r' h
  have hc := toNat_not_surrogate c
  have hc' := toNat_not_surrogate c'
  rcases escape_cases c with ⟨x, hx, he⟩ | ⟨hne, -, he⟩ | ⟨hlt, he⟩ | ⟨hge, he⟩ <;>
    rcases escape_cases c' with ⟨x', hx', he'⟩ | ⟨hne', -, he'⟩ | ⟨hlt', he'⟩ | ⟨hge', he'⟩ <;>
    rw [he, he'] at h <;>
    simp only [List.cons_append, List.nil_append, List.cons.injEq, List.append_assoc,
      true_and] at h
  · obtain ⟨rfl, rfl⟩ := h
    exact ⟨shortEscape_injective hx hx', rfl⟩
  · exact absurd h.1.symm hne'
  · exact absurd h.1 (shortEscape_ne_u hx)
  · exact absurd h.1 (shortEscape_ne_u hx)
  · exact absurd h.1 hne
  · exact h
  · exact absurd h.1 hne
  · exact absurd h.1 hne
  · exact absurd h.1.symm (shortEscape_ne_u hx')
  · exact absurd h.1.symm hne'
  · obtain ⟨hcode, hr⟩ := hex4_injective hlt hlt' h
    exact ⟨eq_of_toNat hcode, hr⟩
  · obtain ⟨hcode, -⟩ := hex4_injective hlt (by omega) h
    omega
  · exact absurd h.1.symm (shortEscape_ne_u hx')
  · exact absurd h.1.symm hne'
  · obtain ⟨hcode, -⟩ := hex4_injective (by omega) hlt' h
    omega
  · obtain ⟨hhigh, hrest⟩ := hex4_injective (by omega) (by omega) h
    simp only [List.cons.injEq, true_and] at hrest
    obtain ⟨hlow, hr⟩ := hex4_injective (by omega) (by omega) hrest
    exact ⟨eq_of_toNat (by omega), hr⟩

/-- A string with its quotes. -/
def quoted (s : String) : List Char := '"' :: (s.toList.flatMap escape ++ ['"'])

/-- Quoted strings are a prefix code. -/
theorem prefixFree_quoted : PrefixFree quoted := by
  intro s s' r r' h
  simp only [quoted, List.cons_append, List.append_assoc, List.cons.injEq, true_and] at h
  have hstart : ∀ c, ∃ b w, escape c = b :: w ∧ b ≠ '"' := fun c => by
    rcases escape_cases c with ⟨x, -, he⟩ | ⟨-, hq, he⟩ | ⟨-, he⟩ | ⟨-, he⟩
    · exact ⟨_, _, he, by decide⟩
    · exact ⟨_, _, he, hq⟩
    · exact ⟨_, _, he, by decide⟩
    · exact ⟨_, _, he, by decide⟩
  obtain ⟨hs, hr⟩ := prefixFree_escape.flatMap hstart h
  exact ⟨String.toList_inj.mp hs, hr⟩

/-! ### Values -/

/-- The text of an integer. -/
def intText (n : ℤ) : List Char :=
  if n < 0 then '-' :: Decimal.digits n.natAbs else Decimal.digits n.natAbs

mutual

/-- `json.dumps(value, separators=(",", ":"), ensure_ascii=True)`. -/
def Json.encode : Json → List Char
  | .null => ['n', 'u', 'l', 'l']
  | .bool true => ['t', 'r', 'u', 'e']
  | .bool false => ['f', 'a', 'l', 's', 'e']
  | .int n => intText n
  | .str s => quoted s
  | .arr items => '[' :: encodeItems items
  | .obj fields => '{' :: encodeFields fields

/-- The items of an array, and the bracket that closes it. -/
def encodeItems : List Json → List Char
  | [] => [']']
  | item :: items => item.encode ++ encodeMoreItems items

/-- The items after the first. -/
def encodeMoreItems : List Json → List Char
  | [] => [']']
  | item :: items => ',' :: (item.encode ++ encodeMoreItems items)

/-- The fields of an object, and the brace that closes it. -/
def encodeFields : List (String × Json) → List Char
  | [] => ['}']
  | (key, value) :: fields => quoted key ++ ':' :: (value.encode ++ encodeMoreFields fields)

/-- The fields after the first. -/
def encodeMoreFields : List (String × Json) → List Char
  | [] => ['}']
  | (key, value) :: fields =>
    ',' :: (quoted key ++ ':' :: (value.encode ++ encodeMoreFields fields))

end

/-- What follows a value does not start with a digit. -/
def NoDigitHead (r : List Char) : Prop := ∀ c ∈ r.head?, c.isDigit = false

theorem noDigitHead_cons {c : Char} (h : c.isDigit = false) (r : List Char) : NoDigitHead (c :: r) := by
  intro c' hc'
  cases hc'
  exact h

theorem noDigitHead_items (items : List Json) (r : List Char) :
    NoDigitHead (encodeMoreItems items ++ r) := by
  cases items <;> rw [encodeMoreItems] <;> exact noDigitHead_cons (by decide) _

theorem noDigitHead_fields (fields : List (String × Json)) (r : List Char) :
    NoDigitHead (encodeMoreFields fields ++ r) := by
  cases fields <;> rw [encodeMoreFields] <;> exact noDigitHead_cons (by decide) _

/-- Digits end where no digit follows. -/
theorem digits_cancel {m n : ℕ} {r r' : List Char} (hr : NoDigitHead r) (hr' : NoDigitHead r')
    (h : Decimal.digits m ++ r = Decimal.digits n ++ r') : m = n ∧ r = r' := by
  have hspan := Decimal.span_isDigit (fun c => Decimal.isDigit_of_mem_digits (n := m)) hr
  have hspan' := Decimal.span_isDigit (fun c => Decimal.isDigit_of_mem_digits (n := n)) hr'
  rw [h, hspan', Prod.mk.injEq] at hspan
  refine ⟨?_, hspan.2.symm⟩
  rw [← Decimal.ofDigits_digits m, ← hspan.1, Decimal.ofDigits_digits]

theorem digits_start (n : ℕ) : ∃ c w, Decimal.digits n = c :: w ∧ c.isDigit = true := by
  cases h : Decimal.digits n with
  | nil => exact absurd h (Decimal.digits_ne_nil n)
  | cons c w => exact ⟨c, w, rfl, Decimal.isDigit_of_mem_digits (h ▸ List.mem_cons_self)⟩

theorem intText_cancel {m n : ℤ} {r r' : List Char} (hr : NoDigitHead r) (hr' : NoDigitHead r')
    (h : intText m ++ r = intText n ++ r') : m = n ∧ r = r' := by
  have hne : ∀ {k : ℕ} {s s' : List Char}, '-' :: s ≠ Decimal.digits k ++ s' := fun {k s s'} heq => by
    obtain ⟨c, w, hw, hc⟩ := digits_start k
    rw [hw] at heq
    rw [← (List.cons.inj heq).1] at hc
    exact absurd hc (by decide)
  unfold intText at h
  split at h <;> split at h
  · obtain ⟨hnat, hrest⟩ := digits_cancel hr hr' (List.cons.inj h).2
    exact ⟨by omega, hrest⟩
  · exact absurd h hne
  · exact absurd h.symm hne
  · obtain ⟨hnat, hrest⟩ := digits_cancel hr hr' h
    exact ⟨by omega, hrest⟩

/-- The kind of a value. -/
def Json.kind : Json → ℕ
  | .null => 0
  | .bool true => 1
  | .bool false => 2
  | .int _ => 3
  | .str _ => 4
  | .arr _ => 5
  | .obj _ => 6

/-- The kind of value that a character starts; those that close and separate start none. -/
def leadKind (c : Char) : ℕ :=
  if c = 'n' then 0 else if c = 't' then 1 else if c = 'f' then 2
  else if c = '-' ∨ c.isDigit then 3 else if c = '"' then 4 else if c = '[' then 5
  else if c = '{' then 6 else 7

theorem leadKind_of_isDigit {c : Char} (h : c.isDigit = true) : leadKind c = 3 := by
  have hne : ∀ c' : Char, c'.isDigit = false → c ≠ c' := fun c' hc' heq => by
    rw [heq, hc'] at h
    cases h
  unfold leadKind
  rw [if_neg (hne _ (by decide)), if_neg (hne _ (by decide)), if_neg (hne _ (by decide)),
    if_pos (.inr h)]

/-- The first character of a text tells the kind of its value. -/
theorem encode_start (j : Json) : ∃ c w, j.encode = c :: w ∧ leadKind c = j.kind := by
  cases j with
  | null => exact ⟨_, _, by rw [Json.encode], by decide⟩
  | bool b => cases b <;> exact ⟨_, _, by rw [Json.encode], by decide⟩
  | int n =>
    obtain ⟨c, w, hw, hc⟩ := digits_start n.natAbs
    rw [Json.encode, intText]
    split
    · exact ⟨_, _, rfl, rfl⟩
    · exact ⟨c, w, hw, leadKind_of_isDigit hc⟩
  | str s => exact ⟨_, _, by rw [Json.encode, quoted], rfl⟩
  | arr items => exact ⟨_, _, by rw [Json.encode], rfl⟩
  | obj fields => exact ⟨_, _, by rw [Json.encode], rfl⟩

/-- Texts that agree are of one kind. -/
theorem kind_eq {j j' : Json} {r r' : List Char} (h : j.encode ++ r = j'.encode ++ r') :
    j.kind = j'.kind := by
  obtain ⟨c, w, hw, hc⟩ := encode_start j
  obtain ⟨c', w', hw', hc'⟩ := encode_start j'
  rw [hw, hw'] at h
  rw [← hc, ← hc', (List.cons.inj h).1]

/-- A value does not start with what closes or separates. -/
theorem encode_ne_cons {j : Json} {c : Char} {r r' : List Char} (hc : leadKind c = 7) :
    j.encode ++ r ≠ c :: r' := by
  obtain ⟨c', w, hw, hc'⟩ := encode_start j
  intro h
  rw [hw] at h
  rw [(List.cons.inj h).1, hc] at hc'
  cases j with
  | bool b => cases b <;> cases hc'
  | _ => cases hc'

mutual

/-- **No text continues another one.** -/
theorem encode_cancel : ∀ (j j' : Json) {r r' : List Char}, NoDigitHead r → NoDigitHead r' →
    j.encode ++ r = j'.encode ++ r' → j = j' ∧ r = r'
  | .null, j', r, r', _, _, h => by
    have hkind := kind_eq h
    cases j' with
    | null => exact ⟨rfl, List.append_cancel_left h⟩
    | bool b => cases b <;> cases hkind
    | _ => cases hkind
  | .bool b, j', r, r', _, _, h => by
    have hkind := kind_eq h
    cases j' with
    | bool b' => cases b <;> cases b' <;> first
      | exact ⟨rfl, List.append_cancel_left h⟩
      | cases hkind
    | _ => cases b <;> cases hkind
  | .int n, j', r, r', hr, hr', h => by
    have hkind := kind_eq h
    cases j' with
    | int n' =>
      rw [Json.encode, Json.encode] at h
      obtain ⟨rfl, hrest⟩ := intText_cancel hr hr' h
      exact ⟨rfl, hrest⟩
    | bool b => cases b <;> cases hkind
    | _ => cases hkind
  | .str s, j', r, r', _, _, h => by
    have hkind := kind_eq h
    cases j' with
    | str s' =>
      rw [Json.encode, Json.encode] at h
      obtain ⟨rfl, hrest⟩ := prefixFree_quoted h
      exact ⟨rfl, hrest⟩
    | bool b => cases b <;> cases hkind
    | _ => cases hkind
  | .arr items, j', r, r', _, _, h => by
    have hkind := kind_eq h
    cases j' with
    | arr items' =>
      rw [Json.encode, Json.encode] at h
      obtain ⟨rfl, hrest⟩ := encodeItems_cancel items items' (List.cons.inj h).2
      exact ⟨rfl, hrest⟩
    | bool b => cases b <;> cases hkind
    | _ => cases hkind
  | .obj fields, j', r, r', _, _, h => by
    have hkind := kind_eq h
    cases j' with
    | obj fields' =>
      rw [Json.encode, Json.encode] at h
      obtain ⟨rfl, hrest⟩ := encodeFields_cancel fields fields' (List.cons.inj h).2
      exact ⟨rfl, hrest⟩
    | bool b => cases b <;> cases hkind
    | _ => cases hkind

theorem encodeItems_cancel : ∀ (l l' : List Json) {r r' : List Char},
    encodeItems l ++ r = encodeItems l' ++ r' → l = l' ∧ r = r'
  | [], [], r, r', h => ⟨rfl, List.append_cancel_left h⟩
  | [], j' :: l', r, r', h => by
    rw [encodeItems, encodeItems, List.append_assoc] at h
    exact absurd h.symm (encode_ne_cons (by decide))
  | j :: l, [], r, r', h => by
    rw [encodeItems, encodeItems, List.append_assoc] at h
    exact absurd h (encode_ne_cons (by decide))
  | j :: l, j' :: l', r, r', h => by
    rw [encodeItems, encodeItems, List.append_assoc, List.append_assoc] at h
    obtain ⟨rfl, hmore⟩ := encode_cancel j j' (noDigitHead_items l r) (noDigitHead_items l' r') h
    obtain ⟨rfl, hrest⟩ := encodeMoreItems_cancel l l' hmore
    exact ⟨rfl, hrest⟩

theorem encodeMoreItems_cancel : ∀ (l l' : List Json) {r r' : List Char},
    encodeMoreItems l ++ r = encodeMoreItems l' ++ r' → l = l' ∧ r = r'
  | [], [], r, r', h => ⟨rfl, List.append_cancel_left h⟩
  | [], j' :: l', r, r', h => by
    rw [encodeMoreItems, encodeMoreItems] at h
    exact absurd (List.cons.inj h).1 (by decide)
  | j :: l, [], r, r', h => by
    rw [encodeMoreItems, encodeMoreItems] at h
    exact absurd (List.cons.inj h).1 (by decide)
  | j :: l, j' :: l', r, r', h => by
    rw [encodeMoreItems, encodeMoreItems, List.cons_append, List.cons_append,
      List.append_assoc, List.append_assoc] at h
    obtain ⟨rfl, hmore⟩ := encode_cancel j j' (noDigitHead_items l r) (noDigitHead_items l' r')
      (List.cons.inj h).2
    obtain ⟨rfl, hrest⟩ := encodeMoreItems_cancel l l' hmore
    exact ⟨rfl, hrest⟩

theorem encodeFields_cancel : ∀ (l l' : List (String × Json)) {r r' : List Char},
    encodeFields l ++ r = encodeFields l' ++ r' → l = l' ∧ r = r'
  | [], [], r, r', h => ⟨rfl, List.append_cancel_left h⟩
  | [], (k', j') :: l', r, r', h => by
    rw [encodeFields, encodeFields] at h
    exact absurd (List.cons.inj h).1 (by decide)
  | (k, j) :: l, [], r, r', h => by
    rw [encodeFields, encodeFields] at h
    exact absurd (List.cons.inj h).1 (by decide)
  | (k, j) :: l, (k', j') :: l', r, r', h => by
    rw [encodeFields, encodeFields, List.append_assoc, List.append_assoc] at h
    obtain ⟨rfl, hvalue⟩ := prefixFree_quoted h
    rw [List.cons_append, List.cons_append, List.append_assoc, List.append_assoc] at hvalue
    obtain ⟨rfl, hmore⟩ := encode_cancel j j' (noDigitHead_fields l r) (noDigitHead_fields l' r')
      (List.cons.inj hvalue).2
    obtain ⟨rfl, hrest⟩ := encodeMoreFields_cancel l l' hmore
    exact ⟨rfl, hrest⟩

theorem encodeMoreFields_cancel : ∀ (l l' : List (String × Json)) {r r' : List Char},
    encodeMoreFields l ++ r = encodeMoreFields l' ++ r' → l = l' ∧ r = r'
  | [], [], r, r', h => ⟨rfl, List.append_cancel_left h⟩
  | [], (k', j') :: l', r, r', h => by
    rw [encodeMoreFields, encodeMoreFields] at h
    exact absurd (List.cons.inj h).1 (by decide)
  | (k, j) :: l, [], r, r', h => by
    rw [encodeMoreFields, encodeMoreFields] at h
    exact absurd (List.cons.inj h).1 (by decide)
  | (k, j) :: l, (k', j') :: l', r, r', h => by
    rw [encodeMoreFields, encodeMoreFields, List.cons_append, List.cons_append,
      List.append_assoc, List.append_assoc] at h
    obtain ⟨rfl, hvalue⟩ := prefixFree_quoted (List.cons.inj h).2
    rw [List.cons_append, List.cons_append, List.append_assoc, List.append_assoc] at hvalue
    obtain ⟨rfl, hmore⟩ := encode_cancel j j' (noDigitHead_fields l r) (noDigitHead_fields l' r')
      (List.cons.inj hvalue).2
    obtain ⟨rfl, hrest⟩ := encodeMoreFields_cancel l l' hmore
    exact ⟨rfl, hrest⟩

end

/-- **Equal texts are texts of equal values.** -/
theorem Json.encode_injective : Function.Injective Json.encode := by
  intro j j' h
  have hnil : NoDigitHead [] := fun c hc => by cases hc
  exact (encode_cancel j j' hnil hnil (by rw [h])).1

end DryTrade
