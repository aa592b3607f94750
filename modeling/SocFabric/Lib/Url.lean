import Mathlib.Data.List.TakeWhile

/-!
# Queries of URLs

UTF-8 as a list of bytes, the decoder that puts a replacement character for what is no character (as
the WHATWG Encoding Standard has it, one byte at a time), percent-encoding, and the parameters of a
query as a browser or a server reads them: split at `&` and the first `=`, `+` for a space,
percent-decoded, UTF-8. Decoding never makes a text longer (`length_decode_le`), and
`component_eq_self_iff` says which texts it leaves alone.
-/

namespace Url

/-! ### UTF-8 -/

def encodeChar (c : Char) : List Nat :=
  let n := c.toNat
  if n < 0x80 then [n]
  else if n < 0x800 then [0xC0 + n / 64, 0x80 + n % 64]
  else if n < 0x10000 then [0xE0 + n / 4096, 0x80 + n / 64 % 64, 0x80 + n % 64]
  else [0xF0 + n / 262144, 0x80 + n / 4096 % 64, 0x80 + n / 64 % 64, 0x80 + n % 64]

/-- A character begun: the bytes still needed, the range of the next one, and the bits so far. -/
structure Pending where
  needed : Nat
  lower : Nat
  upper : Nat
  point : Nat

def replacement : Char := '\uFFFD'

/-- A byte between characters: what it begins, and what it completes. -/
def start (b : Nat) : Option Pending × List Char :=
  if b < 0x80 then (none, [Char.ofNat b])
  else if 0xC2 ≤ b ∧ b ≤ 0xDF then (some ⟨1, 0x80, 0xBF, b - 0xC0⟩, [])
  else if 0xE0 ≤ b ∧ b ≤ 0xEF then
    (some ⟨2, if b = 0xE0 then 0xA0 else 0x80, if b = 0xED then 0x9F else 0xBF, b - 0xE0⟩, [])
  else if 0xF0 ≤ b ∧ b ≤ 0xF4 then
    (some ⟨3, if b = 0xF0 then 0x90 else 0x80, if b = 0xF4 then 0x8F else 0xBF, b - 0xF0⟩, [])
  else (none, [replacement])

/-- A byte within a character; one out of range is looked at again as a first byte. -/
def next (p : Pending) (b : Nat) : Option Pending × List Char :=
  if p.lower ≤ b ∧ b ≤ p.upper then
    let point := p.point * 64 + (b - 0x80)
    if p.needed = 1 then (none, [Char.ofNat point]) else (some ⟨p.needed - 1, 0x80, 0xBF, point⟩, [])
  else ((start b).1, replacement :: (start b).2)

def decodeFrom : Option Pending → List Nat → List Char
  | none, [] => []
  | some _, [] => [replacement]
  | none, b :: bs => (start b).2 ++ decodeFrom (start b).1 bs
  | some p, b :: bs => (next p b).2 ++ decodeFrom (next p b).1 bs

def utf8Decode (bs : List Nat) : List Char := decodeFrom none bs

theorem toNat_valid (c : Char) : c.toNat < 0xD800 ∨ 0xDFFF < c.toNat ∧ c.toNat < 0x110000 := c.valid

theorem decodeFrom_last {lower upper point b : Nat} (h : lower ≤ b ∧ b ≤ upper) (bs : List Nat) :
    decodeFrom (some ⟨1, lower, upper, point⟩) (b :: bs) = Char.ofNat (point * 64 + (b - 0x80)) :: decodeFrom none bs := by
  simp [decodeFrom, next, h]

theorem decodeFrom_more {needed lower upper point b : Nat} (h : lower ≤ b ∧ b ≤ upper) (bs : List Nat) :
    decodeFrom (some ⟨needed + 2, lower, upper, point⟩) (b :: bs) =
      decodeFrom (some ⟨needed + 1, 0x80, 0xBF, point * 64 + (b - 0x80)⟩) bs := by
  simp [decodeFrom, next, h]

theorem decodeFrom_start {b : Nat} {p : Pending} (h : start b = (some p, [])) (bs : List Nat) :
    decodeFrom none (b :: bs) = decodeFrom (some p) bs := by
  simp [decodeFrom, h]

theorem decode_one {n : Nat} (h : n < 0x80) (bs : List Nat) :
    decodeFrom none (n :: bs) = Char.ofNat n :: decodeFrom none bs := by
  simp [decodeFrom, start, h]

theorem decode_two {n : Nat} (h : 0x80 ≤ n) (h' : n < 0x800) (bs : List Nat) :
    decodeFrom none ((0xC0 + n / 64) :: (0x80 + n % 64) :: bs) = Char.ofNat n :: decodeFrom none bs := by
  have hstart : start (0xC0 + n / 64) = (some ⟨1, 0x80, 0xBF, n / 64⟩, []) := by
    rw [start, if_neg (by omega), if_pos (by omega), Nat.add_sub_cancel_left]
  have hpoint : n / 64 * 64 + (0x80 + n % 64 - 0x80) = n := by omega
  rw [decodeFrom_start hstart, decodeFrom_last (by omega), hpoint]

theorem decode_three {n : Nat} (h : 0x800 ≤ n) (h' : n < 0x10000) (hvalid : n < 0xD800 ∨ 0xDFFF < n)
    (bs : List Nat) :
    decodeFrom none ((0xE0 + n / 4096) :: (0x80 + n / 64 % 64) :: (0x80 + n % 64) :: bs) =
      Char.ofNat n :: decodeFrom none bs := by
  have hstart : start (0xE0 + n / 4096) = (some ⟨2, if 0xE0 + n / 4096 = 0xE0 then 0xA0 else 0x80,
      if 0xE0 + n / 4096 = 0xED then 0x9F else 0xBF, n / 4096⟩, []) := by
    rw [start, if_neg (by omega), if_neg (by omega), if_pos (by omega), Nat.add_sub_cancel_left]
  -- the bounds of the second byte rule out what would fit into two bytes, and the surrogates
  have hsecond : (if 0xE0 + n / 4096 = 0xE0 then 0xA0 else 0x80) ≤ 0x80 + n / 64 % 64 ∧
      0x80 + n / 64 % 64 ≤ if 0xE0 + n / 4096 = 0xED then 0x9F else 0xBF := by
    split_ifs <;> omega
  have hpoint : (n / 4096 * 64 + (0x80 + n / 64 % 64 - 0x80)) * 64 + (0x80 + n % 64 - 0x80) = n := by omega
  rw [decodeFrom_start hstart, decodeFrom_more hsecond, decodeFrom_last (by omega), hpoint]

theorem decode_four {n : Nat} (h : 0x10000 ≤ n) (h' : n < 0x110000) (bs : List Nat) :
    decodeFrom none ((0xF0 + n / 262144) :: (0x80 + n / 4096 % 64) :: (0x80 + n / 64 % 64) :: (0x80 + n % 64) :: bs) =
      Char.ofNat n :: decodeFrom none bs := by
  have hstart : start (0xF0 + n / 262144) = (some ⟨3, if 0xF0 + n / 262144 = 0xF0 then 0x90 else 0x80,
      if 0xF0 + n / 262144 = 0xF4 then 0x8F else 0xBF, n / 262144⟩, []) := by
    rw [start, if_neg (by omega), if_neg (by omega), if_neg (by omega), if_pos (by omega),
      Nat.add_sub_cancel_left]
  have hsecond : (if 0xF0 + n / 262144 = 0xF0 then 0x90 else 0x80) ≤ 0x80 + n / 4096 % 64 ∧
      0x80 + n / 4096 % 64 ≤ if 0xF0 + n / 262144 = 0xF4 then 0x8F else 0xBF := by
    split_ifs <;> omega
  have hpoint : ((n / 262144 * 64 + (0x80 + n / 4096 % 64 - 0x80)) * 64 + (0x80 + n / 64 % 64 - 0x80)) * 64 +
      (0x80 + n % 64 - 0x80) = n := by omega
  rw [decodeFrom_start hstart, decodeFrom_more hsecond, decodeFrom_more (by omega), decodeFrom_last (by omega), hpoint]

/-- A character that was encoded is decoded, whatever follows. -/
theorem utf8Decode_encodeChar (c : Char) (bs : List Nat) :
    utf8Decode (encodeChar c ++ bs) = c :: utf8Decode bs := by
  have hvalid := toNat_valid c
  have hc : Char.ofNat c.toNat = c := Char.ofNat_toNat c
  unfold utf8Decode encodeChar
  simp only
  split_ifs with h₁ h₂ h₃
  · exact (decode_one h₁ bs).trans (by rw [hc])
  · exact (decode_two (by omega) h₂ bs).trans (by rw [hc])
  · exact (decode_three (by omega) h₃ (by omega) bs).trans (by rw [hc])
  · exact (decode_four (by omega) (by omega) bs).trans (by rw [hc])

/-- A range of next bytes is one of continuation bytes, which begin nothing. -/
structure Pending.Wf (p : Pending) : Prop where
  lower : 0x80 ≤ p.lower
  upper : p.upper ≤ 0xBF

theorem start_wf {b : Nat} {p : Pending} (h : (start b).1 = some p) : p.Wf := by
  unfold start at h
  split_ifs at h <;> cases h <;> exact ⟨by dsimp only; omega, by dsimp only; omega⟩

/-- A character begun adds at most one to what the rest alone decodes to. -/
theorem length_decodeFrom_le {p : Pending} (hp : p.Wf) (bs : List Nat) :
    (decodeFrom (some p) bs).length ≤ 1 + (decodeFrom none bs).length := by
  induction bs generalizing p with
  | nil => simp [decodeFrom]
  | cons b bs ih =>
    by_cases hb : p.lower ≤ b ∧ b ≤ p.upper
    · have hlower := hp.lower
      have hupper := hp.upper
      have hstart : start b = (none, [replacement]) := by
        rw [start, if_neg (by omega), if_neg (by omega), if_neg (by omega), if_neg (by omega)]
      simp only [decodeFrom, next, if_pos hb, hstart, List.length_append, List.length_cons, List.length_nil]
      by_cases hneeded : p.needed = 1
      · simp [hneeded]
      · have hrest := ih (p := ⟨p.needed - 1, 0x80, 0xBF, p.point * 64 + (b - 0x80)⟩) ⟨by simp, by simp⟩
        simp only [hneeded, if_false, List.length_nil]
        omega
    · simp only [decodeFrom, next, if_neg hb, List.length_append, List.length_cons]
      omega

/-- A byte in front adds at most one character. -/
theorem length_utf8Decode_cons_le (b : Nat) (bs : List Nat) :
    (utf8Decode (b :: bs)).length ≤ 1 + (utf8Decode bs).length := by
  have hout : (start b).1 = none ∧ (start b).2.length = 1 ∨ (∃ p, (start b).1 = some p) ∧ (start b).2 = [] := by
    unfold start
    split_ifs <;> simp
  unfold utf8Decode
  rw [decodeFrom, List.length_append]
  rcases hout with ⟨hnone, hlen⟩ | ⟨⟨p, hp⟩, hnil⟩
  · rw [hnone, hlen]
  · rw [hp, hnil, List.length_nil, Nat.zero_add]
    exact length_decodeFrom_le (start_wf hp) bs

/-! ### Percent-encoding -/

def hexValue (c : Char) : Option Nat :=
  if '0' ≤ c ∧ c ≤ '9' then some (c.toNat - 48)
  else if 'A' ≤ c ∧ c ≤ 'F' then some (c.toNat - 55)
  else if 'a' ≤ c ∧ c ≤ 'f' then some (c.toNat - 87)
  else none

def hexDigit (n : Nat) : Char := if n < 10 then Char.ofNat (48 + n) else Char.ofNat (55 + n)

def escapeByte (b : Nat) : List Char := ['%', hexDigit (b / 16), hexDigit (b % 16)]

def quoteChar (safe : Char → Bool) (c : Char) : List Char :=
  if safe c then [c] else (encodeChar c).flatMap escapeByte

/-- The text with the bytes of every character that is not safe escaped. -/
def quote (safe : Char → Bool) (s : List Char) : List Char := s.flatMap (quoteChar safe)

/-- Python `urllib.parse.quote` with the extra safe characters `extra`. -/
def pySafe (extra : String) (c : Char) : Bool :=
  'a' ≤ c && c ≤ 'z' || 'A' ≤ c && c ≤ 'Z' || '0' ≤ c && c ≤ '9' || "_.-~".toList.contains c || extra.toList.contains c

/-- The bytes of a text with its escapes resolved; a `%` that begins none stands for itself. -/
def percentDecode : List Char → List Nat
  | '%' :: a :: b :: s =>
    match hexValue a, hexValue b with
    | some x, some y => (16 * x + y) :: percentDecode s
    | _, _ => encodeChar '%' ++ percentDecode (a :: b :: s)
  | c :: s => encodeChar c ++ percentDecode s
  | [] => []

def hasEscape : List Char → Bool
  | '%' :: a :: b :: s => (hexValue a).isSome && (hexValue b).isSome || hasEscape (a :: b :: s)
  | _ :: s => hasEscape s
  | [] => false

/-- `+` stands for a space in a query. -/
def plusSpace (c : Char) : Char := if c = '+' then ' ' else c

/-- The text that a name or a value of a query stands for. -/
def component (s : List Char) : List Char := utf8Decode (percentDecode (s.map plusSpace))

theorem hexValue_hexDigit {n : Nat} (h : n < 16) : hexValue (hexDigit n) = some n := by
  revert n
  decide

/-- The text begins with two hexadecimal digits. -/
def startsHex : List Char → Bool
  | a :: b :: _ => (hexValue a).isSome && (hexValue b).isSome
  | _ => false

theorem percentDecode_cons_of_ne {c : Char} (h : c ≠ '%') (s : List Char) :
    percentDecode (c :: s) = encodeChar c ++ percentDecode s := by
  rw [percentDecode]
  rintro a b s' rfl
  exact absurd rfl h

theorem percentDecode_percent {s : List Char} (h : startsHex s = false) :
    percentDecode ('%' :: s) = encodeChar '%' ++ percentDecode s := by
  match s, h with
  | [], _ => rfl
  | [a], _ => rfl
  | a :: b :: s, h =>
    rw [percentDecode]
    split
    · rename_i x y ha hb
      simp [startsHex, ha, hb] at h
    · rfl

theorem percentDecode_escape {a b : Char} {x y : Nat} (ha : hexValue a = some x) (hb : hexValue b = some y)
    (s : List Char) : percentDecode ('%' :: a :: b :: s) = (16 * x + y) :: percentDecode s := by
  simp [percentDecode, ha, hb]

/-- Induction over a text by escapes, `%`s that begin none, and other characters. -/
theorem escape_induction {P : List Char → Prop} (nil : P [])
    (escape : ∀ a b x y s, hexValue a = some x → hexValue b = some y → P s → P ('%' :: a :: b :: s))
    (percent : ∀ s, startsHex s = false → P s → P ('%' :: s)) (other : ∀ c s, c ≠ '%' → P s → P (c :: s))
    (s : List Char) : P s := by
  induction hn : s.length using Nat.strong_induction_on generalizing s with
  | _ n ih =>
    subst hn
    match s with
    | [] => exact nil
    | c :: s =>
      have hs : P s := ih s.length (by simp) s rfl
      by_cases hc : c = '%'
      · subst hc
        by_cases hhex : startsHex s = true
        · match s, hhex with
          | a :: b :: s, hhex =>
            simp only [startsHex, Bool.and_eq_true, Option.isSome_iff_exists] at hhex
            obtain ⟨⟨x, hx⟩, ⟨y, hy⟩⟩ := hhex
            exact escape a b x y s hx hy (ih s.length (by simp; omega) s rfl)
        · exact percent s (by simpa using hhex) hs
      · exact other c s hc hs

theorem hasEscape_escape {a b : Char} {x y : Nat} (ha : hexValue a = some x) (hb : hexValue b = some y)
    (s : List Char) : hasEscape ('%' :: a :: b :: s) = true := by
  simp [hasEscape, ha, hb]

theorem hasEscape_percent {s : List Char} (h : startsHex s = false) : hasEscape ('%' :: s) = hasEscape s := by
  match s, h with
  | [], _ => rfl
  | [a], _ => rfl
  | a :: b :: s, h =>
    rw [startsHex] at h
    rw [hasEscape, h, Bool.false_or]

theorem hasEscape_cons_of_ne {c : Char} (h : c ≠ '%') (s : List Char) : hasEscape (c :: s) = hasEscape s := by
  rw [hasEscape]
  rintro a b s' rfl
  exact absurd rfl h

theorem hasEscape_append_of_not_mem {l : List Char} (h : '%' ∉ l) (s : List Char) :
    hasEscape (l ++ s) = hasEscape s := by
  induction l with
  | nil => rfl
  | cons c l ih =>
    rw [List.mem_cons, not_or] at h
    rw [List.cons_append, hasEscape_cons_of_ne (Ne.symm h.1), ih h.2]

/-- Decoding makes no text longer, and shorter if an escape is in it. -/
theorem length_decode_le (s : List Char) :
    (utf8Decode (percentDecode s)).length ≤ s.length ∧
      (hasEscape s = true → (utf8Decode (percentDecode s)).length < s.length) := by
  induction s using escape_induction with
  | nil => simp [percentDecode, utf8Decode, decodeFrom, hasEscape]
  | escape a b x y s ha hb ih =>
    have hone := length_utf8Decode_cons_le (16 * x + y) (percentDecode s)
    rw [percentDecode_escape ha hb]
    simp only [List.length_cons]
    omega
  | percent s hs ih =>
    rw [percentDecode_percent hs, utf8Decode_encodeChar, hasEscape_percent hs]
    exact ⟨Nat.succ_le_succ ih.1, fun h => Nat.succ_lt_succ (ih.2 h)⟩
  | other c s hc ih =>
    rw [percentDecode_cons_of_ne hc, utf8Decode_encodeChar, hasEscape_cons_of_ne hc]
    exact ⟨Nat.succ_le_succ ih.1, fun h => Nat.succ_lt_succ (ih.2 h)⟩

theorem decode_of_no_escape {s : List Char} (h : hasEscape s = false) : utf8Decode (percentDecode s) = s := by
  induction s using escape_induction with
  | nil => rfl
  | escape a b x y s ha hb _ =>
    rw [hasEscape_escape ha hb] at h
    cases h
  | percent s hs ih =>
    rw [hasEscape_percent hs] at h
    rw [percentDecode_percent hs, utf8Decode_encodeChar, ih h]
  | other c s hc ih =>
    rw [hasEscape_cons_of_ne hc] at h
    rw [percentDecode_cons_of_ne hc, utf8Decode_encodeChar, ih h]

theorem plusSpace_of_hex {c : Char} {x : Nat} (h : hexValue c = some x) : plusSpace c = c := by
  rw [plusSpace, if_neg]
  rintro rfl
  cases h

theorem hexValue_plusSpace (c : Char) : hexValue (plusSpace c) = hexValue c := by
  unfold plusSpace
  split
  · rename_i hc
    rw [hc]
    rfl
  · rfl

theorem plusSpace_ne_percent {c : Char} (h : c ≠ '%') : plusSpace c ≠ '%' := by
  unfold plusSpace
  split
  · decide
  · exact h

theorem startsHex_map_plusSpace (s : List Char) : startsHex (s.map plusSpace) = startsHex s := by
  match s with
  | [] => rfl
  | [a] => rfl
  | a :: b :: s => simp only [List.map_cons, startsHex, hexValue_plusSpace]

theorem hasEscape_map_plusSpace (s : List Char) : hasEscape (s.map plusSpace) = hasEscape s := by
  induction s using escape_induction with
  | nil => rfl
  | escape a b x y s ha hb _ =>
    have ha' : hexValue (plusSpace a) = some x := (hexValue_plusSpace a).trans ha
    have hb' : hexValue (plusSpace b) = some y := (hexValue_plusSpace b).trans hb
    rw [hasEscape_escape ha hb]
    exact hasEscape_escape ha' hb' _
  | percent s hs ih =>
    have hs' : startsHex (s.map plusSpace) = false := (startsHex_map_plusSpace s).trans hs
    rw [hasEscape_percent hs, ← ih]
    exact hasEscape_percent hs'
  | other c s hc ih => rw [List.map_cons, hasEscape_cons_of_ne (plusSpace_ne_percent hc), hasEscape_cons_of_ne hc, ih]

theorem length_component_le (s : List Char) : (component s).length ≤ s.length := by
  have h := (length_decode_le (s.map plusSpace)).1
  rwa [List.length_map] at h

/-- The texts that stand for themselves. -/
theorem component_eq_self_iff (s : List Char) : component s = s ↔ hasEscape s = false ∧ '+' ∉ s := by
  constructor
  · intro h
    have hescape : hasEscape s = false := by
      by_contra hne
      have hlt := (length_decode_le (s.map plusSpace)).2 (by simpa [hasEscape_map_plusSpace] using hne)
      rw [List.length_map, show utf8Decode (percentDecode (s.map plusSpace)) = s from h] at hlt
      exact absurd hlt (Nat.lt_irrefl _)
    refine ⟨hescape, fun hplus => ?_⟩
    have hmap : s.map plusSpace = s := by
      rw [component, decode_of_no_escape ((hasEscape_map_plusSpace s).trans hescape)] at h
      exact h
    have hfix : plusSpace '+' = '+' := List.map_inj_left.mp (hmap.trans (List.map_id s).symm) '+' hplus
    exact absurd hfix (by decide)
  · rintro ⟨hescape, hplus⟩
    have hmap : s.map plusSpace = s := by
      refine (List.map_congr_left fun c hc => ?_).trans (List.map_id s)
      rw [plusSpace, if_neg, id]
      rintro rfl
      exact hplus hc
    rw [component, hmap, decode_of_no_escape hescape]

/-! ### Quoted text -/

theorem lt_of_mem_encodeChar {c : Char} {b : Nat} (h : b ∈ encodeChar c) : b < 256 := by
  have hvalid := toNat_valid c
  unfold encodeChar at h
  simp only at h
  split_ifs at h <;> simp only [List.mem_cons, List.not_mem_nil, or_false] at h <;> omega

/-- What a decoder of escapes needs of the characters that are left alone. -/
structure Readable (safe : Char → Bool) : Prop where
  percent : safe '%' = true
  plus : safe '+' = true
  hex : ∀ c x, hexValue c = some x → safe c = true

section
variable {safe : Char → Bool}

theorem quote_append (s t : List Char) : quote safe (s ++ t) = quote safe s ++ quote safe t :=
  List.flatMap_append

theorem quote_eq_self {s : List Char} (h : ∀ c ∈ s, safe c = true) : quote safe s = s := by
  induction s with
  | nil => rfl
  | cons c s ih =>
    have hs := ih fun c' hc' => h c' (List.mem_cons_of_mem _ hc')
    rw [quote, List.flatMap_cons, quoteChar, if_pos (h c List.mem_cons_self)]
    exact congrArg (c :: ·) hs

theorem mem_escapeBytes {c x : Char} (h : x ∈ (encodeChar c).flatMap escapeByte) :
    x = '%' ∨ ∃ n, hexValue x = some n := by
  obtain ⟨b, hb, hx⟩ := List.mem_flatMap.mp h
  have hlt := lt_of_mem_encodeChar hb
  simp only [escapeByte, List.mem_cons, List.not_mem_nil, or_false] at hx
  rcases hx with rfl | rfl | rfl
  · exact .inl rfl
  · exact .inr ⟨_, hexValue_hexDigit (by omega)⟩
  · exact .inr ⟨_, hexValue_hexDigit (by omega)⟩

theorem mem_quoteChar {c x : Char} (h : x ∈ quoteChar safe c) : x = c ∨ x = '%' ∨ ∃ n, hexValue x = some n := by
  unfold quoteChar at h
  split at h
  · exact .inl (List.mem_singleton.mp h)
  · exact .inr (mem_escapeBytes h)

theorem quoteChar_ne_nil (c : Char) : quoteChar safe c ≠ [] := by
  unfold quoteChar encodeChar
  simp only
  split_ifs <;> simp [escapeByte]

theorem length_le_length_quote (s : List Char) : s.length ≤ (quote safe s).length := by
  induction s with
  | nil => simp
  | cons c s ih =>
    have hc : 0 < (quoteChar safe c).length := List.length_pos_iff.mpr (quoteChar_ne_nil c)
    have hcons : quote safe (c :: s) = quoteChar safe c ++ quote safe s := rfl
    rw [hcons, List.length_append, List.length_cons]
    omega

/-- Quoting leaves alone only what is safe throughout. -/
theorem quote_eq_self_iff {s : List Char} : quote safe s = s ↔ ∀ c ∈ s, safe c = true := by
  refine ⟨fun h => ?_, quote_eq_self⟩
  induction s with
  | nil => simp
  | cons c s ih =>
    have hcons : quote safe (c :: s) = quoteChar safe c ++ quote safe s := rfl
    rw [hcons] at h
    by_cases hc : safe c = true
    · rw [quoteChar, if_pos hc] at h
      have htail := ih (List.cons.inj h).2
      exact List.forall_mem_cons.mpr ⟨hc, htail⟩
    · -- an escape is longer than what it stands for
      have hlong : 2 ≤ (quoteChar safe c).length := by
        rw [quoteChar, if_neg hc]
        unfold encodeChar
        simp only
        split_ifs <;> simp [escapeByte]
      have hlen := congrArg List.length h
      have hle : s.length ≤ (quote safe s).length := length_le_length_quote s
      rw [List.length_append, List.length_cons] at hlen
      omega

/-- A reserved character of a URL, which quoting neither takes away nor adds. -/
structure Reserved (safe : Char → Bool) (x : Char) : Prop where
  safe : safe x = true
  notPercent : x ≠ '%'
  notHex : hexValue x = none

theorem mem_quote_iff {x : Char} (hx : Reserved safe x) {s : List Char} : x ∈ quote safe s ↔ x ∈ s := by
  constructor
  · intro h
    obtain ⟨c, hc, hxc⟩ := List.mem_flatMap.mp h
    rcases mem_quoteChar hxc with rfl | hpercent | ⟨n, hhex⟩
    · exact hc
    · exact absurd hpercent hx.notPercent
    · cases hx.notHex.symm.trans hhex
  · intro h
    refine List.mem_flatMap.mpr ⟨x, h, ?_⟩
    rw [quoteChar, if_pos hx.safe]
    exact List.mem_singleton_self x

/-- Text up to a reserved character is quoted up to it. -/
theorem takeWhile_quote {x : Char} (hx : Reserved safe x) (s : List Char) :
    (quote safe s).takeWhile (· ≠ x) = quote safe (s.takeWhile (· ≠ x)) := by
  induction s with
  | nil => rfl
  | cons c s ih =>
    by_cases hc : c = x
    · subst hc
      rw [List.takeWhile_cons_of_neg (by simp), quote, List.flatMap_cons, quoteChar, if_pos hx.safe,
        List.singleton_append, List.takeWhile_cons_of_neg (by simp)]
      rfl
    · have hno : ∀ y ∈ quoteChar safe c, decide (y ≠ x) = true := by
        intro y hy
        refine decide_eq_true fun hyx => ?_
        subst hyx
        have hmem : y ∈ quote safe [c] := by simpa [quote] using hy
        exact hc (List.mem_singleton.mp ((mem_quote_iff hx).mp hmem)).symm
      rw [List.takeWhile_cons_of_pos (by simpa using hc)]
      change (quoteChar safe c ++ quote safe s).takeWhile (· ≠ x) = quoteChar safe c ++ quote safe (s.takeWhile (· ≠ x))
      rw [List.takeWhile_append_of_pos hno, ih]

theorem percentDecode_escapeBytes {bs : List Nat} (h : ∀ b ∈ bs, b < 256) (t : List Char) :
    percentDecode (bs.flatMap escapeByte ++ t) = bs ++ percentDecode t := by
  induction bs with
  | nil => rfl
  | cons b bs ih =>
    have hb := h b List.mem_cons_self
    have hbyte : 16 * (b / 16) + b % 16 = b := by omega
    have hrest := ih fun b' hb' => h b' (List.mem_cons_of_mem _ hb')
    have hcons := percentDecode_escape (hexValue_hexDigit (by omega : b / 16 < 16))
      (hexValue_hexDigit (by omega : b % 16 < 16)) (bs.flatMap escapeByte ++ t)
    rw [hbyte, hrest] at hcons
    exact hcons

/-- A quoted character as the decoder of a query reads it. -/
def readChar (safe : Char → Bool) (c : Char) : List Char := (quoteChar safe c).map plusSpace

theorem map_plusSpace_quote (s : List Char) : (quote safe s).map plusSpace = s.flatMap (readChar safe) :=
  List.map_flatMap ..

theorem readChar_of_safe {c : Char} (h : safe c = true) : readChar safe c = [plusSpace c] := by
  rw [readChar, quoteChar, if_pos h]
  rfl

theorem readChar_of_not_safe {c : Char} (h : ¬ safe c = true) :
    readChar safe c = (encodeChar c).flatMap escapeByte := by
  rw [readChar, quoteChar, if_neg h]
  refine (List.map_congr_left fun x hx => ?_).trans (List.map_id _)
  rcases mem_escapeBytes hx with rfl | ⟨n, hn⟩
  · rfl
  · exact plusSpace_of_hex hn

theorem readChar_of_hex (hsafe : Readable safe) {c : Char} {x : Nat} (h : hexValue c = some x) :
    readChar safe c = [c] := by
  rw [readChar_of_safe (hsafe.hex c x h), plusSpace_of_hex h]

/-- The quoted form of a character that is no digit does not begin with one. -/
theorem readChar_head (safe : Char → Bool) {c : Char} (h : hexValue c = none) :
    ∃ x l, readChar safe c = x :: l ∧ hexValue x = none := by
  by_cases hc : safe c = true
  · exact ⟨plusSpace c, [], readChar_of_safe hc, (hexValue_plusSpace c).trans h⟩
  · rw [readChar_of_not_safe hc]
    have hne : encodeChar c ≠ [] := by
      unfold encodeChar
      simp only
      split_ifs <;> simp
    obtain ⟨b, bs, hbs⟩ := List.exists_cons_of_ne_nil hne
    rw [hbs]
    exact ⟨'%', _, rfl, rfl⟩

theorem startsHex_flatMap_readChar (hsafe : Readable safe) {s : List Char} (h : startsHex s = false) :
    startsHex (s.flatMap (readChar safe)) = false := by
  have hnot {c : Char} (hc : hexValue c = none) (t : List Char) : startsHex (readChar safe c ++ t) = false := by
    obtain ⟨x, l, hread, hx⟩ := readChar_head safe hc
    rw [hread]
    cases l with
    | nil => cases t <;> simp [startsHex, hx]
    | cons y l => simp [startsHex, hx]
  match s, h with
  | [], _ => rfl
  | a :: s, h =>
    cases ha : hexValue a with
    | none => exact hnot ha _
    | some x =>
      rw [List.flatMap_cons, readChar_of_hex hsafe ha]
      match s, h with
      | [], _ => rfl
      | b :: s, h =>
        have hb : hexValue b = none := by
          simpa [startsHex, ha] using h
        obtain ⟨y, l, hread, hy⟩ := readChar_head safe hb
        rw [List.flatMap_cons, hread]
        simp [startsHex, hy]

theorem percentDecode_readChar (hsafe : Readable safe) {c : Char} (h : c ≠ '%') (t : List Char) :
    percentDecode (readChar safe c ++ t) = encodeChar (plusSpace c) ++ percentDecode t := by
  by_cases hc : safe c = true
  · rw [readChar_of_safe hc]
    exact percentDecode_cons_of_ne (plusSpace_ne_percent h) t
  · have hplus : plusSpace c = c := by
      rw [plusSpace, if_neg]
      rintro rfl
      exact hc hsafe.plus
    rw [readChar_of_not_safe hc, percentDecode_escapeBytes fun b hb => lt_of_mem_encodeChar hb, hplus]

/-- Quoting makes no difference to what a query says. -/
theorem component_quote (hsafe : Readable safe) (s : List Char) : component (quote safe s) = component s := by
  rw [component, component, map_plusSpace_quote]
  congr 1
  induction s using escape_induction with
  | nil => rfl
  | escape a b x y s ha hb ih =>
    have hpercent : readChar safe '%' = ['%'] := readChar_of_safe hsafe.percent
    simp only [List.flatMap_cons, hpercent, readChar_of_hex hsafe ha, readChar_of_hex hsafe hb, List.map_cons,
      plusSpace_of_hex ha, plusSpace_of_hex hb, List.singleton_append]
    rw [percentDecode_escape ha hb, ih]
    exact (percentDecode_escape ha hb _).symm
  | percent s hs ih =>
    have hpercent : readChar safe '%' = ['%'] := readChar_of_safe hsafe.percent
    rw [List.flatMap_cons, hpercent, List.singleton_append,
      percentDecode_percent (startsHex_flatMap_readChar hsafe hs), ih]
    exact (percentDecode_percent ((startsHex_map_plusSpace s).trans hs)).symm
  | other c s hc ih =>
    rw [List.flatMap_cons, percentDecode_readChar hsafe hc, ih, List.map_cons,
      percentDecode_cons_of_ne (plusSpace_ne_percent hc)]

end

/-! ### Parameters -/

/-- The query of a URL, between the first `?` and the fragment. -/
def queryOf (url : List Char) : List Char := ((url.takeWhile (· ≠ '#')).dropWhile (· ≠ '?')).drop 1

def pairOf (p : List Char) : List Char × List Char :=
  (component (p.takeWhile (· ≠ '=')), component ((p.dropWhile (· ≠ '=')).drop 1))

def params (query : List Char) : List (List Char × List Char) :=
  ((query.splitOn '&').filter (· ≠ [])).map pairOf

/-- The first value of the parameter `name`. -/
def param (url name : List Char) : Option (List Char) := (params (queryOf url)).lookup name

/-- The characters that structure a URL stay as they are, and escapes are left alone. -/
structure QuotesUrl (safe : Char → Bool) : Prop extends Readable safe where
  hash : Reserved safe '#'
  question : Reserved safe '?'
  ampersand : Reserved safe '&'
  equals : Reserved safe '='

section
variable {safe : Char → Bool} {pre name value : List Char}

/-- Nothing after a fragment's `#` is seen. -/
theorem queryOf_quote_of_hash (hsafe : QuotesUrl safe) (h : '#' ∈ pre) (rest : List Char) :
    queryOf (quote safe (pre ++ rest)) = queryOf (quote safe pre) := by
  have htake : (pre ++ rest).takeWhile (· ≠ '#') = pre.takeWhile (· ≠ '#') := by
    obtain ⟨l₁, l₂, rfl⟩ := List.append_of_mem h
    simp [List.takeWhile_append]
  rw [queryOf, queryOf, takeWhile_quote hsafe.hash, takeWhile_quote hsafe.hash, htake]

theorem all_ne {x : Char} {l : List Char} (h : x ∉ l) : ∀ y ∈ l, decide (y ≠ x) = true := by
  intro y hy
  refine decide_eq_true ?_
  rintro rfl
  exact h hy

theorem takeWhile_ne_append {x : Char} {l : List Char} (h : x ∉ l) (l' : List Char) :
    (l ++ l').takeWhile (· ≠ x) = l ++ l'.takeWhile (· ≠ x) :=
  List.takeWhile_append_of_pos (all_ne h)

theorem takeWhile_ne_eq_self {x : Char} {l : List Char} (h : x ∉ l) : l.takeWhile (· ≠ x) = l := by
  simpa using takeWhile_ne_append h []

theorem dropWhile_ne_append {x : Char} {l : List Char} (h : x ∈ l) (l' : List Char) :
    ((l ++ l').dropWhile (· ≠ x)).drop 1 = (l.dropWhile (· ≠ x)).drop 1 ++ l' := by
  induction l with
  | nil => cases h
  | cons c l ih =>
    by_cases hc : c = x
    · simp [hc]
    · have hmem : x ∈ l := (List.mem_cons.mp h).resolve_left (Ne.symm hc)
      have hcons : ∀ t : List Char, (c :: t).dropWhile (· ≠ x) = t.dropWhile (· ≠ x) := fun t =>
        List.dropWhile_cons_of_pos (by simpa using hc)
      rw [List.cons_append, hcons, hcons, ih hmem]

theorem head_splitOn (x : Char) (l : List Char) : ∃ rest, l.splitOn x = l.takeWhile (· ≠ x) :: rest := by
  induction l with
  | nil => exact ⟨[], rfl⟩
  | cons c l ih =>
    obtain ⟨rest, hrest⟩ := ih
    rw [List.splitOn_cons_eq_if_modifyHead, hrest]
    by_cases hc : c = x
    · exact ⟨l.takeWhile (· ≠ x) :: rest, by simp [hc]⟩
    · exact ⟨rest, by simp [hc]⟩

/-- A value comes back whole if nothing in it ends the parameter and it stands for itself. -/
theorem component_takeWhile_eq_iff (s : List Char) :
    component ((s.takeWhile (· ≠ '#')).takeWhile (· ≠ '&')) = s ↔
      '#' ∉ s ∧ '&' ∉ s ∧ hasEscape s = false ∧ '+' ∉ s := by
  constructor
  · intro h
    have hwhole {x : Char} (hx : s.takeWhile (· ≠ x) = s) : x ∉ s := by
      intro hmem
      rw [← hx] at hmem
      simpa using List.mem_takeWhile_imp hmem
    have hlen : s.length ≤ ((s.takeWhile (· ≠ '#')).takeWhile (· ≠ '&')).length := by
      have hle := length_component_le ((s.takeWhile (· ≠ '#')).takeWhile (· ≠ '&'))
      rwa [h] at hle
    have hamp := (List.takeWhile_prefix (· ≠ '&') (l := s.takeWhile (· ≠ '#'))).length_le
    have hhash : s.takeWhile (· ≠ '#') = s :=
      (List.takeWhile_prefix _).eq_of_length_le (by omega)
    rw [hhash] at h hlen
    have hamp' : s.takeWhile (· ≠ '&') = s := (List.takeWhile_prefix _).eq_of_length_le hlen
    rw [hamp'] at h
    exact ⟨hwhole hhash, hwhole hamp', (component_eq_self_iff s).mp h⟩
  · rintro ⟨hhash, hamp, hself⟩
    rw [takeWhile_ne_eq_self hhash, takeWhile_ne_eq_self hamp]
    exact (component_eq_self_iff s).mpr hself

/-- A name that is written as it is read. -/
structure PlainName (safe : Char → Bool) (name : List Char) : Prop where
  safe : ∀ c ∈ name, safe c = true
  plain : ∀ x ∈ ['#', '&', '='], x ∉ name
  reads : component name = name

theorem pairOf_append (hname : PlainName safe name) (v : List Char) :
    pairOf (name ++ '=' :: v) = (name, component v) := by
  have hno : '=' ∉ name := hname.plain '=' (by simp)
  have hdrop : (name ++ '=' :: v).dropWhile (· ≠ '=') = '=' :: v := by
    rw [List.dropWhile_append_of_pos (all_ne hno), List.dropWhile_cons_of_neg (by simp)]
  rw [pairOf, takeWhile_ne_append hno, hdrop]
  simp [hname.reads]

/-- The last parameter appended to a URL is seen up to the next `#` or `&`, unless the URL had one
of its name. -/
theorem param_quote_append (hsafe : QuotesUrl safe) (hname : PlainName safe name) (hhash : '#' ∉ pre)
    (hquestion : '?' ∈ pre) :
    param (quote safe (pre ++ '&' :: (name ++ '=' :: value))) name =
      (param (quote safe pre) name).or
        (some (component ((value.takeWhile (· ≠ '#')).takeWhile (· ≠ '&')))) := by
  have hcons {x : Char} (hx : Reserved safe x) (t : List Char) : quote safe (x :: t) = x :: quote safe t := by
    rw [quote, List.flatMap_cons, quoteChar, if_pos hx.safe]
    rfl
  -- the query of the longer URL
  have htake : (pre ++ '&' :: (name ++ '=' :: value)).takeWhile (· ≠ '#') =
      pre ++ '&' :: (name ++ '=' :: value.takeWhile (· ≠ '#')) := by
    rw [takeWhile_ne_append hhash, List.takeWhile_cons_of_pos (by simp),
      takeWhile_ne_append (hname.plain '#' (by simp)), List.takeWhile_cons_of_pos (by simp)]
  have hquery : queryOf (quote safe (pre ++ '&' :: (name ++ '=' :: value))) =
      queryOf (quote safe pre) ++ '&' :: (name ++ '=' :: quote safe (value.takeWhile (· ≠ '#'))) := by
    rw [queryOf, queryOf, takeWhile_quote hsafe.hash, takeWhile_quote hsafe.hash, htake,
      takeWhile_ne_eq_self hhash,
      quote_append, hcons hsafe.ampersand, quote_append, hcons hsafe.equals, quote_eq_self hname.safe,
      dropWhile_ne_append ((mem_quote_iff hsafe.question).mpr hquestion)]
  -- its parameters
  obtain ⟨rest, hrest⟩ := head_splitOn '&' (name ++ '=' :: quote safe (value.takeWhile (· ≠ '#')))
  rw [takeWhile_ne_append (hname.plain '&' (by simp)), List.takeWhile_cons_of_pos (by simp),
    takeWhile_quote hsafe.ampersand] at hrest
  rw [param, param, hquery, params, List.splitOn_append_cons_self, hrest, List.filter_append, List.map_append,
    List.lookup_append, List.filter_cons_of_pos (by simp), List.map_cons, pairOf_append hname, component_quote hsafe.toReadable,
    List.lookup_cons_self]
  rfl

end

/-! ### Values that are read back -/

/-- Everything is escaped that a query takes for something else. -/
structure QuotesValue (safe : Char → Bool) : Prop where
  percent : safe '%' = false
  plus : safe '+' = false
  hash : safe '#' = false
  ampersand : safe '&' = false

section
variable {safe : Char → Bool} {pre name : List Char}

theorem percentDecode_quote (hsafe : QuotesValue safe) (s : List Char) :
    percentDecode ((quote safe s).map plusSpace) = s.flatMap encodeChar := by
  rw [map_plusSpace_quote]
  induction s with
  | nil => rfl
  | cons c s ih =>
    rw [List.flatMap_cons, List.flatMap_cons]
    by_cases hc : safe c = true
    · have hpercent : c ≠ '%' := by
        rintro rfl
        rw [hsafe.percent] at hc
        cases hc
      have hplus : plusSpace c = c := by
        rw [plusSpace, if_neg]
        rintro rfl
        rw [hsafe.plus] at hc
        cases hc
      rw [readChar_of_safe hc, hplus, List.singleton_append, percentDecode_cons_of_ne hpercent, ih]
    · rw [readChar_of_not_safe hc, percentDecode_escapeBytes fun b hb => lt_of_mem_encodeChar hb, ih]

theorem utf8Decode_flatMap_encodeChar (s : List Char) : utf8Decode (s.flatMap encodeChar) = s := by
  induction s with
  | nil => rfl
  | cons c s ih => rw [List.flatMap_cons, utf8Decode_encodeChar, ih]

/-- Any text comes back from a query that it was quoted into. -/
theorem component_quote_value (hsafe : QuotesValue safe) (s : List Char) : component (quote safe s) = s := by
  rw [component, percentDecode_quote hsafe, utf8Decode_flatMap_encodeChar]

theorem not_mem_quote {x : Char} (hx : safe x = false) (hpercent : x ≠ '%') (hhex : hexValue x = none)
    (s : List Char) :
    x ∉ quote safe s := by
  intro h
  obtain ⟨c, -, hxc⟩ := List.mem_flatMap.mp h
  unfold quoteChar at hxc
  split_ifs at hxc with hc
  · rw [List.mem_singleton.mp hxc, hc] at hx
    cases hx
  · rcases mem_escapeBytes hxc with heq | ⟨n, hn⟩
    · exact hpercent heq
    · cases hhex.symm.trans hn

/-- The only parameter of a URL, quoted, is read back whatever it is. -/
theorem param_quote_value (hsafe : QuotesValue safe) (hname : PlainName safe name) (hhash : '#' ∉ pre)
    (hquestion : '?' ∉ pre) (s : List Char) :
    param (pre ++ '?' :: (name ++ '=' :: quote safe s)) name = some s := by
  have hnoHash : '#' ∉ quote safe s := not_mem_quote hsafe.hash (by decide) (by decide) s
  have hnoAmpersand : '&' ∉ name ++ '=' :: quote safe s := by
    simp [hname.plain '&' (by simp), not_mem_quote hsafe.ampersand (by decide) (by decide) s]
  have hnone : '#' ∉ pre ++ '?' :: (name ++ '=' :: quote safe s) := by
    simp [hhash, hname.plain '#' (by simp), hnoHash]
  have hquery : queryOf (pre ++ '?' :: (name ++ '=' :: quote safe s)) = name ++ '=' :: quote safe s := by
    rw [queryOf, takeWhile_ne_eq_self hnone, List.dropWhile_append_of_pos (all_ne hquestion),
      List.dropWhile_cons_of_neg (by simp)]
    rfl
  obtain ⟨rest, hrest⟩ := head_splitOn '&' (name ++ '=' :: quote safe s)
  rw [takeWhile_ne_eq_self hnoAmpersand] at hrest
  rw [param, hquery, params, hrest, List.filter_cons_of_pos (by simp), List.map_cons, pairOf_append hname,
    List.lookup_cons_self, component_quote_value hsafe]

end

end Url
