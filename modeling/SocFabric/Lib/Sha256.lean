import Mathlib.Data.List.Basic
import Mathlib.Tactic.Ring
import Mathlib.Tactic.NormNum

/-!
# HMAC-SHA-256 and hexadecimal text

SHA-256 over byte lists (FIPS 180-4), HMAC over it (RFC 2104), and the decoding of hexadecimal text
to bytes. The models use the digest only through its width, `length_hmac`, and as the function it
is.
-/

namespace Sha256

def roundConstants : List UInt32 :=
  [0x428a2f98, 0x71374491, 0xb5c0fbcf, 0xe9b5dba5, 0x3956c25b, 0x59f111f1, 0x923f82a4, 0xab1c5ed5,
   0xd807aa98, 0x12835b01, 0x243185be, 0x550c7dc3, 0x72be5d74, 0x80deb1fe, 0x9bdc06a7, 0xc19bf174,
   0xe49b69c1, 0xefbe4786, 0x0fc19dc6, 0x240ca1cc, 0x2de92c6f, 0x4a7484aa, 0x5cb0a9dc, 0x76f988da,
   0x983e5152, 0xa831c66d, 0xb00327c8, 0xbf597fc7, 0xc6e00bf3, 0xd5a79147, 0x06ca6351, 0x14292967,
   0x27b70a85, 0x2e1b2138, 0x4d2c6dfc, 0x53380d13, 0x650a7354, 0x766a0abb, 0x81c2c92e, 0x92722c85,
   0xa2bfe8a1, 0xa81a664b, 0xc24b8b70, 0xc76c51a3, 0xd192e819, 0xd6990624, 0xf40e3585, 0x106aa070,
   0x19a4c116, 0x1e376c08, 0x2748774c, 0x34b0bcb5, 0x391c0cb3, 0x4ed8aa4a, 0x5b9cca4f, 0x682e6ff3,
   0x748f82ee, 0x78a5636f, 0x84c87814, 0x8cc70208, 0x90befffa, 0xa4506ceb, 0xbef9a3f7, 0xc67178f2]

/-- The eight words of the chaining value. -/
structure Chain where
  (a b c d e f g h : UInt32)

def initial : Chain :=
  ⟨0x6a09e667, 0xbb67ae85, 0x3c6ef372, 0xa54ff53a, 0x510e527f, 0x9b05688c, 0x1f83d9ab, 0x5be0cd19⟩

def rotr (x : UInt32) (n : UInt32) : UInt32 := (x >>> n) ||| (x <<< (32 - n))

/-- One message word, big endian; missing bytes read as zero. -/
def word (bytes : List UInt8) : UInt32 :=
  (bytes.take 4).foldl (fun w b => (w <<< 8) ||| b.toUInt32) 0

/-- The message schedule, newest word first. -/
def extend : Nat → List UInt32 → List UInt32
  | 0, ws => ws
  | n + 1, ws =>
    let w (i : Nat) : UInt32 := ws.getD i 0
    let s0 := rotr (w 14) 7 ^^^ rotr (w 14) 18 ^^^ (w 14 >>> 3)
    let s1 := rotr (w 1) 17 ^^^ rotr (w 1) 19 ^^^ (w 1 >>> 10)
    extend n ((w 15 + s0 + w 6 + s1) :: ws)

def schedule (block : List UInt8) : List UInt32 :=
  (extend 48 ((List.range 16).map fun i => word (block.drop (4 * i))).reverse).reverse

def round (s : Chain) (kw : UInt32 × UInt32) : Chain :=
  let s1 := rotr s.e 6 ^^^ rotr s.e 11 ^^^ rotr s.e 25
  let ch := (s.e &&& s.f) ^^^ (~~~s.e &&& s.g)
  let t1 := s.h + s1 + ch + kw.1 + kw.2
  let s0 := rotr s.a 2 ^^^ rotr s.a 13 ^^^ rotr s.a 22
  let maj := (s.a &&& s.b) ^^^ (s.a &&& s.c) ^^^ (s.b &&& s.c)
  ⟨t1 + (s0 + maj), s.a, s.b, s.c, s.d + t1, s.e, s.f, s.g⟩

def compress (s : Chain) (block : List UInt8) : Chain :=
  let t := (roundConstants.zip (schedule block)).foldl round s
  ⟨s.a + t.a, s.b + t.b, s.c + t.c, s.d + t.d, s.e + t.e, s.f + t.f, s.g + t.g, s.h + t.h⟩

def bigEndian (n width : Nat) : List UInt8 :=
  (List.range width).map fun i => UInt8.ofNat (n >>> (8 * (width - 1 - i)))

def pad (msg : List UInt8) : List UInt8 :=
  msg ++ 0x80 :: List.replicate ((119 - msg.length % 64) % 64) 0 ++ bigEndian (8 * msg.length) 8

/-- Compresses the first `n` blocks of 64 bytes. -/
def blocks : Nat → Chain → List UInt8 → Chain
  | 0, s, _ => s
  | n + 1, s, msg => blocks n (compress s (msg.take 64)) (msg.drop 64)

def Chain.bytes (s : Chain) : List UInt8 :=
  [s.a, s.b, s.c, s.d, s.e, s.f, s.g, s.h].flatMap fun w => bigEndian w.toNat 4

def hash (msg : List UInt8) : List UInt8 :=
  (blocks ((pad msg).length / 64) initial (pad msg)).bytes

/-- The key, hashed if it is longer than a block, zero-padded to a block and masked. -/
def keyBlock (mask : UInt8) (key : List UInt8) : List UInt8 :=
  let key := if 64 < key.length then hash key else key
  (key ++ List.replicate (64 - key.length) 0).map (· ^^^ mask)

def hmac (key msg : List UInt8) : List UInt8 :=
  hash (keyBlock 0x5c key ++ hash (keyBlock 0x36 key ++ msg))

theorem length_hash (msg : List UInt8) : (hash msg).length = 32 := by
  simp [hash, Chain.bytes, bigEndian]

theorem length_hmac (key msg : List UInt8) : (hmac key msg).length = 32 := length_hash _

/-! ### Hexadecimal -/

def hexDigit (c : Char) : Option Nat :=
  if '0' ≤ c ∧ c ≤ '9' then some (c.toNat - '0'.toNat)
  else if 'a' ≤ c ∧ c ≤ 'f' then some (c.toNat - 'a'.toNat + 10)
  else if 'A' ≤ c ∧ c ≤ 'F' then some (c.toNat - 'A'.toNat + 10)
  else none

/-- The bytes of hexadecimal text; `none` on an odd length or another character. -/
def hexDecode : List Char → Option (List UInt8)
  | [] => some []
  | [_] => none
  | c :: d :: s => do
    let hi ← hexDigit c
    let lo ← hexDigit d
    let rest ← hexDecode s
    return UInt8.ofNat (16 * hi + lo) :: rest

/-- The last `k` hexadecimal digits of a number, in lower case. -/
def hexText (n : Nat) : Nat → List Char
  | 0 => []
  | k + 1 => Nat.digitChar (n / 16 ^ k % 16) :: hexText n k

theorem hexDigit_digitChar : ∀ n < 16, hexDigit (Nat.digitChar n) = some n := by decide

/-- The bytes of a number's hexadecimal text, read big endian, are the number. -/
theorem foldl_hexDecode (n k acc : Nat) :
    ∃ bytes, hexDecode (hexText n (2 * k)) = some bytes ∧
      bytes.foldl (fun m b => m * 256 + b.toNat) acc = acc * 256 ^ k + n % 256 ^ k := by
  induction k generalizing acc with
  | zero => exact ⟨[], rfl, by simp [Nat.mod_one]⟩
  | succ k ih =>
    obtain ⟨bytes, hdecode, hfold⟩ := ih (acc * 256 + n / 256 ^ k % 256)
    have hbyte : 16 * (n / 16 ^ (2 * k + 1) % 16) + n / 16 ^ (2 * k) % 16 = n / 256 ^ k % 256 := by
      rw [Nat.pow_succ, ← Nat.div_div_eq_div_mul, Nat.pow_mul]
      norm_num
      omega
    refine ⟨UInt8.ofNat (n / 256 ^ k % 256) :: bytes, ?_, ?_⟩
    · have htwo : 2 * (k + 1) = 2 * k + 1 + 1 := by omega
      rw [htwo, hexText, hexText, hexDecode, hexDigit_digitChar _ (Nat.mod_lt _ (by decide)),
        hexDigit_digitChar _ (Nat.mod_lt _ (by decide)), hdecode, ← hbyte]
      rfl
    · have hlt : n / 256 ^ k % 256 < 256 := Nat.mod_lt _ (by decide)
      rw [List.foldl_cons, UInt8.toNat_ofNat_of_lt' hlt, hfold, Nat.mod_pow_succ, Nat.pow_succ]
      ring

end Sha256
