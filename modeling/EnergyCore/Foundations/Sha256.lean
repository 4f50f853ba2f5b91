import Mathlib.Data.List.Basic
import Mathlib.Data.String.Basic

/-!
# SHA-256

The digest of a text in ASCII, as `hashlib.sha256(text.encode("utf-8")).hexdigest()` computes it.

* `hexdigest_ne_empty`, `mem_hexdigest` — a digest is not empty, and its characters are hexadecimal digits.
-/

namespace EnergyCore.Sha256

abbrev Word := BitVec 32

/-- The eight working variables. -/
structure State where
  a : Word
  b : Word
  c : Word
  d : Word
  e : Word
  f : Word
  g : Word
  h : Word
  deriving DecidableEq

def roundConstants : List Word :=
  [0x428a2f98, 0x71374491, 0xb5c0fbcf, 0xe9b5dba5, 0x3956c25b, 0x59f111f1, 0x923f82a4, 0xab1c5ed5,
    0xd807aa98, 0x12835b01, 0x243185be, 0x550c7dc3, 0x72be5d74, 0x80deb1fe, 0x9bdc06a7, 0xc19bf174,
    0xe49b69c1, 0xefbe4786, 0x0fc19dc6, 0x240ca1cc, 0x2de92c6f, 0x4a7484aa, 0x5cb0a9dc, 0x76f988da,
    0x983e5152, 0xa831c66d, 0xb00327c8, 0xbf597fc7, 0xc6e00bf3, 0xd5a79147, 0x06ca6351, 0x14292967,
    0x27b70a85, 0x2e1b2138, 0x4d2c6dfc, 0x53380d13, 0x650a7354, 0x766a0abb, 0x81c2c92e, 0x92722c85,
    0xa2bfe8a1, 0xa81a664b, 0xc24b8b70, 0xc76c51a3, 0xd192e819, 0xd6990624, 0xf40e3585, 0x106aa070,
    0x19a4c116, 0x1e376c08, 0x2748774c, 0x34b0bcb5, 0x391c0cb3, 0x4ed8aa4a, 0x5b9cca4f, 0x682e6ff3,
    0x748f82ee, 0x78a5636f, 0x84c87814, 0x8cc70208, 0x90befffa, 0xa4506ceb, 0xbef9a3f7, 0xc67178f2]

def initialState : State where
  a := 0x6a09e667
  b := 0xbb67ae85
  c := 0x3c6ef372
  d := 0xa54ff53a
  e := 0x510e527f
  f := 0x9b05688c
  g := 0x1f83d9ab
  h := 0x5be0cd19

def rotateRight (n : ℕ) (x : Word) : Word := (x >>> n) ||| (x <<< (32 - n))

/-! ### Blocks -/

/-- The next word of the schedule, from the last sixteen, of which the latest comes first. -/
def nextWord (recent : List Word) : Word :=
  let w15 := recent.getD 14 0
  let w2 := recent.getD 1 0
  let s0 := rotateRight 7 w15 ^^^ rotateRight 18 w15 ^^^ (w15 >>> 3)
  let s1 := rotateRight 17 w2 ^^^ rotateRight 19 w2 ^^^ (w2 >>> 10)
  recent.getD 15 0 + s0 + recent.getD 6 0 + s1

/-- The words of the schedule, latest first. -/
def extend : ℕ → List Word → List Word
  | 0, words => words
  | n + 1, words => extend n (nextWord words :: words)

def schedule (block : List Word) : List Word := (extend 48 block.reverse).reverse

def compressRound (s : State) (kw : Word × Word) : State :=
  let s1 := rotateRight 6 s.e ^^^ rotateRight 11 s.e ^^^ rotateRight 25 s.e
  let choice := (s.e &&& s.f) ^^^ (~~~s.e &&& s.g)
  let temp1 := s.h + s1 + choice + kw.1 + kw.2
  let s0 := rotateRight 2 s.a ^^^ rotateRight 13 s.a ^^^ rotateRight 22 s.a
  let majority := (s.a &&& s.b) ^^^ (s.a &&& s.c) ^^^ (s.b &&& s.c)
  { a := temp1 + (s0 + majority)
    b := s.a
    c := s.b
    d := s.c
    e := s.d + temp1
    f := s.e
    g := s.f
    h := s.g }

def compress (s : State) (block : List Word) : State :=
  let t := (roundConstants.zip (schedule block)).foldl compressRound s
  { a := s.a + t.a
    b := s.b + t.b
    c := s.c + t.c
    d := s.d + t.d
    e := s.e + t.e
    f := s.f + t.f
    g := s.g + t.g
    h := s.h + t.h }

/-! ### Messages -/

/-- The bytes of a message with its padding: a one bit, zeros, and the length in bits. -/
def pad (bytes : List ℕ) : List ℕ :=
  let bits := 8 * bytes.length
  let zeros := (119 - bytes.length % 64) % 64
  bytes ++ 128 :: List.replicate zeros 0 ++
    [bits / 2 ^ 56, bits / 2 ^ 48, bits / 2 ^ 40, bits / 2 ^ 32, bits / 2 ^ 24, bits / 2 ^ 16,
      bits / 2 ^ 8, bits].map (· % 256)

/-- The words that the bytes make, four by four. -/
def words : List ℕ → List Word
  | b0 :: b1 :: b2 :: b3 :: bytes =>
    BitVec.ofNat 32 (b0 * 16777216 + b1 * 65536 + b2 * 256 + b3) :: words bytes
  | _ => []

/-- The blocks of sixteen words; `n` bounds their number. -/
def blocks : ℕ → List Word → List (List Word)
  | 0, _ => []
  | n + 1, ws => if ws.length < 16 then [] else ws.take 16 :: blocks n (ws.drop 16)

def hexDigits : ℕ → ℕ → List Char
  | 0, _ => []
  | n + 1, x => hexDigits n (x / 16) ++
      [if x % 16 < 10 then Char.ofNat (48 + x % 16) else Char.ofNat (87 + x % 16)]

def hexdigest (s : State) : String :=
  String.ofList ([s.a, s.b, s.c, s.d, s.e, s.f, s.g, s.h].flatMap fun w => hexDigits 8 w.toNat)

def sha256 (text : String) : String :=
  let ws := words (pad (text.toList.map Char.toNat))
  hexdigest ((blocks ws.length ws).foldl compress initialState)

example : sha256 "abc" = "ba7816bf8f01cfea414140de5dae2223b00361a396177a9cb410ff61f20015ad" := by
  decide +kernel

/-! ### Digests in hexadecimal -/

def hexChars : List Char := "0123456789abcdef".toList

theorem hexdigest_ne_empty (state : State) : hexdigest state ≠ "" := by
  intro h
  have hlist := congrArg String.toList h
  rw [hexdigest, String.toList_ofList] at hlist
  have hlength := congrArg List.length hlist
  simp [hexDigits] at hlength

theorem mem_hexDigits {n x : ℕ} {c : Char} (h : c ∈ hexDigits n x) : c ∈ hexChars := by
  have hdigit : ∀ k, k < 16 → (if k < 10 then Char.ofNat (48 + k) else Char.ofNat (87 + k)) ∈ hexChars := by decide
  induction n generalizing x with
  | zero => exact absurd h List.not_mem_nil
  | succ n ih =>
    rw [hexDigits, List.mem_append, List.mem_singleton] at h
    rcases h with h | h
    · exact ih h
    · rw [h]
      exact hdigit (x % 16) (Nat.mod_lt x (by omega))

theorem mem_hexdigest {state : State} {c : Char} (h : c ∈ (hexdigest state).toList) : c ∈ hexChars := by
  rw [hexdigest, String.toList_ofList, List.mem_flatMap] at h
  obtain ⟨_, -, hmem⟩ := h
  exact mem_hexDigits hmem

theorem sha256_ne_empty (text : String) : sha256 text ≠ "" := hexdigest_ne_empty _

end EnergyCore.Sha256
