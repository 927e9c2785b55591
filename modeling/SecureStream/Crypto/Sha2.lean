import SecureStream.Bytes
import SecureStream.Crypto.Modular

/-! # The SHA-2 digests

One construction over words of 32 or 64 bits. A message is padded to whole blocks; each block is
mixed into the state in rounds, and a window of sixteen words yields the word of every round. The
constants are the first bits of the fractional parts of roots of the first primes. -/

namespace SecureStream.Crypto.Sha2

/-! ### Constants -/

/-- The first primes, as many as there are rounds at most. -/
def primes : List Nat := (List.range 410).filter Modular.isPrime

/-- The first `w` bits of the fractional part of a `k`-th root. -/
def fraction (w k p : Nat) : BitVec w :=
  BitVec.ofNat w (Modular.root k (p * Nat.pow 2 (k * w)) (w + 5))

/-- Three amounts by which a word is rotated, the last a shift in a schedule. -/
structure Amounts where
  first : Nat
  second : Nat
  third : Nat

/-- What tells the digests of one word size apart from those of the other. -/
structure Shape (w : Nat) where
  constants : List (BitVec w)
  upperA : Amounts
  upperE : Amounts
  scheduleEarly : Amounts
  scheduleLate : Amounts

/-- Words of 32 bits and sixty-four rounds. -/
def shape32 : Shape 32 where
  constants := (primes.take 64).map (fraction 32 3)
  upperA := ⟨2, 13, 22⟩
  upperE := ⟨6, 11, 25⟩
  scheduleEarly := ⟨7, 18, 3⟩
  scheduleLate := ⟨17, 19, 10⟩

/-- Words of 64 bits and eighty rounds. -/
def shape64 : Shape 64 where
  constants := (primes.take 80).map (fraction 64 3)
  upperA := ⟨28, 34, 39⟩
  upperE := ⟨14, 18, 41⟩
  scheduleEarly := ⟨1, 8, 7⟩
  scheduleLate := ⟨19, 61, 6⟩

/-! ### Rounds -/

variable {w : Nat}

/-- Three rotations of a word, combined. -/
def Amounts.rotations (n : Amounts) (x : BitVec w) : BitVec w :=
  x.rotateRight n.first ^^^ x.rotateRight n.second ^^^ x.rotateRight n.third

/-- Two rotations and a shift of a word, combined. -/
def Amounts.schedule (n : Amounts) (x : BitVec w) : BitVec w :=
  x.rotateRight n.first ^^^ x.rotateRight n.second ^^^ (x >>> n.third)

/-- The eight words that a block is mixed into. -/
structure State (w : Nat) where
  a : BitVec w
  b : BitVec w
  c : BitVec w
  d : BitVec w
  e : BitVec w
  f : BitVec w
  g : BitVec w
  h : BitVec w

namespace State

/-- The state of eight words. -/
def ofWords : List (BitVec w) → State w
  | [a, b, c, d, e, f, g, h] => ⟨a, b, c, d, e, f, g, h⟩
  | _ => ⟨0, 0, 0, 0, 0, 0, 0, 0⟩

/-- The words of a state. -/
def words (s : State w) : List (BitVec w) := [s.a, s.b, s.c, s.d, s.e, s.f, s.g, s.h]

/-- Adds word by word. -/
def add (s t : State w) : State w :=
  ⟨s.a + t.a, s.b + t.b, s.c + t.c, s.d + t.d, s.e + t.e, s.f + t.f, s.g + t.g, s.h + t.h⟩

/-- One round with its constant and its word of the schedule. -/
def round (p : Shape w) (s : State w) (constant word : BitVec w) : State w :=
  let choice := (s.e &&& s.f) ^^^ (~~~s.e &&& s.g)
  let majority := (s.a &&& s.b) ^^^ (s.a &&& s.c) ^^^ (s.b &&& s.c)
  let t := s.h + p.upperE.rotations s.e + choice + constant + word
  ⟨t + (p.upperA.rotations s.a + majority), s.a, s.b, s.c, s.d + t, s.e, s.f, s.g⟩

end State

/-- The window moved by one word: the word of this round leaves, the one of sixteen rounds later
comes in. -/
def slide (p : Shape w) (window : List (BitVec w)) : List (BitVec w) :=
  let at_ (i : Nat) := window.getD i 0
  window.drop 1 ++
    [p.scheduleLate.schedule (at_ 14) + at_ 9 + p.scheduleEarly.schedule (at_ 1) + at_ 0]

/-- Mixes a block, given as sixteen words, into a state. -/
def mix (p : Shape w) (s : State w) (block : List (BitVec w)) : State w :=
  let step (x : State w × List (BitVec w)) (constant : BitVec w) :=
    (x.1.round p constant (x.2.getD 0 0), slide p x.2)
  s.add (p.constants.foldl step (s, block)).1

/-! ### Messages -/

/-- A message with a mark, zeros and its length in bits at the end: whole blocks of sixteen words
of `n` octets. -/
def padded (n : Nat) (m : Bytes) : Bytes :=
  let used := (m.length + 1 + 2 * n) % (16 * n)
  m ++ [0x80] ++ List.replicate ((16 * n - used) % (16 * n)) 0 ++ Bytes.ofNat (2 * n) (8 * m.length)

/-- The words of a block. -/
def wordsOf (w : Nat) (b : Bytes) : List (BitVec w) :=
  (Bytes.pieces (w / 8) b).map fun x => BitVec.ofNat w (Bytes.toNat x)

/-- The state after a message. -/
def absorb (p : Shape w) (start : State w) (m : Bytes) : State w :=
  (Bytes.pieces (2 * w) (padded (w / 8) m)).foldl (fun s b => mix p s (wordsOf w b)) start

/-- The octets of a state. -/
def State.octets (s : State w) : Bytes :=
  s.words.flatMap fun x => Bytes.ofNat (w / 8) x.toNat

/-! ### Digests -/

/-- Which digest of the family. -/
inductive Digest
  | sha256
  | sha384
  | sha512
deriving DecidableEq, Repr

/-- Where SHA-256 starts. -/
def start256 : State 32 := .ofWords ((primes.take 8).map (fraction 32 2))

/-- Where SHA-384 starts. -/
def start384 : State 64 := .ofWords (((primes.drop 8).take 8).map (fraction 64 2))

/-- Where SHA-512 starts. -/
def start512 : State 64 := .ofWords ((primes.take 8).map (fraction 64 2))

/-- The octets of a digest. -/
def Digest.size : Digest → Nat
  | sha256 => 32
  | sha384 => 48
  | sha512 => 64

/-- **The digest of a message.** -/
def Digest.of : Digest → Bytes → Bytes
  | sha256, m => (absorb shape32 start256 m).octets
  | sha384, m => (absorb shape64 start384 m).octets.take 48
  | sha512, m => (absorb shape64 start512 m).octets

end SecureStream.Crypto.Sha2
