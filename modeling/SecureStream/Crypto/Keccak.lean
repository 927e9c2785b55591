import SecureStream.Bytes

/-! # Digests of any length

A sponge over twenty-five words of 64 bits. A message is padded to whole blocks, each block is added
to the front of the state and the state permuted in twenty-four rounds; the front of the state is
then read, with a permutation between blocks, for as long as octets are wanted.

* `permute`: the permutation of the state.
* `shake128`, `shake256`: the two digests, by the size of their blocks. -/

namespace SecureStream.Crypto.Keccak

/-! ### The permutation -/

/-- The words of a state, five to a row. -/
abbrev State := Array UInt64

/-- The state before the first block. -/
def State.zero : State := Array.replicate 25 0

/-- The word in a column and a row, both counted round. -/
def State.word (s : State) (x y : Nat) : UInt64 := s.getD (5 * (y % 5) + x % 5) 0

/-- The state whose words a function gives by column and row. -/
def State.ofWords (f : Nat → Nat → UInt64) : State :=
  Array.ofFn fun i : Fin 25 => f (i.val % 5) (i.val / 5)

/-- A word rotated to the left. -/
def rotate (n : Nat) (x : UInt64) : UInt64 := x <<< UInt64.ofNat n ||| x >>> UInt64.ofNat (64 - n)

/-- Adds to every word the parities of two columns near it. -/
def mixColumns (s : State) : State :=
  let parity : Array UInt64 := Array.ofFn fun x : Fin 5 =>
    s.word x 0 ^^^ s.word x 1 ^^^ s.word x 2 ^^^ s.word x 3 ^^^ s.word x 4
  let at_ (x : Nat) := parity.getD (x % 5) 0
  .ofWords fun x y => s.word x y ^^^ at_ (x + 4) ^^^ rotate 1 (at_ (x + 1))

/-- By how much each word is rotated. -/
def rotations : Array Nat :=
  #[0, 1, 62, 28, 27, 36, 44, 6, 55, 20, 3, 10, 43, 25, 39, 41, 45, 15, 21, 8, 18, 2, 61, 56, 14]

/-- Rotates the words and moves them to other places. -/
def scatter (s : State) : State :=
  .ofWords fun x y =>
    let column := (x + 3 * y) % 5
    rotate (rotations.getD (5 * x + column) 0) (s.word column x)

/-- Adds to every word a product of the next two in its row. -/
def mixRows (s : State) : State :=
  .ofWords fun x y => s.word x y ^^^ (~~~s.word (x + 1) y &&& s.word (x + 2) y)

/-- What each round adds to the first word. -/
def roundConstants : List UInt64 :=
  [0x0000000000000001, 0x0000000000008082, 0x800000000000808a, 0x8000000080008000,
    0x000000000000808b, 0x0000000080000001, 0x8000000080008081, 0x8000000000008009,
    0x000000000000008a, 0x0000000000000088, 0x0000000080008009, 0x000000008000000a,
    0x000000008000808b, 0x800000000000008b, 0x8000000000008089, 0x8000000000008003,
    0x8000000000008002, 0x8000000000000080, 0x000000000000800a, 0x800000008000000a,
    0x8000000080008081, 0x8000000000008080, 0x0000000080000001, 0x8000000080008008]

/-- One round with its constant. -/
def round (s : State) (constant : UInt64) : State :=
  (mixRows (scatter (mixColumns s))).modify 0 (· ^^^ constant)

/-- **The permutation of a state.** -/
def permute (s : State) : State := roundConstants.foldl round s

/-! ### The sponge -/

/-- A message with a mark, zeros and a last bit: whole blocks of `rate` octets. -/
def padded (rate : Nat) (m : Bytes) : Bytes :=
  let free := rate - m.length % rate
  if free = 1 then m ++ [0x9f] else m ++ [0x1f] ++ List.replicate (free - 2) 0 ++ [0x80]

/-- The state after one more block. -/
def absorb (s : State) (block : Bytes) : State :=
  let words := ((Bytes.pieces 8 block).map fun x => UInt64.ofNat x.toLittle).toArray
  permute (.ofWords fun x y => s.word x y ^^^ words.getD (5 * y + x) 0)

/-- The octets of a state. -/
def State.octets (s : State) : Bytes := s.toList.flatMap fun x => Bytes.ofLittle 8 x.toNat

/-- So many blocks of `rate` octets out of a state. -/
def squeeze (rate : Nat) : (blocks : Nat) → State → Bytes
  | 0, _ => []
  | blocks + 1, s => s.octets.take rate ++ squeeze rate blocks (permute s)

/-- The digest of a message with blocks of `rate` octets. -/
def shake (rate : Nat) (m : Bytes) (size : Nat) : Bytes :=
  (squeeze rate (size / rate + 1) ((Bytes.pieces rate (padded rate m)).foldl absorb .zero)).take
    size

/-- **The digest of a message in so many octets**, with a security of 128 bits. -/
def shake128 (m : Bytes) (size : Nat) : Bytes := shake 168 m size

/-- **The digest of a message in so many octets**, with a security of 256 bits. -/
def shake256 (m : Bytes) (size : Nat) : Bytes := shake 136 m size

end SecureStream.Crypto.Keccak
