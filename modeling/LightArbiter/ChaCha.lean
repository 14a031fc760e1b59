/-!
# A stream of random words

The ChaCha stream with eight rounds: a block of sixteen words for each value of a counter of 64 bits,
with a zero nonce. The key is spread out from a seed of 64 bits.
-/

namespace LightArbiter.ChaCha

/-- The words of a block. -/
abbrev Block := Vector UInt32 16

/-- The words of a key. -/
abbrev Key := Vector UInt32 8

/-- The word turned to the left by some bits. -/
def rotateLeft (x : UInt32) (bits : UInt32) : UInt32 :=
  (x <<< bits) ||| (x >>> (32 - bits))

/-- The word turned to the right by some bits. -/
def rotateRight (x : UInt32) (bits : UInt32) : UInt32 :=
  (x >>> bits) ||| (x <<< (32 - bits))

/-! ### Keys -/

/-- The state of the seed generator after one step. -/
def nextState (state : UInt64) : UInt64 :=
  state * 6364136223846793005 + 11634580027462260723

/-- The word that a state of the seed generator gives. -/
def wordOfState (state : UInt64) : UInt32 :=
  rotateRight (((state >>> 18) ^^^ state) >>> 27).toUInt32 (state >>> 59).toUInt32

/-- The state of the seed generator after some steps. -/
def stateAfter (seed : UInt64) : Nat → UInt64
  | 0 => seed
  | n + 1 => nextState (stateAfter seed n)

/-- The key of a seed. -/
def keyOfSeed (seed : UInt64) : Key :=
  Vector.ofFn fun i => wordOfState (stateAfter seed (i.val + 1))

/-! ### Blocks -/

/-- Mix four words of a block. -/
def quarterRound (s : Block) (a b c d : Fin 16) : Block :=
  let s := s.set a (s[a] + s[b])
  let s := s.set d (rotateLeft (s[d] ^^^ s[a]) 16)
  let s := s.set c (s[c] + s[d])
  let s := s.set b (rotateLeft (s[b] ^^^ s[c]) 12)
  let s := s.set a (s[a] + s[b])
  let s := s.set d (rotateLeft (s[d] ^^^ s[a]) 8)
  let s := s.set c (s[c] + s[d])
  s.set b (rotateLeft (s[b] ^^^ s[c]) 7)

/-- A round on the columns and one on the diagonals. -/
def doubleRound (s : Block) : Block :=
  let s := quarterRound s 0 4 8 12
  let s := quarterRound s 1 5 9 13
  let s := quarterRound s 2 6 10 14
  let s := quarterRound s 3 7 11 15
  let s := quarterRound s 0 5 10 15
  let s := quarterRound s 1 6 11 12
  let s := quarterRound s 2 7 8 13
  quarterRound s 3 4 9 14

/-- Four double rounds. -/
def rounds (s : Block) : Block :=
  doubleRound (doubleRound (doubleRound (doubleRound s)))

/-- The block before the rounds: four constants, the key, the counter and the nonce. -/
def start (key : Key) (counter : UInt64) : Block :=
  #v[0x61707865, 0x3320646e, 0x79622d32, 0x6b206574, key[0], key[1], key[2], key[3], key[4],
    key[5], key[6], key[7], counter.toUInt32, (counter >>> 32).toUInt32, 0, 0]

/-- The block of a counter. -/
def block (key : Key) (counter : UInt64) : Block :=
  (start key counter).zipWith (· + ·) (rounds (start key counter))

/-! ### The stream -/

/-- A word of the stream. -/
def word (key : Key) (n : Nat) : UInt32 :=
  (block key (UInt64.ofNat (n / 16))).get ⟨n % 16, Nat.mod_lt _ (by decide)⟩

/-- A double word of the stream, the low word first. -/
def doubleWord (key : Key) (n : Nat) : UInt64 :=
  (word key (2 * n)).toUInt64 ||| ((word key (2 * n + 1)).toUInt64 <<< 32)

end LightArbiter.ChaCha
