import Microclimate.Random.Source

/-!
# The Mersenne Twister

A seeded source of 32-bit words with a period of 2 ^ 19937 - 1, and what is drawn from the words:
numbers of any bit length, integers in a range, doubles in [0, 1), and normally distributed doubles,
which come in pairs of which the second one is kept for the next draw.

* `Microclimate.Twister` – the state of the generator;
* `Microclimate.Twister.ofSeed` – the generator of an integer seed, whose sign does not matter;
* `Microclimate.Twister.word` – the next word.
-/

namespace Microclimate

/-- The state of the generator. -/
structure Twister where
  /-- The present block of 624 words, before tempering. -/
  words : Array UInt32
  /-- How many words of the block were used. -/
  used : Nat
  /-- The second half of the last pair of normally distributed doubles, unscaled. -/
  saved : Option Float := none
  deriving Inhabited

namespace Twister

/-- The number of words in a block. -/
def size : Nat := 624

/-- The word of a block at a place, counted round the block. -/
def wordAt (words : Array UInt32) (i : Nat) : UInt32 := words.getD (i % size) 0

/-! ### Seeding -/

/-- The block that a single word starts. -/
def startBlock (seed : UInt32) : Array UInt32 :=
  (size - 1).fold (fun i _ (block : Array UInt32) =>
    let last := block.getD i 0
    block.push ((last ^^^ (last >>> 30)) * 1812433253 + UInt32.ofNat (i + 1))) #[seed]

/-- A place in a block while it is being mixed. -/
structure Mixing where
  /-- The block. -/
  words : Array UInt32
  /-- The place to be mixed next, from 1 on. -/
  place : Nat

/-- One step of mixing: the word at the present place is combined with the one before it. The block
is passed through in a circle, its last word being copied to its first at each turn. -/
def Mixing.step (m : Mixing) (factor : UInt32) (change : UInt32) : Mixing :=
  let last := m.words.getD (m.place - 1) 0
  let mixed := (m.words.getD m.place 0 ^^^ ((last ^^^ (last >>> 30)) * factor)) + change
  let words := m.words.setIfInBounds m.place mixed
  if m.place + 1 < size then ⟨words, m.place + 1⟩
  else ⟨words.setIfInBounds 0 mixed, 1⟩

/-- The block that a key of words starts. -/
def keyBlock (key : Array UInt32) : Array UInt32 :=
  let m := (max size key.size).fold (fun i _ (m : Mixing) =>
    let j := i % key.size
    m.step 1664525 (key.getD j 0 + j.toUInt32)) ⟨startBlock 19650218, 1⟩
  let m := (size - 1).fold (fun _ _ (m : Mixing) => m.step 1566083941 (0 - m.place.toUInt32)) m
  m.words.setIfInBounds 0 0x80000000

/-- The 32-bit words of a natural number, least significant first, at least one. -/
def keyOf (n : Nat) : Array UInt32 :=
  let count := max 1 ((Nat.log2 n) / 32 + 1)
  Array.ofFn fun i : Fin count => (n >>> (32 * i.val)).toUInt32

/-- The generator of a seed. -/
def ofSeed (seed : Int) : Twister := { words := keyBlock (keyOf seed.natAbs), used := size }

/-! ### Words -/

/-- The block that follows a block. -/
def nextBlock (words : Array UInt32) : Array UInt32 :=
  size.fold (fun i _ (words : Array UInt32) =>
    let y := (wordAt words i &&& 0x80000000) ||| (wordAt words (i + 1) &&& 0x7fffffff)
    let z := wordAt words (i + 397) ^^^ (y >>> 1)
    words.setIfInBounds i (if y &&& 1 = 1 then z ^^^ 0x9908b0df else z)) words

/-- A word as it is given out. -/
def temper (y : UInt32) : UInt32 :=
  let y := y ^^^ (y >>> 11)
  let y := y ^^^ ((y <<< 7) &&& 0x9d2c5680)
  let y := y ^^^ ((y <<< 15) &&& 0xefc60000)
  y ^^^ (y >>> 18)

/-- The next word. -/
def word (t : Twister) : UInt32 × Twister :=
  let t := if t.used < size then t else { t with words := nextBlock t.words, used := 0 }
  (temper (wordAt t.words t.used), { t with used := t.used + 1 })

/-! ### Numbers -/

/-- A number of at most `count` bits: whole words from the least significant on, and the upper bits
of one more word for what is left. -/
def bits (t : Twister) (count : Nat) : Nat × Twister :=
  let whole := count / 32
  let left := count % 32
  let (sum, t) := whole.fold (fun i _ ((sum, t) : Nat × Twister) =>
    let (w, t) := word t
    (sum + w.toNat <<< (32 * i), t)) (0, t)
  if left = 0 then (sum, t)
  else
    let (w, t) := word t
    (sum + (w.toNat >>> (32 - left)) <<< (32 * whole), t)

/-- A number below `n`: numbers of the bit length of `n` are drawn until one of them is. -/
def below (n : Nat) : (tries : Nat) → EStateM Fault Twister Nat
  | 0 => throw .drawsUnending
  | tries + 1 => do
    let r ← modifyGet fun t => t.bits (n.log2 + 1)
    if r < n then return r else below n tries

/-- How many draws in a row are rejected before giving up. -/
def patience : Nat := 0x100000000

/-- An integer from `low` to `high`, both included. -/
def integer (low high : Int) : EStateM Fault Twister Int := do
  let count := high - low + 1
  if count ≤ 0 then throw (.emptyRange low high)
  else return low + (← below count.toNat patience)

/-- A double in [0, 1) with 53 random bits. -/
def unit (t : Twister) : Float × Twister :=
  let (a, t) := t.word
  let (b, t) := t.word
  (((a >>> 5).toFloat * 67108864.0 + (b >>> 6).toFloat) / 9007199254740992.0, t)

/-- Twice pi. -/
def twoPi : Float := 6.283185307179586

/-- A pair of doubles with a normal distribution of mean 0 and spread 1. -/
def normalPair (t : Twister) : (Float × Float) × Twister :=
  let (u, t) := t.unit
  let (v, t) := t.unit
  let angle := u * twoPi
  let radius := (-2.0 * (1.0 - v).log).sqrt
  ((angle.cos * radius, angle.sin * radius), t)

/-- A double with a normal distribution; the saved one is used if there is one. -/
def normal (mean spread : Float) (t : Twister) : Float × Twister :=
  match t.saved with
  | some z => (mean + z * spread, { t with saved := none })
  | none =>
    let ((z, other), t) := t.normalPair
    (mean + z * spread, { t with saved := some other })

instance : RandomSource Twister where
  integer := integer
  normal mean spread := modifyGet (normal mean spread)
  patience _ := patience

end Twister

end Microclimate
