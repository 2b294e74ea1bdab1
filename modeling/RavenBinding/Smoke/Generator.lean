import RavenBinding.Number.Binary64

/-!
# A generator of uniform words

The generator keeps 624 words. When all of them are used up, they are replaced by the next 624 of a
linear recurrence over bits; a word is tempered before it is given out. The state is seeded from a
list of words, so that seeds of any size count in full.

## Main definitions

- `Generator`: the state
- `Generator.ofSeed`: the state that belongs to an integer
- `Generator.nextWord`, `Generator.nextFraction`, `Generator.nextBelow`: what is drawn from it
-/

namespace RavenBinding

/-- The state of a generator: its words, and how many of them are used up. -/
structure Generator where
  words : Vector UInt32 624
  used : Fin 625

namespace Generator

/-- The bits of a word folded onto each other before they are multiplied. -/
def fold (word : UInt32) : UInt32 := word ^^^ (word >>> 30)

/-- The words before a seed is mixed in. -/
def baseWords : Vector UInt32 624 :=
  (List.finRange 624).foldl
    (fun words (i : Fin 624) =>
      if i = 0 then words.set 0 19650218
      else words.set i.val (fold words[i - 1] * 1812433253 + UInt32.ofNat i.val) i.isLt)
    (Vector.replicate 624 0)

/-- One step of mixing: the word at a place is changed by the one before it, and the place moves on.
The first word takes the value of the last one at the end of a round. -/
def mix (factor : UInt32) (state : Vector UInt32 624 × Fin 624) (addend : UInt32) :
    Vector UInt32 624 × Fin 624 :=
  let (words, i) := state
  let changed := words.set i.val ((words[i] ^^^ (fold words[i - 1] * factor)) + addend) i.isLt
  if i = 623 then (changed.set 0 changed[623], 1) else (changed, i + 1)

/-- What the first round of mixing adds: the words of the key over and over, each with its place. -/
def addends (key : List UInt32) : List UInt32 :=
  (List.range (max 624 key.length)).map fun k =>
    let j := k % key.length
    key.getD j 0 + UInt32.ofNat j

/-- The state that belongs to a list of words. -/
def ofKey (key : List UInt32) : Generator :=
  let keyed := (addends key).foldl (mix 1664525) (baseWords, 1)
  let mixed := (List.range 623).foldl
    (fun state _ => mix 1566083941 state (0 - UInt32.ofNat state.2.val)) keyed
  { words := mixed.1.set 0 0x80000000, used := 624 }

/-- The words of a number in base `2 ^ 32`, the lowest one first; there is at least one. -/
def keyOfNat (n : Nat) : List UInt32 :=
  if n < 0x100000000 then [UInt32.ofNat n]
  else UInt32.ofNat (n % 0x100000000) :: keyOfNat (n / 0x100000000)
termination_by n
decreasing_by omega

/-- The state that belongs to an integer; its sign does not count. -/
def ofSeed (seed : Int) : Generator := ofKey (keyOfNat seed.natAbs)

/-- The word that replaces the one at a place: its highest bit and the lower bits of the next one,
shifted and combined with a word further on. -/
def twistedWord (words : Vector UInt32 624) (i : Fin 624) : UInt32 :=
  let joined := (words[i] &&& 0x80000000) ||| (words[i + 1] &&& 0x7FFFFFFF)
  words[i + 397] ^^^ (joined >>> 1) ^^^ (if joined &&& 1 = 1 then 0x9908B0DF else 0)

/-- The next 624 words. -/
def twist (words : Vector UInt32 624) : Vector UInt32 624 :=
  (List.finRange 624).foldl
    (fun words (i : Fin 624) => words.set i.val (twistedWord words i) i.isLt) words

/-- A word as it is given out. -/
def temper (word : UInt32) : UInt32 :=
  let word := word ^^^ (word >>> 11)
  let word := word ^^^ ((word <<< 7) &&& 0x9D2C5680)
  let word := word ^^^ ((word <<< 15) &&& 0xEFC60000)
  word ^^^ (word >>> 18)

/-- Draws a word. -/
def nextWord : StateM Generator UInt32 := fun g =>
  if h : g.used.val < 624 then
    (temper g.words[g.used.val], { g with used := ⟨g.used.val + 1, by omega⟩ })
  else
    let words := twist g.words
    (temper words[0], { words := words, used := 1 })

/-- Draws the numerator of a fraction with denominator `2 ^ 53`. -/
def nextFraction : StateM Generator Nat := do
  let high ← nextWord
  let low ← nextWord
  pure ((high >>> 5).toNat * 0x4000000 + (low >>> 6).toNat)

/-- Draws a number below a small bound: the integer part of the bound times a fraction, where the
product is rounded to the nearest floating point number. -/
def nextBelow (bound : Nat) : StateM Generator Nat := do
  let fraction ← nextFraction
  let (num, den) := (Binary64.ofRatio false (fraction * bound) 0x20000000000000).ratio
  pure (num / den)

end Generator

end RavenBinding
