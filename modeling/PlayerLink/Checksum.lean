import PlayerLink.Word

/-!
# Word sums

Headers, directory entries and containers are guarded by the sum of their little-endian
words, with wrap-around; a last partial word is filled up with zeros.

`sum16` and `sum32` go through the octets word by word. `Running` is the form for data that
arrives in pieces, whose ends need not be ends of words.
-/

namespace PlayerLink.Checksum

/-- The sum so far and the 16-bit words of the rest. -/
def addWords16 : UInt16 → List UInt8 → UInt16
  | acc, a :: b :: rest => addWords16 (acc + Word.ofLe16 [a, b]) rest
  | acc, rest => acc + Word.ofLe16 rest

/-- The sum of the 16-bit words. -/
def sum16 (bs : List UInt8) : UInt16 := addWords16 0 bs

/-- The sum so far and the 32-bit words of the rest. -/
def addWords32 : UInt32 → List UInt8 → UInt32
  | acc, a :: b :: c :: d :: rest => addWords32 (acc + Word.ofLe32 [a, b, c, d]) rest
  | acc, rest => acc + Word.ofLe32 rest

/-- The sum of the 32-bit words. -/
def sum32 (bs : List UInt8) : UInt32 := addWords32 0 bs

/-- A sum over data that arrives in pieces: the words that are whole so far are summed up, and the
octets behind them are held back until their word is whole. -/
structure Running where
  words : UInt32 := 0
  held : List UInt8 := []
  short : held.length < 4 := by decide
  deriving DecidableEq, Repr

namespace Running

/-- Sums up the whole words of a run and holds back the octets behind them. -/
def ofWords (acc : UInt32) (bs : List UInt8) : Running where
  words := addWords32 acc (bs.take (bs.length / 4 * 4))
  held := bs.drop (bs.length / 4 * 4)
  short := by
    rw [List.length_drop]
    omega

/-- Adds a piece. It first fills up the word that is held back; if it is too short for this, there
is nothing to sum up yet. -/
def add (r : Running) (piece : List UInt8) : Running :=
  if r.held = [] then ofWords r.words piece
  else
    let missing := 4 - r.held.length
    let word := r.held ++ piece.take missing
    if short : word.length < 4 then { r with held := word, short }
    else ofWords (r.words + Word.ofLe32 word) (piece.drop missing)

/-- The sum of everything added so far. -/
def sum (r : Running) : UInt32 :=
  if r.held = [] then r.words else r.words + Word.ofLe32 r.held

end Running

end PlayerLink.Checksum
