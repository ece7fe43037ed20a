namespace SutraArbiter.Sha256

def initialState : List UInt32 :=
  [0x6A09E667, 0xBB67AE85, 0x3C6EF372, 0xA54FF53A, 0x510E527F, 0x9B05688C,
    0x1F83D9AB, 0x5BE0CD19]

def roundConstants : List UInt32 :=
  [0x428A2F98, 0x71374491, 0xB5C0FBCF, 0xE9B5DBA5, 0x3956C25B, 0x59F111F1,
    0x923F82A4, 0xAB1C5ED5, 0xD807AA98, 0x12835B01, 0x243185BE, 0x550C7DC3,
    0x72BE5D74, 0x80DEB1FE, 0x9BDC06A7, 0xC19BF174, 0xE49B69C1, 0xEFBE4786,
    0x0FC19DC6, 0x240CA1CC, 0x2DE92C6F, 0x4A7484AA, 0x5CB0A9DC, 0x76F988DA,
    0x983E5152, 0xA831C66D, 0xB00327C8, 0xBF597FC7, 0xC6E00BF3, 0xD5A79147,
    0x06CA6351, 0x14292967, 0x27B70A85, 0x2E1B2138, 0x4D2C6DFC, 0x53380D13,
    0x650A7354, 0x766A0ABB, 0x81C2C92E, 0x92722C85, 0xA2BFE8A1, 0xA81A664B,
    0xC24B8B70, 0xC76C51A3, 0xD192E819, 0xD6990624, 0xF40E3585, 0x106AA070,
    0x19A4C116, 0x1E376C08, 0x2748774C, 0x34B0BCB5, 0x391C0CB3, 0x4ED8AA4A,
    0x5B9CCA4F, 0x682E6FF3, 0x748F82EE, 0x78A5636F, 0x84C87814, 0x8CC70208,
    0x90BEFFFA, 0xA4506CEB, 0xBEF9A3F7, 0xC67178F2]

def rotate (x : UInt32) (places : UInt32) : UInt32 :=
  (x >>> places) ||| (x <<< (32 - places))

/-- A one bit, zeros up to eight octets short of a block, and the length in bits. -/
def padding (length : Nat) : List UInt8 :=
  let zeros := (119 - length % 64) % 64
  let bits := 8 * length
  0x80 :: List.replicate zeros 0
    ++ (List.range 8).map fun place => UInt8.ofNat (bits / Nat.pow 256 (7 - place))

def word (a b c d : UInt8) : UInt32 :=
  (a.toUInt32 <<< 24) ||| (b.toUInt32 <<< 16) ||| (c.toUInt32 <<< 8) ||| d.toUInt32

def words : List UInt8 → List UInt32
  | a :: b :: c :: d :: rest => word a b c d :: words rest
  | _ => []

/-- The schedule word that follows the sixteen last ones. -/
def nextWord (window : List UInt32) : UInt32 :=
  let first := window.getD 0 0
  let second := window.getD 1 0
  let tenth := window.getD 9 0
  let fifteenth := window.getD 14 0
  let small := rotate second 7 ^^^ rotate second 18 ^^^ (second >>> 3)
  let large := rotate fifteenth 17 ^^^ rotate fifteenth 19 ^^^ (fifteenth >>> 10)
  first + small + tenth + large

def stretch : Nat → List UInt32 → List UInt32
  | 0, window => window
  | _, [] => []
  | count + 1, first :: rest =>
      first :: stretch count (rest ++ [nextWord (first :: rest)])

def step (state : List UInt32) (input : UInt32 × UInt32) : List UInt32 :=
  match state with
  | [a, b, c, d, e, f, g, h] =>
      let large := rotate e 6 ^^^ rotate e 11 ^^^ rotate e 25
      let choice := (e &&& f) ^^^ (~~~e &&& g)
      let first := h + large + choice + input.1 + input.2
      let small := rotate a 2 ^^^ rotate a 13 ^^^ rotate a 22
      let majority := (a &&& b) ^^^ (a &&& c) ^^^ (b &&& c)
      [first + (small + majority), a, b, c, d + first, e, f, g]
  | _ => state

def compress (state block : List UInt32) : List UInt32 :=
  let mixed := (roundConstants.zip (stretch 48 block)).foldl step state
  state.zipWith (· + ·) mixed

def absorb : Nat → List UInt32 → List UInt32 → List UInt32
  | 0, state, _ => state
  | count + 1, state, input =>
      absorb count (compress state (input.take 16)) (input.drop 16)

def hexWord (x : UInt32) : List Char :=
  let digits := Nat.toDigits 16 x.toNat
  List.replicate (8 - digits.length) '0' ++ digits

def hexDigest (message : List UInt8) : List Char :=
  let input := words (message ++ padding message.length)
  (absorb (input.length / 16) initialState input).flatMap hexWord

end SutraArbiter.Sha256
