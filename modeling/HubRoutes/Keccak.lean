/-!
# The Keccak-256 digest

The sponge over 1600 bits with a rate of 136 bytes, the padding `10*1` and an output of 32 bytes.
-/

namespace HubRoutes.Keccak

/-- Twenty-five lanes of sixty-four bits; the lane in column `x` and row `y` is at `x + 5 * y`. -/
abbrev State := Vector UInt64 25

/-- The index of the lane in a column and a row, both counted modulo five. -/
def laneIndex (column row : Nat) : Fin 25 := ⟨column % 5 + 5 * (row % 5), by omega⟩

def lane (state : State) (column row : Nat) : UInt64 := state.get (laneIndex column row)

/-- The state whose lanes are given by column and row. -/
def ofLanes (value : Nat → Nat → UInt64) : State :=
  Vector.ofFn fun index ↦ value (index.val % 5) (index.val / 5)

/-- The bits of a lane moved up by a distance, those pushed out entering again from below. -/
def rotate (word : UInt64) (distance : Nat) : UInt64 :=
  if distance % 64 == 0 then word
  else (word <<< (distance % 64).toUInt64) ||| (word >>> (64 - distance % 64).toUInt64)

/-- Adds to every lane the parities of the columns beside it. -/
def theta (state : State) : State :=
  let parity (column : Nat) : UInt64 :=
    lane state column 0 ^^^ lane state column 1 ^^^ lane state column 2 ^^^ lane state column 3
      ^^^ lane state column 4
  ofLanes fun column row ↦
    lane state column row ^^^ parity (column + 4) ^^^ rotate (parity (column + 1)) 1

def distances : Vector Nat 25 := #v[
  0, 1, 62, 28, 27,
  36, 44, 6, 55, 20,
  3, 10, 43, 25, 39,
  41, 45, 15, 21, 8,
  18, 2, 61, 56, 14]

/-- Rotates every lane by its distance and moves the lanes to their new places. -/
def permute (state : State) : State :=
  ofLanes fun column row ↦
    let source := column + 3 * row
    rotate (lane state source column) (distances.get (laneIndex source column))

/-- Mixes each lane with the two lanes after it in its row. -/
def chi (state : State) : State :=
  ofLanes fun column row ↦
    lane state column row ^^^ (~~~ lane state (column + 1) row &&& lane state (column + 2) row)

def roundConstants : List UInt64 := [
  0x0000000000000001, 0x0000000000008082, 0x800000000000808A, 0x8000000080008000,
  0x000000000000808B, 0x0000000080000001, 0x8000000080008081, 0x8000000000008009,
  0x000000000000008A, 0x0000000000000088, 0x0000000080008009, 0x000000008000000A,
  0x000000008000808B, 0x800000000000008B, 0x8000000000008089, 0x8000000000008003,
  0x8000000000008002, 0x8000000000000080, 0x000000000000800A, 0x800000008000000A,
  0x8000000080008081, 0x8000000000008080, 0x0000000080000001, 0x8000000080008008]

/-- One round: the steps above, then the round constant into the first lane. -/
def round (state : State) (constant : UInt64) : State :=
  let mixed := chi (permute (theta state))
  mixed.set 0 (mixed[0] ^^^ constant)

def permutation (state : State) : State := roundConstants.foldl round state

/-- The number of message bytes taken in between two permutations. -/
def rate : Nat := 136

/-- The message followed by the padding that fills its last block. -/
def padded (message : List UInt8) : List UInt8 :=
  let missing := rate - message.length % rate
  if missing == 1 then message ++ [0x81]
  else message ++ 0x01 :: List.replicate (missing - 2) 0 ++ [0x80]

/-- A lane from eight bytes, the lowest first. -/
def laneOfBytes (bytes : List UInt8) : UInt64 :=
  bytes.foldr (fun byte word ↦ (word <<< 8) ||| byte.toUInt64) 0

/-- The eight bytes of a lane, the lowest first. -/
def bytesOfLane (word : UInt64) : List UInt8 :=
  (List.range 8).map fun index ↦ (word >>> (8 * index).toUInt64).toUInt8

/-- Takes one block of the message into the state. -/
def absorbBlock (state : State) (block : List UInt8) : State :=
  permutation (Vector.ofFn fun index ↦
    state[index] ^^^ laneOfBytes ((block.drop (8 * index.val)).take 8))

def absorb : Nat → State → List UInt8 → State
  | 0, state, _ => state
  | blocks + 1, state, bytes =>
    absorb blocks (absorbBlock state (bytes.take rate)) (bytes.drop rate)

/-- The digest of a message, thirty-two bytes. -/
def digest (message : List UInt8) : List UInt8 :=
  let bytes := padded message
  let state := absorb (bytes.length / rate) (Vector.replicate 25 0) bytes
  (state.toList.take 4).flatMap bytesOfLane

end HubRoutes.Keccak
