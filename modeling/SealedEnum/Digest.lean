namespace SealedEnum.Digest

/-! The unkeyed BLAKE3 digest of a file's bytes: a binary tree over chunks of 1024 bytes. -/

abbrev Words := Vector UInt32 16

abbrev ChainingValue := Vector UInt32 8

def initialValue : ChainingValue :=
  #v[0x6A09E667, 0xBB67AE85, 0x3C6EF372, 0xA54FF53A, 0x510E527F, 0x9B05688C, 0x1F83D9AB,
    0x5BE0CD19]

def permutation : Vector (Fin 16) 16 :=
  #v[2, 6, 3, 10, 7, 0, 4, 13, 1, 11, 12, 5, 9, 14, 15, 8]

def chunkStart : UInt32 := 1
def chunkEnd : UInt32 := 2
def parentNode : UInt32 := 4
def rootNode : UInt32 := 8

def chunkSize : Nat := 1024
def blockSize : Nat := 64

def rotateRight (word count : UInt32) : UInt32 :=
  (word >>> count) ||| (word <<< (32 - count))

/-- Mixes two message words into four words of the state. -/
def quarter (a b c d : Fin 16) (x y : UInt32) (state : Words) : Words :=
  let state := state.set a (state[a] + state[b] + x)
  let state := state.set d (rotateRight (state[d] ^^^ state[a]) 16)
  let state := state.set c (state[c] + state[d])
  let state := state.set b (rotateRight (state[b] ^^^ state[c]) 12)
  let state := state.set a (state[a] + state[b] + y)
  let state := state.set d (rotateRight (state[d] ^^^ state[a]) 8)
  let state := state.set c (state[c] + state[d])
  state.set b (rotateRight (state[b] ^^^ state[c]) 7)

/-- Columns first, then diagonals. -/
def round (message state : Words) : Words :=
  let state := quarter 0 4 8 12 message[0] message[1] state
  let state := quarter 1 5 9 13 message[2] message[3] state
  let state := quarter 2 6 10 14 message[4] message[5] state
  let state := quarter 3 7 11 15 message[6] message[7] state
  let state := quarter 0 5 10 15 message[8] message[9] state
  let state := quarter 1 6 11 12 message[10] message[11] state
  let state := quarter 2 7 8 13 message[12] message[13] state
  quarter 3 4 9 14 message[14] message[15] state

def permute (message : Words) : Words :=
  permutation.map fun index => message[index]

def rounds : Nat → Words → Words → Words
  | 0, _, state => state
  | count + 1, message, state => rounds count (permute message) (round message state)

/-- A compression that is still to be done, since the last one is marked as the root. -/
structure Node where
  chaining : ChainingValue
  message : Words
  counter : Nat
  length : Nat
  flags : UInt32

def Node.compress (node : Node) (flags : UInt32) : ChainingValue :=
  let state : Words := node.chaining ++
    (#v[0x6A09E667, 0xBB67AE85, 0x3C6EF372, 0xA54FF53A, UInt32.ofNat node.counter,
      UInt32.ofNat (node.counter >>> 32), UInt32.ofNat node.length, node.flags ||| flags] :
        Vector UInt32 8)
  let mixed := rounds 7 node.message state
  Vector.ofFn fun i : Fin 8 => mixed[i.val] ^^^ mixed[i.val + 8]

def Node.value (node : Node) : ChainingValue :=
  node.compress 0

/-- The four bytes from a position on, the lowest first; bytes beyond the end are zero. -/
def wordAt (bytes : List UInt8) (position : Nat) : UInt32 :=
  (bytes.drop position |>.take 4).foldr (fun byte word => word * 256 + byte.toUInt32) 0

def messageOf (block : List UInt8) : Words :=
  Vector.ofFn fun i : Fin 16 => wordAt block (4 * i.val)

/-- Pieces of the given size and a rest, which is empty only where all is. -/
def pieces (size : Nat) : Nat → List UInt8 → List (List UInt8)
  | 0, bytes => [bytes]
  | fuel + 1, bytes =>
      if bytes.length ≤ size then [bytes]
      else bytes.take size :: pieces size fuel (bytes.drop size)

private def chunkFrom (counter : Nat) (flags : UInt32) (chaining : ChainingValue) :
    List (List UInt8) → Node
  | [] => ⟨chaining, messageOf [], counter, 0, flags ||| chunkEnd⟩
  | [block] => ⟨chaining, messageOf block, counter, block.length, flags ||| chunkEnd⟩
  | block :: rest =>
      chunkFrom counter 0 (Node.value ⟨chaining, messageOf block, counter, block.length, flags⟩)
        rest

def chunk (counter : Nat) (bytes : List UInt8) : Node :=
  chunkFrom counter chunkStart initialValue (pieces blockSize bytes.length bytes)

def parent (left right : Node) : Node :=
  ⟨initialValue, left.value ++ right.value, 0, blockSize, parentNode⟩

/-- The largest power of two below a number. -/
def powerBelow (n : Nat) : Nat :=
  1 <<< Nat.log2 (n - 1)

/-- As many leaves as a power of two allows go to the left, and some to the right. -/
def tree : List Node → Node
  | [] => chunk 0 []
  | [leaf] => leaf
  | first :: second :: rest =>
      let leaves := first :: second :: rest
      let half := powerBelow leaves.length
      parent (tree (leaves.take half)) (tree (leaves.drop half))
termination_by leaves => leaves.length
decreasing_by
  · have := Nat.log2_self_le (n := rest.length + 1) (by omega)
    simp only [powerBelow, Nat.one_shiftLeft, List.length_take, List.length_cons,
      Nat.add_sub_cancel]
    omega
  · have := Nat.one_le_two_pow (n := Nat.log2 (rest.length + 1))
    simp only [powerBelow, Nat.one_shiftLeft, List.length_drop, List.length_cons,
      Nat.add_sub_cancel]
    omega

def hexadecimalDigit (n : Nat) : Char :=
  if n < 10 then Char.ofNat ('0'.toNat + n) else Char.ofNat ('a'.toNat + n - 10)

def hexadecimalByte (byte : Nat) : List Char :=
  [hexadecimalDigit (byte / 16 % 16), hexadecimalDigit (byte % 16)]

/-- The bytes of a word in lower-case digits, the lowest byte first. -/
def hexadecimalWord (word : UInt32) : List Char :=
  let n := word.toNat
  [n, n >>> 8, n >>> 16, n >>> 24].flatMap fun part => hexadecimalByte (part % 256)

def ofBytes (bytes : ByteArray) : String :=
  let chunks := pieces chunkSize bytes.size bytes.toList
  let root := tree (chunks.zipIdx.map fun (bytes, counter) => chunk counter bytes)
  String.ofList ((root.compress rootNode).toList.flatMap hexadecimalWord)

end SealedEnum.Digest
