import Adb.Packet

/-!
# `IOVector`

The byte queue of `types.h`: a chain of blocks, without the first `beginOffset` bytes of the first
block and the last `endOffset` bytes of the last. The operations have their `CHECK`s;
`IoVectorTheorems` reads them as operations on the byte string `bytes`.
-/

namespace Adb

structure IOVector where
  chainLength : ℕ := 0
  beginOffset : ℕ := 0
  endOffset : ℕ := 0
  chain : List Bytes := []
deriving DecidableEq, Repr

namespace IOVector

def size (v : IOVector) : ℕ := v.chainLength - v.beginOffset - v.endOffset

def empty (v : IOVector) : Bool := v.size == 0

def clear (_ : IOVector) : IOVector := {}

def append (v : IOVector) (block : Bytes) : Res IOVector := do
  check (block.length != 0) .appendEmpty
  check (v.endOffset == 0) .appendEndOffset
  pure { v with chainLength := v.chainLength + block.length, chain := v.chain ++ [block] }

def popFrontBlock (v : IOVector) : IOVector :=
  { v with
    chainLength := v.chainLength - (v.chain.headD []).length
    beginOffset := 0
    chain := v.chain.tail }

/-- The `while (head.size() < len)` loop of `take_front`. Every round pops a block of the
chain, so the chain bounds the number of rounds. -/
def takeFrontLoop (len : ℕ) : List Bytes → IOVector → IOVector → Res (IOVector × IOVector)
  | [], head, v => pure (head, v)
  | _ :: rest, head, v =>
    if head.size < len then do
      let v := v.popFrontBlock
      check (!v.chain.isEmpty) .takeFrontChain
      let head ← head.append (v.chain.headD [])
      takeFrontLoop len rest head v
    else
      pure (head, v)

def takeFront (v : IOVector) (len : ℕ) : Res (IOVector × IOVector) :=
  if len = 0 then
    pure ({}, v)
  else do
    check (len ≤ v.size) .takeFrontSize
    let firstBlock := v.chain.headD []
    check (v.beginOffset ≤ firstBlock.length) .takeFrontBegin
    let head ← ({} : IOVector).append firstBlock
    let (head, v) ← takeFrontLoop len v.chain { head with beginOffset := v.beginOffset } v
    if head.size = len then
      pure ({ head with endOffset := 0 }, { v with beginOffset := 0 }.popFrontBlock)
    else do
      let bytesTaken := head.size - len
      check (bytesTaken ≤ (v.chain.headD []).length) .takeFrontTaken
      pure ({ head with endOffset := bytesTaken },
        { v with beginOffset := (v.chain.headD []).length - bytesTaken })

def trimFront (v : IOVector) : Res IOVector :=
  if v.beginOffset = 0 then pure v
  else
    match v.chain with
    | [] => throw .wild
    | first :: rest =>
      pure { v with
        chain := first.drop v.beginOffset :: rest
        chainLength := v.chainLength - v.beginOffset
        beginOffset := 0 }

/-- `IOVector(IOVector&&)` and the assignment: the vector that takes over the blocks, and what is
left of the other. -/
def move (v : IOVector) : IOVector × IOVector := (v, {})

/-- `IOVector::iterate_blocks`: the pieces handed to the callback, in order. Only the first
block is cut at the front (`begin`), only the last one at the back. -/
def iterateBlocks (endOffset : ℕ) : ℕ → List Bytes → Res (List Bytes)
  | _, [] => pure []
  | begin, [block] => do
    check (begin ≤ block.length) .iterateBegin
    check (endOffset ≤ (block.drop begin).length) .iterateEnd
    pure [(block.drop begin).take ((block.drop begin).length - endOffset)]
  | begin, block :: next :: rest => do
    check (begin ≤ block.length) .iterateBegin
    let pieces ← iterateBlocks endOffset 0 (next :: rest)
    pure (block.drop begin :: pieces)

def iovecs (v : IOVector) : Res (List Bytes) := iterateBlocks v.endOffset v.beginOffset v.chain

/-- The callback of `coalesce`, `memcpy(&result[offset], data, len)`, for one piece after the
other. -/
def copyPieces (result : Bytes) (offset : ℕ) : List Bytes → Res Bytes
  | [] => pure result
  | piece :: rest =>
    if offset + piece.length ≤ result.length then
      copyPieces (result.take offset ++ piece ++ result.drop (offset + piece.length))
        (offset + piece.length) rest
    else throw .wild

def coalesce (v : IOVector) : Res Bytes :=
  if v.size = 0 then pure []
  else do
    let pieces ← iterateBlocks v.endOffset v.beginOffset v.chain
    copyPieces (List.replicate v.size 0) 0 pieces

def coalesced {α : Type} (f : Bytes → α) (v : IOVector) : Res α :=
  match v.chain with
  | [block] =>
    -- one block is used directly
    if v.beginOffset + v.size ≤ block.length then
      pure (f ((block.drop v.beginOffset).take v.size))
    else throw .wild
  | _ => do
    let data ← v.coalesce
    pure (f data)

def bytes (v : IOVector) : Bytes := (v.chain.flatten.drop v.beginOffset).take v.size

end IOVector

end Adb
