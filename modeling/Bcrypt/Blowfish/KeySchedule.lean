import Bcrypt.Blowfish
import Bcrypt.Blowfish.KeyCycle
import Bcrypt.Cost
import Bcrypt.Salt

/-!
# The expensive key schedule

An expansion combines a key with the subkeys and then replaces every word of the state
by encrypting a running block with the state as it stands. The schedule expands the
initial state once with key and salt, then goes on expanding with the key alone and the
salt alone, as often as the cost says.
-/

set_option autoImplicit false

namespace Bcrypt.Blowfish.CipherState

def addKey (state : CipherState) (key : List UInt8) : CipherState :=
  if nonempty : key ≠ [] then
    { state with subkeys := (KeyCycle.start key nonempty).combine state.subkeys 18 (by omega) }
  else
    state

@[inline] def setSubkeys (state : CipherState) (pair : Nat) (bounded : pair < 9) (block : Block) :
    CipherState :=
  { state with
    subkeys := (state.subkeys.set (2 * pair) block.left).set (2 * pair + 1) block.right }

@[inline] def setBoxes (state : CipherState) (pair : Nat) (bounded : pair < 512) (block : Block) :
    CipherState :=
  { state with
    boxes := (state.boxes.set (2 * pair) block.left).set (2 * pair + 1) block.right }

/-- Replaces the last `count` pairs of subkeys. Before each encryption the running block
is combined with `next`; `next` and `after` take turns. -/
def refreshSubkeys (state : CipherState) (block next after : Block) :
    (count : Nat) → count ≤ 9 → CipherState × Block
  | 0, _ => (state, block)
  | count + 1, bounded =>
      let block := state.encrypt (block.xor next)
      refreshSubkeys (state.setSubkeys (8 - count) (by omega) block) block after next count
        (by omega)

def refreshBoxes (state : CipherState) (block next after : Block) :
    (count : Nat) → count ≤ 512 → CipherState
  | 0, _ => state
  | count + 1, bounded =>
      let block := state.encrypt (block.xor next)
      refreshBoxes (state.setBoxes (511 - count) (by omega) block) block after next count (by omega)

/-- Replaces every word of a state, subkeys first. There are nine pairs of subkeys, an
odd number, so the boxes begin with the second of the two blocks. -/
def refresh (state : CipherState) (first second : Block) : CipherState :=
  let (state, block) := state.refreshSubkeys .zero first second 9 (by omega)
  state.refreshBoxes block second first 512 (by omega)

def expandKey (state : CipherState) (key : List UInt8) : CipherState :=
  (state.addKey key).refresh .zero .zero

def expandKeyWithSalt (state : CipherState) (key : List UInt8) (salt : Salt) : CipherState :=
  (state.addKey key).refresh salt.firstHalf salt.secondHalf

def rekey (key : List UInt8) (salt : Salt) : Nat → CipherState → CipherState
  | 0, state => state
  | count + 1, state => rekey key salt count ((state.expandKey key).expandKey salt.bytes.toList)

def schedule (state : CipherState) (cost : Cost) (salt : Salt) (key : List UInt8) : CipherState :=
  rekey key salt cost.rounds (state.reset.expandKeyWithSalt key salt)

end Bcrypt.Blowfish.CipherState
