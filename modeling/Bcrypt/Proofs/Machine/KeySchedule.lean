import Bcrypt.Proofs.Blowfish.Expansion
import Bcrypt.Proofs.Machine.Cipher

/-!
# The key schedule on a machine

A cursor goes round a key, a second one round the words of the salt, and every word of
the state is replaced by index. Neither cursor leaves its words, however long the
schedule goes on, and every index is inside the state: a machine derives the state that
the schedule derives.
-/

set_option autoImplicit false

namespace Bcrypt.Machine

open Blowfish (CipherState KeyCycle)

structure Cursor where
  key : List UInt8
  index : Nat

namespace Cursor

def place (cursor : Cursor) : Nat := if cursor.index = cursor.key.length then 0 else cursor.index

def nextByte (cursor : Cursor) : Checked (UInt8 × Cursor) := do
  let byte ← read cursor.key cursor.place
  return (byte, ⟨cursor.key, ← add cursor.place 1⟩)

def appendByte (word : UInt32) (cursor : Cursor) : Checked (UInt32 × Cursor) := do
  let (byte, cursor) ← cursor.nextByte
  return ((← shiftLeft word 8) ||| byte.toUInt32, cursor)

def nextWord (cursor : Cursor) : Checked (UInt32 × Cursor) :=
  times (fun _ reached => appendByte reached.1 reached.2) 0 4 (0, cursor)

def of (cycle : KeyCycle) : Cursor := ⟨cycle.key, cycle.index⟩

end Cursor

theorem next_byte_key (cycle : KeyCycle) : cycle.nextByte.2.key = cycle.key := by
  rw [KeyCycle.nextByte]
  split <;> rfl

theorem next_word_key (cycle : KeyCycle) : cycle.nextWord.2.key = cycle.key := by
  simp only [KeyCycle.nextWord, next_byte_key]

/-- The cursor goes back to the first byte before it would leave the key, which has a first byte. -/
theorem next_byte_runs {cycle : KeyCycle} (stored : cycle.key.length < USize.size) :
    (Cursor.of cycle).nextByte = .ok (cycle.nextByte.1, Cursor.of cycle.nextByte.2) := by
  have limit := USize.le_size
  have positive := List.length_pos_iff.mpr cycle.nonempty
  have reached := cycle.index_le
  by_cases inside : cycle.index < cycle.key.length
  · have place : (Cursor.of cycle).place = cycle.index := if_neg (Nat.ne_of_lt inside)
    have byte : read (Cursor.of cycle).key cycle.index = .ok cycle.key[cycle.index] :=
      read_ok (List.getElem?_eq_getElem inside)
    rw [Cursor.nextByte, place, byte, ok_bind, add_ok (by omega), KeyCycle.nextByte, dif_pos inside]
    rfl
  · have place : (Cursor.of cycle).place = 0 :=
      if_pos (Nat.le_antisymm reached (Nat.not_lt.mp inside))
    have byte : read (Cursor.of cycle).key 0 = .ok (cycle.key.head cycle.nonempty) := by
      apply read_ok
      rw [← List.head?_eq_getElem?]
      exact List.head?_eq_some_head cycle.nonempty
    rw [Cursor.nextByte, place, byte, ok_bind, add_ok (by omega), KeyCycle.nextByte, dif_neg inside]
    rfl

theorem append_byte_runs (word : UInt32) {cycle : KeyCycle}
    (stored : cycle.key.length < USize.size) :
    Cursor.appendByte word (Cursor.of cycle) =
      .ok (word <<< 8 ||| cycle.nextByte.1.toUInt32, Cursor.of cycle.nextByte.2) := by
  simp only [Cursor.appendByte, next_byte_runs stored, ok_bind,
    shift_left_ok (show 8 < 32 by omega)]
  rfl

theorem next_word_runs {cycle : KeyCycle} (stored : cycle.key.length < USize.size) :
    (Cursor.of cycle).nextWord = .ok (cycle.nextWord.1, Cursor.of cycle.nextWord.2) := by
  have appended (first second third fourth : UInt8) :
      ((((0 : UInt32) <<< 8 ||| first.toUInt32) <<< 8 ||| second.toUInt32) <<< 8 |||
          third.toUInt32) <<< 8 ||| fourth.toUInt32 =
        Word.ofBytes first second third fourth := by
    apply UInt32.eq_of_toBitVec_eq
    simp [Word.ofBytes, BitVec.shiftLeft_or_distrib]
  rw [Cursor.nextWord, times, append_byte_runs _ stored, ok_bind, times,
    append_byte_runs _ (by rwa [next_byte_key]), ok_bind, times,
    append_byte_runs _ (by rwa [next_byte_key, next_byte_key]), ok_bind, times,
    append_byte_runs _ (by rwa [next_byte_key, next_byte_key, next_byte_key]), ok_bind, times,
    appended]
  simp only [KeyCycle.nextWord]
  rfl

theorem set_subkey_runs (state : CipherState) (index : Nat) (word : UInt32) (inside : index < 18) :
    setSubkey state index word = .ok { state with subkeys := state.subkeys.set index word } := by
  rw [setSubkey, write_ok state.subkeys index word inside]
  rfl

def addWord (turn : Nat) (reached : CipherState × Cursor) : Checked (CipherState × Cursor) := do
  let (state, cursor) := reached
  let (word, cursor) ← cursor.nextWord
  return (← setSubkey state turn ((← subkey state turn) ^^^ word), cursor)

def addKey (state : CipherState) (key : List UInt8) : Checked CipherState :=
  if key = [] then pure state else Prod.fst <$> times addWord 0 18 (state, ⟨key, 0⟩)

theorem combine_runs (state : CipherState) {cycle : KeyCycle}
    (stored : cycle.key.length < USize.size) (count : Nat) (bounded : count ≤ 18) :
    Prod.fst <$> times addWord (18 - count) count (state, Cursor.of cycle) =
      .ok { state with subkeys := cycle.combine state.subkeys count bounded } := by
  induction count generalizing state cycle with
  | zero => rfl
  | succ count ih =>
      have turn : 18 - (count + 1) = 17 - count := by omega
      have following : 17 - count + 1 = 18 - count := by omega
      have added : addWord (17 - count) (state, Cursor.of cycle) =
          .ok ({ state with
              subkeys :=
                state.subkeys.set (17 - count) (state.subkeys[17 - count] ^^^ cycle.nextWord.1) },
            Cursor.of cycle.nextWord.2) := by
        simp only [addWord, next_word_runs stored, ok_bind,
          subkey_runs state (17 - count) (by omega),
          set_subkey_runs state (17 - count) _ (by omega)]
        rfl
      rw [times, turn, added, ok_bind, following, ih _ (by rwa [next_word_key]) (by omega)]
      simp only [KeyCycle.combine]

theorem add_key_runs (state : CipherState) {key : List UInt8} (stored : key.length < USize.size) :
    addKey state key = .ok (state.addKey key) := by
  rw [addKey, CipherState.addKey]
  by_cases empty : key = []
  · rw [if_pos empty, dif_neg (not_not_intro empty)]
    rfl
  · rw [if_neg empty, dif_pos empty]
    exact combine_runs state (show (KeyCycle.start key empty).key.length < USize.size from stored)
      18 (by omega)

/-- A state on the way, the running block, and where the next two words that are
combined with it stand. -/
structure Running where
  state : CipherState
  block : Block
  next : Nat

namespace Running

def advance (data : List UInt32) (running : Running) : Checked Running := do
  let left := running.block.left ^^^ (← read data running.next)
  let right := running.block.right ^^^ (← read data (← add running.next 1))
  let next ← add running.next 2
  let block ← encrypt running.state ⟨left, right⟩
  return ⟨running.state, block, next % 4⟩

def replaceSubkeys (data : List UInt32) (turn : Nat) (running : Running) : Checked Running := do
  let running ← running.advance data
  let state ← setSubkey running.state (2 * turn) running.block.left
  let state ← setSubkey state (← add (2 * turn) 1) running.block.right
  return ⟨state, running.block, running.next⟩

def replaceEntries (data : List UInt32) (box turn : Nat) (running : Running) : Checked Running := do
  let running ← running.advance data
  let state ← setBoxEntry running.state box (2 * turn) running.block.left
  let state ← setBoxEntry state box (← add (2 * turn) 1) running.block.right
  return ⟨state, running.block, running.next⟩

end Running

def expandState (data : List UInt32) (state : CipherState) : Checked CipherState := do
  let running ← times (Running.replaceSubkeys data) 0 9 ⟨state, .zero, 0⟩
  Running.state <$> times (fun box => times (Running.replaceEntries data box) 0 128) 0 4 running

theorem set_box_entry_runs (state : CipherState) {box entry : Nat} (word : UInt32)
    (boxInside : box < 4) (inside : entry < 256) :
    setBoxEntry state box entry word =
      .ok { state with boxes := state.boxes.set (256 * box + entry) word } := by
  rw [setBoxEntry, boxPlace, if_pos ⟨boxInside, inside⟩, ok_bind,
    write_ok state.boxes _ word (by omega)]
  rfl

def wordsOf (first second : Block) : List UInt32 :=
  [first.left, first.right, second.left, second.right]

section

variable (first second : Block) (state : CipherState) (block : Block)

/-- After any number of pairs the cursor stands at one of the two blocks in turn. -/
theorem offered_words (pair : Nat) :
    read (wordsOf first second) (2 * (pair % 2)) = .ok (Blowfish.turn first second pair).left ∧
      read (wordsOf first second) (2 * (pair % 2) + 1) =
        .ok (Blowfish.turn first second pair).right := by
  rw [Blowfish.turn]
  rcases Nat.mod_two_eq_zero_or_one pair with even | odd
  · rw [even]
    exact ⟨rfl, rfl⟩
  · rw [odd]
    exact ⟨rfl, rfl⟩

theorem advance_runs (pair : Nat) :
    Running.advance (wordsOf first second) ⟨state, block, 2 * (pair % 2)⟩ =
      .ok ⟨state, state.encrypt (block.xor (Blowfish.turn first second pair)),
        2 * ((pair + 1) % 2)⟩ := by
  have further : (2 * (pair % 2) + 2) % 4 = 2 * ((pair + 1) % 2) := by omega
  rcases offered_words first second pair with ⟨left, right⟩
  simp only [Running.advance, left, right,
    add_small (show 2 * (pair % 2) + 1 < 4294967296 by omega),
    add_small (show 2 * (pair % 2) + 2 < 4294967296 by omega), ok_bind, encrypt_runs, further]
  rfl

theorem replace_subkeys_runs (pair : Nat) (bounded : pair < 9) :
    Running.replaceSubkeys (wordsOf first second) pair ⟨state, block, 2 * (pair % 2)⟩ =
      let next := state.encrypt (block.xor (Blowfish.turn first second pair))
      .ok ⟨state.setSubkeys pair bounded next, next, 2 * ((pair + 1) % 2)⟩ := by
  simp only [Running.replaceSubkeys, advance_runs, ok_bind,
    add_small (show 2 * pair + 1 < 4294967296 by omega),
    set_subkey_runs _ (2 * pair) _ (show 2 * pair < 18 by omega),
    set_subkey_runs _ (2 * pair + 1) _ (show 2 * pair + 1 < 18 by omega)]
  rfl

theorem replace_entries_runs (pair done : Nat) (bounded : pair < 512) :
    Running.replaceEntries (wordsOf first second) (pair / 128) (pair % 128)
        ⟨state, block, 2 * (done % 2)⟩ =
      let next := state.encrypt (block.xor (Blowfish.turn first second done))
      .ok ⟨state.setBoxes pair bounded next, next, 2 * ((done + 1) % 2)⟩ := by
  have left : 256 * (pair / 128) + 2 * (pair % 128) = 2 * pair := by omega
  have right : 256 * (pair / 128) + (2 * (pair % 128) + 1) = 2 * pair + 1 := by omega
  have boxInside : pair / 128 < 4 := by omega
  simp only [Running.replaceEntries, advance_runs, ok_bind,
    add_small (show 2 * (pair % 128) + 1 < 4294967296 by omega),
    set_box_entry_runs _ _ boxInside (show 2 * (pair % 128) < 256 by omega),
    set_box_entry_runs _ _ boxInside (show 2 * (pair % 128) + 1 < 256 by omega), left, right]
  rfl

theorem refresh_subkeys_runs (count : Nat) (bounded : count ≤ 9) :
    times (Running.replaceSubkeys (wordsOf first second)) (9 - count) count
        ⟨state, block, 2 * ((9 - count) % 2)⟩ =
      let refreshed := state.refreshSubkeys block (Blowfish.turn first second (9 - count))
        (Blowfish.turn first second (9 - count + 1)) count bounded
      .ok ⟨refreshed.1, refreshed.2, 2 * (9 % 2)⟩ := by
  induction count generalizing state block with
  | zero => rfl
  | succ count ih =>
      have turn : 9 - (count + 1) = 8 - count := by omega
      have following : 8 - count + 1 = 9 - count := by omega
      have afterwards := Blowfish.turn_next first second (8 - count)
      rw [times, turn, replace_subkeys_runs first second state block (8 - count) (by omega),
        ok_bind, following, ih _ _ (by omega), CipherState.refreshSubkeys, ← afterwards,
        ← following]

theorem refresh_boxes_runs (count : Nat) (bounded : count ≤ 512) :
    Running.state <$> times
        (fun turn => Running.replaceEntries (wordsOf first second) (turn / 128) (turn % 128))
        (512 - count) count ⟨state, block, 2 * ((521 - count) % 2)⟩ =
      .ok (state.refreshBoxes block (Blowfish.turn first second (521 - count))
        (Blowfish.turn first second (521 - count + 1)) count bounded) := by
  induction count generalizing state block with
  | zero => rfl
  | succ count ih =>
      have turn : 512 - (count + 1) = 511 - count := by omega
      have done : 521 - (count + 1) = 520 - count := by omega
      have followingTurn : 511 - count + 1 = 512 - count := by omega
      have followingDone : 520 - count + 1 = 521 - count := by omega
      have afterwards := Blowfish.turn_next first second (520 - count)
      rw [times, turn, done,
        replace_entries_runs first second state block (511 - count) _ (by omega), ok_bind,
        followingTurn, followingDone, ih _ _ (by omega), CipherState.refreshBoxes, ← afterwards,
        ← followingDone]

theorem expand_state_runs :
    expandState (wordsOf first second) state = .ok (state.refresh first second) := by
  have subkeys := refresh_subkeys_runs first second state .zero 9 (by omega)
  have boxes (state : CipherState) (block : Block) :=
    refresh_boxes_runs first second state block 512 (by omega)
  have nested (running : Running) :=
    times_nested (Running.replaceEntries (wordsOf first second)) (show 0 < 128 by omega) 0 4 running
  change (times _ 0 9 _ >>= fun running => _) = _
  rw [subkeys, ok_bind, nested, boxes]
  rfl

end

def saltWords (salt : Salt) : Checked (List UInt32) :=
  (chunks 4 salt.bytes.toList).mapM (readWord · 0)

def expandKey (state : CipherState) (key : List UInt8) : Checked CipherState := do
  expandState [0, 0, 0, 0] (← addKey state key)

def expandKeyWithSalt (state : CipherState) (key : List UInt8) (salt : Salt) :
    Checked CipherState := do
  let state ← addKey state key
  expandState (← saltWords salt) state

def rounds (cost : Cost) : Checked Nat := UInt32.toNat <$> shiftLeft 1 cost.value

def setup (state : CipherState) (cost : Cost) (salt : Salt) (key : List UInt8) :
    Checked CipherState := do
  let state ← expandKeyWithSalt state.reset key salt
  let rounds ← rounds cost
  times (fun _ state => do expandKey (← expandKey state key) salt.bytes.toList) 0 rounds state

theorem salt_words_run (salt : Salt) :
    saltWords salt = .ok (wordsOf salt.firstHalf salt.secondHalf) := by
  have bytes : salt.bytes.toList =
      [salt.bytes[0], salt.bytes[1], salt.bytes[2], salt.bytes[3],
        salt.bytes[4], salt.bytes[5], salt.bytes[6], salt.bytes[7],
        salt.bytes[8], salt.bytes[9], salt.bytes[10], salt.bytes[11],
        salt.bytes[12], salt.bytes[13], salt.bytes[14], salt.bytes[15]] := by
    calc salt.bytes.toList
      _ = (Vector.ofFn fun index : Fin 16 => salt.bytes[index.val]).toList := by
        rw [Vector.ofFn_getElem]
      _ = List.ofFn fun index : Fin 16 => salt.bytes[index.val] := Vector.toList_ofFn
      _ = _ := rfl
  have cut (first second third fourth : UInt8) (rest : List UInt8) :
      chunks 4 (first :: second :: third :: fourth :: rest) =
        [first, second, third, fourth] :: chunks 4 rest :=
    chunks_append (show [first, second, third, fourth].length = 4 from rfl) (by omega) rest
  rw [saltWords, bytes, cut, cut, cut, cut, chunks_nil]
  rfl

/-- The greatest cost is one less than the width of a word. -/
theorem rounds_run (cost : Cost) : rounds cost = .ok cost.rounds := by
  have inside : cost.value < 32 := Nat.lt_succ_of_le cost.le_greatest
  have fits : (1 : UInt32).toNat * 2 ^ cost.value < UInt32.size := by
    rw [UInt32.toNat_one, Nat.one_mul]
    exact Nat.pow_lt_pow_right (by omega) inside
  have value : ((1 : UInt32) <<< UInt32.ofNat cost.value).toNat = cost.rounds := by
    rw [shifted_left_value 1 inside fits, UInt32.toNat_one, Nat.one_mul]
    rfl
  rw [rounds, shift_left_ok inside, ← value]
  rfl

section

variable (state : CipherState) {key : List UInt8} (stored : key.length < USize.size)

include stored

theorem expand_key_runs : expandKey state key = .ok (state.expandKey key) := by
  rw [expandKey, add_key_runs state stored, ok_bind]
  exact expand_state_runs .zero .zero _

theorem expand_key_with_salt_runs (salt : Salt) :
    expandKeyWithSalt state key salt = .ok (state.expandKeyWithSalt key salt) := by
  rw [expandKeyWithSalt, add_key_runs state stored, ok_bind, salt_words_run, ok_bind]
  exact expand_state_runs salt.firstHalf salt.secondHalf _

theorem rekey_runs (salt : Salt) (turn count : Nat) :
    times (fun _ state => do expandKey (← expandKey state key) salt.bytes.toList) turn count state =
      .ok (CipherState.rekey key salt count state) := by
  induction count generalizing state turn with
  | zero => rfl
  | succ count ih =>
      have saltStored : salt.bytes.toList.length < USize.size := by
        have limit := USize.le_size
        rw [Vector.length_toList]
        omega
      rw [times, expand_key_runs state stored, ok_bind, expand_key_runs _ saltStored, ok_bind, ih,
        CipherState.rekey]

theorem setup_runs (cost : Cost) (salt : Salt) :
    setup state cost salt key = .ok (state.schedule cost salt key) := by
  rw [setup, expand_key_with_salt_runs _ stored, ok_bind, rounds_run, ok_bind, rekey_runs _ stored,
    CipherState.schedule]

end

end Bcrypt.Machine
