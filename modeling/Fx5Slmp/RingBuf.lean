import Fx5Slmp.Layout
import Fx5Slmp.Lib.CheckedMem
import Fx5Slmp.Lib.CircularWindow

/-!
# The byte ring buffer

Model of `fx5_ringbuf.c`.  The storage that `data` points to is a field of the record; an
access outside of it makes the operation undefined (`none`).

`RingBuf.Inv` is the representation invariant, `RingBuf.contents` the logical content.  Each
operation has one lemma that says what it does to the content:

* `ringbufPushBack_spec` — appends one byte, unless the buffer is full;
* `ringbufPopFront_spec` — removes the oldest byte, unless the buffer is empty;
* `ringbufPeek_spec` — reads the content at an index, as long as `tail + index` fits 16 bits;
* `ringbufDropFront_spec` — removes `min count size` bytes from the front.
-/

set_option autoImplicit false

namespace Fx5

open CheckedMem CircularWindow

/-- `fx5_ringbuf_t`. -/
structure RingBuf where
  data : List Byte
  capacity : Nat
  head : Nat
  tail : Nat
  size : Nat
  deriving DecidableEq

/-- `fx5_ringbuf_advance_index`. -/
def ringbufAdvanceIndex (index capacity : Nat) : Nat :=
  let index := u16 (index + 1)
  if index ≥ capacity then 0 else index

/-- `fx5_ringbuf_offset_index`. -/
def ringbufOffsetIndex (base offset capacity : Nat) : Nat :=
  let pos := u16 (base + offset)
  if pos ≥ capacity then u16 (pos - capacity) else pos

/-- `fx5_ringbuf_init`; `storage` is `none` for a NULL pointer. -/
def ringbufInit (rb : RingBuf) (storage : Option (List Byte)) (capacity : Nat) : Bool × RingBuf :=
  match storage with
  | none => (false, rb)
  | some storage =>
    if capacity = 0 then (false, rb)
    else (true, { data := storage, capacity := capacity, head := 0, tail := 0, size := 0 })

/-- `fx5_ringbuf_clear`. -/
def ringbufClear (rb : RingBuf) : RingBuf := { rb with head := 0, tail := 0, size := 0 }

def ringbufSize (rb : RingBuf) : Nat := rb.size

def ringbufCapacity (rb : RingBuf) : Nat := rb.capacity

def ringbufIsEmpty (rb : RingBuf) : Bool := rb.size == 0

def ringbufIsFull (rb : RingBuf) : Bool := rb.size == rb.capacity

/-- `fx5_ringbuf_push_back`. -/
def ringbufPushBack (rb : RingBuf) (value : Byte) : Option (Bool × RingBuf) :=
  if rb.size = rb.capacity then some (false, rb)
  else do
    let data ← store rb.data rb.head value
    some (true, { rb with
      data := data
      head := ringbufAdvanceIndex rb.head rb.capacity
      size := u16 (rb.size + 1) })

/-- `fx5_ringbuf_pop_front` with a non-NULL `out_value`; the inner `none` is the return
value `false`, which leaves `*out_value` alone. -/
def ringbufPopFront (rb : RingBuf) : Option (Option Byte × RingBuf) :=
  if rb.size = 0 then some (none, rb)
  else do
    let value ← rb.data[rb.tail]?
    some (some value, { rb with
      tail := ringbufAdvanceIndex rb.tail rb.capacity
      size := rb.size - 1 })

/-- `fx5_ringbuf_peek` with a non-NULL `out_value`; the inner `none` is the return value
`false`, which leaves `*out_value` alone. -/
def ringbufPeek (rb : RingBuf) (index : Nat) : Option (Option Byte) :=
  if index ≥ rb.size then some none
  else do
    let value ← rb.data[ringbufOffsetIndex rb.tail index rb.capacity]?
    some (some value)

/-- The loop of `fx5_ringbuf_push_bytes`. -/
def ringbufPushBytesLoop (data : List Byte) (length written : Nat) (rb : RingBuf) :
    Option (Nat × RingBuf) :=
  if written < length then do
    let value ← data[written]?
    match ← ringbufPushBack rb value with
    | (false, rb) => some (written, rb)
    | (true, rb) => ringbufPushBytesLoop data length (written + 1) rb
  else some (written, rb)
termination_by length - written

/-- `fx5_ringbuf_push_bytes`. -/
def ringbufPushBytes (rb : RingBuf) (data : List Byte) (length : Nat) : Option (Nat × RingBuf) :=
  ringbufPushBytesLoop data length 0 rb

/-- The loop of `fx5_ringbuf_drop_front`. -/
def ringbufDropFrontLoop (count dropped : Nat) (rb : RingBuf) : Nat × RingBuf :=
  if dropped < count ∧ rb.size > 0 then
    ringbufDropFrontLoop count (u16 (dropped + 1))
      { rb with tail := ringbufAdvanceIndex rb.tail rb.capacity, size := rb.size - 1 }
  else (dropped, rb)
termination_by rb.size

/-- `fx5_ringbuf_drop_front`. -/
def ringbufDropFront (rb : RingBuf) (count : Nat) : Nat × RingBuf :=
  ringbufDropFrontLoop count 0 rb

/-! ## Representation -/

/-- The representation invariant. -/
structure RingBuf.Inv (rb : RingBuf) : Prop where
  capacity_pos : 0 < rb.capacity
  capacity_lt : rb.capacity < 65536
  data_length : rb.data.length = rb.capacity
  size_le : rb.size ≤ rb.capacity
  tail_lt : rb.tail < rb.capacity
  head_eq : rb.head = (rb.tail + rb.size) % rb.capacity

/-- The stored bytes, oldest first. -/
def RingBuf.contents (rb : RingBuf) : List Byte := window rb.data rb.tail rb.size

/-- The buffer with one byte more. -/
def RingBuf.push (rb : RingBuf) (value : Byte) : RingBuf :=
  { rb with
    data := rb.data.set rb.head value
    head := (rb.head + 1) % rb.capacity
    size := rb.size + 1 }

/-- The buffer without its `k` oldest bytes. -/
def RingBuf.advance (rb : RingBuf) (k : Nat) : RingBuf :=
  { rb with tail := (rb.tail + k) % rb.capacity, size := rb.size - k }

@[simp] theorem RingBuf.advance_size (rb : RingBuf) (k : Nat) :
    (rb.advance k).size = rb.size - k := rfl

@[simp] theorem RingBuf.advance_capacity (rb : RingBuf) (k : Nat) :
    (rb.advance k).capacity = rb.capacity := rfl

theorem ringbufAdvanceIndex_eq {i cap : Nat} (hi : i < cap) (hcap : cap < 65536) :
    ringbufAdvanceIndex i cap = (i + 1) % cap := by
  simp only [ringbufAdvanceIndex]
  rw [u16_of_lt (by omega), wrap_succ hi]

theorem ringbufOffsetIndex_eq {t i cap : Nat} (ht : t < cap) (hi : i < cap)
    (hfit : t + i < 65536) : ringbufOffsetIndex t i cap = (t + i) % cap := by
  simp only [ringbufOffsetIndex]
  rw [u16_of_lt hfit, u16_of_lt (by omega), wrap_add ht hi]

namespace RingBuf.Inv

variable {rb : RingBuf}

theorem head_lt (h : rb.Inv) : rb.head < rb.capacity := by
  rw [h.head_eq]
  exact Nat.mod_lt _ h.capacity_pos

theorem contents_length (h : rb.Inv) : rb.contents.length = rb.size :=
  window_length _ (by rw [h.data_length]; exact h.size_le)

theorem push (h : rb.Inv) (hroom : rb.size < rb.capacity) (v : Byte) : (rb.push v).Inv where
  capacity_pos := h.capacity_pos
  capacity_lt := h.capacity_lt
  data_length := by
    simp only [RingBuf.push, List.length_set]
    exact h.data_length
  size_le := hroom
  tail_lt := h.tail_lt
  head_eq := by
    simp only [RingBuf.push]
    rw [h.head_eq, Nat.mod_add_mod, Nat.add_assoc]

theorem contents_push (h : rb.Inv) (hroom : rb.size < rb.capacity) (v : Byte) :
    (rb.push v).contents = rb.contents ++ [v] := by
  simp only [RingBuf.contents, RingBuf.push]
  rw [h.head_eq, ← h.data_length]
  exact window_set v (by rw [h.data_length]; exact hroom)

theorem advance {k : Nat} (h : rb.Inv) (hk : k ≤ rb.size) : (rb.advance k).Inv where
  capacity_pos := h.capacity_pos
  capacity_lt := h.capacity_lt
  data_length := h.data_length
  size_le := Nat.le_trans (Nat.sub_le _ _) h.size_le
  tail_lt := Nat.mod_lt _ h.capacity_pos
  head_eq := by
    simp only [RingBuf.advance]
    rw [h.head_eq, Nat.mod_add_mod]
    congr 1
    omega

theorem contents_advance {k : Nat} (h : rb.Inv) (hk : k ≤ rb.size) :
    (rb.advance k).contents = rb.contents.drop k := by
  simp only [RingBuf.contents, RingBuf.advance]
  rw [← h.data_length]
  exact window_drop hk (by rw [h.data_length]; exact h.size_le)

theorem advance_zero (h : rb.Inv) : rb.advance 0 = rb := by
  simp only [RingBuf.advance, Nat.add_zero, Nat.sub_zero, Nat.mod_eq_of_lt h.tail_lt]

end RingBuf.Inv

theorem RingBuf.advance_advance (rb : RingBuf) (j k : Nat) :
    (rb.advance j).advance k = rb.advance (j + k) := by
  simp only [RingBuf.advance, Nat.mod_add_mod, Nat.add_assoc, Nat.sub_sub]

/-! ## What the operations do to the content -/

theorem ringbufInit_inv (rb : RingBuf) {storage : List Byte} {capacity : Nat}
    (hpos : 0 < capacity) (hlt : capacity < 65536) (hlen : storage.length = capacity) :
    (ringbufInit rb (some storage) capacity).2.Inv ∧
      (ringbufInit rb (some storage) capacity).2.contents = [] := by
  simp only [ringbufInit]
  rw [if_neg (by omega)]
  refine ⟨⟨hpos, hlt, hlen, Nat.zero_le _, hpos, ?_⟩, window_zero _ _⟩
  simp

theorem ringbufPushBack_full {rb : RingBuf} (h : rb.size = rb.capacity) (v : Byte) :
    ringbufPushBack rb v = some (false, rb) := if_pos h

/-- **A push to a buffer with room appends the byte.** -/
theorem ringbufPushBack_spec {rb : RingBuf} (hinv : rb.Inv) (hroom : rb.size < rb.capacity)
    (v : Byte) : ringbufPushBack rb v = some (true, rb.push v) := by
  have hcap := hinv.capacity_lt
  rw [ringbufPushBack, if_neg (by omega),
    store_of_lt (by rw [hinv.data_length]; exact hinv.head_lt), u16_of_lt (by omega),
    ringbufAdvanceIndex_eq hinv.head_lt hcap]
  rfl

/-- **A pop from a non-empty buffer returns and removes the oldest byte.** -/
theorem ringbufPopFront_spec {rb : RingBuf} (hinv : rb.Inv) :
    ringbufPopFront rb = some (rb.contents[0]?, rb.advance (min 1 rb.size)) := by
  rw [ringbufPopFront]
  split
  · rename_i h0
    rw [h0, Nat.min_eq_right (Nat.zero_le _), hinv.advance_zero, List.getElem?_eq_none]
    rw [hinv.contents_length, h0]
  · rename_i h0
    have hread : rb.contents[0]? = rb.data[rb.tail]? := by
      rw [RingBuf.contents, window_getElem? (by omega) (by rw [hinv.data_length]; exact hinv.size_le),
        Nat.add_zero, hinv.data_length, Nat.mod_eq_of_lt hinv.tail_lt]
    have hsome : rb.tail < rb.data.length := by
      rw [hinv.data_length]
      exact hinv.tail_lt
    rw [hread, List.getElem?_eq_getElem hsome, Nat.min_eq_left (by omega),
      ringbufAdvanceIndex_eq hinv.tail_lt hinv.capacity_lt]
    rfl

/-- **A peek reads the content**, as long as the physical index before the wrap correction
fits 16 bits. -/
theorem ringbufPeek_spec {rb : RingBuf} (hinv : rb.Inv) {i : Nat} (hfit : rb.tail + i < 65536) :
    ringbufPeek rb i = some rb.contents[i]? := by
  rw [ringbufPeek]
  split
  · rename_i hi
    rw [List.getElem?_eq_none]
    rw [hinv.contents_length]
    exact hi
  · rename_i hi
    have hsize := hinv.size_le
    have hread : rb.contents[i]? = rb.data[(rb.tail + i) % rb.capacity]? := by
      rw [RingBuf.contents, window_getElem? (by omega) (by rw [hinv.data_length]; exact hsize),
        hinv.data_length]
    have hsome : (rb.tail + i) % rb.capacity < rb.data.length := by
      rw [hinv.data_length]
      exact Nat.mod_lt _ hinv.capacity_pos
    rw [ringbufOffsetIndex_eq hinv.tail_lt (by omega) hfit, hread, List.getElem?_eq_getElem hsome]
    rfl

/-- One turn of the drop loop is one step of the read position. -/
theorem ringbufDropFrontLoop_spec {rb : RingBuf} (hinv : rb.Inv) :
    ∀ {count dropped : Nat}, dropped + rb.size < 65536 → dropped ≤ count →
      ringbufDropFrontLoop count dropped rb =
        (dropped + min (count - dropped) rb.size, rb.advance (min (count - dropped) rb.size)) := by
  obtain ⟨n, hn⟩ : ∃ n, n = rb.size := ⟨_, rfl⟩
  induction n generalizing rb with
  | zero =>
    intro count dropped _ _
    rw [ringbufDropFrontLoop, if_neg (by omega), ← hn, Nat.min_eq_right (Nat.zero_le _),
      hinv.advance_zero, Nat.add_zero]
  | succ n ih =>
    intro count dropped hfit hle
    rw [ringbufDropFrontLoop]
    split
    · rename_i hturn
      have hstep : { rb with tail := ringbufAdvanceIndex rb.tail rb.capacity, size := rb.size - 1 } =
          rb.advance 1 := by
        rw [ringbufAdvanceIndex_eq hinv.tail_lt hinv.capacity_lt]
        rfl
      rw [hstep, u16_of_lt (by omega), ih (hinv.advance (by omega)) (by simp; omega)
        (by simp; omega) (by omega), RingBuf.advance_advance]
      simp only [RingBuf.advance_size]
      rw [show min (count - dropped) rb.size = 1 + min (count - (dropped + 1)) (rb.size - 1) by omega]
      simp only [Nat.add_assoc]
    · rename_i hend
      rw [show min (count - dropped) rb.size = 0 by omega, hinv.advance_zero, Nat.add_zero]

/-- **Dropping removes `min count size` bytes from the front and reports that number.** -/
theorem ringbufDropFront_spec {rb : RingBuf} (hinv : rb.Inv) (count : Nat) :
    ringbufDropFront rb count = (min count rb.size, rb.advance (min count rb.size)) := by
  have h1 := hinv.size_le
  have h2 := hinv.capacity_lt
  rw [ringbufDropFront, ringbufDropFrontLoop_spec hinv (by omega) (Nat.zero_le _), Nat.sub_zero,
    Nat.zero_add]

theorem ringbufDropFront_of_le {rb : RingBuf} (hinv : rb.Inv) {count : Nat}
    (h : count ≤ rb.size) : ringbufDropFront rb count = (count, rb.advance count) := by
  rw [ringbufDropFront_spec hinv, Nat.min_eq_left h]

end Fx5
