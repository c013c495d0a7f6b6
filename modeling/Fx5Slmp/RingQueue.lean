import Fx5Slmp.ApiSpecs
import Fx5Slmp.Lib.BoundedQueue
import Fx5Slmp.Lib.Machine

/-!
# The ring buffer as a bounded queue

The mutating operations of `fx5_ringbuf.c` in any order, from `fx5_ringbuf_init` on, against the
bounded queue of the same capacity.

* `ringStep_refines` — one operation: the same result, and the content stays that of the queue;
* `ring_refines_queue` — **refinement** over every sequence of operations;
* `ringbufPeek_content` — what a peek reads, also where the 16-bit sum of its two indices wraps;
* `peek_agrees_iff` — a peek reads the byte that popping would return exactly if the sum does
  not wrap, or the byte it reads instead is the same.
-/

set_option autoImplicit false

namespace Fx5

open CheckedMem

/-! ## Operations -/

/-- A call of a mutating ring buffer function. -/
inductive RingCall where
  | pushBack (value : Byte)
  | popFront
  | pushBytes (data : List Byte) (length : Word)
  | dropFront (count : Word)
  | clear
  deriving DecidableEq

/-- The memory a call promises: `data` is as long as `length` says. -/
def RingCall.MemoryOk : RingCall → Prop
  | .pushBytes data length => length.toNat ≤ data.length
  | _ => True

instance RingCall.decidableMemoryOk (call : RingCall) : Decidable call.MemoryOk :=
  match call with
  | .pushBytes _ _ => inferInstanceAs (Decidable (_ ≤ _))
  | .pushBack _ | .popFront | .dropFront _ | .clear => .isTrue trivial

/-- One call on a ring buffer. -/
def ringStep : RingCall → RingBuf → Option (BoundedQueue.Out Byte × RingBuf)
  | .pushBack value, rb => (ringbufPushBack rb value).map fun r => (.accepted r.1, r.2)
  | .popFront, rb => (ringbufPopFront rb).map fun r => (.item r.1, r.2)
  | .pushBytes data length, rb =>
    (ringbufPushBytes rb data length.toNat).map fun r => (.count r.1, r.2)
  | .dropFront count, rb =>
    some (.count (ringbufDropFront rb count.toNat).1, (ringbufDropFront rb count.toNat).2)
  | .clear, rb => some (.done, ringbufClear rb)

/-- What a call asks of the queue. -/
def RingCall.op : RingCall → BoundedQueue.Op Byte
  | .pushBack value => .push value
  | .popFront => .pop
  | .pushBytes data length => .pushMany (data.take length.toNat)
  | .dropFront count => .drop count.toNat
  | .clear => .clear

/-- The same call on the queue; it has a result in every state. -/
def queueStep {cap : Nat} (call : RingCall) (q : BoundedQueue Byte cap) :
    Option (BoundedQueue.Out Byte × BoundedQueue Byte cap) := some (BoundedQueue.step call.op q)

/-! ## One operation -/

section Step

variable {rb : RingBuf}

theorem ringbufClear_spec (hinv : rb.Inv) :
    (ringbufClear rb).Inv ∧ (ringbufClear rb).contents = [] := by
  refine ⟨⟨hinv.capacity_pos, hinv.capacity_lt, hinv.data_length, Nat.zero_le _,
    hinv.capacity_pos, ?_⟩, CircularWindow.window_zero _ _⟩
  simp [ringbufClear]

/-- From index `written` on, the loop pushes what fits and reports how far it got. -/
theorem ringbufPushBytesLoop_spec {data : List Byte} {length : Nat} (hmem : length ≤ data.length) :
    ∀ {written : Nat} {rb : RingBuf}, rb.Inv → written ≤ length →
      ringbufPushBytesLoop data length written rb =
        some (written + min (length - written) (rb.capacity - rb.size),
          rb.pushAll (((data.take length).drop written).take (rb.capacity - rb.size))) := by
  intro written rb hinv hle
  have hsize := hinv.size_le
  induction h : length - written generalizing written rb with
  | zero =>
    rw [ringbufPushBytesLoop, if_neg (by omega), Nat.zero_min, Nat.add_zero,
      List.drop_eq_nil_of_le (by simp; omega), List.take_nil]
    rfl
  | succ n ih =>
    have hlt : written < data.length := by omega
    have hdrop : (data.take length).drop written =
        data[written] :: (data.take length).drop (written + 1) := by
      rw [List.drop_eq_getElem_cons (by simp; omega), List.getElem_take]
    rw [ringbufPushBytesLoop, if_pos (by omega), List.getElem?_eq_getElem hlt]
    simp only [Option.bind_eq_bind, Option.bind_some]
    by_cases hfull : rb.size = rb.capacity
    · rw [ringbufPushBack_full hfull, hfull, Nat.sub_self, Nat.min_zero, List.take_zero]
      rfl
    · have hpush := hinv.push (by omega) data[written]
      have hcap : (rb.push data[written]).capacity = rb.capacity := rfl
      have hsize' : (rb.push data[written]).size = rb.size + 1 := rfl
      obtain ⟨room, hroom⟩ : ∃ room, rb.capacity - rb.size = room + 1 :=
        ⟨rb.capacity - rb.size - 1, by omega⟩
      have hroom' : rb.capacity - (rb.size + 1) = room := by omega
      rw [ringbufPushBack_spec hinv (by omega)]
      simp only [Option.bind_some]
      rw [ih hpush (by omega) hpush.size_le (by omega), hcap, hsize', hroom, hroom', hdrop,
        List.take_succ_cons, Nat.succ_min_succ, Nat.add_assoc, Nat.add_comm 1]
      rfl

/-- **Pushing an array** appends the longest prefix that fits and returns its length. -/
theorem ringbufPushBytes_spec (hinv : rb.Inv) {data : List Byte} {length : Nat}
    (hmem : length ≤ data.length) :
    ringbufPushBytes rb data length =
      some (min length (rb.capacity - rb.size),
        rb.pushAll ((data.take length).take (rb.capacity - rb.size))) := by
  rw [ringbufPushBytes, ringbufPushBytesLoop_spec hmem hinv (Nat.zero_le _), Nat.zero_add,
    Nat.sub_zero, List.drop_zero]

end Step

/-- The ring buffer stands for the queue. -/
structure Represents {cap : Nat} (rb : RingBuf) (q : BoundedQueue Byte cap) : Prop where
  inv : rb.Inv
  capacity : rb.capacity = cap
  contents : rb.contents = q.items

namespace Represents

variable {cap : Nat} {rb : RingBuf} {q : BoundedQueue Byte cap}

theorem size (h : Represents rb q) : rb.size = q.items.length := by
  rw [← h.contents, h.inv.contents_length]

theorem pushBack (h : Represents rb q) (v : Byte) :
    ∃ rb', ringbufPushBack rb v = some ((q.push v).1, rb') ∧ Represents rb' (q.push v).2 := by
  have hsize := h.size
  have hcap := h.capacity
  unfold BoundedQueue.push
  by_cases hroom : q.items.length < cap
  · rw [dif_pos hroom]
    refine ⟨rb.push v, ringbufPushBack_spec h.inv (by omega) v, h.inv.push (by omega) v, hcap, ?_⟩
    rw [h.inv.contents_push (by omega), h.contents]
  · have hle := h.inv.size_le
    rw [dif_neg hroom]
    exact ⟨rb, ringbufPushBack_full (by omega) v, h⟩

theorem popFront (h : Represents rb q) :
    ∃ rb', ringbufPopFront rb = some (q.pop.1, rb') ∧ Represents rb' q.pop.2 := by
  refine ⟨rb.advance (min 1 rb.size), ?_, h.inv.advance (by omega), h.capacity, ?_⟩
  · rw [ringbufPopFront_spec h.inv, h.contents, BoundedQueue.pop, List.head?_eq_getElem?]
  · have hlen := h.inv.contents_length
    rw [h.inv.contents_advance (by omega), BoundedQueue.pop_items, ← h.contents, ← List.drop_one]
    rcases Nat.eq_zero_or_pos rb.size with h0 | hpos
    · rw [h0, List.drop_eq_nil_of_le (by omega), List.drop_eq_nil_of_le (by omega)]
    · rw [Nat.min_eq_left hpos]

theorem pushBytes (h : Represents rb q) {data : List Byte} {length : Nat}
    (hmem : length ≤ data.length) :
    ∃ rb', ringbufPushBytes rb data length = some ((q.pushMany (data.take length)).1, rb') ∧
      Represents rb' (q.pushMany (data.take length)).2 := by
  have hlen : (data.take length).length = length := List.length_take_of_le hmem
  have hle := h.inv.size_le
  have hroom : rb.size + ((data.take length).take (rb.capacity - rb.size)).length ≤ rb.capacity := by
    rw [List.length_take]
    omega
  obtain ⟨hinv, hcont, hcap⟩ := h.inv.pushAll hroom
  refine ⟨_, ?_, hinv, hcap.trans h.capacity, ?_⟩
  · rw [ringbufPushBytes_spec h.inv hmem, BoundedQueue.pushMany, hlen, h.size, h.capacity]
  · rw [hcont, h.contents, h.size, h.capacity]
    rfl

theorem dropFront (h : Represents rb q) (n : Nat) :
    (ringbufDropFront rb n).1 = (q.drop n).1 ∧
      Represents (ringbufDropFront rb n).2 (q.drop n).2 := by
  rw [ringbufDropFront_spec h.inv]
  refine ⟨?_, h.inv.advance (Nat.min_le_right _ _), h.capacity, ?_⟩
  · rw [h.size]
    rfl
  · have hlen := h.inv.contents_length
    rw [h.inv.contents_advance (Nat.min_le_right _ _), BoundedQueue.drop_items, ← h.contents]
    rcases Nat.le_total n rb.size with hn | hn
    · rw [Nat.min_eq_left hn]
    · rw [Nat.min_eq_right hn, List.drop_eq_nil_of_le (by omega), List.drop_eq_nil_of_le (by omega)]

theorem clear (h : Represents rb q) : Represents (ringbufClear rb) (.empty : BoundedQueue Byte cap) :=
  ⟨(ringbufClear_spec h.inv).1, h.capacity, (ringbufClear_spec h.inv).2⟩

end Represents

/-- **One operation** has the result of the queue operation and keeps the representation. -/
theorem ringStep_refines {cap : Nat} (call : RingCall) (rb : RingBuf) (q : BoundedQueue Byte cap)
    (hmem : call.MemoryOk) (h : Represents rb q) :
    ∃ out rb' q', ringStep call rb = some (out, rb') ∧ queueStep call q = some (out, q') ∧
      Represents rb' q' := by
  cases call with
  | pushBack v =>
    obtain ⟨rb', hres, hrep⟩ := h.pushBack v
    exact ⟨_, rb', _, by rw [ringStep, hres]; rfl, rfl, hrep⟩
  | popFront =>
    obtain ⟨rb', hres, hrep⟩ := h.popFront
    exact ⟨_, rb', _, by rw [ringStep, hres]; rfl, rfl, hrep⟩
  | pushBytes data length =>
    obtain ⟨rb', hres, hrep⟩ := h.pushBytes hmem
    exact ⟨_, rb', _, by rw [ringStep, hres]; rfl, rfl, hrep⟩
  | dropFront n =>
    obtain ⟨hout, hrep⟩ := h.dropFront n.toNat
    exact ⟨_, _, _, rfl, by rw [hout]; rfl, hrep⟩
  | clear => exact ⟨_, _, _, rfl, rfl, h.clear⟩

/-! ## Whole runs -/

/-- A buffer that `fx5_ringbuf_init` accepted represents the empty queue. -/
theorem ringbufInit_represents (uninit : RingBuf) {storage : List Byte} {capacity : Nat}
    (hpos : 1 ≤ capacity) (hmax : capacity ≤ 65535) (hlen : storage.length = capacity) :
    ∃ rb, ringbufInit uninit (some storage) capacity = (true, rb) ∧
      Represents rb (.empty : BoundedQueue Byte capacity) := by
  obtain ⟨hinv, hcont⟩ := ringbufInit_inv uninit hpos (by omega) hlen
  have hinit : ringbufInit uninit (some storage) capacity =
      (true, { data := storage, capacity := capacity, head := 0, tail := 0, size := 0 }) :=
    if_neg (by omega)
  rw [hinit] at hinv hcont
  exact ⟨_, hinit, hinv, rfl, hcont⟩

/-- **The ring buffer refines the bounded queue.**  For every capacity and every sequence of
calls from the initialisation on, every call returns what the queue operation returns, and
afterwards the content, the three getters and the head index are those of the queue. -/
theorem ring_refines_queue (uninit : RingBuf) {storage : List Byte} {capacity : Nat}
    (hpos : 1 ≤ capacity) (hmax : capacity ≤ 65535) (hlen : storage.length = capacity)
    (calls : List RingCall) (hmem : ∀ call ∈ calls, call.MemoryOk) :
    ∃ rb₀ outs rb, ringbufInit uninit (some storage) capacity = (true, rb₀) ∧
      Machine.run ringStep calls rb₀ = some (outs, rb) ∧
      ∃ q : BoundedQueue Byte capacity, Machine.run queueStep calls .empty = some (outs, q) ∧
        rb.contents = q.items ∧ ringbufSize rb = q.items.length ∧
        ringbufIsEmpty rb = q.items.isEmpty ∧ ringbufIsFull rb = (q.items.length == capacity) ∧
        rb.capacity = capacity ∧ rb.head = (rb.tail + rb.size) % rb.capacity := by
  obtain ⟨rb₀, hinit, hrep₀⟩ := ringbufInit_represents uninit hpos hmax hlen
  obtain ⟨outs, rb, q, hrun, hqueue, hrep⟩ :=
    Machine.run_lockstep ringStep_refines calls hmem hrep₀
  refine ⟨rb₀, outs, rb, hinit, hrun, q, hqueue, hrep.contents, hrep.size, ?_, ?_, hrep.capacity,
    hrep.inv.head_eq⟩
  · rw [ringbufIsEmpty, hrep.size]
    cases q.items <;> rfl
  · rw [ringbufIsFull, hrep.size, hrep.capacity]

/-- Three pushes and a pop on a buffer of two bytes: the second push wraps the head index, the
third is refused. -/
theorem small_ring_refines_queue :
    ∃ rb₀ outs rb, ringbufInit ⟨[], 0, 0, 0, 0⟩ (some [0, 0]) 2 = (true, rb₀) ∧
      Machine.run ringStep [.pushBack 1, .pushBack 2, .pushBack 3, .popFront] rb₀ =
        some (outs, rb) ∧ rb.head = (rb.tail + rb.size) % rb.capacity := by
  have hlen : ([0, 0] : List Byte).length = 2 := rfl
  obtain ⟨rb₀, outs, rb, hinit, hrun, _, _, _, _, _, _, _, hhead⟩ :=
    ring_refines_queue ⟨[], 0, 0, 0, 0⟩ (by decide) (by decide) hlen
      [.pushBack 1, .pushBack 2, .pushBack 3, .popFront] (by decide)
  exact ⟨rb₀, outs, rb, hinit, hrun, hhead⟩

/-! ## Peeking and popping -/

/-- **What a peek reads.**  Where the 16-bit sum of read position and index wraps, it is the
content `65536 - capacity` places further in front. -/
theorem ringbufPeek_content {rb : RingBuf} (hinv : rb.Inv) {i : Nat} (hi : i < rb.size) :
    ringbufPeek rb i =
      some rb.contents[if rb.tail + i < 65536 then i else i - (65536 - rb.capacity)]? := by
  have hsize := hinv.size_le
  have hcap := hinv.capacity_lt
  have htail := hinv.tail_lt
  have hdata := hinv.data_length
  split
  · rename_i hfit
    exact ringbufPeek_spec hinv hfit
  · rename_i hwrap
    have hindex : ringbufOffsetIndex rb.tail i rb.capacity = rb.tail + i - 65536 := by
      simp only [ringbufOffsetIndex]
      rw [u16, show (rb.tail + i) % 65536 = rb.tail + i - 65536 by omega, if_neg (by omega)]
    have hcell : (rb.tail + (i - (65536 - rb.capacity))) % rb.capacity = rb.tail + i - 65536 := by
      rw [show rb.tail + (i - (65536 - rb.capacity)) = rb.tail + i - 65536 + rb.capacity by omega,
        Nat.add_mod_right, Nat.mod_eq_of_lt (by omega)]
    have hread : rb.contents[i - (65536 - rb.capacity)]? = rb.data[rb.tail + i - 65536]? := by
      rw [RingBuf.contents, CircularWindow.window_getElem? (by omega) (by omega), hdata, hcell]
    have hsome : rb.tail + i - 65536 < rb.data.length := by omega
    rw [ringbufPeek, if_neg (by omega), hindex, hread, List.getElem?_eq_getElem hsome]
    rfl

/-- Popping returns the content in order. -/
theorem popFront_run {rb : RingBuf} (hinv : rb.Inv) (n : Nat) :
    ∃ rb', Machine.run ringStep (List.replicate n .popFront) rb =
      some ((List.range n).map fun k => .item rb.contents[k]?, rb') := by
  induction n generalizing rb with
  | zero => exact ⟨rb, rfl⟩
  | succ n ih =>
    obtain ⟨rb', hrun⟩ := ih (hinv.advance (Nat.min_le_right 1 rb.size))
    have hpop : ringStep .popFront rb =
        some (.item rb.contents[0]?, rb.advance (min 1 rb.size)) := by
      rw [ringStep, ringbufPopFront_spec hinv]
      rfl
    have hlen := hinv.contents_length
    have hrest : ∀ k, (rb.advance (min 1 rb.size)).contents[k]? = rb.contents[k + 1]? := by
      intro k
      rw [hinv.contents_advance (Nat.min_le_right _ _), List.getElem?_drop]
      rcases Nat.eq_zero_or_pos rb.size with h0 | hpos
      · rw [List.getElem?_eq_none (by omega), List.getElem?_eq_none (by omega)]
      · rw [Nat.min_eq_left hpos, Nat.add_comm]
    refine ⟨rb', ?_⟩
    rw [List.replicate_succ, Machine.run_cons hpop, hrun, List.range_succ_eq_map, List.map_cons,
      List.map_map]
    simp only [hrest]
    rfl

/-- The ring buffers that calls lead to from an initialisation with the given capacity. -/
def RingReachable (capacity : Nat) (rb : RingBuf) : Prop :=
  ∃ uninit storage calls rb₀ outs, 1 ≤ capacity ∧ capacity ≤ 65535 ∧ storage.length = capacity ∧
    (∀ call ∈ calls, RingCall.MemoryOk call) ∧
    ringbufInit uninit (some storage) capacity = (true, rb₀) ∧
    Machine.run ringStep calls rb₀ = some (outs, rb)

theorem RingReachable.inv {capacity : Nat} {rb : RingBuf} (h : RingReachable capacity rb) :
    rb.Inv ∧ rb.capacity = capacity := by
  obtain ⟨uninit, storage, calls, rb₀, outs, hpos, hmax, hlen, hmem, hinit, hrun⟩ := h
  obtain ⟨rb₁, hinit₁, hrep₁⟩ := ringbufInit_represents uninit hpos hmax hlen
  obtain ⟨outs', rb', q, hrun', _, hrep⟩ := Machine.run_lockstep ringStep_refines calls hmem hrep₁
  rw [hinit] at hinit₁
  cases hinit₁
  rw [hrun] at hrun'
  cases hrun'
  exact ⟨hrep.inv, hrep.capacity⟩

/-- Peeking at `i` returns what the pop number `i + 1` from now on would return; beyond the
content it fails. -/
def PeekAgrees (rb : RingBuf) (i : Nat) : Prop :=
  (i < rb.size → ∃ v outs rb', ringbufPeek rb i = some (some v) ∧
    Machine.run ringStep (List.replicate (i + 1) .popFront) rb = some (outs, rb') ∧
    outs[i]? = some (.item (some v))) ∧
  (rb.size ≤ i → ringbufPeek rb i = some none)

/-- A peek agrees with popping exactly if it reads the content at its index. -/
theorem peekAgrees_iff_content {rb : RingBuf} (hinv : rb.Inv) (i : Nat) :
    PeekAgrees rb i ↔ rb.size ≤ i ∨ ringbufPeek rb i = some rb.contents[i]? := by
  have hlen := hinv.contents_length
  obtain ⟨rb', hrun⟩ := popFront_run hinv (i + 1)
  have hlast : ((List.range (i + 1)).map fun k =>
      BoundedQueue.Out.item rb.contents[k]?)[i]? = some (.item rb.contents[i]?) := by
    simp
  constructor
  · rintro ⟨hagree, _⟩
    rcases Nat.lt_or_ge i rb.size with hi | hi
    · obtain ⟨v, outs, rb'', hpeek, hrun', hout⟩ := hagree hi
      rw [hrun] at hrun'
      cases hrun'
      rw [hlast] at hout
      simp only [Option.some.injEq, BoundedQueue.Out.item.injEq] at hout
      exact Or.inr (by rw [hpeek, hout])
    · exact Or.inl hi
  · intro hcases
    refine ⟨fun hi => ?_, fun hi => if_pos hi⟩
    have hlt : i < rb.contents.length := by omega
    rcases hcases with h | hsame
    · omega
    · rw [List.getElem?_eq_getElem hlt] at hsame hlast
      exact ⟨_, _, rb', hsame, hrun, hlast⟩

/-- **A peek agrees with popping exactly if** the index is beyond the content, the 16-bit sum of
read position and index does not wrap, or the byte that is read instead is the same. -/
theorem peek_agrees_iff {capacity : Nat} {rb : RingBuf} (h : RingReachable capacity rb)
    (i : Word) :
    PeekAgrees rb i.toNat ↔ rb.size ≤ i.toNat ∨ rb.tail + i.toNat < 65536 ∨
      rb.contents[i.toNat - (65536 - capacity)]? = rb.contents[i.toNat]? := by
  obtain ⟨hinv, hcap⟩ := h.inv
  rw [peekAgrees_iff_content hinv]
  rcases Nat.lt_or_ge i.toNat rb.size with hi | hi
  · rw [ringbufPeek_content hinv hi, hcap]
    by_cases hfit : rb.tail + i.toNat < 65536
    · simp only [hfit, if_true, true_or, or_true]
    · simp only [hfit, if_false, false_or, Option.some.injEq]
  · simp only [hi, true_or]

/-! ## The 16-bit sum wraps -/

theorem RingBuf.pushAll_tail (rb : RingBuf) (bs : List Byte) : (rb.pushAll bs).tail = rb.tail := by
  induction bs generalizing rb with
  | nil => rfl
  | cons b bs ih =>
    rw [RingBuf.pushAll, List.foldl_cons, ← RingBuf.pushAll, ih]
    rfl

/-- Fill a buffer of the largest capacity, take all but the last byte out, and add two bytes
behind it. -/
def wrappingCalls (filler : List Byte) : List RingCall :=
  [.pushBytes filler 65535, .dropFront 65534, .pushBytes [0x01, 0x02] 2]

/-- The read position is then in the last cell, and two bytes lie at the front of the storage. -/
theorem wrappingCalls_run {rb : RingBuf} (hinv : rb.Inv) (hcap : rb.capacity = 65535)
    (htail : rb.tail = 0) (hsize : rb.size = 0) {filler : List Byte}
    (hlen : filler.length = 65535) :
    ∃ outs rb', Machine.run ringStep (wrappingCalls filler) rb = some (outs, rb') ∧
      rb'.Inv ∧ rb'.capacity = 65535 ∧ rb'.tail = 65534 ∧
      rb'.contents = filler.drop 65534 ++ [0x01, 0x02] := by
  have hcontents : rb.contents = [] := by
    rw [← List.length_eq_zero_iff, hinv.contents_length, hsize]
  have hroom : rb.size + filler.length ≤ rb.capacity := by omega
  obtain ⟨hfull, hcontFull, hcapFull⟩ := hinv.pushAll hroom
  have htailFull : (rb.pushAll filler).tail = 0 := by rw [RingBuf.pushAll_tail, htail]
  rw [hcontents, List.nil_append] at hcontFull
  have hsizeFull : (rb.pushAll filler).size = 65535 := by
    rw [← hfull.contents_length, hcontFull, hlen]
  have hfill : ringStep (.pushBytes filler 65535) rb =
      some (.count 65535, rb.pushAll filler) := by
    have htake : (filler.take 65535).take 65535 = filler := by
      rw [List.take_of_length_le (by simp), List.take_of_length_le (by omega)]
    rw [ringStep, show (65535 : Word).toNat = 65535 by rfl,
      ringbufPushBytes_spec hinv (by omega), hcap, hsize, Nat.sub_zero, htake]
    rfl
  -- one byte is left, in the last cell
  have hlast := hfull.advance (k := 65534) (by omega)
  have hcontLast := hfull.contents_advance (k := 65534) (by omega)
  rw [hcontFull] at hcontLast
  have hdrop : ringStep (.dropFront 65534) (rb.pushAll filler) =
      some (.count 65534, (rb.pushAll filler).advance 65534) := by
    rw [ringStep, show (65534 : Word).toNat = 65534 by rfl,
      ringbufDropFront_of_le hfull (by omega)]
  have hroomLast : ((rb.pushAll filler).advance 65534).size + ([0x01, 0x02] : List Byte).length ≤
      ((rb.pushAll filler).advance 65534).capacity := by
    simp only [RingBuf.advance_size, RingBuf.advance_capacity, List.length_cons, List.length_nil]
    omega
  obtain ⟨hend, hcontEnd, hcapEnd⟩ := hlast.pushAll hroomLast
  have hadd : ringStep (.pushBytes [0x01, 0x02] 2) ((rb.pushAll filler).advance 65534) =
      some (.count 2, ((rb.pushAll filler).advance 65534).pushAll [0x01, 0x02]) := by
    rw [ringStep, show (2 : Word).toNat = 2 by rfl,
      ringbufPushBytes_spec hlast (by simp), RingBuf.advance_capacity, RingBuf.advance_size,
      hcapFull, hcap, hsizeFull]
    rfl
  refine ⟨[.count 65535, .count 65534, .count 2], _, ?_, hend, ?_, ?_, ?_⟩
  · rw [wrappingCalls, Machine.run_cons hfill, Machine.run_cons hdrop, Machine.run_cons hadd]
    rfl
  · rw [hcapEnd, RingBuf.advance_capacity, hcapFull, hcap]
  · rw [RingBuf.pushAll_tail, RingBuf.advance, htailFull, hcapFull, hcap]
  · rw [hcontEnd, hcontLast]

/-- The buffer of the largest capacity, initialised on zeroed storage. -/
def largestRing : RingBuf :=
  { data := List.replicate 65535 0, capacity := 65535, head := 0, tail := 0, size := 0 }

theorem largestRing_inv : largestRing.Inv where
  capacity_pos := by decide
  capacity_lt := by decide
  data_length := List.length_replicate
  size_le := Nat.zero_le _
  tail_lt := by decide
  head_eq := rfl

/-- Those calls lead to a buffer that holds 0, 1 and 2 with the read position in the last
cell. -/
theorem largestRing_wrapped :
    ∃ outs rb, Machine.run ringStep (wrappingCalls (List.replicate 65535 0)) largestRing =
        some (outs, rb) ∧
      RingReachable 65535 rb ∧ rb.tail = 65534 ∧ rb.contents = [0x00, 0x01, 0x02] := by
  obtain ⟨outs, rb, hrun, _, _, htail, hcont⟩ := wrappingCalls_run largestRing_inv rfl rfl rfl
    (List.length_replicate (n := 65535) (a := (0 : Byte)))
  refine ⟨outs, rb, hrun, ?_, htail, ?_⟩
  · refine ⟨largestRing, List.replicate 65535 0, wrappingCalls (List.replicate 65535 0), largestRing,
      outs, by decide, by decide, List.length_replicate, ?_, rfl, hrun⟩
    intro call hcall
    simp only [wrappingCalls, List.mem_cons, List.not_mem_nil, or_false] at hcall
    rcases hcall with rfl | rfl | rfl
    · rw [RingCall.MemoryOk, List.length_replicate]
      decide
    · trivial
    · decide
  · rw [hcont, List.drop_replicate]
    rfl

/-- The byte at index 2 is 2, but a peek at index 2 reads 1. -/
theorem peek_reads_wrong_byte :
    ∃ outs rb, Machine.run ringStep (wrappingCalls (List.replicate 65535 0)) largestRing =
        some (outs, rb) ∧
      RingReachable 65535 rb ∧ rb.contents = [0x00, 0x01, 0x02] ∧
      ringbufPeek rb 2 = some (some 0x01) ∧ ¬ PeekAgrees rb 2 := by
  obtain ⟨outs, rb, hrun, hreach, htail, hcont⟩ := largestRing_wrapped
  obtain ⟨hinv, hcap⟩ := hreach.inv
  have hsize : rb.size = 3 := by
    rw [← hinv.contents_length, hcont]
    rfl
  have hpeek : ringbufPeek rb 2 = some (some 0x01) := by
    rw [ringbufPeek_content hinv (by omega), htail, hcap, hcont]
    rfl
  refine ⟨outs, rb, hrun, hreach, hcont, hpeek, ?_⟩
  rw [peekAgrees_iff_content hinv, hpeek, hcont, hsize]
  decide

/-- In the same buffer the peek at index 1 agrees. -/
theorem peek_agrees_before_wrap :
    ∃ rb, RingReachable 65535 rb ∧ rb.tail = 65534 ∧ PeekAgrees rb 1 := by
  obtain ⟨_, rb, _, hreach, htail, _⟩ := largestRing_wrapped
  have hfit : rb.tail + (1 : Word).toNat < 65536 := by rw [htail]; decide
  exact ⟨rb, hreach, htail, (peek_agrees_iff hreach 1).mpr (Or.inr (Or.inl hfit))⟩

end Fx5
