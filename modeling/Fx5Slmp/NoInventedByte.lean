import Fx5Slmp.FaithfulParser
import Fx5Slmp.FrameBoundary

/-!
# No byte is invented while parsing

The C code drops the results of `fx5_ringbuf_peek` and `fx5_ringbuf_drop_front`: a read behind the
end of the buffer gives the byte 0, and a drop of too many bytes drops what is there.  The operations
of the namespace `Strict` are undefined in both cases.  The parser over them is defined and gives what
the model gives: every read is inside the receive buffer, and every drop removes what it is told to.

* `Strict.ringbufPeek_eq`, `Strict.ringbufDropFront_eq` — a read inside the buffer, and a drop of no
  more bytes than there are;
* `no_byte_invented` — whole calls.
-/

set_option autoImplicit false

namespace Fx5

open Instrumented

namespace Strict

/-- `fx5_ringbuf_peek`, where it succeeds. -/
def ringbufPeek (rb : RingBuf) (index : Nat) : Option (Option Byte) :=
  (Fx5.ringbufPeek rb index).bind fun value => value.map some

/-- `fx5_ringbuf_drop_front`, where it removes as many bytes as it is told to. -/
def ringbufDropFront (rb : RingBuf) (count : Nat) : Option RingBuf :=
  let (dropped, after) := Fx5.ringbufDropFront rb count
  if dropped = count ∧ after.size + count = rb.size then some after else none

/-- Every read and every drop is checked. -/
def ops : Ops Option where
  narrow n := some (u16 n)
  narrowSub a b := some (u16 (a - b))
  peek := ringbufPeek
  drop := ringbufDropFront
  discard rb := ringbufDropFront rb 1

/-- `fx5_parse_response`. -/
def parseResponse (cfg : Config) (context : Context) : Option (Status × Context) :=
  ops.parseResponse cfg context

/-- **A read inside the buffer** succeeds. -/
theorem ringbufPeek_eq {rb : RingBuf} (h : SmallRing rb) {i : Nat} (hi : i < rb.size)
    (hsmall : i ≤ 500) : ringbufPeek rb i = Fx5.ringbufPeek rb i := by
  have hlen : i < rb.contents.length := by rw [h.inv.contents_length]; exact hi
  rw [ringbufPeek, ringbufPeek_spec h.inv (h.tail_add hsmall), List.getElem?_eq_getElem hlen]
  rfl

/-- **A drop** of no more bytes than there are removes exactly so many. -/
theorem ringbufDropFront_eq {rb : RingBuf} (hinv : rb.Inv) {count : Nat} (h : count ≤ rb.size) :
    ringbufDropFront rb count = some (Fx5.ringbufDropFront rb count).2 := by
  have hdrop := ringbufDropFront_of_le hinv h
  have hsize := rb.advance_size count
  rw [ringbufDropFront, hdrop]
  exact if_pos ⟨rfl, by omega⟩

theorem ops_faithful : ops.Faithful Reading.same where
  narrow _ := rfl
  narrowSub _ _ := rfl
  peek h hi hsmall := ringbufPeek_eq h hi hsmall
  drop hinv h := ringbufDropFront_eq hinv h

theorem parseResponse_eq {cfg : Config} {ctx : Context} (hinv : ctx.Inv cfg) :
    parseResponse cfg ctx = Fx5.parseResponse cfg ctx :=
  ops_faithful.parseResponse (fun hring h => ringbufDropFront_eq hring h) hinv

end Strict

/-- **No byte is invented while parsing.**  On every acquired context, whatever its buffer holds,
every read succeeds and every drop removes what it is told to. -/
theorem no_byte_invented (cfg : Config) (ctx : Context) (hinv : ctx.Inv cfg)
    (huse : ctx.inUse = true) :
    ∃ result, Strict.parseResponse cfg ctx = some result ∧ parseResponse cfg ctx = some result := by
  obtain ⟨status, ctx', hparse, _⟩ := parseResponse_inv hinv huse
  exact ⟨_, (Strict.parseResponse_eq hinv).trans hparse, hparse⟩

/-- Garbage in front of a partial header. -/
theorem no_byte_invented_of_garbage :
    ∃ result, Strict.parseResponse .smallest garbageContext = some result ∧
      parseResponse .smallest garbageContext = some result := by
  obtain ⟨hinv, huse⟩ := acquired_inv garbageContext_acquired
  exact no_byte_invented .smallest garbageContext hinv huse

end Fx5
