import Fx5Slmp.Lib.PrintedNumerals
import Fx5Slmp.Script

/-!
# The socket of the client

`fx5_client_transport.c`.  What the kernel answers to `getaddrinfo`, `socket`, `connect`, `send` and
`recv` is a parameter; `send` takes some of the bytes it is given, or fails.  That a failed `send`
returns is an assumption about the process: `fx5_socket_send_all` sends without `MSG_NOSIGNAL`, so on
POSIX SIGPIPE has to be ignored, or a connection that was reset ends the process there.

* `socketSendAll_spec` — the kernel takes bytes from the front, and all of them if and only if
  `fx5_socket_send_all` returns true;
* `socketConnect_spec`, `socketClose_spec` — what they open and close;
* `socketTransport` — the socket as the executor of commands sees it.
-/

set_option autoImplicit false

namespace Fx5

open CText

/-! ## Sending -/

/-- What `send` returns: in its `k`-th call for a request, for `n` bytes.  It returns also on a
connection that was reset, with SIGPIPE ignored. -/
structure SendCalls where
  rc : Nat → Nat → Int
  le : ∀ k n, rc k n ≤ n

/-- The loop of `fx5_socket_send_all`, from call `k` on: what it returns, and the bytes that the kernel
takes from then on. -/
def sendAllLoop (send : SendCalls) (data : List Byte) (k totalSent : Nat) : Bool × List Byte :=
  if totalSent < data.length then
    let sent := send.rc k (data.length - totalSent)
    if _h : sent ≤ 0 then (false, [])
    else
      let (ok, later) := sendAllLoop send data (k + 1) (totalSent + sent.toNat)
      (ok, (data.drop totalSent).take sent.toNat ++ later)
  else (true, [])
termination_by data.length - totalSent
decreasing_by
  omega

/-- `fx5_socket_send_all` on a connected socket, with the bytes that the kernel takes. -/
def socketSendAll (send : SendCalls) (data : List Byte) : Bool × List Byte :=
  sendAllLoop send data 0 0

/-- **The loop** sends what is left from the front, and stops early only where `send` fails. -/
theorem sendAllLoop_spec (send : SendCalls) (data : List Byte) (k totalSent : Nat)
    (h : totalSent ≤ data.length) :
    ∃ n, totalSent + n ≤ data.length ∧
      (sendAllLoop send data k totalSent).2 = (data.drop totalSent).take n ∧
      ((sendAllLoop send data k totalSent).1 = true ↔ totalSent + n = data.length) := by
  fun_induction sendAllLoop send data k totalSent with
  | case1 k totalSent hlt sent hfail => exact ⟨0, h, rfl, by simp; omega⟩
  | case2 k totalSent hlt sent hpos ok later hrest ih =>
    have hle : sent ≤ ((data.length - totalSent : Nat) : Int) := send.le k _
    obtain ⟨n, hn, hlater, hok⟩ := ih (by omega)
    rw [hrest] at hlater hok
    have hlater : later = (data.drop (totalSent + sent.toNat)).take n := hlater
    have hok : ok = true ↔ totalSent + sent.toNat + n = data.length := hok
    refine ⟨sent.toNat + n, by omega, ?_, by rw [hok, Nat.add_assoc]⟩
    rw [hlater, ← List.drop_drop, List.take_add]
  | case3 k totalSent hge => exact ⟨0, h, by rw [List.take_zero], by simp; omega⟩

/-- **`fx5_socket_send_all`** sends the bytes from the front, and all of them iff it returns true. -/
theorem socketSendAll_spec (send : SendCalls) (data : List Byte) :
    ∃ n ≤ data.length, (socketSendAll send data).2 = data.take n ∧
      ((socketSendAll send data).1 = true ↔ n = data.length) := by
  obtain ⟨n, hn, htaken, hok⟩ := sendAllLoop_spec send data 0 0 (Nat.zero_le _)
  rw [Nat.zero_add] at hn hok
  exact ⟨n, hn, htaken, hok⟩

/-! ## Receiving -/

/-- What `recv` returns, and whether `errno` is `EAGAIN` or `EWOULDBLOCK` then. -/
structure RecvCall where
  rc : Int
  wouldBlock : Bool

/-- `fx5_socket_recv_some` on a connected socket. -/
def socketRecvSome (call : RecvCall) : NetEvent :=
  if 0 < call.rc then .deliver call.rc.toNat
  else if call.rc = 0 then .closed
  else if call.wouldBlock then .timeout
  else .error

/-- What the kernel answers while one request is sent and its response received; `arriving` are the
bytes that `recv` can take. -/
structure SocketCalls where
  send : SendCalls
  arriving : List Byte
  recv : List RecvCall

/-- What the kernel answers after the requests that were given to it. -/
abbrev Kernel := List (List Byte) → SocketCalls

/-- The socket as `fx5_client_app_execute_command` sees it. -/
def socketTransport (kernel : Kernel) : Transport := fun requests =>
  { sent := (socketSendAll (kernel requests).send (requests.getLast?.getD [])).1
    stream := (kernel requests).arriving
    events := (kernel requests).recv.map socketRecvSome }

/-! ## Connecting -/

/-- `fx5_socket_t`; there is no handle while it is `FX5_INVALID_SOCKET`. -/
structure Socket where
  handle : Option Nat
  deriving DecidableEq

/-- What is done with the handles of the kernel. -/
inductive HandleAct where
  | opened (handle : Nat)
  | closed (handle : Nat)
  deriving DecidableEq

/-- What `socket` and `connect` return for an address. -/
structure AddressCalls where
  socket : Option Nat
  connect : Int

/-- `fx5_socket_open`, where there is memory for it. -/
def socketOpen : Socket := ⟨none⟩

/-- `fx5_socket_set_connected_handle`. -/
def setConnectedHandle (sock : Socket) (handle : Nat) : Socket × List HandleAct :=
  match sock.handle with
  | some old => (⟨some handle⟩, [.closed old])
  | none => (⟨some handle⟩, [])

/-- The loop of `fx5_socket_connect` over the addresses. -/
def connectLoop (sock : Socket) : List AddressCalls → Bool × Socket × List HandleAct
  | [] => (false, sock, [])
  | call :: calls =>
    match call.socket with
    | none => connectLoop sock calls
    | some handle =>
      if call.connect = 0 then
        let (sock, acts) := setConnectedHandle sock handle
        (true, sock, .opened handle :: acts)
      else
        let (ok, sock, acts) := connectLoop sock calls
        (ok, sock, .opened handle :: .closed handle :: acts)

/-- `getaddrinfo` for a host and the text of a port, with the answers for the addresses it finds. -/
abbrev Resolver := List Char → List Char → Option (List AddressCalls)

/-- `fx5_socket_connect`. -/
def socketConnect (resolve : Resolver) (sock : Socket) (host : Option (List Char)) (port : Word) :
    Bool × Socket × List HandleAct :=
  match host with
  | none => (false, sock, [])
  | some host =>
    match resolve host (printNumeral 10 port.toNat) with
    | none => (false, sock, [])
    | some calls => connectLoop sock calls

/-- `fx5_socket_close`: the handle is closed, and the memory of the socket freed. -/
def socketClose (sock : Socket) : List HandleAct :=
  match sock.handle with
  | some handle => [.closed handle]
  | none => []

/-- The open handles behind some acts.  The kernel opens no handle that is open, and none is closed
that is not. -/
def openHandles : List Nat → List HandleAct → Option (List Nat)
  | handles, [] => some handles
  | handles, .opened handle :: acts =>
    if handle ∈ handles then none else openHandles (handle :: handles) acts
  | handles, .closed handle :: acts =>
    if handle ∈ handles then openHandles (handles.erase handle) acts else none

/-- The address gives a handle that connects. -/
def AddressCalls.connects (call : AddressCalls) : Bool := call.socket.isSome && call.connect = 0

/-- The kernel gives no handle that is open. -/
def FreshHandles (handles : List Nat) (calls : List AddressCalls) : Prop :=
  ∀ call ∈ calls, ∀ handle, call.socket = some handle → handle ∉ handles

section Connect

variable {sock : Socket} {others : List Nat}

theorem openHandles_opened {handle : Nat} {handles : List Nat} (h : handle ∉ handles)
    (acts : List HandleAct) :
    openHandles handles (.opened handle :: acts) = openHandles (handle :: handles) acts :=
  if_neg h

theorem openHandles_closed {handle : Nat} {handles : List Nat} (h : handle ∈ handles)
    (acts : List HandleAct) :
    openHandles handles (.closed handle :: acts) = openHandles (handles.erase handle) acts :=
  if_pos h

/-- A handle that was opened takes the place of the one of the socket. -/
theorem setConnectedHandle_spec {handle : Nat} (hfresh : handle ∉ sock.handle.toList ++ others) :
    (setConnectedHandle sock handle).1 = ⟨some handle⟩ ∧
      openHandles (sock.handle.toList ++ others)
        (.opened handle :: (setConnectedHandle sock handle).2) = some (handle :: others) := by
  rw [openHandles_opened hfresh]
  unfold setConnectedHandle
  cases hold : sock.handle with
  | none => exact ⟨rfl, rfl⟩
  | some old =>
    rw [hold] at hfresh
    have hne : handle ≠ old := fun h => hfresh (by simp [h])
    refine ⟨rfl, ?_⟩
    show openHandles (handle :: old :: others) [.closed old] = _
    rw [openHandles_closed (by simp), List.erase_cons_tail (by simpa using hne),
      List.erase_cons_head]
    rfl

/-- **The loop** keeps the first handle that connects and closes the ones before it; without one the
socket stays as it is.  Nothing else stays open. -/
theorem connectLoop_spec {calls : List AddressCalls}
    (hfresh : FreshHandles (sock.handle.toList ++ others) calls) :
    openHandles (sock.handle.toList ++ others) (connectLoop sock calls).2.2 =
        some ((connectLoop sock calls).2.1.handle.toList ++ others) ∧
      (connectLoop sock calls).1 = calls.any AddressCalls.connects ∧
      (connectLoop sock calls).2.1.handle =
        ((calls.find? AddressCalls.connects).bind (·.socket)).or sock.handle := by
  induction calls with
  | nil => exact ⟨rfl, rfl, rfl⟩
  | cons call calls ih =>
    obtain ⟨hcall, hcalls⟩ := List.forall_mem_cons.mp hfresh
    obtain ⟨hopen, hok, hhandle⟩ := ih hcalls
    cases hsocket : call.socket with
    | none =>
      have hno : call.connects = false := by rw [AddressCalls.connects, hsocket]; rfl
      simp only [connectLoop, hsocket, List.any_cons, List.find?_cons, hno, Bool.false_or]
      exact ⟨hopen, hok, hhandle⟩
    | some handle =>
      have hfreshHandle := hcall handle hsocket
      simp only [connectLoop, hsocket]
      by_cases hzero : call.connect = 0
      · have hyes : call.connects = true := by
          rw [AddressCalls.connects, hsocket, decide_eq_true hzero]
          rfl
        obtain ⟨hsock, hset⟩ := setConnectedHandle_spec hfreshHandle
        simp only [if_pos hzero, List.any_cons, List.find?_cons, hyes, Bool.true_or, hsock]
        exact ⟨hset, trivial, by rw [Option.bind_some, hsocket]; rfl⟩
      · have hno : call.connects = false := by
          rw [AddressCalls.connects, decide_eq_false hzero, Bool.and_false]
        simp only [if_neg hzero, List.any_cons, List.find?_cons, hno, Bool.false_or]
        refine ⟨?_, hok, hhandle⟩
        rw [openHandles_opened hfreshHandle, openHandles_closed List.mem_cons_self,
          List.erase_cons_head]
        exact hopen

/-- **Connecting** opens at most the handle that the socket has then. -/
theorem socketConnect_spec {resolve : Resolver} {host : Option (List Char)} {port : Word}
    (hfresh : ∀ calls, (host.bind fun host => resolve host (printNumeral 10 port.toNat)) = some calls →
      FreshHandles (sock.handle.toList ++ others) calls) :
    openHandles (sock.handle.toList ++ others) (socketConnect resolve sock host port).2.2 =
      some ((socketConnect resolve sock host port).2.1.handle.toList ++ others) ∧
    ((socketConnect resolve sock host port).1 = false →
      (socketConnect resolve sock host port).2.1 = sock) := by
  have hnothing : openHandles (sock.handle.toList ++ others) [] =
      some (sock.handle.toList ++ others) := rfl
  unfold socketConnect
  cases host with
  | none => exact ⟨hnothing, fun _ => rfl⟩
  | some host =>
    simp only [Option.bind_some] at hfresh ⊢
    cases hresolve : resolve host (printNumeral 10 port.toNat) with
    | none => exact ⟨hnothing, fun _ => rfl⟩
    | some calls =>
      obtain ⟨hopen, hok, hhandle⟩ := connectLoop_spec (hfresh calls hresolve)
      refine ⟨hopen, fun hfailed => ?_⟩
      -- no address connects
      have hno : calls.find? AddressCalls.connects = none := by
        rw [List.find?_eq_none]
        simpa using hok.symm.trans hfailed
      rw [hno] at hhandle
      exact congrArg Socket.mk hhandle

/-- **Closing** gives back the handle of the socket. -/
theorem socketClose_spec :
    openHandles (sock.handle.toList ++ others) (socketClose sock) = some others := by
  unfold socketClose
  cases sock.handle with
  | none => rfl
  | some handle =>
    show openHandles (handle :: others) [.closed handle] = _
    rw [openHandles_closed List.mem_cons_self, List.erase_cons_head]
    rfl

end Connect

end Fx5
