import Fx5Slmp.Lib.StreamDecoder
import Fx5Slmp.AnyPeer
import Fx5Slmp.ClientTransport

/-!
# Requests on the wire

What a PLC receives is one stream of bytes.  It finds the end of a request by its length field, so a
request that was sent in part makes it take the next one for the rest.

* `requestFormat` — a stream as a receiver of requests cuts it;
* `decodeRequest_size` — the length field of a request says where it ends;
* `wireBytes` — the bytes that the kernel took, in their order;
* `Sends` — what a command gives to the socket;
* `script_wire_decodes` — **script mode never breaks a request** in the middle of the stream: whatever
  the kernel does, a receiver cuts the stream into the requests that were made;
* `repl_wire_decodes` — the same in interactive mode, up to the first request that was not sent.
-/

set_option autoImplicit false

namespace Fx5

open CText StoppingRun LittleEndian StreamScan

/-! ## Cutting a stream into requests -/

/-- The size of the request at the front, as its header says. -/
def requestSize (b : List Byte) : Option Nat := do
  let (_, rest) ← decodeSubheader b
  let (_, rest) ← readLE 1 rest
  let (_, rest) ← readLE 1 rest
  let (_, rest) ← readLE 2 rest
  let (_, rest) ← readLE 1 rest
  let (packetSize, rest) ← readLE 2 rest
  some (b.length - rest.length + packetSize)

/-- The request at the front of a stream, when all of it is there. -/
def readRequest (b : List Byte) : Option (DecodedRequest × Unit × Nat) := do
  let size ← requestSize b
  if b.length < size then none
  else do
    let request ← decodeRequest (b.take size)
    some (request, (), size)

section Read

variable {b rest : List Byte} {r : HeaderType × Option Nat} {size : Nat}

theorem decodeSubheader_extend (h : decodeSubheader b = some (r, rest)) (t : List Byte) :
    decodeSubheader (b ++ t) = some (r, rest ++ t) := by
  unfold decodeSubheader at h ⊢
  simp only [Option.bind_eq_bind, Option.bind_eq_some_iff] at h
  obtain ⟨⟨subheader, b₁⟩, hsub, h⟩ := h
  rw [readLE_extend hsub t]
  simp only [Option.bind_eq_bind, Option.bind_some]
  split at h
  · rename_i h4
    rw [if_pos h4]
    simp only [Option.bind_eq_some_iff] at h
    obtain ⟨⟨serial, b₂⟩, hserial, ⟨reserved, b₃⟩, hreserved, h⟩ := h
    simp only [readLE_extend hserial t, readLE_extend hreserved t, Option.bind_some]
    split at h
    · rename_i hzero
      cases h
      rw [if_pos hzero]
    · cases h
  · rename_i h4
    rw [if_neg h4]
    split at h
    · rename_i h3
      cases h
      rw [if_pos h3]
    · cases h

theorem decodeSubheader_rest_length (h : decodeSubheader b = some (r, rest)) :
    rest.length + 2 ≤ b.length := by
  unfold decodeSubheader at h
  simp only [Option.bind_eq_bind, Option.bind_eq_some_iff] at h
  obtain ⟨⟨subheader, b₁⟩, hsub, h⟩ := h
  have hlen₁ : b₁.length + 2 = b.length := readLE_rest_length hsub
  split at h
  · simp only [Option.bind_eq_some_iff] at h
    obtain ⟨⟨serial, b₂⟩, hserial, ⟨reserved, b₃⟩, hreserved, h⟩ := h
    have hlen₂ : b₂.length + 2 = b₁.length := readLE_rest_length hserial
    have hlen₃ : b₃.length + 2 = b₂.length := readLE_rest_length hreserved
    split at h
    · cases h
      show b₃.length + 2 ≤ b.length
      omega
    · cases h
  · split at h
    · cases h
      exact Nat.le_of_eq hlen₁
    · cases h

/-- **More input** does not change the size that a header says. -/
theorem requestSize_extend (h : requestSize b = some size) (t : List Byte) :
    requestSize (b ++ t) = some size := by
  unfold requestSize at h ⊢
  simp only [Option.bind_eq_bind, Option.bind_eq_some_iff] at h
  obtain ⟨⟨r, b₁⟩, h₁, ⟨v₂, b₂⟩, h₂, ⟨v₃, b₃⟩, h₃, ⟨v₄, b₄⟩, h₄, ⟨v₅, b₅⟩, h₅, ⟨v₆, b₆⟩, h₆, h⟩ := h
  cases h
  simp only [decodeSubheader_extend h₁ t, readLE_extend h₂ t, readLE_extend h₃ t,
    readLE_extend h₄ t, readLE_extend h₅ t, readLE_extend h₆ t, Option.bind_eq_bind,
    Option.bind_some, List.length_append, Nat.add_sub_add_right]

/-- **The length field of a request** says where it ends. -/
theorem decodeRequest_size {request : DecodedRequest} (h : decodeRequest b = some request) :
    requestSize b = some b.length ∧ 0 < b.length := by
  unfold decodeRequest at h
  simp only [Option.bind_eq_bind, Option.bind_eq_some_iff] at h
  obtain ⟨⟨r, b₁⟩, h₁, ⟨v₂, b₂⟩, h₂, ⟨v₃, b₃⟩, h₃, ⟨v₄, b₄⟩, h₄, ⟨v₅, b₅⟩, h₅, ⟨v₆, b₆⟩, h₆, h⟩ := h
  have hlen₁ : b₁.length + 2 ≤ b.length := decodeSubheader_rest_length h₁
  have hlen₂ : b₂.length + 1 = b₁.length := readLE_rest_length h₂
  have hlen₃ : b₃.length + 1 = b₂.length := readLE_rest_length h₃
  have hlen₄ : b₄.length + 2 = b₃.length := readLE_rest_length h₄
  have hlen₅ : b₅.length + 1 = b₄.length := readLE_rest_length h₅
  have hlen₆ : b₆.length + 2 = b₅.length := readLE_rest_length h₆
  split at h
  · cases h
  · rename_i hsize
    have hsize : v₆ = b₆.length := not_not.mp hsize
    refine ⟨?_, by omega⟩
    simp only [requestSize, h₁, h₂, h₃, h₄, h₅, h₆, Option.bind_eq_bind, Option.bind_some]
    exact congrArg some (by omega)

theorem readRequest_cases {request : DecodedRequest} {u : Unit}
    (h : readRequest b = some (request, u, size)) :
    requestSize b = some size ∧ size ≤ b.length ∧ decodeRequest (b.take size) = some request := by
  unfold readRequest at h
  obtain ⟨size', hsize, h⟩ := Option.bind_eq_some_iff.mp h
  split at h
  · cases h
  · rename_i hle
    obtain ⟨request', hdecode, h⟩ := Option.bind_eq_some_iff.mp h
    cases h
    exact ⟨hsize, Nat.le_of_not_lt hle, hdecode⟩

theorem readRequest_extend {request : DecodedRequest × Unit × Nat} (t : List Byte)
    (h : readRequest b = some request) : readRequest (b ++ t) = some request := by
  obtain ⟨request, u, size⟩ := request
  obtain ⟨hsize, hle, hdecode⟩ := readRequest_cases h
  simp only [readRequest, requestSize_extend hsize t, Option.bind_eq_bind, Option.bind_some,
    List.take_append_of_le_length hle, hdecode]
  rw [if_neg (by rw [List.length_append]; omega)]

/-- **A whole request** is read. -/
theorem readRequest_whole {request : DecodedRequest} (h : decodeRequest b = some request) :
    readRequest b = some (request, (), b.length) := by
  obtain ⟨hsize, _⟩ := decodeRequest_size h
  simp only [readRequest, hsize, Option.bind_eq_bind, Option.bind_some, List.take_length, h]
  rw [if_neg (Nat.lt_irrefl _)]

/-- **A part of a request** waits for the rest. -/
theorem readRequest_part {request : DecodedRequest} (h : decodeRequest b = some request) {n : Nat}
    (hn : n < b.length) : readRequest (b.take n) = none := by
  obtain ⟨hsize, _⟩ := decodeRequest_size h
  unfold readRequest
  cases hpart : requestSize (b.take n) with
  | none => rfl
  | some size =>
    have hwhole := requestSize_extend hpart (b.drop n)
    rw [List.take_append_drop, hsize] at hwhole
    cases hwhole
    simp only [Option.bind_eq_bind, Option.bind_some]
    exact if_pos (by rw [List.length_take]; omega)

end Read

/-- A stream of requests; nothing is skipped. -/
def requestFormat : StreamDecoder.Format Byte Unit DecodedRequest where
  start := fun _ => True
  decidableStart := fun _ => inferInstance
  read := fun _ b => readRequest b
  persistent := fun _ _ _ hnot _ => hnot trivial
  starts := fun _ => trivial
  size := fun h => by
    obtain ⟨hsize, hle, hdecode⟩ := readRequest_cases h
    obtain ⟨_, hpos⟩ := decodeRequest_size hdecode
    rw [List.length_take] at hpos
    exact ⟨by omega, hle⟩
  extend := fun t h => readRequest_extend t h

/-- **Whole requests and a part of one more**, cut again. -/
theorem decode_requests {requests : List (List Byte)} {decoded : List DecodedRequest}
    (h : requests.map decodeRequest = decoded.map some) {left : List Byte}
    (hleft : readRequest left = none) :
    StreamDecoder.decode requestFormat () (requests.flatten ++ left) = ⟨decoded, (), left⟩ := by
  have hread : List.Forall₂ (fun b r => requestFormat.read () b = some (r, (), b.length))
      requests decoded := by
    induction requests generalizing decoded with
    | nil =>
      cases decoded with
      | nil => exact .nil
      | cons r decoded => cases h
    | cons b requests ih =>
      cases decoded with
      | nil => cases h
      | cons r decoded =>
        obtain ⟨hone, hrest⟩ := List.cons.inj h
        exact .cons (readRequest_whole hone) (ih hrest)
  have hfront : requestFormat.front left = left := by
    rw [StreamDecoder.Format.front, skip_eq_zero (p := requestFormat.start) trivial, List.drop_zero]
  have hmessages := StreamDecoder.decode_messages hread (hfront.symm ▸ hleft)
  rw [hfront] at hmessages
  exact hmessages

/-! ## What the kernel takes -/

/-- The bytes that the kernel takes of the last of some requests. -/
def taken (kernel : Kernel) (requests : List (List Byte)) : List Byte :=
  (socketSendAll (kernel requests).send (requests.getLast?.getD [])).2

/-- The bytes that the kernel takes of requests that come after others. -/
def wireBytesFrom (kernel : Kernel) : List (List Byte) → List (List Byte) → List Byte
  | _, [] => []
  | before, request :: requests =>
    taken kernel (before ++ [request]) ++ wireBytesFrom kernel (before ++ [request]) requests

/-- The bytes that the kernel takes of some requests. -/
def wireBytes (kernel : Kernel) (requests : List (List Byte)) : List Byte :=
  wireBytesFrom kernel [] requests

/-- The kernel took the requests whole. -/
def Whole (kernel : Kernel) (requests : List (List Byte)) : Prop :=
  wireBytes kernel requests = requests.flatten

/-- The kernel took only a part of the last request. -/
def BrokenOff (kernel : Kernel) (requests : List (List Byte)) : Prop :=
  ∃ before request n, requests = before ++ [request] ∧ n < request.length ∧
    wireBytes kernel requests = before.flatten ++ request.take n

section Taken

variable {kernel : Kernel} {requests : List (List Byte)}

theorem wireBytesFrom_append (before as bs : List (List Byte)) :
    wireBytesFrom kernel before (as ++ bs) =
      wireBytesFrom kernel before as ++ wireBytesFrom kernel (before ++ as) bs := by
  induction as generalizing before with
  | nil => rw [List.append_nil]; rfl
  | cons a as ih =>
    rw [List.cons_append, wireBytesFrom, wireBytesFrom, ih, List.append_assoc, List.append_assoc,
      List.singleton_append]

theorem wireBytes_concat (request : List Byte) :
    wireBytes kernel (requests ++ [request]) =
      wireBytes kernel requests ++ taken kernel (requests ++ [request]) := by
  rw [wireBytes, wireBytesFrom_append, List.nil_append, wireBytesFrom, wireBytesFrom,
    List.append_nil]
  rfl

/-- **One more request** is taken whole, or its sending fails and it is broken off. -/
theorem Whole.concat (h : Whole kernel requests) (request : List Byte) :
    ((socketTransport kernel (requests ++ [request])).sent = true ∧
      Whole kernel (requests ++ [request])) ∨
    ((socketTransport kernel (requests ++ [request])).sent = false ∧
      BrokenOff kernel (requests ++ [request])) := by
  obtain ⟨n, hn, htaken, hsent⟩ :=
    socketSendAll_spec (kernel (requests ++ [request])).send request
  have hlast : (requests ++ [request]).getLast?.getD [] = request := by
    rw [List.getLast?_concat]
    rfl
  have htaken' : taken kernel (requests ++ [request]) = request.take n := by
    rw [taken, hlast, htaken]
  have hsent' : (socketTransport kernel (requests ++ [request])).sent = true ↔
      n = request.length := by
    rw [socketTransport, hlast]
    exact hsent
  have hwire : wireBytes kernel (requests ++ [request]) = requests.flatten ++ request.take n := by
    rw [wireBytes_concat, htaken', h]
  rcases Nat.eq_or_lt_of_le hn with rfl | hlt
  · refine Or.inl ⟨hsent'.mpr rfl, ?_⟩
    rw [Whole, hwire, List.take_length, List.flatten_concat]
  · refine Or.inr ⟨?_, requests, request, n, rfl, hlt, hwire⟩
    rw [← Bool.not_eq_true, hsent']
    omega

end Taken

/-! ## Commands -/

/-- What a command gives to the socket: nothing, or one request that is sent or fails to be sent. -/
inductive Sends (transport : Transport) (sock sock' : List (List Byte)) : Bool → Prop where
  | nothing : sock' = sock → Sends transport sock sock' false
  | sent (request : List Byte) : sock' = sock ++ [request] → (transport sock').sent = true →
      Sends transport sock sock' false
  | failed (request : List Byte) : sock' = sock ++ [request] → (transport sock').sent = false →
      Sends transport sock sock' true

/-- The command ended because its request was not sent. -/
def Execution.sendFailed (e : Execution) : Bool := e.ending = some .sendFailed

section Commands

variable {cfg : Config} {transport : Transport} {app app' : ClientApp}

/-- **A get or set command** fails for this reason if and only if its request fails to be sent. -/
theorem appExecuteCommand_sends {cmd : ClientCommand} {ending : CommandEnd}
    (h : appExecuteCommand cfg transport app cmd = some (ending, app')) :
    Sends transport app.sock app'.sock (ending = .sendFailed) := by
  rw [appExecuteCommand, executeCommandPrinting_quiet] at h
  obtain ⟨⟨status, ctx⟩, _, h⟩ := Option.bind_eq_some_iff.mp h
  simp only at h
  split at h
  · cases h
    exact .nothing rfl
  obtain ⟨built, _, h⟩ := Option.bind_eq_some_iff.mp h
  split at h
  · cases h
    exact .nothing rfl
  cases hsent : (transport (app.sock ++ [built.outBuf.take built.actualSize])).sent with
  | false =>
    rw [hsent] at h
    cases h
    exact .failed _ rfl hsent
  | true =>
    rw [hsent] at h
    simp only [Bool.not_true, Bool.false_eq_true, if_false] at h
    have hsock := (appReceiveResponse_keeps h).2
    have hending : ending ≠ .sendFailed := by
      rw [appReceiveResponse_eq] at h
      obtain ⟨⟨received, ctx', rest⟩, _, h⟩ := Option.bind_eq_some_iff.mp h
      cases received with
      | answered status =>
        obtain ⟨report, _, h⟩ := Option.bind_eq_some_iff.mp h
        cases h
        exact CommandEnd.noConfusion
      | _ =>
        cases h
        exact CommandEnd.noConfusion
    rw [decide_eq_false hending]
    exact .sent _ hsock (by rw [hsock]; exact hsent)

/-- **Every command** that ends so has failed. -/
theorem executeReplCommand_sends {cmd : ParsedCommand} {done : Bool} {ending : Option CommandEnd}
    (h : executeReplCommand cfg transport app cmd = some (done, ending, app')) :
    Sends transport app.sock app'.sock (Execution.mk cmd ending).sendFailed ∧
      ((Execution.mk cmd ending).sendFailed = true → done = false) := by
  have hplc (h : (appExecuteCommand cfg transport app cmd.toClientCommand).bind
      (fun r => some (r.1.succeeded, some r.1, r.2)) = some (done, ending, app')) :
      Sends transport app.sock app'.sock (Execution.mk cmd ending).sendFailed ∧
        ((Execution.mk cmd ending).sendFailed = true → done = false) := by
    obtain ⟨⟨ended, app₂⟩, hexecute, h⟩ := Option.bind_eq_some_iff.mp h
    cases h
    have hsome : (Execution.mk cmd (some ended)).sendFailed = decide (ended = .sendFailed) := by
      simp [Execution.sendFailed]
    rw [hsome]
    refine ⟨appExecuteCommand_sends hexecute, fun hfailed => ?_⟩
    rw [of_decide_eq_true hfailed]
    rfl
  rw [executeReplCommand, executeReplCommandPrinting_quiet] at h
  cases htype : cmd.type with
  | get | set =>
    rw [htype] at h
    exact hplc h
  | help | trace | header | invalid | quit =>
    rw [htype] at h
    cases h
    exact ⟨.nothing rfl, fun hfailed => absurd hfailed Bool.false_ne_true⟩

end Commands

/-! ## Whole runs -/

/-- The requests behind a run that started with a fresh connection. -/
theorem Sent.requests {cfg : Config} {app app' : ClientApp} {cmds : List ParsedCommand}
    (h : Sent cfg app cmds app') (hfresh : app.sock = []) :
    app'.sock.map decodeRequest = (requestsOf cfg app.config.networkSettings cmds).map some := by
  have hwire := h.wire
  rw [ClientApp.wire, ClientApp.wire, hfresh] at hwire
  exact hwire

section Runs

variable {cfg : Config} {platform : Platform} {kernel : Kernel} {app app' : ClientApp}

/-- A command that does not fail to send leaves the requests whole; one that does breaks off its own. -/
theorem Sends.wire {sock sock' : List (List Byte)} {failed : Bool}
    (h : Sends (socketTransport kernel) sock sock' failed) (hwhole : Whole kernel sock) :
    if failed then BrokenOff kernel sock' else Whole kernel sock' := by
  cases h with
  | nothing hsock =>
    rw [hsock]
    exact hwhole
  | sent request hsock hsent =>
    rw [hsock] at hsent ⊢
    rcases hwhole.concat request with ⟨_, hnext⟩ | ⟨hnot, _⟩
    · exact hnext
    · rw [hsent] at hnot
      cases hnot
  | failed request hsock hsent =>
    rw [hsock] at hsent ⊢
    rcases hwhole.concat request with ⟨hnot, _⟩ | ⟨_, hnext⟩
    · rw [hsent] at hnot
      cases hnot
    · exact hnext

/-- What is on the wire stays there. -/
theorem Sends.wireBytes {sock sock' : List (List Byte)} {failed : Bool} {transport : Transport}
    (h : Sends transport sock sock' failed) (kernel : Kernel) :
    ∃ more, Fx5.wireBytes kernel sock' = Fx5.wireBytes kernel sock ++ more := by
  cases h with
  | nothing hsock => exact ⟨[], by rw [hsock, List.append_nil]⟩
  | sent request hsock _ => exact ⟨_, by rw [hsock, wireBytes_concat]⟩
  | failed request hsock _ => exact ⟨_, by rw [hsock, wireBytes_concat]⟩

/-- **A text of a script** leaves the requests whole unless it stops the script. -/
theorem runText_wire (hwhole : Whole kernel app.sock) {line : List Char}
    {turn : StoppingRun.Turn Execution ScriptStop ClientApp}
    (h : runText cfg platform (socketTransport kernel) line app = some turn) :
    Whole kernel turn.state.sock ∨
      ∃ cmd, turn = .stop [⟨cmd, some .sendFailed⟩] .commandFailed turn.state ∧
        BrokenOff kernel turn.state.sock := by
  obtain ⟨ok, cmd, _, ⟨_, rfl⟩ | ⟨_, _, rfl⟩ | ⟨_, _, done, ending, app₂, hexecute, hdone⟩⟩ :=
    runText_cases h
  · exact Or.inl hwhole
  · exact Or.inl hwhole
  · obtain ⟨hsends, hfails⟩ := executeReplCommand_sends hexecute
    have hwire := hsends.wire hwhole
    cases hfailed : (Execution.mk cmd ending).sendFailed with
    | false =>
      rw [hfailed] at hwire
      rcases hdone with ⟨_, rfl⟩ | ⟨_, rfl⟩
      · exact Or.inl hwire
      · exact Or.inl hwire
    | true =>
      rw [hfailed] at hwire
      rcases hdone with ⟨hdone, _⟩ | ⟨_, rfl⟩
      · rw [hfails hfailed] at hdone
        cases hdone
      · have hending : ending = some .sendFailed := of_decide_eq_true hfailed
        rw [hending]
        exact Or.inr ⟨cmd, rfl, hwire⟩

/-- What the requests of a script are behind the commands that were executed. -/
structure ScriptSent (cfg : Config) (kernel : Kernel) (app : ClientApp) (executed : List Execution)
    (app' : ClientApp) : Prop where
  sent : Sent cfg app (executed.map (·.command)) app'
  whole : Whole kernel app'.sock

/-- **All texts of a script**: a request is broken off only by the command that ends the script. -/
theorem runTexts_wire (hsession : app.InSession cfg) (hfresh : app.sock = [])
    {texts : List (List Char)} {ended : Ended Execution ScriptStop ClientApp}
    (h : run (runText cfg platform (socketTransport kernel)) texts app = some ended) :
    Sent cfg app (ended.outputs.map (·.command)) ended.state ∧
      (Whole kernel ended.state.sock ∨
        BrokenOff kernel ended.state.sock ∧ ended.reason = some .commandFailed ∧
          ∃ before cmd, ended.outputs = before ++ [⟨cmd, some .sendFailed⟩]) := by
  have hstart : ScriptSent cfg kernel app [] app :=
    ⟨Sent.start hsession, by rw [hfresh]; rfl⟩
  have hsent {earlier : List Execution} {app₁ : ClientApp} {line : List Char}
      {turn : StoppingRun.Turn Execution ScriptStop ClientApp}
      (hs : ScriptSent cfg kernel app earlier app₁)
      (hturn : runText cfg platform (socketTransport kernel) line app₁ = some turn) :
      Sent cfg app ((earlier ++ turn.outputs).map (·.command)) turn.state := by
    rw [List.map_append]
    exact runText_sent hs.sent hturn
  have hend := run_ends (J := ScriptSent cfg kernel app)
    (K := fun executed stop app' => Sent cfg app (executed.map (·.command)) app' ∧
      (Whole kernel app'.sock ∨ BrokenOff kernel app'.sock ∧ stop = .commandFailed ∧
        ∃ before cmd, executed = before ++ [⟨cmd, some .sendFailed⟩]))
    (fun line app₁ earlier outputs app₂ hs hturn => by
      refine ⟨hsent hs hturn, ?_⟩
      rcases runText_wire hs.whole hturn with hwhole | ⟨_, hstop, _⟩
      · exact hwhole
      · cases hstop)
    (fun line app₁ earlier outputs stop app₂ hs hturn => by
      refine ⟨hsent hs hturn, ?_⟩
      rcases runText_wire hs.whole hturn with hwhole | ⟨cmd, hstop, hbroken⟩
      · exact Or.inl hwhole
      · cases hstop
        exact Or.inr ⟨hbroken, rfl, earlier, cmd, rfl⟩) hstart h
  rcases hend with ⟨_, hs⟩ | ⟨stop, hstop, hs, hwire⟩
  · exact ⟨hs.sent, Or.inl hs.whole⟩
  · refine ⟨hs, hwire.imp_right fun ⟨hbroken, hcommand, hlast⟩ => ⟨hbroken, ?_, hlast⟩⟩
    rw [hstop, hcommand]

end Runs

/-- **Script mode never breaks a request in the middle of the stream.**  Whatever part of a request
the kernel takes in one call of `send`, and wherever sending fails: a receiver that cuts the bytes on
the wire by the length fields finds exactly the requests of the commands that were executed, in
order.  Only the last one can be broken off, if its sending failed; then the script has stopped
with it, the program returns 1, and what is left is a proper part of this request. -/
theorem script_wire_decodes {cfg : Config} {platform : Platform} {kernel : Kernel} {app : ClientApp}
    (hready : app.Ready cfg) (hheader : HeaderAccepted app.config.networkSettings.headerType)
    (hfresh : app.sock = []) {script : ScriptFile} {rc : Nat} {r : ScriptRun}
    (h : scriptRun cfg platform (socketTransport kernel) (some script) app = some (rc, some r)) :
    ∃ received left,
      StreamDecoder.decode requestFormat () (wireBytes kernel r.ended.state.sock) =
        ⟨received, (), left⟩ ∧
      ((requestsOf cfg app.config.networkSettings (r.ended.outputs.map (·.command)) = received ∧
          left = []) ∨
        (∃ request last,
          requestsOf cfg app.config.networkSettings (r.ended.outputs.map (·.command)) =
            received ++ [last] ∧
          decodeRequest request = some last ∧ left <+: request ∧ left.length < request.length ∧
          rc = 1 ∧ ∃ before cmd, r.ended.outputs = before ++ [⟨cmd, some .sendFailed⟩])) := by
  obtain ⟨hrc, hrun⟩ := scriptRun_run h
  obtain ⟨hsent, hwire⟩ := runTexts_wire ⟨hready, hheader⟩ hfresh hrun
  have hrequests := hsent.requests hfresh
  rcases hwire with hwhole | ⟨⟨before, request, n, hsock, hn, hbytes⟩, hstop, hlast⟩
  · refine ⟨_, [], ?_, Or.inl ⟨rfl, rfl⟩⟩
    have hdecode := @decode_requests _ _ hrequests [] rfl
    rw [List.append_nil] at hdecode
    rw [hwhole]
    exact hdecode
  · rw [hsock, List.map_append, List.map_singleton] at hrequests
    obtain ⟨received, lasts, hsplit, hreceived, hone⟩ := List.map_eq_append_iff.mp hrequests.symm
    obtain ⟨last, rfl, hdecoded⟩ := List.map_eq_singleton_iff.mp hone
    refine ⟨received, request.take n, ?_, Or.inr ⟨request, last, hsplit, hdecoded.symm,
      List.take_prefix n request, by rw [List.length_take]; omega, by rw [hrc, hstop]; rfl, hlast⟩⟩
    rw [hbytes]
    exact decode_requests hreceived.symm (readRequest_part hdecoded.symm hn)

/-- A kernel that takes at most 8 bytes in one call and then fails to send the second request.  A PLC
answers what was sent. -/
def haltingKernel : Kernel := fun requests =>
  let answer := (willingPlc.transport zeroMemory requests).stream
  { send :=
      { rc := fun k n => if requests.length = 2 ∧ 0 < k then -1 else min 8 n
        le := fun _ _ => by split <;> omega }
    arriving := answer
    recv := [⟨answer.length, false⟩] }

/-- The second request of the script is broken off behind 8 bytes. -/
theorem bitScript_wire_decodes : ∃ r received left,
    scriptRun .smallest lp64 (socketTransport haltingKernel) (some bitScript) startedApp =
      some (1, some r) ∧
    (wireBytes haltingKernel r.ended.state.sock).length = 34 ∧
    StreamDecoder.decode requestFormat () (wireBytes haltingKernel r.ended.state.sock) =
      ⟨received, (), left⟩ ∧
    (left = [] ∨ ∃ before cmd, r.ended.outputs = before ++ [⟨cmd, some .sendFailed⟩]) := by
  have hrun : (runTexts .smallest lp64 (socketTransport haltingKernel) (handedOver bitScript.text)
      startedApp).map (fun ended =>
        (ended.reason, (wireBytes haltingKernel ended.state.sock).length)) =
      some (some .commandFailed, 34) := by
    rw [handedOver_bitScript]
    decide +kernel
  obtain ⟨ended, hended, heq⟩ := Option.map_eq_some_iff.mp hrun
  obtain ⟨hreason, hlength⟩ := Prod.mk.inj heq
  obtain ⟨r, hscript, rfl⟩ := @scriptRun_ended _ _ _ bitScript _ _ hended
  rw [hreason] at hscript
  obtain ⟨received, left, hdecode, hcases⟩ :=
    script_wire_decodes startedApp_ready (Or.inr rfl) rfl hscript
  refine ⟨r, received, left, hscript, hlength, hdecode, ?_⟩
  rcases hcases with ⟨_, hleft⟩ | ⟨_, _, _, _, _, _, _, hlast⟩
  · exact Or.inl hleft
  · exact Or.inr hlast

/-! ## Interactive mode -/

/-- The command of the event failed because its request was not sent. -/
def ReplEvent.sendFailed (event : ReplEvent) : Bool :=
  event.execution.any Execution.sendFailed

/-- The events before the first request that was not sent. -/
def beforeSendFailed (events : List ReplEvent) : List ReplEvent :=
  events.takeWhile fun event => !event.sendFailed

/-- What is on the wire in interactive mode: the requests before the first one that was not sent,
and if there is such a one, something more. -/
structure ReplSent (cfg : Config) (kernel : Kernel) (app : ClientApp) (events : List ReplEvent)
    (app' : ClientApp) : Prop where
  sent : Sent cfg app (events.filterMap ReplEvent.command) app'
  wire : ∃ whole more, wireBytes kernel app'.sock = whole.flatten ++ more ∧
    whole.map decodeRequest = (requestsOf cfg app.config.networkSettings
      ((beforeSendFailed events).filterMap ReplEvent.command)).map some ∧
    (beforeSendFailed events = events → app'.sock = whole ∧ more = [])

section Repl

variable {cfg : Config} {platform : Platform} {kernel : Kernel} {app app₁ : ClientApp}

theorem beforeSendFailed_append_of_eq {earlier : List ReplEvent}
    (h : beforeSendFailed earlier = earlier) (events : List ReplEvent) :
    beforeSendFailed (earlier ++ events) = earlier ++ beforeSendFailed events := by
  unfold beforeSendFailed at h ⊢
  rw [List.takeWhile_append, if_pos (congrArg List.length h)]

theorem beforeSendFailed_append_of_ne {earlier : List ReplEvent}
    (h : beforeSendFailed earlier ≠ earlier) (events : List ReplEvent) :
    beforeSendFailed (earlier ++ events) = beforeSendFailed earlier ∧
      beforeSendFailed earlier ≠ earlier ++ events := by
  unfold beforeSendFailed at h ⊢
  have hfront := List.takeWhile_prefix (fun event : ReplEvent => !event.sendFailed) (l := earlier)
  constructor
  · rw [List.takeWhile_append, if_neg fun hlen => h (hfront.eq_of_length hlen)]
  · intro hall
    refine h (hfront.eq_of_length ?_)
    have hle := hfront.length_le
    have hlen := congrArg List.length hall
    rw [List.length_append] at hlen
    omega

theorem replTurn_sends {transport : Transport} {line : List Char}
    {turn : StoppingRun.Turn ReplEvent ReplStop ClientApp}
    (h : replTurn cfg platform transport line app = some turn) :
    Sends transport app.sock turn.state.sock (turn.outputs.any ReplEvent.sendFailed) := by
  obtain ⟨ok, cmd, _, ⟨_, rfl⟩ | ⟨_, _, rfl⟩ | ⟨_, _, done, ending, app₂, hexecute, rfl⟩⟩ :=
    replTurn_cases h
  · exact .nothing rfl
  · exact .nothing rfl
  · show Sends transport app.sock app₂.sock ((Execution.mk cmd ending).sendFailed || false)
    rw [Bool.or_false]
    exact (executeReplCommand_sends hexecute).1

/-- **One text of interactive mode**, after others. -/
theorem replTurn_wire (hfresh : app.sock = []) {earlier : List ReplEvent}
    (h : ReplSent cfg kernel app earlier app₁) {line : List Char}
    {turn : StoppingRun.Turn ReplEvent ReplStop ClientApp}
    (hturn : replTurn cfg platform (socketTransport kernel) line app₁ = some turn) :
    ReplSent cfg kernel app (earlier ++ turn.outputs) turn.state := by
  have hsent : Sent cfg app ((earlier ++ turn.outputs).filterMap ReplEvent.command) turn.state := by
    rw [List.filterMap_append]
    exact replTurn_sent h.sent hturn
  obtain ⟨whole, more, hwire, hwhole, hall⟩ := h.wire
  have hsends := replTurn_sends hturn
  obtain ⟨later, hlater⟩ := hsends.wireBytes kernel
  refine ⟨hsent, ?_⟩
  by_cases hearlier : beforeSendFailed earlier = earlier
  · obtain ⟨hsock, rfl⟩ := hall hearlier
    have hwholeSock : Whole kernel app₁.sock := by rw [Whole, hwire, hsock, List.append_nil]
    rw [beforeSendFailed_append_of_eq hearlier]
    cases hfailed : turn.outputs.any ReplEvent.sendFailed with
    | false =>
      -- still every request was sent
      have hnext := hsends.wire hwholeSock
      rw [hfailed] at hnext
      have houtputs : beforeSendFailed turn.outputs = turn.outputs :=
        List.takeWhile_eq_self_iff.mpr (by simpa using hfailed)
      refine ⟨turn.state.sock, [], by rw [List.append_nil]; exact hnext, ?_, fun _ => ⟨rfl, rfl⟩⟩
      rw [houtputs]
      exact hsent.requests hfresh
    | true =>
      -- the first request that was not sent
      obtain ⟨event, houtputs, hevent⟩ : ∃ event, turn.outputs = [event] ∧
          event.sendFailed = true := by
        rcases replTurn_command hturn with ⟨_, rfl⟩ | ⟨_, event, app', rfl, _⟩
        · cases hfailed
        · exact ⟨event, rfl, by simpa [StoppingRun.Turn.outputs] using hfailed⟩
      have hnone : beforeSendFailed turn.outputs = [] := by
        rw [houtputs]
        exact List.takeWhile_cons_of_neg (by simp [hevent])
      rw [hnone, List.append_nil]
      refine ⟨whole, later, by rw [hlater, hwire, List.append_nil], by rw [← hearlier]; exact hwhole,
        fun hall => ?_⟩
      rw [houtputs] at hall
      exact absurd (congrArg List.length hall) (by simp)
  · obtain ⟨hbefore, hne⟩ := beforeSendFailed_append_of_ne hearlier turn.outputs
    rw [hbefore]
    exact ⟨whole, more ++ later, by rw [hlater, hwire, List.append_assoc], hwhole,
      fun hall => absurd hall hne⟩

end Repl

/-- **Interactive mode up to the first request that was not sent.**  A receiver that cuts the bytes on
the wire by the length fields finds the requests of the commands before it, in order; if every request
was sent, it finds nothing more. -/
theorem repl_wire_decodes {cfg : Config} {platform : Platform} {kernel : Kernel} {app : ClientApp}
    (hready : app.Ready cfg) (hheader : HeaderAccepted app.config.networkSettings.headerType)
    (hfresh : app.sock = []) {input : List Char} {rc : Nat} {e : Ended ReplEvent ReplStop ClientApp}
    (h : replRun cfg platform (socketTransport kernel) input app = some (rc, e)) :
    ∃ more left,
      StreamDecoder.decode requestFormat () (wireBytes kernel e.state.sock) =
        ⟨requestsOf cfg app.config.networkSettings
          ((beforeSendFailed e.outputs).filterMap ReplEvent.command) ++ more, (), left⟩ ∧
      ((∀ event ∈ e.outputs, event.sendFailed = false) → more = [] ∧ left = []) := by
  have hstart : ReplSent cfg kernel app [] app :=
    ⟨Sent.start ⟨hready, hheader⟩, [], [], by rw [hfresh]; rfl, rfl, fun _ => ⟨hfresh, rfl⟩⟩
  have hrun := run_history (J := ReplSent cfg kernel app)
    (fun _ _ _ _ hs hturn => replTurn_wire hfresh hs hturn) hstart (replRun_run h).2
  rw [List.nil_append] at hrun
  obtain ⟨whole, more, hwire, hwhole, hall⟩ := hrun.wire
  have hdecode := @decode_requests _ _ hwhole [] rfl
  rw [List.append_nil] at hdecode
  have hrest := StreamDecoder.decode_append requestFormat () whole.flatten more
  rw [hdecode, List.nil_append] at hrest
  refine ⟨(StreamDecoder.decode requestFormat () more).outputs,
    (StreamDecoder.decode requestFormat () more).left, by rw [hwire, hrest]; rfl, fun hsent => ?_⟩
  obtain ⟨_, rfl⟩ := hall (List.takeWhile_eq_self_iff.mpr (by simpa using hsent))
  have hnothing : StreamDecoder.decode requestFormat () [] = ⟨[], (), []⟩ :=
    @decode_requests [] [] rfl [] rfl
  rw [hnothing]
  exact ⟨rfl, rfl⟩

/-- Interactive mode goes on behind the request that was not sent. -/
theorem unansweredScript_wire_decodes : ∃ e more left,
    replRun .smallest lp64 (socketTransport haltingKernel) unansweredScript.text startedApp =
      some (0, e) ∧
    e.outputs.map ReplEvent.sendFailed = [false, false, true] ∧
    StreamDecoder.decode requestFormat () (wireBytes haltingKernel e.state.sock) =
      ⟨requestsOf .smallest startedApp.config.networkSettings
        ((beforeSendFailed e.outputs).filterMap ReplEvent.command) ++ more, (), left⟩ := by
  have hrepl : (run (replTurn .smallest lp64 (socketTransport haltingKernel))
      (replTexts unansweredScript.text) startedApp).map
        (fun e => e.outputs.map ReplEvent.sendFailed) = some [false, false, true] := by
    rw [texts_unansweredScript.2]
    decide +kernel
  obtain ⟨e, he, hfailed⟩ := Option.map_eq_some_iff.mp hrepl
  have hrepl : replRun .smallest lp64 (socketTransport haltingKernel) unansweredScript.text
      startedApp = some (0, e) := by
    rw [replRun_texts, he]
    rfl
  obtain ⟨more, left, hdecode, _⟩ := repl_wire_decodes startedApp_ready (Or.inr rfl) rfl hrepl
  exact ⟨e, more, left, hrepl, hfailed, hdecode⟩

end Fx5
