import CollectionTree.Proofs.Connection.Steps

/-
  What a frame tells about a packet is all that a receiver
  looks at.

  Key definitions include:
    * `Packet.unaddressed`
    * `Operation.unaddressed`

  Key theorems include:
    * `Packet.ofFrame_eq_error_iff`
    * `Connection.perform_unaddressed`
    * `Connection.run_unaddressed`
    * `Connection.frames_tell_what_matters`

  The addresses of the current hop get lost on the air.  A
  receiver is told by its transport who the sender is, and
  writes both addresses anew before it passes a packet on.
-/

namespace CollectionTree

namespace Packet

------------------------------------------------------------
-- Frames
------------------------------------------------------------

/- A packet without the addresses of the current hop. -/
def unaddressed
    (p : Packet) : Packet :=
  { p with
    sender := Address.null
    receiver := Address.null }

/- The addresses of the current hop are not sent. -/
@[simp] theorem toFrame_unaddressed
    (p : Packet) :
    p.unaddressed.toFrame = p.toFrame :=
  rfl

theorem ofFrame_toFrame
    (p : Packet) :
    ofFrame p.toFrame = .ok p.unaddressed :=
  rfl

/- Two bytes of payload follow the six of the header. -/
example :
    let p : Packet :=
      { Packet.empty with
        originator := ⟨2, 0⟩
        sender := ⟨9, 9⟩
        seqno := 17
        hops := 2
        ttl := 8
        maxRexmit := 4
        payload := [71, 80] }
    p.toFrame = [2, 0, 17, 2, 8, 4, 71, 80] ∧
      ofFrame [2, 0, 17, 2, 8, 4, 71, 80] =
        .ok { p with sender := Address.null } :=
  ⟨rfl, rfl⟩

/- Bytes enough for a header are a frame of a packet. -/
theorem exists_toFrame_eq
    {frame : List UInt8}
    (hLong : headerLength ≤ frame.length) :
    ∃ p : Packet, p.toFrame = frame := by
  rcases frame with
    _ | ⟨hi, _ | ⟨lo, _ | ⟨seqno, _ | ⟨hops, _ | ⟨ttl,
      _ | ⟨maxRexmit, payload⟩⟩⟩⟩⟩⟩
  case cons.cons.cons.cons.cons.cons =>
    exact
      ⟨{ originator := ⟨hi, lo⟩
         sender := Address.null
         receiver := Address.null
         seqno := seqno
         hops := hops
         ttl := ttl
         maxRexmit := maxRexmit
         payload := payload }, rfl⟩
  all_goals simp [headerLength] at hLong

theorem ofFrame_of_short
    {frame : List UInt8}
    (hShort : frame.length < headerLength) :
    ofFrame frame = .error frame.length := by
  unfold ofFrame
  split
  · simp only [List.length_cons, headerLength] at hShort
    omega
  · rfl

/- Reading fails with the number of bytes that are there. -/
theorem ofFrame_eq_error_iff
    {frame : List UInt8}
    {length : Nat} :
    ofFrame frame = .error length ↔
      frame.length < headerLength ∧
        length = frame.length := by
  constructor
  · intro hRead
    rcases Nat.lt_or_ge frame.length headerLength with
      hShort | hLong
    · rw [ofFrame_of_short hShort] at hRead
      exact ⟨hShort, (Except.error.inj hRead).symm⟩
    · rcases exists_toFrame_eq hLong with ⟨q, rfl⟩
      rw [ofFrame_toFrame] at hRead
      contradiction
  · rintro ⟨hShort, rfl⟩
    exact ofFrame_of_short hShort

------------------------------------------------------------
-- What a Receiver Looks at
------------------------------------------------------------

@[simp] theorem id_unaddressed
    (p : Packet) :
    p.unaddressed.id = p.id :=
  rfl

@[simp] theorem ttl_unaddressed
    (p : Packet) :
    p.unaddressed.ttl = p.ttl :=
  rfl

end Packet

namespace Connection

@[simp] theorem advance_unaddressed
    (p : Packet) :
    advance p.unaddressed = (advance p).unaddressed :=
  rfl

@[simp] theorem delivery_unaddressed
    (p : Packet) :
    delivery p.unaddressed = delivery p :=
  rfl

/- Both addresses are written anew. -/
@[simp] theorem handover_unaddressed
    (c : Connection)
    (nextHop : Address)
    (p : Packet) :
    c.handover nextHop p.unaddressed =
      c.handover nextHop p :=
  rfl

theorem deliver_unaddressed
    (c : Connection)
    (p : Packet)
    (reply : Reply) :
    c.deliver p.unaddressed reply = c.deliver p reply := by
  simp only [deliver, delivery_unaddressed]

theorem relay_unaddressed
    (c : Connection)
    (answer : Answer)
    (sender : Address)
    (p : Packet) :
    c.relay answer sender p.unaddressed =
      c.relay answer sender p := by
  simp only [relay, handover_unaddressed]

theorem accept_unaddressed
    (c : Connection)
    (answer : Answer)
    (sender : Address)
    (p : Packet) :
    c.accept answer sender p.unaddressed =
      c.accept answer sender p := by
  simp only [accept, deliver_unaddressed,
    Packet.ttl_unaddressed, advance_unaddressed,
    relay_unaddressed]

theorem receive_unaddressed
    (c : Connection)
    (answer : Answer)
    (sender : Address)
    (p : Packet) :
    c.receive answer sender p.unaddressed =
      c.receive answer sender p := by
  simp only [receive, Packet.id_unaddressed,
    accept_unaddressed]

end Connection

------------------------------------------------------------
-- Operations
------------------------------------------------------------

/- An operation with what a frame tells about a packet. -/
def Operation.unaddressed : Operation → Operation
  | .handle (.received sender packet) =>
      .handle (.received sender packet.unaddressed)
  | operation => operation

namespace Connection

/- No operation depends on what a frame does not tell. -/
theorem perform_unaddressed
    (c : Connection)
    (answer : Answer)
    (operation : Operation) :
    c.perform answer operation.unaddressed =
      c.perform answer operation := by
  unfold Operation.unaddressed
  split
  next sender packet =>
    exact c.receive_unaddressed answer sender packet
  next => rfl

/-
  A run comes to the same state, and asks for the same, when
  all packets that arrive are carried in frames.
-/
theorem run_unaddressed
    (c : Connection)
    (run : List (Operation × Answer)) :
    let carried :=
      run.map (fun turn => (turn.1.unaddressed, turn.2))
    c.after carried = c.after run ∧
      c.effectsOf carried = c.effectsOf run := by
  induction run generalizing c with
  | nil => exact ⟨rfl, rfl⟩
  | cons first rest ih =>
      rcases first with ⟨operation, answer⟩
      rcases ih (c.perform answer operation).connection with
        ⟨hAfter, hEffects⟩
      simp only [effectsOf] at hEffects
      simp only [List.map_cons, after, effectsOf, history,
        List.flatMap_cons, perform_unaddressed]
      exact ⟨hAfter, congrArg _ hEffects⟩

/-
  A packet that was carried in a frame is handled as it was
  sent.  A frame tells all but the addresses of the current
  hop, and all bytes but those too few for a header are the
  frame of what is read from them.  So a whole run in which
  packets arrive as they are read from frames comes to the
  same state and asks for the same.
-/
theorem frames_tell_what_matters :
    (∀ (c : Connection) (answer : Answer)
        (sender : Address) (p : Packet),
      ∃ q, Packet.ofFrame p.toFrame = .ok q ∧
        c.handle answer (.received sender q) =
          c.handle answer (.received sender p)) ∧
      (∀ p : Packet,
        Packet.ofFrame p.toFrame =
          .ok
            { p with
              sender := Address.null
              receiver := Address.null }) ∧
      (∀ frame : List UInt8,
        6 ≤ frame.length →
          ∃ p, Packet.ofFrame frame = .ok p ∧
            p.toFrame = frame) ∧
      (∀ frame : List UInt8,
        (∃ length, Packet.ofFrame frame = .error length) ↔
          frame.length < 6) ∧
      ∀ (c : Connection) (run : List (Operation × Answer)),
        let carried :=
          run.map (fun turn =>
            (turn.1.unaddressed, turn.2))
        c.after carried = c.after run ∧
          c.effectsOf carried = c.effectsOf run := by
  refine
    ⟨?_, Packet.ofFrame_toFrame, ?_, ?_, run_unaddressed⟩
  · intro c answer sender p
    exact
      ⟨p.unaddressed, p.ofFrame_toFrame,
        c.receive_unaddressed answer sender p⟩
  · intro frame hLong
    rcases Packet.exists_toFrame_eq hLong with ⟨p, rfl⟩
    exact
      ⟨p.unaddressed, p.ofFrame_toFrame,
        p.toFrame_unaddressed⟩
  · intro frame
    constructor
    · rintro ⟨length, hRead⟩
      exact (Packet.ofFrame_eq_error_iff.mp hRead).1
    · intro hShort
      exact ⟨frame.length, Packet.ofFrame_of_short hShort⟩

end Connection

end CollectionTree
