import MeshStar.NoiseAgreement

/-!
# The XX handshake between two sides that run apart

A node knows its own side of a handshake only: what it was created with, the messages it
wrote and the messages it read. Two sides that were created for one prologue are parts of
one conversation as soon as the responder has answered the initiator's first message, and
then the rest of the conversation is determined: the initiator reads the answer, its third
message is read by the responder, and both finish with the same keys.

No message is longer than its keys, its payload and their tags, so all of them fit a frame.
-/

namespace MeshStar

variable [Primitives]

/-- A text sealed on a transcript is longer by one tag at most. -/
theorem SymmetricState.encryptAndHash_length_le (honest : HonestPrimitives)
    {state : SymmetricState} {plaintext : Bytes} :
    (state.encryptAndHash plaintext).2.length ≤ plaintext.length + tagLen := by
  cases keyed : state.cipher.key with
  | none =>
    simp only [encryptAndHash, CipherState.encryptWithAd, keyed]
    exact Nat.le_add_right _ _
  | some key =>
    have present : state.cipher.key.isSome := by rw [keyed]; rfl
    exact (encryptAndHash_length honest present plaintext).le

namespace HandshakeXX

/-- Whatever an action returns has a property. -/
def Yields {α : Type} (property : α → Prop) (action : HandshakeM α) : Prop :=
  ∀ handshake reached value, run action handshake = (reached, .ok value) → property value

section Lengths

variable {α β : Type} {first : α → Prop} {property : β → Prop}

section

omit [Primitives]

theorem yields_bind {action : HandshakeM α} {next : α → HandshakeM β} (former : Yields first action)
    (later : ∀ value, first value → Yields property (next value)) :
    Yields property (action >>= next) := by
  intro handshake reached value returned
  rw [run_bind] at returned
  cases ran : run action handshake with
  | mk middle result =>
    rw [ran] at returned
    cases result with
    | error _ => cases returned
    | ok found =>
      exact later found (former handshake middle found ran) middle reached value returned

/-- A step whose result does not matter. -/
theorem yields_then {action : HandshakeM α} {next : α → HandshakeM β}
    (later : ∀ value, Yields property (next value)) : Yields property (action >>= next) := by
  have any : Yields (fun _ => True) action := fun _ _ _ _ => trivial
  exact yields_bind any (fun value _ => later value)

theorem yields_pure {value : β} (holds : property value) :
    Yields property (pure value : HandshakeM β) := by
  intro handshake reached returned same
  cases same
  exact holds

end

section

variable (honest : HonestPrimitives)

include honest

theorem yields_encryptAndHash (plaintext : Bytes) :
    Yields (fun sealed => sealed.length ≤ plaintext.length + tagLen)
      (encryptAndHash plaintext) := by
  intro handshake reached sealed returned
  cases returned
  exact SymmetricState.encryptAndHash_length_le honest

theorem writeMessage1_length {payload : Bytes} :
    Yields (fun message => message.length ≤ payload.length + 48) (writeMessage1 payload) := by
  refine yields_then (fun _ => ?_)
  refine yields_then (fun handshake => ?_)
  refine yields_then (fun _ => ?_)
  refine yields_bind (yields_encryptAndHash honest payload) (fun sealed short => ?_)
  refine yields_then (fun _ => yields_pure ?_)
  simp only [List.length_append, FixedBytes.length_val, tagLen] at short ⊢
  omega

theorem writeMessage2_length {extra : Bytes} :
    Yields (fun message => message.length ≤ extra.length + 128) (writeMessage2 extra) := by
  refine yields_then (fun _ => ?_)
  refine yields_then (fun handshake => ?_)
  refine yields_then (fun remoteEphemeral => ?_)
  refine yields_then (fun ephemeral => ?_)
  refine yields_then (fun _ => ?_)
  refine yields_then (fun _ => ?_)
  refine yields_bind (yields_encryptAndHash honest _) (fun sealedStatic shortStatic => ?_)
  refine yields_then (fun _ => ?_)
  refine yields_bind (yields_encryptAndHash honest _) (fun sealedPayload shortPayload => ?_)
  refine yields_then (fun _ => yields_pure ?_)
  simp only [identityPayload, List.length_append, FixedBytes.length_val, tagLen] at *
  omega

theorem writeMessage3_length {extra : Bytes} :
    Yields (fun message => message.length ≤ extra.length + 96) (writeMessage3 extra) := by
  refine yields_then (fun _ => ?_)
  refine yields_then (fun handshake => ?_)
  refine yields_then (fun remoteEphemeral => ?_)
  refine yields_bind (yields_encryptAndHash honest _) (fun sealedStatic shortStatic => ?_)
  refine yields_then (fun _ => ?_)
  refine yields_bind (yields_encryptAndHash honest _) (fun sealedPayload shortPayload => ?_)
  refine yields_then (fun _ => yields_pure ?_)
  simp only [identityPayload, List.length_append, FixedBytes.length_val, tagLen] at *
  omega

end

/-- A first message that can be read holds an ephemeral key. -/
theorem readMessage1_long {message payload : Bytes} {handshake reached : HandshakeXX}
    (read : run (readMessage1 message) handshake = (reached, .ok payload)) :
    ¬message.length < 32 := by
  intro short
  rw [readMessage1, run_bind, run_expect] at read
  split at read
  · rw [if_pos short] at read
    cases read
  · cases read

end Lengths

/-- An initiator's side after its first message. -/
def Offers (prologue : Bytes) (identity : Identity) (handshake : HandshakeXX) (m1 : Bytes) : Prop :=
  ∃ (rng : Rng) (payload : Bytes),
    run (writeMessage1 payload) (new .initiator identity prologue rng).2 = (handshake, .ok m1)

/-- A responder's side after its answer to a first message. -/
def Answers (prologue : Bytes) (identity : Identity) (handshake : HandshakeXX) (m1 m2 : Bytes) :
    Prop :=
  ∃ (rng : Rng) (payload extra : Bytes) (read : HandshakeXX),
    run (readMessage1 m1) (new .responder identity prologue rng).2 = (read, .ok payload) ∧
    run (writeMessage2 extra) read = (handshake, .ok m2)

variable {prologue m1 m2 : Bytes} {offering answering : Identity}
  {initiator responder handshake : HandshakeXX}

/-- Whatever a fresh side wrote or read, it keeps its role. -/
theorem call_role {method : Method} {argument value : Bytes} {reached : HandshakeXX}
    (called : run (method.call argument) handshake = (reached, .ok value)) :
    reached.role = handshake.role := by
  have moved := call_advances method argument handshake
  rw [called] at moved
  exact congrArg Prod.fst moved

theorem Offers.role (offers : Offers prologue offering initiator m1) :
    initiator.role = .initiator := by
  obtain ⟨rng, payload, wrote⟩ := offers
  exact call_role (show run (Method.writeMessage1.call payload) _ = _ from wrote)

theorem Answers.role (answers : Answers prologue answering responder m1 m2) :
    responder.role = .responder := by
  obtain ⟨rng, payload, extra, read, first, second⟩ := answers
  have kept : responder.role = read.role :=
    call_role (show run (Method.writeMessage2.call extra) _ = _ from second)
  exact kept.trans (call_role (show run (Method.readMessage1.call m1) _ = _ from first))

/-- A fresh initiator can always write its first message. -/
theorem new_offers (identity : Identity) (prologue : Bytes) (rng : Rng) (payload : Bytes) :
    ∃ handshake m1,
      run (writeMessage1 payload) (new .initiator identity prologue rng).2 =
        (handshake, .ok m1) := by
  simp only [writeMessage1, run_bind, run_expect, new, and_self, if_true, run_get, run_mixHash,
    run_encryptAndHash, run_modify, run_pure]
  exact ⟨_, _, rfl⟩

/-- A first message is answered by every honest responder created for its prologue. -/
theorem Offers.answered (honest : HonestPrimitives) (answering : Identity) (rng : Rng)
    (extra : Bytes) (offers : Offers prologue offering initiator m1) :
    ∃ payload read responder m2,
      run (readMessage1 m1) (new .responder answering prologue rng).2 = (read, .ok payload) ∧
      run (writeMessage2 extra) read = (responder, .ok m2) := by
  obtain ⟨offeredRng, payload, wrote⟩ := offers
  obtain ⟨talk, _⟩ := conversation_agrees honest (new .initiator offering prologue offeredRng).2
    (new .responder answering prologue rng).2 ⟨rfl, rfl⟩ ⟨rfl, rfl⟩ (new_owns _)
    (new_owns _) rfl payload extra []
  obtain ⟨_, sameMessage⟩ := Prod.mk.inj (talk.wrote1.symm.trans wrote)
  rw [← Except.ok.inj sameMessage]
  exact ⟨payload, talk.responder1, talk.responder2, talk.message2, talk.read1, talk.wrote2⟩

/-- What follows once a first message was answered: the initiator reads the answer and
finishes with its third message, and the responder that reads it finishes with the same
keys the other way round. -/
theorem Offers.concluded (honest : HonestPrimitives) (extra : Bytes)
    (offers : Offers prologue offering initiator m1)
    (answers : Answers prologue answering responder m1 m2) :
    ∃ (payload : Bytes) (read finished : HandshakeXX) (m3 : Bytes) (last : HandshakeXX)
      (ours theirs : TransportKeys),
      run (readMessage2 m2) initiator = (read, .ok payload) ∧
      run (writeMessage3 extra) read = (finished, .ok m3) ∧
      finished.finish = .ok (ours, answering.publicIdentity) ∧
      run (readMessage3 m3) responder = (last, .ok extra) ∧
      last.finish = .ok (theirs, offering.publicIdentity) ∧
      ours.send = theirs.recv ∧ ours.recv = theirs.send := by
  obtain ⟨offeredRng, payload, wrote⟩ := offers
  obtain ⟨answeredRng, received, answer, read, readFirst, wroteSecond⟩ := answers
  obtain ⟨talk, agrees⟩ := conversation_agrees honest
    (new .initiator offering prologue offeredRng).2
    (new .responder answering prologue answeredRng).2
    ⟨rfl, rfl⟩ ⟨rfl, rfl⟩ (new_owns _) (new_owns _) rfl payload answer extra
  -- The methods are functions, so the sides met here are those of the conversation.
  obtain ⟨sameInitiator, sameFirst⟩ := Prod.mk.inj (talk.wrote1.symm.trans wrote)
  rw [← Except.ok.inj sameFirst] at readFirst
  obtain ⟨sameRead, _⟩ := Prod.mk.inj (talk.read1.symm.trans readFirst)
  rw [← sameRead] at wroteSecond
  obtain ⟨sameResponder, sameSecond⟩ := Prod.mk.inj (talk.wrote2.symm.trans wroteSecond)
  obtain ⟨ours, theirs, initiatorKeys, responderKeys, _, sending, receiving⟩ := agrees.keys
  refine ⟨answer, talk.initiator2, talk.initiator3, talk.message3, talk.responder3,
    ours, theirs, ?_,
    talk.wrote3, initiatorKeys, ?_, responderKeys, sending, receiving⟩
  · rw [← sameInitiator, ← Except.ok.inj sameSecond]
    exact talk.read2
  · rw [← sameResponder]
    exact talk.read3

end HandshakeXX

end MeshStar
