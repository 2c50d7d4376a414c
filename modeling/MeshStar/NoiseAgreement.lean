import MeshStar.Transparent

/-!
# Agreement of the XX handshake

The two sides of a handshake hash, mix and encrypt in separately written methods. Each
of the three messages is shown to keep them in lockstep: written from a transcript it
is read back on the same transcript, the reader obtains the payload, and both
transcripts advance to the same next one. Agreement on the transport keys is then the
equality of the two final transcripts.

The order of the calls is the other half. A method is accepted in one place of the
pattern only, hence the methods that have succeeded always form an initial part of the
role's pattern, and transport keys exist at its end alone.
-/

namespace MeshStar

open List FixedBytes SymmetricState

open Primitives (aeadEncrypt x25519 x25519Public ed25519Public ed25519IsCanonical ed25519IsWeak)

variable [Primitives]

/-- What the external packages document for keys that were honestly made. The AEAD
encrypts in place, so a ciphertext is as long as its plaintext, and opens what it
sealed. The key exchange commutes and yields no low-order secret between honest keys.
An honest Ed25519 key parses, and its Montgomery image is the X25519 key of the
identity's scalar. -/
structure HonestPrimitives : Prop where
  opens : CipherState.AeadRoundTrip
  inPlace : ∀ (key : Bytes32) (nonce associated plaintext : Bytes),
    (aeadEncrypt key nonce associated plaintext).1.length = plaintext.length
  commutes : ∀ first second : Bytes32,
    x25519 first (x25519Public second) =
      x25519 second (x25519Public first)
  contributes : ∀ first second : Bytes32,
    Primitives.wasContributory (x25519 first (x25519Public second)) = true
  image : ∀ seed : Bytes32, Primitives.ed25519ToMontgomery (ed25519Public seed) =
    x25519Public (Primitives.ed25519ScalarBytes seed)
  canonical : ∀ seed : Bytes32, ed25519IsCanonical (ed25519Public seed) = true
  strong : ∀ seed : Bytes32, ed25519IsWeak (ed25519Public seed) = false

namespace HonestPrimitives

variable (honest : HonestPrimitives)

include honest

/-- Both sides of an exchange between honest keys reach one shared secret. -/
theorem dh_agrees (first second : Bytes32) : ∃ shared, dh first (x25519Public second) = .ok shared ∧
      dh second (x25519Public first) = .ok shared := by
  refine ⟨x25519 first (x25519Public second), ?_, ?_⟩
  · simp only [dh, honest.contributes, ↓reduceIte]
  · simp only [dh, honest.contributes, ↓reduceIte, honest.commutes second first]

/-- The Noise static key an identity shows is the public half of its static secret. -/
theorem staticPublic_eq (identity : Identity) : identity.publicIdentity.noiseStaticPublic =
      x25519Public identity.noiseStaticSecret := honest.image identity.seed

/-- An identity's own public key parses back to it. -/
theorem fromBytes_publicKey (identity : Identity) :
    PublicIdentity.fromBytes identity.publicIdentity.publicKey = .ok identity.publicIdentity := by
  have canonical : ed25519IsCanonical identity.publicIdentity.publicKey = true :=
    honest.canonical identity.seed
  have strong : ed25519IsWeak identity.publicIdentity.publicKey = false :=
    honest.strong identity.seed
  simp [PublicIdentity.fromBytes, canonical, strong]

/-- Sealing adds the tag and nothing else. -/
theorem encryptN_length {key : Bytes32} {nonce : Nat} {associated plaintext : Bytes} :
    (CipherState.encryptN key nonce associated plaintext).length = plaintext.length + tagLen := by
  have tagLength := (aeadEncrypt key (CipherState.nonceBytes nonce) associated plaintext).2.property
  have body := honest.inPlace key (CipherState.nonceBytes nonce) associated plaintext
  simp only [CipherState.encryptN, length_append, body, tagLength, tagLen]

end HonestPrimitives

namespace SymmetricState

/-- Decrypting on the transcript a text was encrypted on returns the text and advances
the transcript as the encryption did. -/
theorem decryptAndHash_encryptAndHash (honest : HonestPrimitives) (state : SymmetricState)
    (plaintext : Bytes) :
    state.decryptAndHash (state.encryptAndHash plaintext).2 =
      ((state.encryptAndHash plaintext).1, .ok plaintext) := by
  cases keyed : state.cipher.key with
  | none =>
    simp [decryptAndHash, encryptAndHash, CipherState.decryptWithAd, CipherState.encryptWithAd,
      keyed]
  | some key =>
    have opened := CipherState.decryptN_encryptN honest.opens key state.cipher.nonce
      state.hash.val plaintext
    simp [decryptAndHash, encryptAndHash, CipherState.decryptWithAd, CipherState.encryptWithAd,
      keyed, opened]

/-- Under a key, a sealed text is longer by the tag. -/
theorem encryptAndHash_length (honest : HonestPrimitives) {state : SymmetricState}
    (keyed : state.cipher.key.isSome) (plaintext : Bytes) :
    (state.encryptAndHash plaintext).2.length = plaintext.length + tagLen := by
  obtain ⟨key, present⟩ := Option.isSome_iff_exists.mp keyed
  simp only [encryptAndHash, CipherState.encryptWithAd, present]
  exact honest.encryptN_length

/-- Encrypting keeps the key. -/
theorem encryptAndHash_key (state : SymmetricState) (plaintext : Bytes) :
    (state.encryptAndHash plaintext).1.cipher.key = state.cipher.key := by
  cases keyed : state.cipher.key with
  | none => simp only [encryptAndHash, mixHash, CipherState.encryptWithAd, keyed]
  | some key => simp only [encryptAndHash, mixHash, CipherState.encryptWithAd, keyed]

end SymmetricState

omit [Primitives] in
theorem FixedBytes.ofSlice_val {size : Nat} (bytes : FixedBytes size) :
    FixedBytes.ofSlice size bytes.val = bytes := by
  have alone := ofSlice_append bytes []
  rwa [append_nil] at alone

namespace HandshakeXX

section Running

variable {α : Type}

section

omit [Primitives]

@[simp] theorem run_pure (value : α) (handshake : HandshakeXX) :
    run (pure value) handshake = (handshake, .ok value) := rfl

@[simp] theorem run_throw (error : Error) (handshake : HandshakeXX) :
    run (throw error : HandshakeM α) handshake = (handshake, .error error) := rfl

@[simp] theorem run_get {handshake : HandshakeXX} :
    run (get : HandshakeM HandshakeXX) handshake = (handshake, .ok handshake) := rfl

@[simp] theorem run_set (next handshake : HandshakeXX) :
    run (set next : HandshakeM PUnit) handshake = (next, .ok ⟨⟩) := rfl

@[simp] theorem run_modify {change : HandshakeXX → HandshakeXX} {handshake : HandshakeXX} :
    run (modify change : HandshakeM PUnit) handshake = (change handshake, .ok ⟨⟩) := rfl

@[simp] theorem run_liftResult (result : Except Error α) (handshake : HandshakeXX) :
    run (liftResult result) handshake = (handshake, result) := rfl

@[simp] theorem run_require_some {value : α} {handshake : HandshakeXX} :
    run (require (some value)) handshake = (handshake, .ok value) := rfl

/-- The guard passes at its own role and step, and fails everywhere else. -/
theorem run_expect (role : NoiseRole) (step : UInt8) (handshake : HandshakeXX) :
    run (expect role step) handshake =
      (handshake, if handshake.role = role ∧ handshake.step = step then .ok ()
        else .error .handshakeState) := by
  by_cases here : handshake.role = role ∧ handshake.step = step
  · simp [expect, run_bind, here]
  · have elsewhere : handshake.role ≠ role ∨ handshake.step ≠ step := by
      rw [not_and_or] at here
      exact here
    simp [expect, run_bind, here, elsewhere]

end

@[simp] theorem run_mixHash {data : Bytes} {handshake : HandshakeXX} :
    run (mixHash data) handshake =
      ({ handshake with symmetric := handshake.symmetric.mixHash data }, .ok ()) := rfl

@[simp] theorem run_encryptAndHash (plaintext : Bytes) (handshake : HandshakeXX) :
    run (encryptAndHash plaintext) handshake =
      ({ handshake with symmetric := (handshake.symmetric.encryptAndHash plaintext).1 },
        .ok (handshake.symmetric.encryptAndHash plaintext).2) := rfl

@[simp] theorem run_decryptAndHash (ciphertext : Bytes) (handshake : HandshakeXX) :
    run (decryptAndHash ciphertext) handshake =
      ({ handshake with symmetric := (handshake.symmetric.decryptAndHash ciphertext).1 },
        (handshake.symmetric.decryptAndHash ciphertext).2) := rfl

/-- A successful exchange is mixed into the chaining key. -/
theorem run_mixDh {secret publicKey shared : Bytes32} (exchanged : dh secret publicKey = .ok shared)
    {handshake : HandshakeXX} :
    run (mixDh secret publicKey) handshake =
      ({ handshake with symmetric := handshake.symmetric.mixKey shared.val }, .ok ()) := by
  simp [mixDh, run_bind, exchanged]

end Running

/-- The key material a side was created with. -/
structure Owns (handshake : HandshakeXX) (identity : Identity) (secret : Bytes32) : Prop where
  staticSecret : handshake.staticSecret = identity.noiseStaticSecret
  staticPublic : handshake.staticPublic = identity.publicIdentity.noiseStaticPublic
  edPublic : handshake.edPublic = identity.publicIdentity.publicKey
  ephemeral : handshake.ephemeral = some secret
  ephemeralPublic : handshake.ephemeralPublic = x25519Public secret

variable {handshake : HandshakeXX} {offered answered : Bytes32}

/-- An honest identity payload is accepted against the static key of its identity. -/
theorem run_verifyIdentityPayload (honest : HonestPrimitives) (identity : Identity) (extra : Bytes)
    (received : handshake.remoteStatic = some identity.publicIdentity.noiseStaticPublic) :
    run (verifyIdentityPayload (identity.publicIdentity.publicKey.val ++ extra)) handshake =
      ({ handshake with remote := some identity.publicIdentity }, .ok extra) := by
  have long : ¬(identity.publicIdentity.publicKey.val ++ extra).length < 32 := by
    rw [length_append, identity.publicIdentity.publicKey.property]
    omega
  simp only [verifyIdentityPayload, run_bind, long, ↓reduceIte, ofSlice_append,
    honest.fromBytes_publicKey, run_liftResult, run_get, received, run_require_some, ne_eq,
    not_true_eq_false, run_set, FixedBytes.drop_append, run_pure]

section Lockstep

variable (honest : HonestPrimitives) (initiator responder : HandshakeXX) {identity : Identity}
  (extra : Bytes)

include honest

/-- The first message is read back on the transcript it was written on. -/
theorem message1_lockstep (payload : Bytes)
    (starts : initiator.role = .initiator ∧ initiator.step = 0)
    (waits : responder.role = .responder ∧ responder.step = 0)
    (same : responder.symmetric = initiator.symmetric) :
    ∃ message next, run (writeMessage1 payload) initiator =
        ({ initiator with symmetric := next, step := 1 }, .ok message) ∧
      run (readMessage1 message) responder = ({ responder with
            symmetric := next, remoteEphemeral := some initiator.ephemeralPublic, step := 1 },
          .ok payload) := by
  let sealed := (initiator.symmetric.mixHash initiator.ephemeralPublic.val).encryptAndHash payload
  refine ⟨initiator.ephemeralPublic.val ++ sealed.2, sealed.1, ?_, ?_⟩
  · simp only [writeMessage1, run_bind, run_expect, starts, and_self, ↓reduceIte, run_get,
      run_mixHash, run_encryptAndHash, run_modify, run_pure, sealed]
  · have long : ¬(initiator.ephemeralPublic.val ++ sealed.2).length < 32 := by
      rw [length_append, initiator.ephemeralPublic.property]
      omega
    simp only [readMessage1, run_bind, run_expect, waits, and_self, ↓reduceIte, long,
      ofSlice_append, FixedBytes.drop_append, same, run_modify, run_mixHash,
      run_decryptAndHash, decryptAndHash_encryptAndHash honest, run_pure, sealed]

omit [Primitives] honest in
/-- The three parts the reader of a second message cuts it into. -/
theorem message2_parts (ephemeral : Bytes32) {sealedStatic : Bytes}
    (staticLength : sealedStatic.length = 48) (sealedPayload : Bytes) :
    FixedBytes.ofSlice 32 (ephemeral.val ++ sealedStatic ++ sealedPayload) = ephemeral ∧
      slice (ephemeral.val ++ sealedStatic ++ sealedPayload) 32 80 = sealedStatic ∧
      (ephemeral.val ++ sealedStatic ++ sealedPayload).drop 80 = sealedPayload := by
  have leading : (ephemeral.val ++ sealedStatic).length = 80 := by
    rw [length_append, ephemeral.property, staticLength]
  refine ⟨?_, ?_, ?_⟩
  · rw [append_assoc, ofSlice_append]
  · rw [slice, ← leading, take_left, FixedBytes.drop_append]
  · rw [← leading, drop_left]

/-- The second message is read back on the transcript it was written on, and names the
responder. -/
theorem message2_lockstep (waits : initiator.role = .initiator ∧ initiator.step = 1)
    (answers : responder.role = .responder ∧ responder.step = 1)
    (owned : Owns responder identity answered) (drawn : initiator.ephemeral = some offered)
    (received : responder.remoteEphemeral = some (x25519Public offered))
    (same : responder.symmetric = initiator.symmetric) :
    ∃ message next, next.cipher.key.isSome ∧ run (writeMessage2 extra) responder =
        ({ responder with symmetric := next, step := 2 }, .ok message) ∧
      run (readMessage2 message) initiator = ({ initiator with
            symmetric := next, remoteEphemeral := some responder.ephemeralPublic,
            remoteStatic := some identity.publicIdentity.noiseStaticPublic,
            remote := some identity.publicIdentity, step := 2 },
          .ok extra) := by
  obtain ⟨ee, writerEe, readerEe⟩ := honest.dh_agrees answered offered
  obtain ⟨es, writerEs, readerEs⟩ := honest.dh_agrees identity.noiseStaticSecret offered
  rw [← honest.staticPublic_eq] at readerEs
  rw [← owned.ephemeralPublic] at readerEe
  let sealedStatic := ((initiator.symmetric.mixHash responder.ephemeralPublic.val).mixKey
    ee.val).encryptAndHash identity.publicIdentity.noiseStaticPublic.val
  let sealedPayload := (sealedStatic.1.mixKey es.val).encryptAndHash
    (identity.publicIdentity.publicKey.val ++ extra)
  have staticLength : sealedStatic.2.length = 48 := by
    rw [encryptAndHash_length honest rfl, length_val]
    rfl
  have payloadLength : 16 ≤ sealedPayload.2.length := by
    rw [encryptAndHash_length honest rfl]
    exact Nat.le_add_left _ _
  refine ⟨responder.ephemeralPublic.val ++ sealedStatic.2 ++ sealedPayload.2, sealedPayload.1,
    ?_, ?_, ?_⟩
  · rw [encryptAndHash_key]
    rfl
  · simp only [writeMessage2, run_bind, run_expect, answers, and_self, ↓reduceIte, run_get,
      received, run_require_some, owned.ephemeral, run_mixHash, run_mixDh writerEe,
      run_encryptAndHash, owned.staticPublic, owned.staticSecret, run_mixDh writerEs,
      identityPayload, owned.edPublic, run_modify, run_pure, same, sealedStatic, sealedPayload]
  · have long : ¬(responder.ephemeralPublic.val ++ sealedStatic.2 ++ sealedPayload.2).length <
        32 + 48 + 16 := by
      simp only [length_append, responder.ephemeralPublic.property, staticLength]
      omega
    obtain ⟨ephemeralPart, staticPart, payloadPart⟩ := message2_parts responder.ephemeralPublic
      staticLength sealedPayload.2
    simp only [readMessage2, run_bind, run_expect, waits, and_self, ↓reduceIte, long, run_get,
      drawn, run_require_some, ephemeralPart, run_modify, run_mixHash, run_mixDh readerEe,
      staticPart, run_decryptAndHash, decryptAndHash_encryptAndHash honest,
      sealedStatic, ofSlice_val, run_mixDh readerEs, payloadPart, sealedPayload,
      run_verifyIdentityPayload honest, run_pure]

/-- The third message is read back on the transcript it was written on, and names the
initiator. -/
theorem message3_lockstep (concludes : initiator.role = .initiator ∧ initiator.step = 2)
    (waits : responder.role = .responder ∧ responder.step = 2)
    (owned : Owns initiator identity offered) (drawn : responder.ephemeral = some answered)
    (received : initiator.remoteEphemeral = some (x25519Public answered))
    (keyed : initiator.symmetric.cipher.key.isSome)
    (same : responder.symmetric = initiator.symmetric) :
    ∃ message next, run (writeMessage3 extra) initiator =
        ({ initiator with symmetric := next, step := 3 }, .ok message) ∧
      run (readMessage3 message) responder = ({ responder with
            symmetric := next, remoteStatic := some identity.publicIdentity.noiseStaticPublic,
            remote := some identity.publicIdentity, step := 3 },
          .ok extra) := by
  obtain ⟨se, writerSe, readerSe⟩ := honest.dh_agrees identity.noiseStaticSecret answered
  rw [← honest.staticPublic_eq] at readerSe
  let sealedStatic := initiator.symmetric.encryptAndHash
    identity.publicIdentity.noiseStaticPublic.val
  let sealedPayload := (sealedStatic.1.mixKey se.val).encryptAndHash
    (identity.publicIdentity.publicKey.val ++ extra)
  have staticLength : sealedStatic.2.length = 48 := by
    rw [encryptAndHash_length honest keyed, length_val]
    rfl
  have payloadLength : 16 ≤ sealedPayload.2.length := by
    rw [encryptAndHash_length honest rfl]
    exact Nat.le_add_left _ _
  refine ⟨sealedStatic.2 ++ sealedPayload.2, sealedPayload.1, ?_, ?_⟩
  · simp only [writeMessage3, run_bind, run_expect, concludes, and_self, ↓reduceIte, run_get,
      received, run_require_some, run_encryptAndHash, owned.staticPublic, owned.staticSecret,
      run_mixDh writerSe, identityPayload, owned.edPublic, run_modify, run_pure, sealedStatic,
      sealedPayload]
  · have long : ¬(sealedStatic.2 ++ sealedPayload.2).length < 48 + 16 := by
      rw [length_append, staticLength]
      omega
    have staticPart : (sealedStatic.2 ++ sealedPayload.2).take 48 = sealedStatic.2 := by
      rw [← staticLength, take_left]
    have payloadPart : (sealedStatic.2 ++ sealedPayload.2).drop 48 = sealedPayload.2 := by
      rw [← staticLength, drop_left]
    simp only [readMessage3, run_bind, run_expect, waits, and_self, ↓reduceIte, long, run_get,
      drawn, run_require_some, staticPart, run_decryptAndHash, same,
      decryptAndHash_encryptAndHash honest, sealedStatic, ofSlice_val,
      run_modify, run_mixDh readerSe, payloadPart, sealedPayload,
      run_verifyIdentityPayload honest, run_pure]

end Lockstep

/-- A conversation of two sides: the six methods called in turn, each message handed
to the other side, and every reader returning the payload the writer was given. -/
structure Conversation (initiator responder : HandshakeXX) (payload1 payload2 payload3 :
    Bytes) where
  message1 : Bytes
  message2 : Bytes
  message3 : Bytes
  initiator1 : HandshakeXX
  responder1 : HandshakeXX
  responder2 : HandshakeXX
  initiator2 : HandshakeXX
  initiator3 : HandshakeXX
  responder3 : HandshakeXX
  wrote1 : run (writeMessage1 payload1) initiator = (initiator1, .ok message1)
  read1 : run (readMessage1 message1) responder = (responder1, .ok payload1)
  wrote2 : run (writeMessage2 payload2) responder1 = (responder2, .ok message2)
  read2 : run (readMessage2 message2) initiator1 = (initiator2, .ok payload2)
  wrote3 : run (writeMessage3 payload3) initiator2 = (initiator3, .ok message3)
  read3 : run (readMessage3 message3) responder2 = (responder3, .ok payload3)

/-- Both ends of a conversation finish with each other's identity, with one handshake
hash, and with each one's sending key the other's receiving key. -/
structure Conversation.Agrees {initiator responder : HandshakeXX}
    {payload1 payload2 payload3 : Bytes}
    (talk : Conversation initiator responder payload1 payload2 payload3)
    (offering answering : PublicIdentity) : Prop where
  keys : ∃ ours theirs,
    talk.initiator3.finish = .ok (ours, answering) ∧ talk.responder3.finish =
      .ok (theirs, offering) ∧
    ours.handshakeHash = theirs.handshakeHash ∧ ours.send = theirs.recv ∧ ours.recv = theirs.send

/-- Two sides on one transcript, each with the key material of its identity, hold a
conversation that agrees. -/
theorem conversation_agrees (honest : HonestPrimitives) (initiator responder : HandshakeXX)
    {offering answering : Identity}
    (starts : initiator.role = .initiator ∧ initiator.step = 0)
    (waits : responder.role = .responder ∧ responder.step = 0)
    (offers : Owns initiator offering offered) (answers : Owns responder answering answered)
    (same : responder.symmetric = initiator.symmetric) (payload1 payload2 payload3 : Bytes) :
    ∃ talk : Conversation initiator responder payload1 payload2 payload3,
      talk.Agrees offering.publicIdentity answering.publicIdentity := by
  obtain ⟨message1, next1, wrote1, read1⟩ :=
    message1_lockstep honest initiator responder payload1 starts waits same
  rw [offers.ephemeralPublic] at read1
  obtain ⟨message2, next2, keyed, wrote2, read2⟩ :=
    message2_lockstep honest { initiator with symmetric := next1, step := 1 } { responder with
          symmetric := next1, remoteEphemeral := some (x25519Public offered),
          step := 1 }
      payload2 ⟨starts.1, rfl⟩ ⟨waits.1, rfl⟩ ⟨answers.1, answers.2, answers.3,
        answers.4, answers.5⟩
      offers.ephemeral rfl rfl
  rw [answers.ephemeralPublic] at read2
  obtain ⟨message3, next3, wrote3, read3⟩ :=
    message3_lockstep honest { initiator with
          symmetric := next2, remoteEphemeral := some (x25519Public answered),
          remoteStatic := some answering.publicIdentity.noiseStaticPublic,
          remote := some answering.publicIdentity, step := 2 }
      { responder with
          symmetric := next2, remoteEphemeral := some (x25519Public offered),
          step := 2 }
      payload3 ⟨starts.1, rfl⟩ ⟨waits.1, rfl⟩ ⟨offers.1, offers.2, offers.3, offers.4, offers.5⟩
      answers.ephemeral rfl keyed rfl
  refine ⟨⟨message1, message2, message3, _, _, _, _, _, _, wrote1, read1, wrote2, read2, wrote3,
    read3⟩, ⟨⟨next3.split.1, next3.split.2, next3.hash⟩, ⟨next3.split.2, next3.split.1, next3.hash⟩,
    ?_, ?_, rfl, rfl, rfl⟩⟩
  · simp [finish, starts.1]
  · simp [finish, waits.1]

/-- A fresh handshake owns the key material it was created with. -/
theorem new_owns {role : NoiseRole} (identity : Identity) {prologue : Bytes} {rng : Rng} :
    Owns (new role identity prologue rng).2 identity rng.fill32.2 := ⟨rfl, rfl, rfl, rfl, rfl⟩

/-- The methods that move a handshake along. -/
inductive Method where
  | writeMessage1
  | readMessage1
  | writeMessage2
  | readMessage2
  | writeMessage3
  | readMessage3
  deriving DecidableEq, Repr

/-- Call a method with the payload to write or the message to read. -/
def Method.call : Method → Bytes → HandshakeM Bytes
  | writeMessage1 => HandshakeXX.writeMessage1
  | readMessage1 => HandshakeXX.readMessage1
  | writeMessage2 => HandshakeXX.writeMessage2
  | readMessage2 => HandshakeXX.readMessage2
  | writeMessage3 => HandshakeXX.writeMessage3
  | readMessage3 => HandshakeXX.readMessage3

/-- The order in which a role calls the methods. -/
def pattern : NoiseRole → List Method
  | .initiator => [.writeMessage1, .readMessage2, .writeMessage3]
  | .responder => [.readMessage1, .writeMessage2, .readMessage3]

/-- Call methods one after the other, failed ones included; return the state reached
and the methods that succeeded. -/
def perform (handshake : HandshakeXX) : List (Method × Bytes) → HandshakeXX × List Method
  | [] => (handshake, [])
  | (method, argument) :: later =>
    match run (method.call argument) handshake with
    | (reached, .ok _) =>
      ((perform reached later).1, method :: (perform reached later).2)
    | (reached, .error _) => perform reached later

/-- Role and step: all that decides which method is accepted next. -/
def place (handshake : HandshakeXX) : NoiseRole × UInt8 := (handshake.role, handshake.step)

/-- A method that keeps its place when it fails and reaches a given step when it
succeeds. -/
def Advances (step : UInt8) (action : HandshakeM Bytes) : Prop :=
  ∀ handshake, match run action handshake with
    | (reached, .ok _) => reached.place = (handshake.role, step)
    | (reached, .error _) => reached.place = handshake.place

section Order

section

omit [Primitives]

theorem advances_bind {α : Type} {step : UInt8} {action : HandshakeM α}
    {next : α → HandshakeM Bytes} (first : Keeps place action)
    (later : ∀ value, Advances step (next value)) : Advances step (action >>= next) := by
  intro handshake
  have kept := first handshake
  rw [run_bind]
  generalize run action handshake = outcome at kept
  obtain ⟨reached, result⟩ := outcome
  cases result with
  | error _ => exact kept
  | ok value =>
    have further := later value reached
    have sameRole : reached.role = handshake.role := congrArg Prod.fst kept
    have samePlace : reached.place = handshake.place := kept
    simp only [sameRole, samePlace] at further
    exact further

theorem advances_throw {step : UInt8} {error : Error} : Advances step (throw error) := fun _ => rfl

theorem advances_last (step : UInt8) {value : Bytes} :
    Advances step (do modify (fun state => { state with step := step }); return value) :=
  fun _ => rfl

end

theorem keeps_mixHash {data : Bytes} : Keeps place (mixHash data) := fun _ => rfl

theorem keeps_decryptAndHash {ciphertext : Bytes} : Keeps place (decryptAndHash ciphertext) :=
  fun _ => rfl

theorem keeps_verifyIdentityPayload {γ : Type} {view : HandshakeXX → γ}
    (blind : ∀ handshake remote, view { handshake with remote := remote } = view handshake)
    {payload : Bytes} : Keeps view (verifyIdentityPayload payload) := by
  unfold verifyIdentityPayload
  split
  · exact keeps_throw
  · refine keeps_bind keeps_liftResult (fun identity => ?_)
    intro handshake
    cases received : handshake.remoteStatic with
    | none => simp [run_bind, received, require]
    | some remoteStatic =>
      by_cases bound : identity.noiseStaticPublic = remoteStatic
      · simp [run_bind, received, bound]
        rw [← received]
        exact blind handshake (some identity)
      · simp [run_bind, received, bound]

/-- The place in which a method is accepted. -/
def Method.turn : Method → NoiseRole × UInt8
  | writeMessage1 => (.initiator, 0)
  | readMessage1 => (.responder, 0)
  | writeMessage2 => (.responder, 1)
  | readMessage2 => (.initiator, 1)
  | writeMessage3 => (.initiator, 2)
  | readMessage3 => (.responder, 2)

variable {count : Nat}

omit [Primitives] in
/-- A role's pattern lists its methods by their step. -/
theorem pattern_getElem (role : NoiseRole) (method : Method) (inside : count ≤ 3) :
    (pattern role)[count]? = some method ↔ method.turn = (role, UInt8.ofNat count) := by
  obtain rfl | rfl | rfl | rfl : count = 0 ∨ count = 1 ∨ count = 2 ∨ count = 3 := by omega
  all_goals cases role <;> cases method <;> decide

/-- Out of its turn a method returns an error and changes nothing. -/
theorem call_out_of_turn {method : Method}
    (elsewhere : handshake.place ≠ method.turn) (argument : Bytes) :
    run (method.call argument) handshake = (handshake, .error .handshakeState) := by
  have guarded (role : NoiseRole) (step : UInt8) (rest : Unit → HandshakeM Bytes)
      (turn : method.turn = (role, step)) :
      run (expect role step >>= rest) handshake = (handshake, .error .handshakeState) := by
    have missed : ¬(handshake.role = role ∧ handshake.step = step) := by
      rintro ⟨sameRole, sameStep⟩
      exact elsewhere (by rw [turn, place, sameRole, sameStep])
    rw [run_bind, run_expect, if_neg missed]
  cases method <;> exact guarded _ _ _ rfl

/-- Every method advances its handshake by one step, and only when it succeeds. -/
theorem call_advances (method : Method) (argument : Bytes) :
    Advances (method.turn.2 + 1) (method.call argument) := by
  cases method with
  | writeMessage1 =>
    refine advances_bind keeps_expect (fun _ => ?_)
    refine advances_bind keeps_get (fun handshake => ?_)
    refine advances_bind keeps_mixHash (fun _ => ?_)
    refine advances_bind (keeps_encryptAndHash (fun _ _ => rfl)) (fun sealed => ?_)
    exact advances_last 1
  | readMessage1 =>
    refine advances_bind keeps_expect (fun _ => ?_)
    split
    · exact advances_throw
    · refine advances_bind (keeps_modify (fun _ => rfl)) (fun _ => ?_)
      refine advances_bind keeps_mixHash (fun _ => ?_)
      refine advances_bind keeps_decryptAndHash (fun payload => ?_)
      exact advances_last 1
  | writeMessage2 =>
    refine advances_bind keeps_expect (fun _ => ?_)
    refine advances_bind keeps_get (fun handshake => ?_)
    refine advances_bind keeps_require (fun remoteEphemeral => ?_)
    refine advances_bind keeps_require (fun ephemeral => ?_)
    refine advances_bind keeps_mixHash (fun _ => ?_)
    refine advances_bind (keeps_mixDh (fun _ _ => rfl)) (fun _ => ?_)
    refine advances_bind (keeps_encryptAndHash (fun _ _ => rfl)) (fun sealedStatic => ?_)
    refine advances_bind (keeps_mixDh (fun _ _ => rfl)) (fun _ => ?_)
    refine advances_bind (keeps_encryptAndHash (fun _ _ => rfl)) (fun sealedPayload => ?_)
    exact advances_last 2
  | readMessage2 =>
    refine advances_bind keeps_expect (fun _ => ?_)
    split
    · exact advances_throw
    · refine advances_bind keeps_get (fun handshake => ?_)
      refine advances_bind keeps_require (fun ephemeral => ?_)
      refine advances_bind (keeps_modify (fun _ => rfl)) (fun _ => ?_)
      refine advances_bind keeps_mixHash (fun _ => ?_)
      refine advances_bind (keeps_mixDh (fun _ _ => rfl)) (fun _ => ?_)
      refine advances_bind keeps_decryptAndHash (fun staticBytes => ?_)
      refine advances_bind (keeps_modify (fun _ => rfl)) (fun _ => ?_)
      refine advances_bind (keeps_mixDh (fun _ _ => rfl)) (fun _ => ?_)
      refine advances_bind keeps_decryptAndHash (fun payload => ?_)
      refine advances_bind (keeps_verifyIdentityPayload (fun _ _ => rfl)) (fun extra => ?_)
      exact advances_last 2
  | writeMessage3 =>
    refine advances_bind keeps_expect (fun _ => ?_)
    refine advances_bind keeps_get (fun handshake => ?_)
    refine advances_bind keeps_require (fun remoteEphemeral => ?_)
    refine advances_bind (keeps_encryptAndHash (fun _ _ => rfl)) (fun sealedStatic => ?_)
    refine advances_bind (keeps_mixDh (fun _ _ => rfl)) (fun _ => ?_)
    refine advances_bind (keeps_encryptAndHash (fun _ _ => rfl)) (fun sealedPayload => ?_)
    exact advances_last 3
  | readMessage3 =>
    refine advances_bind keeps_expect (fun _ => ?_)
    split
    · exact advances_throw
    · refine advances_bind keeps_get (fun handshake => ?_)
      refine advances_bind keeps_require (fun ephemeral => ?_)
      refine advances_bind keeps_decryptAndHash (fun staticBytes => ?_)
      refine advances_bind (keeps_modify (fun _ => rfl)) (fun _ => ?_)
      refine advances_bind (keeps_mixDh (fun _ _ => rfl)) (fun _ => ?_)
      refine advances_bind keeps_decryptAndHash (fun payload => ?_)
      refine advances_bind (keeps_verifyIdentityPayload (fun _ _ => rfl)) (fun extra => ?_)
      exact advances_last 3

/-- A call that succeeds is the next of the pattern. -/
theorem call_next {role : NoiseRole} {reached : HandshakeXX}
    {method : Method} {argument : Bytes} {value : Bytes} (inside : count ≤ 3)
    (here : handshake.place = (role, UInt8.ofNat count))
    (succeeded : run (method.call argument) handshake = (reached, .ok value)) :
    (pattern role)[count]? = some method ∧ reached.place = (role, UInt8.ofNat (count + 1)) := by
  have turn : handshake.place = method.turn := by
    by_contra elsewhere
    rw [call_out_of_turn elsewhere] at succeeded
    cases succeeded
  have moved := call_advances method argument handshake
  rw [succeeded] at moved
  rw [here] at turn
  have sameRole : handshake.role = role := congrArg Prod.fst here
  refine ⟨(pattern_getElem role method inside).mpr turn.symm, ?_⟩
  simp only [sameRole, ← turn] at moved
  rw [moved, UInt8.ofNat_add]
  rfl

/-- Whatever is called, the methods that succeed continue the pattern of the role, and
the place counts them. -/
theorem perform_order (role : NoiseRole) (calls : List (Method × Bytes)) (inside : count ≤ 3)
    (here : handshake.place = (role, UInt8.ofNat count)) :
    count + (perform handshake calls).2.length ≤ 3 ∧ (perform handshake calls).1.place =
        (role, UInt8.ofNat (count + (perform handshake calls).2.length)) ∧
      (perform handshake calls).2 <+: (pattern role).drop count := by
  induction calls generalizing count handshake with
  | nil => exact ⟨inside, here, nil_prefix⟩
  | cons call later ih =>
    obtain ⟨method, argument⟩ := call
    have moved := call_advances method argument handshake
    simp only [perform]
    generalize outcome : run (method.call argument) handshake = attempt at moved
    obtain ⟨reached, result⟩ := attempt
    cases result with
    | error error => exact ih inside (moved.trans here)
    | ok value =>
      obtain ⟨next, there⟩ := call_next inside here outcome
      have bound : count < (pattern role).length := (List.getElem?_eq_some_iff.mp next).1
      have short : count + 1 ≤ 3 := by
        cases role <;> exact bound
      obtain ⟨within, place, continued⟩ := ih short there
      have head : (pattern role).drop count = method :: (pattern role).drop (count + 1) := by
        rw [drop_eq_getElem_cons bound, (List.getElem?_eq_some_iff.mp next).2]
      simp only [length_cons, head]
      refine ⟨by omega, ?_, cons_prefix_cons.mpr ⟨rfl, continued⟩⟩
      rw [place]
      congr 2
      omega

/-- A handshake is finished at the end of its pattern only. -/
theorem finish_early {role : NoiseRole} (early : count < 3)
    (here : handshake.place = (role, UInt8.ofNat count)) :
    handshake.finish = .error .handshakeState := by
  have step : handshake.step = UInt8.ofNat count := congrArg Prod.snd here
  have unfinished : handshake.step ≠ 3 := by
    rw [step]
    obtain rfl | rfl | rfl : count = 0 ∨ count = 1 ∨ count = 2 := by omega
    all_goals decide
  simp only [finish, unfinished, ne_eq, not_false_eq_true, ↓reduceIte]

end Order

/-- Two honest sides that run the pattern over one prologue read each other's payloads
and finish with mirrored keys, one handshake hash and each other's identity. Whatever
else is called, in whatever order and with whatever arguments: what succeeds is an
initial part of the role's pattern, any other call fails and leaves the handshake as it
was, and no keys exist before the pattern is complete. -/
theorem noise_xx_agreement (honest : HonestPrimitives) (offering answering : Identity)
    (prologue : Bytes) (rngI rngR : Rng) (payload1 payload2 payload3 : Bytes) :
    (∃ talk : Conversation (new .initiator offering prologue rngI).2
        (new .responder answering prologue rngR).2 payload1 payload2 payload3,
      talk.Agrees offering.publicIdentity answering.publicIdentity) ∧
    ∀ (role : NoiseRole) (identity : Identity) (opening : Bytes) (rng : Rng)
      (calls : List (Method × Bytes)) (reached : HandshakeXX) (done : List Method),
      perform (new role identity opening rng).2 calls = (reached, done) →
      done <+: pattern role ∧
      (∀ method argument, (pattern role)[done.length]? ≠ some method →
        run (method.call argument) reached = (reached, .error .handshakeState)) ∧
      (done ≠ pattern role → reached.finish = .error .handshakeState) := by
  constructor
  · exact conversation_agrees honest _ _ ⟨rfl, rfl⟩ ⟨rfl, rfl⟩ (new_owns offering)
      (new_owns answering) rfl payload1 payload2 payload3
  · intro role identity opening rng calls reached done performed
    have order := perform_order role calls (Nat.zero_le 3)
      (show (new role identity opening rng).2.place = (role, UInt8.ofNat 0) from rfl)
    rw [performed, drop_zero, Nat.zero_add] at order
    obtain ⟨inside, here, continued⟩ := order
    refine ⟨continued, ?_, ?_⟩
    · intro method argument unexpected
      refine call_out_of_turn ?_ argument
      intro turn
      rw [here] at turn
      exact unexpected ((pattern_getElem role method inside).mpr turn.symm)
    · intro incomplete
      refine finish_early (Nat.lt_of_le_of_ne inside ?_) here
      intro complete
      apply incomplete
      apply continued.eq_of_length
      rw [complete]
      cases role <;> rfl

end HandshakeXX

end MeshStar

namespace MeshStar.Transparent

/-- Adding secrets commutes. -/
theorem combine_comm (first second : Bytes32) : combine first second = combine second first := by
  apply Subtype.ext
  exact List.zipWith_comm_of_comm UInt8.add_comm

local instance honestSuite : Primitives := primitives

/-- The transparent suite keeps every promise of honest primitives. -/
theorem honest : HonestPrimitives where
  opens := roundTrip
  inPlace _ _ _ _ := rfl
  commutes first second := combine_comm first second
  contributes _ _ := rfl
  image _ := rfl
  canonical _ := rfl
  strong _ := rfl

/-- Two identities of the transparent suite agree. -/
theorem noise_xx_agreement_met : HonestPrimitives ∧ ∃ talk : HandshakeXX.Conversation
        (HandshakeXX.new .initiator (identity 1) [7] generator).2
        (HandshakeXX.new .responder (identity 2) [7] generator).2 [0] [1, 5] [],
      talk.Agrees (identity 1).publicIdentity (identity 2).publicIdentity :=
  ⟨honest, (HandshakeXX.noise_xx_agreement honest (identity 1) (identity 2) [7] generator generator
    [0] [1, 5] []).1⟩

end MeshStar.Transparent
