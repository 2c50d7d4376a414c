import MeshStar.NoiseAgreement

/-!
# Sealed envelopes and their sender

An envelope is written by one function and opened by another, with mirrored operands in
its two key exchanges. Opening inverts sealing for honest keys. Whatever bytes are
opened, the sender that is named owns the static key found inside the envelope: the
exchange that keys the body is an exchange with that key, and the comparison made after
both decryptions leaves no other identity.
-/

namespace MeshStar

open List FixedBytes

variable [Primitives]

/-- A parsed key is the identity's key. -/
theorem PublicIdentity.fromBytes_publicKey {key : Bytes32} {identity : PublicIdentity}
    (parsed : PublicIdentity.fromBytes key = .ok identity) : identity.publicKey = key := by
  unfold PublicIdentity.fromBytes at parsed
  split at parsed
  · cases parsed
  · split at parsed <;> cases parsed
    rfl

omit [Primitives] in
/-- A long enough slice is its leading array followed by the rest. -/
theorem FixedBytes.ofSlice_drop {size : Nat} {bytes : Bytes} (long : size ≤ bytes.length) :
    (FixedBytes.ofSlice size bytes).val ++ bytes.drop size = bytes := by
  simp only [FixedBytes.ofSlice]
  rw [take_append_of_le_length long, take_append_drop]

/-- The transcript and the sender's static key inside an envelope, as its recipient
decrypts them. -/
def xStatic (recipient : Identity) (prologue message : Bytes) :
    Except Error (SymmetricState × Bytes32) := do
  let remoteEphemeral := FixedBytes.ofSlice 32 message
  let started := (((SymmetricState.new protocolNameX).mixHash prologue).mixHash
    recipient.publicIdentity.noiseStaticPublic.val).mixHash remoteEphemeral.val
  let shared ← dh recipient.noiseStaticSecret remoteEphemeral
  let openedStatic := (started.mixKey shared.val).decryptAndHash (slice message 32 80)
  return (openedStatic.1, FixedBytes.ofSlice 32 (← openedStatic.2))

/-- A sealed body is opened by its recipient, who learns the sender. -/
theorem xOpen_xSeal (honest : HonestPrimitives) (sender recipient : Identity)
    (prologue payload : Bytes) (rng : Rng) :
    ∃ message, (xSeal sender recipient.publicIdentity prologue payload rng).2 = .ok message ∧
      xOpen recipient prologue message = .ok (sender.publicIdentity, payload) := by
  obtain ⟨es, writerEs, readerEs⟩ := honest.dh_agrees rng.fill32.2 recipient.noiseStaticSecret
  obtain ⟨ss, writerSs, readerSs⟩ :=
    honest.dh_agrees sender.noiseStaticSecret recipient.noiseStaticSecret
  rw [← honest.staticPublic_eq] at writerEs writerSs readerSs
  let ephemeral := Primitives.x25519Public rng.fill32.2
  let started := (((SymmetricState.new protocolNameX).mixHash prologue).mixHash
    recipient.publicIdentity.noiseStaticPublic.val).mixHash ephemeral.val
  let sealedStatic := (started.mixKey es.val).encryptAndHash
    sender.publicIdentity.noiseStaticPublic.val
  let sealedBody := (sealedStatic.1.mixKey ss.val).encryptAndHash
    (sender.publicIdentity.publicKey.val ++ payload)
  have staticLength : sealedStatic.2.length = 48 := by
    rw [SymmetricState.encryptAndHash_length honest rfl, length_val]
    rfl
  have bodyLength : 48 ≤ sealedBody.2.length := by
    rw [SymmetricState.encryptAndHash_length honest rfl, length_append, length_val, tagLen]
    omega
  refine ⟨ephemeral.val ++ sealedStatic.2 ++ sealedBody.2, ?_, ?_⟩
  · simp only [xSeal, writerEs, writerSs, bind, Except.bind, pure, Except.pure, ephemeral, started,
      sealedStatic, sealedBody]
  · have long : ¬(ephemeral.val ++ sealedStatic.2 ++ sealedBody.2).length < 32 + 48 + 32 + 16 := by
      simp only [length_append, length_val, staticLength]
      omega
    have named : ¬(sender.publicIdentity.publicKey.val ++ payload).length < 32 := by
      rw [length_append, length_val]
      omega
    obtain ⟨ephemeralPart, staticPart, bodyPart⟩ := HandshakeXX.message2_parts ephemeral
      staticLength sealedBody.2
    simp only [xOpen, long, ↓reduceIte, ephemeralPart, staticPart, bodyPart, readerEs, readerSs,
      bind, Except.bind, pure, Except.pure, ephemeral, started, sealedStatic, sealedBody,
      SymmetricState.decryptAndHash_encryptAndHash honest, ofSlice_val, named,
      ofSlice_append, honest.fromBytes_publicKey, ne_eq, not_true_eq_false,
      FixedBytes.drop_append]

/-- Whatever is opened, the sender's static key is the one inside, and the body was
authenticated under the exchange with it. -/
theorem xOpen_binds {recipient : Identity} {prologue message payload : Bytes}
    {sender : PublicIdentity}
    (opened : xOpen recipient prologue message = .ok (sender, payload)) :
    ∃ transcript shared,
      xStatic recipient prologue message = .ok (transcript, sender.noiseStaticPublic) ∧
      dh recipient.noiseStaticSecret sender.noiseStaticPublic = .ok shared ∧
      ((transcript.mixKey shared.val).decryptAndHash (message.drop 80)).2 =
        .ok (sender.publicKey.val ++ payload) := by
  unfold xOpen at opened
  split at opened
  · cases opened
  · obtain ⟨es, exchanged, opened⟩ := Error.of_bind opened
    obtain ⟨staticBytes, decrypted, opened⟩ := Error.of_bind opened
    obtain ⟨ss, mixed, opened⟩ := Error.of_bind opened
    obtain ⟨body, authenticated, opened⟩ := Error.of_bind opened
    split at opened
    · cases opened
    · rename_i named
      obtain ⟨claimed, parsed, opened⟩ := Error.of_bind opened
      split at opened
      · cases opened
      · rename_i bound
        rw [ne_eq, not_not] at bound
        cases opened
        refine ⟨_, ss, ?_, bound ▸ mixed, authenticated.trans ?_⟩
        · simp only [xStatic, exchanged, bind, Except.bind]
          rw [decrypted]
          simp only [pure, Except.pure, bound]
        · have claimedKey : sender.publicKey = FixedBytes.ofSlice 32 body :=
            PublicIdentity.fromBytes_publicKey parsed
          rw [claimedKey, ofSlice_drop (Nat.le_of_not_lt named)]

/-- A recipient opens an envelope under its own id to the sender's identity and the
payload. Whatever bytes it opens, the identity it names has the static key decrypted
inside, the body is authenticated under the exchange with that key, and the owner of the
identity computes the same shared secret. -/
theorem envelope_names_sender (honest : HonestPrimitives) (sender recipient : Identity)
    (envelopeId : UInt32) (payload : Bytes) (rng : Rng) :
    (∃ envelope,
      (sealEnvelope sender recipient.publicIdentity envelopeId payload rng).2 = .ok envelope ∧
      openEnvelope recipient envelopeId envelope = .ok (sender.publicIdentity, payload)) ∧
    ∀ (bytes body : Bytes) (named : PublicIdentity),
      openEnvelope recipient envelopeId bytes = .ok (named, body) →
      ∃ transcript shared, xStatic recipient (envelopePrologue recipient.address envelopeId) bytes =
          .ok (transcript, named.noiseStaticPublic) ∧
        dh recipient.noiseStaticSecret named.noiseStaticPublic = .ok shared ∧
        ((transcript.mixKey shared.val).decryptAndHash (bytes.drop 80)).2 =
          .ok (named.publicKey.val ++ body) ∧
        ∀ owner : Identity, owner.publicIdentity = named →
          dh owner.noiseStaticSecret recipient.publicIdentity.noiseStaticPublic = .ok shared := by
  constructor
  · exact xOpen_xSeal honest sender recipient _ payload rng
  · intro bytes body named opened
    obtain ⟨transcript, shared, inside, exchanged, authenticated⟩ := xOpen_binds opened
    refine ⟨transcript, shared, inside, exchanged, authenticated, ?_⟩
    rintro owner rfl
    obtain ⟨agreed, recipientSide, ownerSide⟩ :=
      honest.dh_agrees recipient.noiseStaticSecret owner.noiseStaticSecret
    rw [← honest.staticPublic_eq] at recipientSide ownerSide
    rw [recipientSide] at exchanged
    rw [ownerSide, exchanged]

end MeshStar

namespace MeshStar.Transparent

local instance envelopeSuite : Primitives := primitives

/-- An envelope of the transparent suite comes back with its sender. -/
theorem envelope_names_sender_sealed : HonestPrimitives ∧ ∃ envelope,
      (sealEnvelope (identity 1) (identity 2).publicIdentity 77 [5, 6] generator).2 = .ok envelope ∧
      openEnvelope (identity 2) 77 envelope = .ok ((identity 1).publicIdentity, [5, 6]) :=
  ⟨honest, (envelope_names_sender honest (identity 1) (identity 2) 77 [5, 6] generator).1⟩

end MeshStar.Transparent
