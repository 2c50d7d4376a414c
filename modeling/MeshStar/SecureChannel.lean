import MeshStar.Session
import MeshStar.Transparent
import Mathlib.Logic.Relation

/-!
# Every run of a session pair over an adversarial network

The sender encrypts any number of times; the network delivers any payload at any
time: genuine, lost, repeated, reordered or modified. The only thing it cannot do is
forge: a payload that the AEAD accepts under the receiving key, nonce and associated
data was produced by a recorded encryption under the same three.

The history of a channel records each successful encryption and each plaintext
returned. The invariant ties both to the sessions: recorded nonces lie below the
send counter, and every returned counter is refused by the replay window.
-/

namespace MeshStar

open List

variable [Primitives]

/-- One successful encryption: the AEAD call and the caller's data. -/
structure Sealing where
  key : Bytes32
  nonce : Nat
  associated : Bytes
  aad : Bytes
  plaintext : Bytes
  ciphertext : Bytes

/-- One plaintext returned by a decryption. -/
structure Opening where
  counter : Nat
  aad : Bytes
  plaintext : Bytes

/-- A recorded sealing is a genuine AEAD call of the sending session. -/
structure Sealing.Genuine (sender : Session) (sealing : Sealing) : Prop where
  key : sealing.key = sender.sendKey
  nonce : sealing.nonce < sender.sendCtr
  bounded : sealing.nonce < counterRekeyThreshold
  associated : ∃ epoch, sealing.associated = Session.fullAd sealing.aad epoch sealing.nonce
  ciphertext : sealing.ciphertext =
    CipherState.encryptN sealing.key sealing.nonce sealing.associated sealing.plaintext

/-- A sending and a receiving session with their histories. -/
structure Channel where
  sender : Session
  receiver : Session
  sealings : List Sealing
  openings : List Opening

namespace Channel

/-- The sender encrypts; a success is recorded. -/
def encrypt (channel : Channel) (now : Nat) (aad plaintext : Bytes) : Channel :=
  match channel.sender.encrypt now aad plaintext with
  | (sender, .error _) => { channel with sender := sender }
  | (sender, .ok payload) =>
    { channel with
      sender := sender
      sealings := channel.sealings ++
        [⟨channel.sender.sendKey, channel.sender.sendCtr,
          Session.fullAd aad channel.sender.epoch channel.sender.sendCtr, aad, plaintext,
          payload.drop 4⟩] }

/-- A payload reaches the receiver; a returned plaintext is recorded. -/
def deliver (channel : Channel) (now : Nat) (aad payload : Bytes) : Channel :=
  match channel.receiver.decrypt now aad payload with
  | (receiver, .error _) => { channel with receiver := receiver }
  | (receiver, .ok plaintext) =>
    { channel with
      receiver := receiver
      openings := channel.openings ++ [⟨Session.counterOf payload, aad, plaintext⟩] }

/-- The AEAD assumption for one delivery: what opens under the receiving key, the wire
counter and the extended associated data was sealed under the same three. -/
def Unforged (channel : Channel) (aad payload : Bytes) : Prop :=
  let counter := Session.counterOf payload
  let associated := Session.fullAd aad channel.receiver.epoch counter
  ∀ plaintext, CipherState.decryptN channel.receiver.recvKey counter associated
      (payload.drop 4) = .ok plaintext →
    ∃ sealing ∈ channel.sealings, sealing.key = channel.receiver.recvKey ∧
      sealing.nonce = counter ∧ sealing.associated = associated ∧
      sealing.ciphertext = payload.drop 4

/-- One step of a run. -/
inductive Step : Channel → Channel → Prop where
  | encrypt (channel : Channel) (now : Nat) (aad plaintext : Bytes) :
      Step channel (channel.encrypt now aad plaintext)
  | deliver (channel : Channel) (now : Nat) (aad payload : Bytes)
      (unforged : channel.Unforged aad payload) :
      Step channel (channel.deliver now aad payload)

/-- Runs of any length. -/
abbrev Run : Channel → Channel → Prop := Relation.ReflTransGen Step

/-- A pair whose sending key is the other side's receiving key, before its first step. -/
def Fresh (channel : Channel) : Prop :=
  channel.sender.sendKey = channel.receiver.recvKey ∧ channel.sealings = [] ∧
    channel.openings = []

/-- What every reachable channel satisfies. -/
structure Invariant (channel : Channel) : Prop where
  keyed : channel.sender.sendKey = channel.receiver.recvKey
  genuine : ∀ sealing ∈ channel.sealings, sealing.Genuine channel.sender
  nonces : (channel.sealings.map Sealing.nonce).Nodup
  refused : ∀ opening ∈ channel.openings,
    channel.receiver.replay.check opening.counter = false
  once : (channel.openings.map Opening.counter).Nodup
  returned : ∀ opening ∈ channel.openings, ∃ sealing ∈ channel.sealings,
    sealing.nonce = opening.counter ∧ sealing.aad = opening.aad ∧
      sealing.plaintext = opening.plaintext

omit [Primitives] in
/-- The caller's data is recovered from the extended associated data: the framing adds
a fixed number of bytes at the end. -/
theorem fullAd_aad {first second : Bytes} {firstEpoch secondEpoch : UInt8}
    {firstCounter secondCounter : Nat}
    (same : Session.fullAd first firstEpoch firstCounter =
      Session.fullAd second secondEpoch secondCounter) : first = second := by
  simp only [Session.fullAd, append_assoc] at same
  exact (append_inj' same (by simp)).1

omit [Primitives] in
/-- Distinct counters below the threshold have distinct nonce bytes. -/
theorem nonceBytes_injective {first second : Nat} (firstBounded : first < counterRekeyThreshold)
    (secondBounded : second < counterRekeyThreshold)
    (same : CipherState.nonceBytes first = CipherState.nonceBytes second) : first = second := by
  have reversed : BigEndian.encode 8 first = BigEndian.encode 8 second := by
    have suffixes := append_cancel_left same
    exact reverse_inj.mp suffixes
  have range : counterRekeyThreshold < 256 ^ 8 := by decide
  exact BigEndian.encode_injective 8 first second (by omega) (by omega) reversed

/-- Before its first step a channel has no history to account for. -/
theorem fresh_invariant {channel : Channel} (fresh : channel.Fresh) : channel.Invariant := by
  obtain ⟨keyed, noSealings, noOpenings⟩ := fresh
  refine ⟨keyed, ?_, ?_, ?_, ?_, ?_⟩
  · simp [noSealings]
  · simp [noSealings]
  · simp [noOpenings]
  · simp [noOpenings]
  · simp [noOpenings]

/-- An encryption appends one sealing whose nonce exceeds every earlier one. -/
theorem encrypt_invariant {channel : Channel} (invariant : channel.Invariant) (now : Nat)
    (aad plaintext : Bytes) : (channel.encrypt now aad plaintext).Invariant := by
  unfold encrypt
  cases encrypted : channel.sender.encrypt now aad plaintext with
  | mk sender result =>
    cases result with
    | error error =>
      have unchanged := Session.encrypt_error encrypted
      subst unchanged
      exact invariant
    | ok payload =>
      obtain ⟨below, advanced, written⟩ := Session.encrypt_ok encrypted
      subst advanced
      have ciphertext : payload.drop 4 = CipherState.encryptN channel.sender.sendKey
          channel.sender.sendCtr
          (Session.fullAd aad channel.sender.epoch channel.sender.sendCtr) plaintext := by
        rw [written]
        exact drop_left' (by simp)
      refine ⟨invariant.keyed, ?_, ?_, invariant.refused, invariant.once, ?_⟩
      · intro sealing member
        rcases mem_append.mp member with earlier | last
        · have known := invariant.genuine sealing earlier
          exact ⟨known.key, Nat.lt_succ_of_lt known.nonce, known.bounded, known.associated,
            known.ciphertext⟩
        · have same := mem_singleton.mp last
          subst same
          exact ⟨rfl, Nat.lt_succ_self _, below, ⟨_, rfl⟩, ciphertext⟩
      · rw [map_append, nodup_append]
        refine ⟨invariant.nonces, by simp, ?_⟩
        intro nonce earlier other last same
        obtain ⟨sealing, member, recorded⟩ := mem_map.mp earlier
        have bound := (invariant.genuine sealing member).nonce
        simp only [map_cons, map_nil, mem_singleton] at last
        omega
      · intro opening member
        obtain ⟨sealing, sealed, matched⟩ := invariant.returned opening member
        exact ⟨sealing, mem_append_left _ sealed, matched⟩

/-- A delivery either changes nothing or returns the plaintext of a recorded sealing
whose counter the window had not refused, and refuses it from then on. -/
theorem deliver_invariant (roundTrip : CipherState.AeadRoundTrip) {channel : Channel}
    (invariant : channel.Invariant) (now : Nat) {aad payload : Bytes}
    (unforged : channel.Unforged aad payload) : (channel.deliver now aad payload).Invariant := by
  unfold deliver
  cases decrypted : channel.receiver.decrypt now aad payload with
  | mk receiver result =>
    cases result with
    | error error =>
      have unchanged := Session.decrypt_error decrypted
      subst unchanged
      exact invariant
    | ok plaintext =>
      obtain ⟨_, accepted, opened, recorded⟩ := Session.decrypt_ok decrypted
      subst recorded
      refine ⟨invariant.keyed, invariant.genuine, invariant.nonces, ?_, ?_, ?_⟩
      · intro opening member
        rcases mem_append.mp member with earlier | last
        · exact ReplayWindow.accept_keeps_refusal _ _ (invariant.refused opening earlier)
        · have same := mem_singleton.mp last
          subst same
          exact ReplayWindow.accept_refuses_self _ _
      · rw [map_append, nodup_append]
        refine ⟨invariant.once, by simp, ?_⟩
        intro counter earlier other last same
        obtain ⟨opening, member, read⟩ := mem_map.mp earlier
        have refused := invariant.refused opening member
        simp only [map_cons, map_nil, mem_singleton] at last
        rw [read, same, last, accepted] at refused
        cases refused
      · intro opening member
        rcases mem_append.mp member with earlier | last
        · exact invariant.returned opening earlier
        · have same := mem_singleton.mp last
          subst same
          obtain ⟨sealing, sealed, key, nonce, associated, ciphertext⟩ := unforged plaintext opened
          have known := invariant.genuine sealing sealed
          obtain ⟨epoch, extended⟩ := known.associated
          refine ⟨sealing, sealed, nonce, fullAd_aad (extended.symm.trans associated), ?_⟩
          have genuine := CipherState.decryptN_encryptN roundTrip sealing.key sealing.nonce
            sealing.associated sealing.plaintext
          rw [← known.ciphertext, key, nonce, associated, ciphertext, opened] at genuine
          exact (Except.ok.inj genuine).symm

/-- The invariant holds of every channel a run reaches. -/
theorem run_invariant (roundTrip : CipherState.AeadRoundTrip) {initial final : Channel}
    (fresh : initial.Fresh) (run : Run initial final) : final.Invariant := by
  induction run with
  | refl => exact fresh_invariant fresh
  | tail _ step ih =>
    cases step with
    | encrypt now aad plaintext => exact encrypt_invariant ih now aad plaintext
    | deliver now aad payload unforged =>
      exact deliver_invariant roundTrip ih now unforged

/-- In every run of a session pair: the nonces of successful encryptions are distinct;
no counter is returned twice, and each returned plaintext is the one sealed under that
counter with that associated data, hence no plaintext is returned twice; and in every
state reached a decryption that returns an error leaves the receiving session as it
was. -/
theorem session_pair_secure (roundTrip : CipherState.AeadRoundTrip) (initial final : Channel)
    (fresh : initial.Fresh) (run : Run initial final) :
    (final.sealings.map (fun sealing => CipherState.nonceBytes sealing.nonce)).Nodup ∧
      (final.openings.map Opening.counter).Nodup ∧
      (∀ opening ∈ final.openings, ∃ sealing ∈ final.sealings,
        sealing.nonce = opening.counter ∧ sealing.aad = opening.aad ∧
          sealing.plaintext = opening.plaintext) ∧
      ∀ (now : Nat) (aad payload : Bytes) (error : Error),
        (final.receiver.decrypt now aad payload).2 = .error error →
          (final.receiver.decrypt now aad payload).1 = final.receiver := by
  have invariant := run_invariant roundTrip fresh run
  refine ⟨?_, invariant.once, invariant.returned, ?_⟩
  · have distinct := pairwise_map.mp invariant.nonces
    refine pairwise_map.mpr (distinct.imp_of_mem ?_)
    intro first second firstMember secondMember apart same
    exact apart (nonceBytes_injective (invariant.genuine first firstMember).bounded
      (invariant.genuine second secondMember).bounded same)
  · intro now aad payload error failed
    exact Session.decrypt_error (Prod.ext rfl failed)

end Channel

end MeshStar

namespace MeshStar

local instance channelSuite : Primitives := Transparent.primitives

/-- A pair of mirrored sessions over the transparent suite. -/
def mirroredChannel : Channel :=
  let key : Bytes32 := ⟨List.replicate 32 7, by decide⟩
  let other : Bytes32 := ⟨List.replicate 32 9, by decide⟩
  { sender := Session.new ⟨key⟩ 3 ⟨key, other, other⟩ 0
    receiver := Session.new ⟨other⟩ 3 ⟨other, key, other⟩ 0
    sealings := []
    openings := [] }

/-- The payload of the first encryption of the text `[104, 105]`. -/
def mirroredPayload : Bytes :=
  match (mirroredChannel.sender.encrypt 5 [1] [104, 105]).2 with
  | .ok payload => payload
  | .error _ => []

/-- A run that encrypts once and delivers the payload twice: the text is returned by
the first delivery only, and the general law applies to the channel reached. -/
theorem session_pair_secure_repeated_delivery :
    let channel := ((mirroredChannel.encrypt 5 [1] [104, 105]).deliver 6 [1]
      mirroredPayload).deliver
      7 [1] mirroredPayload
    channel.openings.map Opening.plaintext = [[104, 105]] ∧
      (channel.openings.map Opening.counter).Nodup := by
  have sealed : (mirroredChannel.encrypt 5 [1] [104, 105]).Unforged [1] mirroredPayload := by
    intro plaintext opened
    decide +kernel
  have repeated : ((mirroredChannel.encrypt 5 [1] [104, 105]).deliver 6 [1]
      mirroredPayload).Unforged [1] mirroredPayload := by
    intro plaintext opened
    decide +kernel
  refine ⟨by decide +kernel, ?_⟩
  exact (Channel.session_pair_secure Transparent.roundTrip mirroredChannel _ ⟨rfl, rfl, rfl⟩
    (((Relation.ReflTransGen.single (Channel.Step.encrypt _ _ _ _)).tail
      (Channel.Step.deliver _ _ _ _ sealed)).tail
      (Channel.Step.deliver _ _ _ _ repeated))).2.1

end MeshStar
