import MeshStar.NoiseAgreement

/-!
# Handshake messages that fail half way

A reading method hashes the parts of a message and mixes keys while it reads. When it
fails, the parts read so far stay in the transcript. What a failed read leaves behind is
described by the hashes the transcript passes through; from there it follows which
failing messages cost the handshake its genuine one.

A message that is refused before anything is read changes nothing, and the genuine
message is accepted afterwards with the same keys. A message that has entered the
transcript makes the genuine one unreadable, provided the AEAD keeps its promise on the two
states in question and the hash does not collide on their transcripts.
-/

namespace MeshStar

open List SymmetricState

open Primitives (sha256)
open CipherState (decryptN decryptWithAd)
open FixedBytes (ofSlice)

variable [Primitives]

/-- The transcript hashes reached while parts of a message are mixed in. -/
def hashes (hash : Bytes32) : List Bytes → List Bytes32
  | [] => []
  | part :: rest =>
    sha256 (hash.val ++ part) :: hashes (sha256 (hash.val ++ part)) rest

variable {error : Error}

namespace SymmetricState

variable {state : SymmetricState} {ciphertext : Bytes}

/-- A failed decryption changes nothing. -/
theorem decryptAndHash_failed (failed : (state.decryptAndHash ciphertext).2 = .error error) :
    (state.decryptAndHash ciphertext).1 = state := by
  cases keyed : state.cipher.key with
  | none => simp [decryptAndHash, decryptWithAd, keyed] at failed
  | some key =>
    cases opened : decryptN key state.cipher.nonce state.hash.val ciphertext with
    | ok text => simp [decryptAndHash, decryptWithAd, keyed, opened] at failed
    | error cause => simp [decryptAndHash, decryptWithAd, keyed, opened]

/-- A successful decryption mixes the ciphertext into the transcript. -/
theorem decryptAndHash_hash {plaintext : Bytes}
    (opened : (state.decryptAndHash ciphertext).2 = .ok plaintext) :
    (state.decryptAndHash ciphertext).1.hash = sha256 (state.hash.val ++ ciphertext) := by
  unfold decryptAndHash at opened ⊢
  generalize state.cipher.decryptWithAd state.hash.val ciphertext = outcome at opened ⊢
  obtain ⟨cipher, result⟩ := outcome
  cases result with
  | error cause => cases opened
  | ok text => rfl

/-- The AEAD keeps its promise on two states with different transcript hashes: a text that one
of them opens does not open under the key, nonce and hash of the other. -/
def OpensOnce (sealed : Bytes) (one other : SymmetricState) : Prop :=
  other.hash ≠ one.hash → (one.decryptAndHash sealed).2.isOk = true →
    (other.decryptAndHash sealed).2.isOk = false

instance (sealed : Bytes) (one other : SymmetricState) : Decidable (OpensOnce sealed one other) :=
  inferInstanceAs (Decidable (_ → _ → _))

end SymmetricState

namespace HandshakeXX

variable {waiting accepted disturbed handshake : HandshakeXX} {message : Bytes} {α β : Type}
  {action : HandshakeM α} {next : α → HandshakeM β}

/-- The transcript hash of a handshake. -/
def transcript (handshake : HandshakeXX) : Bytes32 := handshake.symmetric.hash

/-- An action after which the transcript has absorbed an initial part of a list, however
it ends. -/
def Absorbs {α : Type} (parts : List Bytes) (action : HandshakeM α) : Prop :=
  ∀ handshake, (run action handshake).1.transcript ∈
    handshake.transcript :: hashes handshake.transcript parts

section Absorption

variable {parts : List Bytes}

/-- An action that leaves the transcript alone absorbs nothing. -/
theorem absorbs_of_keeps (kept : Keeps transcript action) : Absorbs parts action := by
  intro handshake
  rw [kept handshake]
  exact mem_cons_self

/-- An action that leaves the transcript alone may come first. -/
theorem absorbs_bind (kept : Keeps transcript action) (later : ∀ value, Absorbs parts (next value))
    :
    Absorbs parts (action >>= next) := by
  intro handshake
  have same := kept handshake
  rw [run_bind]
  generalize run action handshake = outcome at same
  obtain ⟨reached, result⟩ := outcome
  cases result with
  | error _ =>
    rw [same]
    exact mem_cons_self
  | ok value =>
    have absorbed := later value reached
    rw [show reached.transcript = handshake.transcript from same] at absorbed
    exact absorbed

/-- A ciphertext is absorbed when it decrypts, and only then. -/
theorem absorbs_decryptAndHash {ciphertext : Bytes} {next : Bytes → HandshakeM β}
    (later : ∀ value, Absorbs parts (next value)) :
    Absorbs (ciphertext :: parts) (decryptAndHash ciphertext >>= next) := by
  intro handshake
  rw [run_bind, run_decryptAndHash]
  unfold SymmetricState.decryptAndHash
  generalize handshake.symmetric.cipher.decryptWithAd handshake.symmetric.hash.val ciphertext =
    opened
  obtain ⟨cipher, result⟩ := opened
  cases result with
  | error _ => exact mem_cons_self
  | ok value => exact mem_cons_of_mem _ (later value _)

theorem keepsTranscript_mixDh {secret publicKey : Bytes32} :
    Keeps transcript (mixDh secret publicKey) :=
  keeps_bind keeps_liftResult (fun _ => keeps_modify (fun _ => rfl))

end Absorption

omit [Primitives] in
/-- A first action that succeeds hands over its result and state. -/
theorem run_bind_ok {reached : HandshakeXX} {value : α}
    (first : run action handshake = (reached, .ok value)) :
    run (action >>= next) handshake = run (next value) reached := by
  rw [run_bind, first]

omit [Primitives] in
/-- The guard passes in its own place. -/
theorem run_expect_here {role : NoiseRole} {step : UInt8} (here : handshake.place = (role, step)) :
    run (expect role step) handshake = (handshake, .ok ()) := by
  have parts : handshake.role = role ∧ handshake.step = step := Prod.mk.inj here
  rw [run_expect, if_pos parts]

/-- The parts a second message is read in. -/
def parts2 (message : Bytes) : List Bytes :=
  [(ofSlice 32 message).val, slice message 32 80, message.drop 80]

/-- The parts a third message is read in. -/
def parts3 (message : Bytes) : List Bytes := [message.take 48, message.drop 48]

/-- A second message too short for its parts is refused before anything is read. -/
theorem readMessage2_short (here : waiting.place = (.initiator, 1)) (short : message.length < 96) :
    run (readMessage2 message) waiting = (waiting, .error .truncated) := by
  rw [readMessage2, run_bind_ok (run_expect_here here), if_pos short]
  rfl

variable {ephemeral : Bytes32} {payload : Bytes}

/-- A long enough second message enters the transcript, whatever becomes of it. -/
theorem readMessage2_absorbs
    (here : waiting.place = (.initiator, 1)) (drawn : waiting.ephemeral = some ephemeral)
    (long : 96 ≤ message.length) :
    (run (readMessage2 message) waiting).1.transcript ∈
      hashes waiting.transcript (parts2 message) := by
  rw [readMessage2, run_bind_ok (run_expect_here here), if_neg (Nat.not_lt.mpr long),
    run_bind_ok run_get, drawn, run_bind_ok run_require_some, run_bind_ok run_modify,
    run_bind_ok run_mixHash]
  refine (?_ : Absorbs [slice message 32 80, message.drop 80] _) _
  refine absorbs_bind keepsTranscript_mixDh (fun _ => ?_)
  refine absorbs_decryptAndHash (fun staticBytes => ?_)
  refine absorbs_bind (keeps_modify (fun _ => rfl)) (fun _ => ?_)
  refine absorbs_bind keepsTranscript_mixDh (fun _ => ?_)
  refine absorbs_decryptAndHash (fun payload => ?_)
  refine absorbs_bind (keeps_verifyIdentityPayload (fun _ _ => rfl)) (fun extra => ?_)
  exact absorbs_of_keeps (keeps_bind (keeps_modify (fun _ => rfl)) (fun _ => keeps_pure))

/-- A third message that is too short, or whose static key does not decrypt, is refused
before anything enters the transcript. -/
theorem readMessage3_refused
    (here : waiting.place = (.responder, 2)) (drawn : waiting.ephemeral = some ephemeral)
    (refused : message.length < 64 ∨
      ∃ error, (waiting.symmetric.decryptAndHash (message.take 48)).2 = .error error) :
    (run (readMessage3 message) waiting).1 = waiting := by
  rw [readMessage3, run_bind_ok (run_expect_here here)]
  by_cases short : message.length < 48 + 16
  · rw [if_pos short]
    rfl
  · obtain ⟨error, failed⟩ := refused.resolve_left short
    rw [if_neg short, run_bind_ok run_get, drawn, run_bind_ok run_require_some, run_bind,
      run_decryptAndHash,
      failed, decryptAndHash_failed failed]

/-- A third message whose static key decrypts enters the transcript, whatever becomes of
it. -/
theorem readMessage3_absorbs {staticBytes : Bytes} (here : waiting.place = (.responder, 2))
    (drawn : waiting.ephemeral = some ephemeral) (long : 64 ≤ message.length)
    (decrypted : (waiting.symmetric.decryptAndHash (message.take 48)).2 = .ok staticBytes) :
    (run (readMessage3 message) waiting).1.transcript ∈
      hashes waiting.transcript (parts3 message) := by
  have opened : run (decryptAndHash (message.take 48)) waiting =
      ({ waiting with symmetric := (waiting.symmetric.decryptAndHash (message.take 48)).1 },
        .ok staticBytes) := by
    rw [run_decryptAndHash, decrypted]
  have entered := decryptAndHash_hash decrypted
  rw [readMessage3, run_bind_ok (run_expect_here here), if_neg (Nat.not_lt.mpr long),
    run_bind_ok run_get, drawn, run_bind_ok run_require_some, run_bind_ok opened,
      run_bind_ok run_modify]
  simp only [parts3, hashes, transcript, ← entered]
  refine (?_ : Absorbs [message.drop 48] _) _
  refine absorbs_bind keepsTranscript_mixDh (fun _ => ?_)
  refine absorbs_decryptAndHash (fun payload => ?_)
  refine absorbs_bind (keeps_verifyIdentityPayload (fun _ _ => rfl)) (fun extra => ?_)
  exact absorbs_of_keeps (keeps_bind (keeps_modify (fun _ => rfl)) (fun _ => keeps_pure))

/-- A second message that is accepted is long enough, and was read with an ephemeral
secret. -/
theorem readMessage2_accepted (here : waiting.place = (.initiator, 1))
    (read : run (readMessage2 message) waiting = (accepted, .ok payload)) :
    96 ≤ message.length ∧ ∃ ephemeral, waiting.ephemeral = some ephemeral := by
  have long : 96 ≤ message.length := by
    by_contra short
    rw [readMessage2_short here (Nat.lt_of_not_le short)] at read
    cases read
  refine ⟨long, ?_⟩
  cases drawn : waiting.ephemeral with
  | some ephemeral => exact ⟨ephemeral, rfl⟩
  | none =>
    rw [readMessage2, run_bind_ok (run_expect_here here), if_neg (Nat.not_lt.mpr long),
      run_bind_ok run_get, drawn] at read
    cases read

theorem readMessage3_accepted (here : waiting.place = (.responder, 2))
    (read : run (readMessage3 message) waiting = (accepted, .ok payload)) :
    64 ≤ message.length ∧ ∃ ephemeral, waiting.ephemeral = some ephemeral := by
  rw [readMessage3, run_bind_ok (run_expect_here here)] at read
  by_cases short : message.length < 48 + 16
  · rw [if_pos short] at read
    cases read
  · refine ⟨Nat.le_of_not_lt short, ?_⟩
    cases drawn : waiting.ephemeral with
    | some ephemeral => exact ⟨ephemeral, rfl⟩
    | none =>
      rw [if_neg short, run_bind_ok run_get, drawn] at read
      cases read

/-- The state in which the static key of a second message is opened. -/
def opening2 (handshake : HandshakeXX) (message : Bytes) : Option SymmetricState :=
  match handshake.ephemeral with
  | none => none
  | some ephemeral =>
    match dh ephemeral (ofSlice 32 message) with
    | .error _ => none
    | .ok shared =>
      some ((handshake.symmetric.mixHash (ofSlice 32 message).val).mixKey shared.val)

/-- The state has taken in the ephemeral key of the message. -/
theorem opening2_hash {state : SymmetricState} (opening : handshake.opening2 message = some state) :
    state.hash = sha256 (handshake.transcript.val ++ (ofSlice 32 message).val) := by
  unfold opening2 at opening
  split at opening
  · cases opening
  · split at opening
    · cases opening
    · cases opening
      rfl

/-- A second message that is accepted has a static key that opens. -/
theorem readMessage2_opens (here : handshake.place = (.initiator, 1))
    (read : run (readMessage2 message) handshake = (accepted, .ok payload)) :
    ∃ state, handshake.opening2 message = some state ∧
      (state.decryptAndHash (slice message 32 80)).2.isOk = true := by
  obtain ⟨long, ephemeral, drawn⟩ := readMessage2_accepted here read
  rw [readMessage2, run_bind_ok (run_expect_here here), if_neg (Nat.not_lt.mpr long),
    run_bind_ok run_get, drawn, run_bind_ok run_require_some, run_bind_ok run_modify,
    run_bind_ok run_mixHash] at read
  cases exchanged : dh ephemeral (ofSlice 32 message) with
  | error cause =>
    simp only [mixDh, run_bind, exchanged, run_liftResult] at read
    cases read
  | ok shared =>
    refine ⟨(handshake.symmetric.mixHash (ofSlice 32 message).val).mixKey shared.val,
      by simp only [opening2, drawn, exchanged], ?_⟩
    rw [run_bind_ok (run_mixDh exchanged), run_bind, run_decryptAndHash] at read
    cases opened : (((handshake.symmetric.mixHash (ofSlice 32 message).val).mixKey
        shared.val).decryptAndHash (slice message 32 80)).2 with
    | error cause =>
      rw [opened] at read
      cases read
    | ok text => rfl

/-- A third message that is accepted has a static key that opens. -/
theorem readMessage3_opens (here : handshake.place = (.responder, 2))
    (read : run (readMessage3 message) handshake = (accepted, .ok payload)) :
    (handshake.symmetric.decryptAndHash (message.take 48)).2.isOk = true := by
  obtain ⟨long, ephemeral, drawn⟩ := readMessage3_accepted here read
  rw [readMessage3, run_bind_ok (run_expect_here here), if_neg (Nat.not_lt.mpr long),
    run_bind_ok run_get, drawn, run_bind_ok run_require_some, run_bind, run_decryptAndHash] at read
  cases opened : (handshake.symmetric.decryptAndHash (message.take 48)).2 with
  | error cause =>
    rw [opened] at read
    cases read
  | ok text => rfl

/-- A handshake that waits for the second message: whatever was called on it, writing
the first has succeeded and nothing else. -/
def AwaitsMessage2 (handshake : HandshakeXX) : Prop :=
  ∃ identity prologue rng calls,
    perform (new .initiator identity prologue rng).2 calls = (handshake, [.writeMessage1])

/-- A handshake that waits for the third message. -/
def AwaitsMessage3 (handshake : HandshakeXX) : Prop :=
  ∃ identity prologue rng calls,
    perform (new .responder identity prologue rng).2 calls =
      (handshake, [.readMessage1, .writeMessage2])

theorem AwaitsMessage2.ofCalls {identity : Identity} {prologue : Bytes} {rng : Rng}
    {calls : List (Method × Bytes)}
    (done : (perform (new .initiator identity prologue rng).2 calls).2 = [.writeMessage1]) :
    (perform (new .initiator identity prologue rng).2 calls).1.AwaitsMessage2 :=
  ⟨identity, prologue, rng, calls, Prod.ext rfl done⟩

theorem AwaitsMessage3.ofCalls {identity : Identity} {prologue : Bytes} {rng : Rng}
    {calls : List (Method × Bytes)}
    (done : (perform (new .responder identity prologue rng).2 calls).2 =
      [.readMessage1, .writeMessage2]) :
    (perform (new .responder identity prologue rng).2 calls).1.AwaitsMessage3 :=
  ⟨identity, prologue, rng, calls, Prod.ext rfl done⟩

theorem AwaitsMessage2.place (awaits : handshake.AwaitsMessage2) :
    handshake.place = (.initiator, 1) := by
  obtain ⟨identity, prologue, rng, calls, performed⟩ := awaits
  have order := perform_order .initiator calls (Nat.zero_le 3)
    (show (new .initiator identity prologue rng).2.place = (.initiator, UInt8.ofNat 0) from rfl)
  rw [performed] at order
  exact order.2.1

theorem AwaitsMessage3.place (awaits : handshake.AwaitsMessage3) :
    handshake.place = (.responder, 2) := by
  obtain ⟨identity, prologue, rng, calls, performed⟩ := awaits
  have order := perform_order .responder calls (Nat.zero_le 3)
    (show (new .responder identity prologue rng).2.place = (.responder, UInt8.ofNat 0) from rfl)
  rw [performed] at order
  exact order.2.1

/-- What an initiator that has read the second message concludes with: the keys and the
identity after writing the third. -/
def concludes (extra : Bytes) (handshake : HandshakeXX) :
    Except Error (TransportKeys × PublicIdentity) :=
  (run (writeMessage3 extra) handshake).1.finish

/-- The genuine second message is accepted, and leads to the same keys. -/
def Recovers2 (disturbed accepted : HandshakeXX) (genuine payload : Bytes) : Prop :=
  ∃ reached, run (readMessage2 genuine) disturbed = (reached, .ok payload) ∧
    ∀ extra, concludes extra reached = concludes extra accepted

/-- The genuine third message is accepted, and leads to the same keys. -/
def Recovers3 (disturbed accepted : HandshakeXX) (genuine payload : Bytes) : Prop :=
  ∃ reached, run (readMessage3 genuine) disturbed = (reached, .ok payload) ∧
    reached.finish = accepted.finish

/-- What the primitives must guarantee for a second message that is read after a failing one:
the AEAD keeps its promise on the states in which the two handshakes open its static key, and
no transcript that the failing message has entered hashes to the genuine one. -/
structure Unforgeable2 (waiting disturbed : HandshakeXX) (failing genuine : Bytes) : Prop where
  authentic : ∀ own ∈ waiting.opening2 genuine, ∀ other ∈ disturbed.opening2 genuine,
    OpensOnce (slice genuine 32 80) own other
  fresh : ∀ tampered ∈ hashes waiting.transcript (parts2 failing),
    sha256 (tampered.val ++ (ofSlice 32 genuine).val) ≠
      sha256 (waiting.transcript.val ++ (ofSlice 32 genuine).val)

/-- The same for a third message. -/
structure Unforgeable3 (waiting disturbed : HandshakeXX) (failing genuine : Bytes) : Prop where
  authentic : OpensOnce (genuine.take 48) waiting.symmetric disturbed.symmetric
  fresh : ∀ tampered ∈ hashes waiting.transcript (parts3 failing), tampered ≠ waiting.transcript

/-- A failing second message that is long enough to be read costs the handshake the genuine
one. -/
theorem failed_read2_short {failing genuine : Bytes} (awaits : waiting.AwaitsMessage2)
    (failed : run (readMessage2 failing) waiting = (disturbed, .error error))
    (read : run (readMessage2 genuine) waiting = (accepted, .ok payload))
    (unforgeable : Unforgeable2 waiting disturbed failing genuine)
    (recovers : Recovers2 disturbed accepted genuine payload) : failing.length < 96 := by
  have here := awaits.place
  obtain ⟨_, ephemeral, drawn⟩ := readMessage2_accepted here read
  obtain ⟨reached, again, _⟩ := recovers
  by_contra long
  have entered := readMessage2_absorbs here drawn (Nat.le_of_not_lt long)
  have moved := call_advances .readMessage2 failing waiting
  rw [show run (Method.readMessage2.call failing) waiting = _ from failed] at moved
  rw [failed] at entered
  obtain ⟨own, opening, opened⟩ := readMessage2_opens here read
  obtain ⟨other, reopening, reopened⟩ := readMessage2_opens (moved.trans here) again
  have apart : other.hash ≠ own.hash := by
    rw [opening2_hash opening, opening2_hash reopening]
    exact unforgeable.fresh disturbed.transcript entered
  cases reopened.symm.trans (unforgeable.authentic own opening other reopening apart opened)

/-- A failing third message whose static key decrypts costs the handshake the genuine one. -/
theorem failed_read3_refused {failing genuine : Bytes} (awaits : waiting.AwaitsMessage3)
    (failed : run (readMessage3 failing) waiting = (disturbed, .error error))
    (read : run (readMessage3 genuine) waiting = (accepted, .ok payload))
    (unforgeable : Unforgeable3 waiting disturbed failing genuine)
    (recovers : Recovers3 disturbed accepted genuine payload) : failing.length < 64 ∨
      ∃ cause, (waiting.symmetric.decryptAndHash (failing.take 48)).2 = .error cause := by
  have here := awaits.place
  obtain ⟨_, ephemeral, drawn⟩ := readMessage3_accepted here read
  obtain ⟨reached, again, _⟩ := recovers
  by_contra unrefused
  rw [not_or] at unrefused
  obtain ⟨long, decrypts⟩ := unrefused
  cases opened : (waiting.symmetric.decryptAndHash (failing.take 48)).2 with
  | error cause => exact decrypts ⟨cause, opened⟩
  | ok staticBytes =>
    have entered := readMessage3_absorbs here drawn (Nat.le_of_not_lt long) opened
    have moved := call_advances .readMessage3 failing waiting
    rw [show run (Method.readMessage3.call failing) waiting = _ from failed] at moved
    rw [failed] at entered
    cases (readMessage3_opens (moved.trans here) again).symm.trans (unforgeable.authentic
      (unforgeable.fresh disturbed.transcript entered) (readMessage3_opens here read))

/-- Reading a message that fails is undone by the early refusals, and by nothing else if the
primitives keep their promise on the handshake at hand. For a handshake that waits for the
second message, the genuine one is accepted afterwards with the same keys if, and only if, the
failing one was too short to be read. For one that waits for the third, if, and only if, the
failing one was too short or its static key did not decrypt. -/
theorem failed_reads_atomic (waiting accepted disturbed : HandshakeXX)
    (failing genuine payload : Bytes) (error : Error) :
    (waiting.AwaitsMessage2 → run (readMessage2 failing) waiting = (disturbed, .error error) →
      run (readMessage2 genuine) waiting = (accepted, .ok payload) →
      (failing.length < 96 → Recovers2 disturbed accepted genuine payload) ∧
      (Unforgeable2 waiting disturbed failing genuine →
        Recovers2 disturbed accepted genuine payload → failing.length < 96)) ∧
    (waiting.AwaitsMessage3 → run (readMessage3 failing) waiting = (disturbed, .error error) →
      run (readMessage3 genuine) waiting = (accepted, .ok payload) →
      ((failing.length < 64 ∨
          ∃ cause, (waiting.symmetric.decryptAndHash (failing.take 48)).2 = .error cause) →
        Recovers3 disturbed accepted genuine payload) ∧
      (Unforgeable3 waiting disturbed failing genuine →
        Recovers3 disturbed accepted genuine payload →
        failing.length < 64 ∨
          ∃ cause, (waiting.symmetric.decryptAndHash (failing.take 48)).2 = .error cause)) := by
  refine ⟨fun awaits failed read => ⟨fun short => ?_, failed_read2_short awaits failed read⟩,
    fun awaits failed read => ⟨fun refused => ?_, failed_read3_refused awaits failed read⟩⟩
  · rw [readMessage2_short awaits.place short] at failed
    cases failed
    exact ⟨accepted, read, fun _ => rfl⟩
  · obtain ⟨_, ephemeral, drawn⟩ := readMessage3_accepted awaits.place read
    have unchanged := readMessage3_refused awaits.place drawn refused
    rw [failed] at unchanged
    cases unchanged
    exact ⟨accepted, read, rfl⟩

omit [Primitives] in
theorem run_eq_of_result {result : Except Error α} (outcome : (run action handshake).2 = result) :
    run action handshake = ((run action handshake).1, result) := Prod.ext rfl outcome

/-- The message a method writes. -/
def written (method : Method) (payload : Bytes) (handshake : HandshakeXX) : Bytes :=
  match (run (method.call payload) handshake).2 with
  | .ok message => message
  | .error _ => []

end HandshakeXX

namespace Failure

open HandshakeXX

/-- A fresh side of a handshake between two small identities. -/
def fresh (role : NoiseRole) (seed : UInt8) : HandshakeXX :=
  (new role (Transparent.identity seed) [7] Transparent.generator).2

def message1 : Bytes := written .writeMessage1 [0, 0] (fresh .initiator 1)

def answering : HandshakeXX := (perform (fresh .responder 2) [(.readMessage1, message1)]).1

def message2 : Bytes := written .writeMessage2 [0] answering

/-- An initiator that waits for the second message. -/
def initiator : HandshakeXX := (perform (fresh .initiator 1) [(.writeMessage1, [0, 0])]).1

def concluding : HandshakeXX := (run (readMessage2 message2) initiator).1

def message3 : Bytes := written .writeMessage3 [0] concluding

/-- A responder that waits for the third message. -/
def responder : HandshakeXX :=
  (perform (fresh .responder 2) [(.readMessage1, message1), (.writeMessage2, [0])]).1

/-- A message with its last byte altered in transit. -/
def altered (message : Bytes) : Bytes := message.modify (message.length - 1) (· + 1)

end Failure

end MeshStar

namespace MeshStar.Failure

open HandshakeXX

local instance poisonedSuite : Primitives := Transparent.primitives

/-- A second message altered in its last byte is refused, and so is the genuine one that
follows, which the same initiator would have accepted. -/
theorem altered_message_fatal : initiator.AwaitsMessage2 ∧
      (run (readMessage2 (altered message2)) initiator).2.toOption = none ∧
      (run (readMessage2 message2) initiator).2.toOption = some [0] ∧
      (run (readMessage2 message2)
        (run (readMessage2 (altered message2)) initiator).1).2.toOption = none := by
  refine ⟨AwaitsMessage2.ofCalls ?_, ?_, ?_, ?_⟩ <;> decide +kernel

/-- The handshake after a failing second message, and after a failing third one. -/
def after2 (failing : Bytes) : HandshakeXX := (run (readMessage2 failing) initiator).1

def after3 (failing : Bytes) : HandshakeXX := (run (readMessage3 failing) responder).1

/-- A truncated message costs nothing, an altered one costs the genuine one. -/
theorem failed_reads_atomic_sample :
    Recovers2 (after2 (message2.take 95)) (after2 message2) message2 [0] ∧
      ¬Recovers2 (after2 (altered message2)) (after2 message2) message2 [0] ∧
      Recovers3 (after3 (message3.take 63)) (after3 message3) message3 [0] ∧
      ¬Recovers3 (after3 (altered message3)) (after3 message3) message3 [0] := by
  have awaits2 : initiator.AwaitsMessage2 := AwaitsMessage2.ofCalls (by decide +kernel)
  have awaits3 : responder.AwaitsMessage3 := AwaitsMessage3.ofCalls (by decide +kernel)
  have read2 : (run (readMessage2 message2) initiator).2 = .ok [0] := by decide +kernel
  have read3 : (run (readMessage3 message3) responder).2 = .ok [0] := by decide +kernel
  have exact2 (failing : Bytes) (error : Error)
      (failed : (run (readMessage2 failing) initiator).2 = .error error) :=
    (failed_reads_atomic initiator (after2 message2) (after2 failing) failing message2 [0]
      error).1 awaits2 (run_eq_of_result failed) (run_eq_of_result read2)
  have exact3 (failing : Bytes) (error : Error)
      (failed : (run (readMessage3 failing) responder).2 = .error error) :=
    (failed_reads_atomic responder (after3 message3) (after3 failing) failing message3 [0]
      error).2 awaits3 (run_eq_of_result failed) (run_eq_of_result read3)
  refine ⟨(exact2 _ .truncated (by decide +kernel)).1 (by decide +kernel), fun recovers => ?_,
    (exact3 _ .truncated (by decide +kernel)).1 (.inl (by decide +kernel)), fun recovers => ?_⟩
  · have short := (exact2 _ .authFailed (by decide +kernel)).2
      ⟨by decide +kernel, by decide +kernel⟩ recovers
    exact absurd short (by decide +kernel)
  · have refused := (exact3 _ .authFailed (by decide +kernel)).2
      ⟨by decide +kernel, by decide +kernel⟩ recovers
    have facts : 64 ≤ (altered message3).length ∧
        (responder.symmetric.decryptAndHash ((altered message3).take 48)).2.isOk = true := by
      decide +kernel
    rcases refused with short | ⟨cause, refused⟩
    · exact Nat.not_lt.mpr facts.1 short
    · rw [refused] at facts
      cases facts.2

end MeshStar.Failure
