import MeshStar.Neighbor

/-!
# Reading a beacon

What a receiver takes from the bytes of a beacon, part by part. The optional parts are
read one after the other, each behind its flag; a beacon is accepted only if every byte
belongs to a part.
-/

namespace MeshStar

namespace Beacon

variable {α β : Type}

/-- A fixed part of a message behind a flag. -/
theorem fixedPart_ok {flagged short : Prop} [Decidable flagged] [Decidable short] {error : Error}
    {present absent : α} {next : α → Except Error β} {result : β}
    (decoded : (if flagged then
        if short then (throw error : Except Error α) >>= next
        else (pure present : Except Error α) >>= next
      else (pure absent : Except Error α) >>= next) = .ok result) :
    ∃ part, next part = .ok result := by
  split at decoded
  · split at decoded
    · cases decoded
    · exact ⟨present, decoded⟩
  · exact ⟨absent, decoded⟩

/-- A counted part of a message behind a flag. -/
theorem countedPart_ok {flagged short cut : Prop} [Decidable flagged] [Decidable short]
    [Decidable cut] {error : Error} {parsed : Except Error α} {absent : α}
    {next : α → Except Error β} {result : β}
    (decoded : (if flagged then
        if short then (throw error : Except Error α) >>= next
        else if cut then (throw error : Except Error α) >>= next
        else parsed >>= next
      else (pure absent : Except Error α) >>= next) = .ok result) :
    ∃ part, next part = .ok result ∧ (¬flagged ∧ part = absent ∨ flagged ∧ parsed = .ok part) := by
  split at decoded
  · rename_i present
    split at decoded
    · cases decoded
    · split at decoded
      · cases decoded
      · cases parsed with
        | error _ => cases decoded
        | ok part => exact ⟨part, decoded, .inr ⟨present, rfl⟩⟩
  · rename_i unflagged
    exact ⟨absent, decoded, .inl ⟨unflagged, rfl⟩⟩

/-- Advertised nodes are at least one hop away from their advertiser. -/
theorem decodeZone_apart {count : Nat} {bytes rest : Bytes} {entries : List ZoneEntry}
    (decoded : decodeZone count bytes = .ok (entries, rest)) :
    ∀ entry ∈ entries, entry.distance ≠ 0 := by
  induction count generalizing bytes rest entries with
  | zero =>
    cases decoded
    nofun
  | succ count ih =>
    unfold decodeZone at decoded
    cases address : Address.fromBytes (bytes.take 8) with
    | error _ =>
      rw [address] at decoded
      cases decoded
    | ok addr =>
      rw [address] at decoded
      change (if (addr.isNull || addr.isBroadcast || byteAt bytes 8 == 0 ||
        byteAt bytes 8 > 4) = true
        then _ else _) = _ at decoded
      split at decoded
      · cases decoded
      · rename_i valid
        cases later : decodeZone count (bytes.drop zoneEntryLen) with
        | error _ =>
          rw [later] at decoded
          cases decoded
        | ok others =>
          rw [later] at decoded
          cases decoded
          intro entry member
          rcases List.mem_cons.mp member with rfl | inside
          · intro zero
            apply valid
            simp [show byteAt bytes 8 = 0 from zero]
          · exact ih later entry inside

/-- What a decoded beacon took from its bytes: the role, and the zone part if it is
flagged. -/
theorem decode_parts {bytes : Bytes} {beacon : Beacon} (decoded : decode bytes = .ok beacon) :
    Role.fromU8 (byteAt bytes 1) = some beacon.role ∧
      (byteAt bytes 0 &&& flagZone = 0 ∧ beacon.zone = [] ∨ byteAt bytes 0 &&& flagZone ≠ 0 ∧
          ∃ count rest, decodeZone count rest = .ok (beacon.zone, [])) := by
  unfold decode at decoded
  by_cases short : bytes.length < fixedLen
  · rw [if_pos short] at decoded
    cases decoded
  · rw [if_neg short] at decoded
    cases named : Role.fromU8 (byteAt bytes 1) with
    | none =>
      rw [named] at decoded
      cases decoded
    | some role =>
      simp only [named] at decoded
      by_cases wide : byteAt bytes 4 > 4
      · rw [if_pos wide] at decoded
        cases decoded
      · rw [if_neg wide] at decoded
        obtain ⟨⟨full, afterFull⟩, decoded⟩ := fixedPart_ok decoded
        obtain ⟨⟨attached, afterAttached⟩, decoded, _⟩ := countedPart_ok decoded
        obtain ⟨⟨zone, remaining⟩, decoded, parsed⟩ := countedPart_ok decoded
        simp only at decoded
        split at decoded
        · cases decoded
        · rename_i consumed
          cases decoded
          refine ⟨rfl, ?_⟩
          rcases parsed with ⟨unflagged, none⟩ | ⟨flagged, parsed⟩
          · exact .inl ⟨not_not.mp unflagged, congrArg Prod.fst none⟩
          · rw [not_not.mp consumed] at parsed
            exact .inr ⟨flagged, _, _, parsed⟩

/-- The distances a decoded beacon advertises are at least one. -/
theorem decode_apart {bytes : Bytes} {beacon : Beacon} (decoded : decode bytes = .ok beacon) :
    ∀ entry ∈ beacon.zone, entry.distance ≠ 0 := by
  rcases (decode_parts decoded).2 with ⟨_, none⟩ | ⟨_, count, rest, parsed⟩
  · rw [none]
    nofun
  · exact decodeZone_apart parsed

/-- A beacon is received under the role it was sent with. -/
theorem decode_encode_role {sent received : Beacon} (decoded : decode sent.encode = .ok received) :
    received.role = sent.role := by
  have named : Role.fromU8 sent.role.toU8 = some received.role := (decode_parts decoded).1
  have same : Role.fromU8 sent.role.toU8 = some sent.role := by
    cases sent.role with
    | leaf => rfl
    | normal => rfl
    | anchor => rfl
  exact Option.some.inj (named.symm.trans same)

/-- A beacon that advertises nobody is received as such. -/
theorem decode_encode_zone {sent received : Beacon} (decoded : decode sent.encode = .ok received)
    (empty : sent.zone = []) : received.zone = [] := by
  have unflagged : byteAt sent.encode 0 &&& flagZone = 0 := by
    change ((if sent.full.isSome then flagFull else 0) |||
      (if sent.zone.isEmpty then 0 else flagZone) |||
      (if sent.attached.isEmpty then 0 else flagAttached) |||
      (if sent.mailboxAvailable then flagMailbox else 0)) &&& flagZone = 0
    rw [empty]
    cases sent.full.isSome <;> cases sent.attached.isEmpty <;>
      cases sent.mailboxAvailable <;> decide
  rcases (decode_parts decoded).2 with ⟨_, none⟩ | ⟨flagged, _⟩
  · exact none
  · exact absurd unflagged flagged

end Beacon

end MeshStar
