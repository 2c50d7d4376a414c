import MeshStar.Protocol

/-!
# Platform services: entropy and reception metadata

The generator is the seeded stream cipher of an external package, consumed as a
sequence of 32-bit words. Its position is the only part a call changes. A stream
carries the one property the source relies on: nonzero words keep coming, because
fresh packet identifiers are drawn until one is nonzero.
-/

namespace MeshStar

/-- A stream of generator words read from a position. Among any `gap` consecutive
words at least one is nonzero. -/
structure Rng where
  words : Nat → UInt32
  position : Nat
  gap : Nat
  nonzero : ∀ start, ∃ offset < gap, words (start + offset) ≠ 0

namespace Rng

/-- Draw one word. -/
def nextU32 (rng : Rng) : Rng × UInt32 :=
  ({ rng with position := rng.position + 1 }, rng.words rng.position)

/-- Draw two words, low half first. -/
def nextU64 (rng : Rng) : Rng × Nat :=
  ({ rng with position := rng.position + 2 },
    (rng.words rng.position).toNat + (rng.words (rng.position + 1)).toNat * 2 ^ 32)

/-- The four little-endian bytes of a word. -/
def wordBytes (word : UInt32) : Bytes := (BigEndian.encode 4 word.toNat).reverse

/-- Fill a 32-byte array from eight words. -/
def fill32 (rng : Rng) : Rng × FixedBytes 32 :=
  ({ rng with position := rng.position + 8 },
    FixedBytes.ofSlice 32
      ((List.range 8).flatMap (fun index => wordBytes (rng.words (rng.position + index)))))

/-- Draw words until one is nonzero, at most `fuel` of them. -/
def drawNonzero : Nat → Rng → Rng × UInt32
  | 0, rng => (rng, 0)
  | fuel + 1, rng =>
    let drawn := rng.nextU32
    if drawn.2 ≠ 0 then drawn else drawNonzero fuel drawn.1

/-- Drawing as often as the stream's gap always finds a nonzero word, hence the
unbounded loop of the source terminates and the fuel is never the reason to stop. -/
theorem drawNonzero_ne_zero (rng : Rng) : (drawNonzero rng.gap rng).2 ≠ 0 := by
  have search (fuel : Nat) (start : Rng)
      (found : ∃ offset < fuel, start.words (start.position + offset) ≠ 0) :
      (drawNonzero fuel start).2 ≠ 0 := by
    induction fuel generalizing start with
    | zero =>
      obtain ⟨offset, impossible, _⟩ := found
      omega
    | succ fuel ih =>
      obtain ⟨offset, inside, word⟩ := found
      simp only [drawNonzero]
      split
      · rename_i here
        exact here
      · rename_i here
        apply ih
        cases offset with
        | zero => exact absurd word here
        | succ offset =>
          refine ⟨offset, by omega, ?_⟩
          simpa [nextU32, Nat.add_assoc, Nat.add_comm 1 offset] using word
  exact search rng.gap rng (rng.nonzero rng.position)

end Rng

/-- Reception metadata delivered with each frame. The frequency error the source also
carries is read by no modelled function. -/
structure RxMeta where
  rssiDbm : Int
  snrDb : Float32
  timestampMs : Nat

/-- The modem settings that decide a frame's time on air and its demodulation
threshold; the settings only the driver uses are left out. -/
structure LoRaProfile where
  bandwidthHz : Nat
  spreadingFactor : Nat
  codingRate : Nat
  preambleSymbols : Nat
  crc : Bool
  implicitHeader : Bool
  deriving DecidableEq, Repr

namespace LoRaProfile

def meshstarEu868 : LoRaProfile := ⟨125000, 8, 5, 32, true, false⟩

def symbolTimeUs (profile : LoRaProfile) : Nat :=
  2 ^ profile.spreadingFactor * 1000000 / profile.bandwidthHz

/-- Low data rate optimisation is mandatory above 16 ms a symbol. -/
def lowDataRateOptimize (profile : LoRaProfile) : Bool := profile.symbolTimeUs > 16000

/-- Time on air of a payload in microseconds. -/
def airtimeUs (profile : LoRaProfile) (len : Nat) : Nat :=
  let sf : Int := profile.spreadingFactor
  let de : Int := if profile.lowDataRateOptimize then 1 else 0
  let ih : Int := if profile.implicitHeader then 1 else 0
  let crc : Int := if profile.crc then 1 else 0
  let cr : Int := max 1 (min 4 ((profile.codingRate : Int) - 4))
  let numerator := 8 * (len : Int) - 4 * sf + 28 + 16 * crc - 20 * ih
  let denominator := 4 * (sf - 2 * de)
  let payloadSymbols := 8 + max 0 ((numerator + denominator - 1) / denominator) * (cr + 4)
  let preamble := (profile.preambleSymbols * 4 + 17) * profile.symbolTimeUs / 4
  preamble + payloadSymbols.toNat * profile.symbolTimeUs

def airtimeMs (profile : LoRaProfile) (len : Nat) : Nat := (profile.airtimeUs len + 999) / 1000

/-- Demodulation threshold of the spreading factor, in dB. -/
def demodSnrDb (profile : LoRaProfile) : Float32 :=
  match profile.spreadingFactor with
  | 5 => -2.5
  | 6 => -5.0
  | 7 => -7.5
  | 8 => -10.0
  | 9 => -12.5
  | 10 => -15.0
  | 11 => -17.5
  | _ => -20.0

end LoRaProfile

end MeshStar
